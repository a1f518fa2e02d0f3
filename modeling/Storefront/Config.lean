import Storefront.Log
import Storefront.Text.Stray

/-!
# Configuration

The shop is configured by three environment variables and some constants. An environment keeps the
bytes of a variable, so what is read from it may be another text than was given. A variable that is
set to the empty text counts as unset. The configuration for tests keeps its own database and log
level whatever the environment says.

## Main definitions

* `Environment`, `Environment.ofVariables` — the variables that the shop reads
* `Config` — the configuration
* `Config.standard`, `Config.forTests` — the two configurations of an environment
-/

namespace Storefront

/-- The environment variables that the shop reads. -/
structure Environment where
  secretKey : Option Text := none
  databaseUrl : Option Text := none
  logLevel : Option Text := none

/-- What an environment keeps of a value: its bytes, none of which may be zero. -/
def Environment.kept (value : Text) : Except Fault Text :=
  match value.byteless? with
  | some (place, run) => .error (.unencodable place run)
  | none =>
    if value.any (·.toNat = 0) then .error .zeroByte else .ok (.ofAnyBytes value.anyBytes)

/-- The environment that has some variables and no others, if all of them can be kept. -/
def Environment.ofVariables (given : List (Text × Text)) : Except Fault Environment := do
  let kept ← given.mapM fun entry => return (entry.1, ← Environment.kept entry.2)
  let value (name : String) : Option Text := kept.lookup (Text.ofString name)
  return {
    secretKey := value "SECRET_KEY"
    databaseUrl := value "DATABASE_URL"
    logLevel := value "LOG_LEVEL" }

/-- The value of a variable, with a default for one that is unset or empty. -/
def Environment.value (setting : Option Text) (default : Text) : Text :=
  match setting with
  | some (c :: rest) => c :: rest
  | _ => default

/-- The configuration of a shop. -/
structure Config where
  secretKey : Text
  databaseUrl : Text
  trackModifications : Bool
  logLevel : Log.Setting
  /-- Whether the shop is under test, where that is said at all. -/
  testing : Option Bool
  /-- The name of a new user. -/
  defaultUserName : Json
  /-- The most characters of a title. -/
  titleMax : Json
  /-- The most characters of a SKU. -/
  skuMax : Json
  /-- The most arrays and objects that can be open at once where a body is read. It is what is left
  there of the depth that calls may have, and so no setting of the shop but one of its server. -/
  maxDepth : Nat

namespace Config

/-- The configuration that an environment asks for. -/
def standard (environment : Environment) : Config where
  secretKey := Environment.value environment.secretKey
    (Text.ofString "dev-secret-key-change-in-production-12345")
  databaseUrl := Environment.value environment.databaseUrl (Text.ofString "sqlite:///shopfront.db")
  trackModifications := false
  logLevel := .name (Environment.value environment.logLevel (Text.ofString "INFO"))
  testing := none
  defaultUserName := .str (Text.ofString "Demo User")
  titleMax := .int 255
  skuMax := .int 100
  maxDepth := 900

/-- The configuration for tests: a database in memory and every record written. -/
def forTests (environment : Environment) : Config :=
  { standard environment with
    databaseUrl := Text.ofString "sqlite:///:memory:"
    logLevel := .name (Text.ofString "DEBUG")
    testing := some true }

/-- Whether the shop is under test. -/
def isTesting (config : Config) : Bool := config.testing.getD false

end Config

end Storefront
