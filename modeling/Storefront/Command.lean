import Storefront.Shop.Start
import Storefront.Web.Route

/-!
# Commands

What the shop does when it is run from a command line: it tells whether its database can be reached,
or it opens and serves its routes.

## Main definitions

* `Command.verdict` — the exit status and the line for what a probe has come to
* `Command.checkDatabase` — the exit status and the line that tells whether the database is there
* `Command.serve` — the routes that are served, and how
-/

namespace Storefront.Command

/-- The exit status and the line printed. -/
structure Verdict where
  status : Nat
  line : Text

/-- The verdict on what a probe has come to. A fault that is not an unreachable database is passed
on. -/
def verdict : Except Failure Unit → Except Failure Verdict
  | .ok () => .ok { status := 0, line := Text.ofString "database ok" }
  | .error (.unreachable message cause) =>
    let reason := (cause.map Fault.description).getD message
    .ok { status := 1, line := Text.ofString "database unreachable: " ++ reason }
  | .error (.fault fault) => .error (.fault fault)

/-- Whether the database that an environment asks for can be reached. -/
def checkDatabase (environment : Environment) (outage : Bool) : Except Failure Verdict :=
  verdict <| match (Shop.start (Config.standard environment) outage).1 with
    | .ok shop => shop.outcome Database.check
    | .error failure => .error failure

/-- How the routes are served. -/
structure Server where
  debug : Bool
  host : Text
  portNumber : Nat

/-- The server that is started when the shop is the program itself. -/
def server : Server where
  debug := true
  host := Text.ofString "0.0.0.0"
  portNumber := 5000

/-- The routes of the shop that an environment asks for, and the servers started for them: one, if
the shop is the program itself. -/
def serve (environment : Environment) (outage isProgram : Bool) :
    Except Failure (List Route × List Server) :=
  (Shop.start (Config.standard environment) outage).1.map fun _ =>
    (routes, if isProgram then [server] else [])

end Storefront.Command
