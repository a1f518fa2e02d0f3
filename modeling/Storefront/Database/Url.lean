import Storefront.Text.Word
import Storefront.Text.Written

/-!
# Database addresses

The address of a database names a dialect and, all of them optional, a user with a password, a host
with the number at which it listens, a path and a query. It is shown in the log with three stars for
the password, and with every part in percent notation again.

## Main definitions

* `Database.Url` — the parts of an address
* `Database.Url.read` — the parts of a text
* `Database.Url.shown` — the text of an address without its password
-/

namespace Storefront.Database

/-- The parts of a database address. -/
structure Url where
  dialect : Text
  user : Option Text := none
  password : Option Text := none
  host : Option Text := none
  /-- The number at which the host listens. -/
  portNumber : Option Int := none
  path : Option Text := none
  query : List (Text × Text) := []
  deriving DecidableEq

namespace Url

/-- What the name of a dialect is made of. -/
def isDialectLetter (c : CodePoint) : Bool := c.isWord || c = ('+' : CodePoint)

/-- The user, the password and the text after them. A colon before any slash starts a password if an
at sign comes later, and the password ends at the first one. Without a password the user ends at
the last at sign before a colon or slash. -/
def splitUser (t : Text) : Option Text × Option Text × Text :=
  let run := t.takeWhile fun c => c != (':' : CodePoint) && c != ('/' : CodePoint)
  -- What follows the user stays in the text, where a host may begin.
  let withoutPassword :=
    match Text.splitLast '@' run with
    | some (user, after) => (some user, none, after ++ t.drop run.length)
    | none => (none, none, t)
  match t.drop run.length with
  | c :: rest =>
    if c = (':' : CodePoint) then
      match Text.splitFirst '@' rest with
      | (password, some after) => (some run, some password, after)
      | (_, none) => withoutPassword
    else withoutPassword
  | [] => withoutPassword

/-- The host and the text after it. A host between brackets may hold colons. -/
def splitHost (t : Text) : Option Text × Text :=
  let plain :=
    let run := t.takeWhile fun c =>
      c != ('/' : CodePoint) && c != (':' : CodePoint) && c != ('?' : CodePoint)
    (if run.isEmpty then none else some run, t.drop run.length)
  match t with
  | c :: rest =>
    if c = ('[' : CodePoint) then
      let run := rest.takeWhile fun c => c != ('/' : CodePoint) && c != ('?' : CodePoint)
      match Text.splitLast ']' run with
      | some (d :: host, after) => (some (d :: host), after ++ rest.drop run.length)
      | _ => plain
    else plain
  | [] => plain

/-- The text after a mark up to one of some other characters, if the text starts with the mark, and
what follows. -/
def splitMarked (mark : CodePoint) (ends : Text) (t : Text) : Option Text × Text :=
  match t with
  | c :: rest =>
    if c = mark then
      let run := rest.takeWhile fun c => !ends.contains c
      (some run, rest.drop run.length)
    else (none, t)
  | [] => (none, [])

/-- The text that a name or a value of a query writes. -/
def readPart (t : Text) : Text :=
  Text.percentDecode (t.map fun c => if c = ('+' : CodePoint) then (' ' : CodePoint) else c)

/-- The name and value of a part of a query, if it has a value. The equals sign is the first one. -/
def readPair? (t : Text) : Option (Text × Text) :=
  match Text.splitFirst '=' t with
  | (name, some (c :: rest)) => some (readPart name, readPart (c :: rest))
  | _ => none

/-- The pairs of a query, which ends with its line. -/
def readQuery (query : Text) : List (Text × Text) :=
  (Text.splitAll '&' (query.takeWhile (· != ('\n' : CodePoint)))).filterMap readPair?

/-- The number at which a host listens. -/
def readNumber (numeral : Text) : Except Fault Int :=
  (Integer.read numeral).mapError (.misreadInteger numeral)

/-- The parts of an address. What follows them in the text is not looked at. -/
def read (t : Text) : Except Fault Url :=
  let dialect := t.takeWhile isDialectLetter
  let rest := t.drop dialect.length
  if dialect.isEmpty || !(Text.ofString "://").isPrefixOf rest then .error .misreadAddress
  else do
    let (user, password, rest) := splitUser (rest.drop 3)
    let (host, rest) := splitHost rest
    let (numeral, rest) := splitMarked ':' (Text.ofString "/?") rest
    let (path, rest) := splitMarked '/' (Text.ofString "?") rest
    let (query, _) := splitMarked '?' [] rest
    let portNumber ← numeral.mapM readNumber
    return {
      dialect
      user := user.map Text.percentDecode
      password := password.map Text.percentDecode
      host
      portNumber
      path := path.map Text.percentDecode
      query := readQuery (query.getD []) }

/-- Pairs in the order of their names; pairs of one name keep their order. -/
def insertByName (pair : Text × Text) : List (Text × Text) → List (Text × Text)
  | [] => [pair]
  | other :: rest =>
    if pair.1.map CodePoint.toNat < other.1.map CodePoint.toNat then pair :: other :: rest
    else other :: insertByName pair rest

/-- A pair of a query in percent notation, with plus signs for spaces. -/
def shownPair (pair : Text × Text) : Except Fault Text := do
  let plain (t : Text) : Text := t.map fun c => if c = (' ' : CodePoint) then '+' else c
  let name ← pair.1.percentEncoded " "
  let value ← pair.2.percentEncoded " "
  return plain name ++ ('=' : CodePoint) :: plain value

/-- The query of an address, in the order of the names. -/
def shownQuery (query : List (Text × Text)) : Except Fault Text :=
  match query.foldl (fun sorted pair => insertByName pair sorted) [] with
  | [] => .ok []
  | pairs => do
    return ('?' : CodePoint) :: [('&' : CodePoint)].intercalate (← pairs.mapM shownPair)

/-- The user of an address, with stars for the password. -/
def shownUser (url : Url) : Except Fault Text :=
  match url.user with
  | none => .ok []
  | some user => do
    return (← user.percentEncoded " +") ++
      (if url.password.isSome then Text.ofString ":***" else []) ++ [('@' : CodePoint)]

/-- The path of an address. -/
def shownPath (url : Url) : Except Fault Text :=
  match url.path with
  | none => .ok []
  | some path => do return ('/' : CodePoint) :: (← path.percentEncoded " +/")

/-- The host of an address, between brackets if it holds a colon. -/
def shownHost (host : Text) : Text :=
  if host.contains (':' : CodePoint) then ('[' : CodePoint) :: host ++ [(']' : CodePoint)] else host

/-- The text of an address without its password. A part in percent notation must be one that can be
written. -/
def shown (url : Url) : Except Fault Text := do
  let user ← url.shownUser
  let path ← url.shownPath
  let query ← shownQuery url.query
  return url.dialect ++ Text.ofString "://" ++ user ++ (url.host.map shownHost).getD [] ++
    (url.portNumber.map fun n => (':' : CodePoint) :: Text.ofInt n).getD [] ++ path ++ query

end Url

end Storefront.Database
