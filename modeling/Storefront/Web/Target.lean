import Storefront.Web.Address

/-!
# Targets

The target of a request is an address. The scheme and the host are taken from the target itself;
what is left of it, path and query, is once more read as an address, so that a path that starts with
two slashes, or with a word and a colon, is less than it seems.

## Main definitions

* `Target` — what a request asks for, and `Target.ofAddress`
* `Target.checkHost`, `Target.isMisnamed` — what is asked of the host before anything else
* `Target.location` — another path at the same host, as an address
-/

namespace Storefront

/-- What a request asks for. -/
structure Target where
  scheme : Text
  /-- The host, if the authority names one that a server can be asked for. -/
  host : Option Host
  /-- The path, with percent notation decoded. It starts with one slash unless it is empty. -/
  path : Text
  query : Text
  deriving DecidableEq

namespace Target

/-- The name of the host of a target that has no authority, and of one whose authority names no host
that a server can be asked for. -/
def defaultHost : Text := Text.ofString "localhost"

/-- A path with percent notation decoded and one slash in front, unless it is empty. -/
def decodedPath (path : Text) : Text :=
  match path.percentDecode with
  | [] => []
  | decoded => ('/' : CodePoint) :: decoded.dropWhile (· = ('/' : CodePoint))

/-- What an address asks for. -/
def ofAddress (address : Address) : Except Fault Target := do
  let rest ← Address.split address.line
  let path ← Address.sentPath rest.path
  let authority := if address.authority.isEmpty then defaultHost else address.authority
  let sent ← (Authority.read authority).sent
  let scheme := if address.scheme.isEmpty then Text.ofString "http" else address.scheme
  return { scheme, host := sent.host? scheme, path := decodedPath path, query := rest.query }

/-- The host of a target can be shown as it was meant, and then it is still no other. -/
def checkHost (target : Target) : Except Fault Unit :=
  match target.host with
  | none => .ok ()
  | some host => do
    let name ← (HostName.decode host.name).mapError .unshownName
    Host.checkLookalikes (name ++ Host.listeningText host.listening)

/-- Whether the name of the host, up to a colon, could not be sent once more. Points that have come
into a label by its preparation leave empty labels between them. -/
def isMisnamed (target : Target) : Bool :=
  let name := (target.host.map Host.name).getD []
  !(HostName.encode (Text.splitFirst ':' name).1).isOk

/-- Whether a target asks for a lasting connection instead of a response. -/
def isSocket (target : Target) : Bool :=
  (["ws", "wss"].map Text.ofString).contains target.scheme

/-- The name of the host to which sessions belong. -/
def sessionHost (target : Target) : Text := (target.host.map Host.name).getD defaultHost

/-- The address of another path at the same host, with the same query. -/
def location (target : Target) (path : Text) : Text :=
  let host := (target.host.map Host.text).getD []
  Address.join target.scheme host (path.percentEncode (Text.ofString "!$&'()*+,/:;=@")) ++
    (if target.query.isEmpty then [] else ('?' : CodePoint) :: target.query)

end Target

end Storefront
