import Storefront.Web.Host

/-!
# Addresses

An address has a scheme, an authority, a path and a query, any of which may be missing. A path that
starts with two slashes, or with a word and a colon, reads as an address of its own.

## Main definitions

* `Address`, `Address.split` — the parts of an address
* `Address.line` — the path and the query as one text
* `Address.join` — the text of some parts
* `Address.sentPath` — a path as it is sent
-/

namespace Storefront

/-- The parts of an address. -/
structure Address where
  scheme : Text
  authority : Text
  path : Text
  query : Text
  deriving DecidableEq

namespace Address

/-- A text without the controls and spaces in front of it and the tabs and line ends in it. -/
def cleaned (t : Text) : Text :=
  (t.dropWhile (·.toNat ≤ 0x20)).filter fun c =>
    c.toNat != 0x09 && c.toNat != 0x0A && c.toNat != 0x0D

/-- Whether a text is the name of a scheme: ASCII letters, digits, plus signs, hyphens and points,
with a letter in front. -/
def isScheme (t : Text) : Bool :=
  let isLetter (c : CodePoint) : Bool := 0x61 ≤ c.toLower.toNat && c.toLower.toNat ≤ 0x7A
  let isPart (c : CodePoint) : Bool :=
    isLetter c || c.asciiDigit?.isSome || (Text.ofString "+-.").contains c
  match t with
  | [] => false
  | c :: _ => isLetter c && t.all isPart

/-- The scheme in small letters, and the text after its colon; without a scheme nothing. -/
def splitScheme (t : Text) : Text × Text :=
  match Text.splitFirst ':' t with
  | (scheme, some rest) => if isScheme scheme then (scheme.toLower, rest) else ([], t)
  | (_, none) => ([], t)

/-- The authority that follows two slashes, and the text after it; without the slashes nothing. -/
def splitAuthority (t : Text) : Text × Text :=
  if (Text.ofString "//").isPrefixOf t then
    let rest := t.drop 2
    let authority := rest.takeWhile fun c => !(Text.ofString "/?#").contains c
    (authority, rest.drop authority.length)
  else ([], t)

/-- The parts of an address. -/
def split (t : Text) : Except Fault Address := do
  let (scheme, rest) := splitScheme (cleaned t)
  let (authority, rest) := splitAuthority rest
  Host.checkBrackets authority
  Host.checkLookalikes authority
  let (path, query) := Text.splitFirst '?' (Text.splitFirst '#' rest).1
  return { scheme, authority, path, query := query.getD [] }

/-- The path and the query as one text. -/
def line (address : Address) : Text :=
  address.path ++ (if address.query.isEmpty then [] else ('?' : CodePoint) :: address.query)

/-- The schemes under which two slashes stand in front of the path even where no authority does. -/
def nestedSchemes : List Text :=
  ["ftp", "http", "gopher", "nntp", "telnet", "imap", "wais", "file", "mms", "https", "shttp",
   "snews", "prospero", "rtsp", "rtsps", "rtspu", "rsync", "svn", "svn+ssh", "sftp", "nfs", "git",
   "git+ssh", "ws", "wss", "itms-services"].map Text.ofString

/-- The text of a scheme, an authority and a path, any of which may be empty. A path that starts
with two slashes is kept apart from an authority by two more. -/
def join (scheme authority path : Text) : Text :=
  let slashes := Text.ofString "//"
  let isNested :=
    !authority.isEmpty || nestedSchemes.contains scheme || slashes.isPrefixOf path
  let isApart := path.isEmpty || path.head? = some ('/' : CodePoint)
  (if scheme.isEmpty then [] else scheme ++ [(':' : CodePoint)]) ++
    (if isNested then
      slashes ++ authority ++ (if isApart then [] else Text.ofString "/")
    else []) ++
    path

/-- A path as it is sent, once more read as an address whose parts are put together again. Percent
notation is left out, as whoever is sent the path decodes it. -/
def sentPath (path : Text) : Except Fault Text := do
  let address ← split path
  address.path.checkWritten
  let sent ← (Authority.read address.authority).sent
  return join address.scheme sent.text address.path

end Address

end Storefront
