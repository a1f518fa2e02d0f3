import Storefront.Text.Written
import Storefront.Web.HostName

/-!
# Hosts

An authority names a host, by a name or by a number between brackets, and perhaps a user with a
password and the number at which the host listens. It is sent in ASCII: a name label by label, user
and password in percent notation. Not every authority that is sent names a host that a server can be
asked for.

## Main definitions

* `Host.isNumber`, `Host.isShortNumber` — the two forms of a host's number
* `Host.checkBrackets` — what may stand between brackets
* `Authority`, `Authority.read` — the parts of an authority
* `Authority.sent` — an authority as it is sent
* `Host`, `Authority.Sent.host?` — the hosts that servers can be asked for
-/

namespace Storefront

namespace Host

/-- Whether a text is one of the four parts of a short number: up to 255, with no zero in front. -/
def isOctet (t : Text) : Bool :=
  match t.mapM CodePoint.asciiDigit? with
  | none | some [] => false
  | some [_] => true
  | some (first :: rest) =>
    first != 0 && rest.length < 3 && (first :: rest).foldl (10 * · + ·) 0 ≤ 255

/-- Whether a text is a short number of a host. -/
def isShortNumber (t : Text) : Bool :=
  let octets := Text.splitAll '.' t
  octets.length = 4 && octets.all isOctet

/-- Whether a text is one of the eight parts of a number. -/
def isHextet (t : Text) : Bool :=
  !t.isEmpty && t.length ≤ 4 && t.all (·.hexDigit?.isSome)

/-- The parts of a number, of which a short number in the last place stands for two. -/
def numberParts (t : Text) : Option (List Text) :=
  let parts := Text.splitAll ':' t
  let last := parts.getLast?.getD []
  if parts.length < 3 then none
  else if last.contains ('.' : CodePoint) then
    let zero := Text.ofString "0"
    if isShortNumber last then some (parts.dropLast ++ [zero, zero]) else none
  else some parts

/-- Whether some parts make a number: eight of them, or fewer where a run of zeros is left out
between two colons. -/
def areNumber : List Text → Bool
  | [] => false
  | first :: rest =>
    let before := first :: rest.takeWhile (!·.isEmpty)
    match rest.dropWhile (!·.isEmpty) with
    | [] => before.length = 8 && before.all isHextet
    -- An empty part at the end alone leaves nothing out.
    | [_] => false
    | _ :: after =>
      let high := if before = [[]] then [] else before
      let low := if after = [[]] then [] else after
      high.length + low.length < 8 && high.all isHextet && low.all isHextet

/-- Whether a text is a number of a host, perhaps with a zone. -/
def isNumber (t : Text) : Bool :=
  let (number, zone) := Text.splitFirst '%' t
  (zone.map fun zone => !zone.isEmpty && !zone.contains ('%' : CodePoint)).getD true &&
    ((numberParts number).map areNumber).getD false

/-- Whether a text is a number of a form that is still to come: `v`, hexadecimal digits, a point and
something more. -/
def isFutureNumber (t : Text) : Bool :=
  match t with
  | [] => false
  | _ :: rest =>
    let version := rest.takeWhile (·.hexDigit?.isSome)
    match rest.drop version.length with
    | c :: _ :: _ => !version.isEmpty && c = ('.' : CodePoint)
    | _ => false

/-- What stands between brackets is a number. -/
def checkNumber (t : Text) : Except Fault Unit :=
  if t.head? = some ('v' : CodePoint) then
    if isFutureNumber t then .ok () else .error .unknownHostNumber
  else if isNumber t then .ok ()
  else if isShortNumber t then .error .shortHostNumber
  else .error (.notHostNumber t)

/-- The part of an authority after the user, which ends at the last at sign. -/
def afterUser (authority : Text) : Text :=
  (authority.reverse.takeWhile (· != ('@' : CodePoint))).reverse

/-- Brackets come in pairs, around the whole of a host's number and nothing else. -/
def checkBrackets (authority : Text) : Except Fault Unit :=
  if authority.contains ('[' : CodePoint) != authority.contains (']' : CodePoint) then
    .error .loneBracket
  else if authority.contains ('[' : CodePoint) then
    let host := afterUser authority
    match Text.splitFirst '[' host with
    | (before, some rest) =>
      let (number, after) := Text.splitFirst ']' rest
      let next := (after.getD []).head?
      if !before.isEmpty || next.isSome && next ≠ some (':' : CodePoint) then .error .loneBracket
      else checkNumber number
    | (_, none) => checkNumber (Text.splitFirst ':' host).1
  else .ok ()

/-- The code points that compatibility makes separators of. -/
def lookalikes : Text.Ranges :=
  [(0x2047, 0x2049), (0x2100, 0x2101), (0x2105, 0x2106), (0x2A74, 0x2A74), (0xFE13, 0xFE13),
   (0xFE16, 0xFE16), (0xFE55, 0xFE56), (0xFE5F, 0xFE5F), (0xFE6B, 0xFE6B), (0xFF03, 0xFF03),
   (0xFF0F, 0xFF0F), (0xFF1A, 0xFF1A), (0xFF1F, 0xFF20)]

/-- No code point of an authority may be taken for a separator. -/
def checkLookalikes (authority : Text) : Except Fault Unit :=
  if authority.any fun c => lookalikes.contains c.toNat then .error (.lookalike authority)
  else .ok ()

/-- A name in small letters, but for the zone of a number. -/
def lowerName (name : Text) : Text :=
  let beforeZone := name.takeWhile (· != ('%' : CodePoint))
  beforeZone.map HostName.lowered ++ name.drop beforeZone.length

/-- The greatest number at which a host can listen. -/
def listeningMax : Nat := 65535

/-- The number at which a host listens; the empty text is none. -/
def readListening (t : Text) : Except Fault (Option Nat) :=
  if t.isEmpty then .ok none
  else
    match t.mapM CodePoint.asciiDigit? with
    | none => .error (.misreadHostNumber t)
    | some digits =>
      if Integer.maxDigits < digits.length then
        .error (.misreadInteger t (.tooLong digits.length))
      else
        let n := valueOfDigits digits
        if listeningMax < n then .error .hostNumberTooGreat else .ok (some n)

end Host

/-- A host that a server can be asked for: its name in small letters, or its number between
brackets, and the number at which it listens if it is not the usual one. -/
structure Host where
  name : Text
  listening : Option Nat
  deriving DecidableEq

namespace Host

/-- The text of a number at which a host listens. -/
def listeningText (listening : Option Nat) : Text :=
  (listening.map fun n => (':' : CodePoint) :: Text.ofNat n).getD []

/-- The text of a host. -/
def text (host : Host) : Text := host.name ++ listeningText host.listening

/-- Whether a code point is a small letter or digit of the hexadecimal notation. -/
def isHexDigit (c : CodePoint) : Bool := c.hexDigit?.isSome && c.toLower = c

/-- Whether a server can be asked for a name: one of small letters, digits, hyphens and points. -/
def isServedName (t : Text) : Bool :=
  !t.isEmpty && t.all fun c =>
    (0x61 ≤ c.toNat && c.toNat ≤ 0x7A) || c.asciiDigit?.isSome || c = ('-' : CodePoint) ||
      c = ('.' : CodePoint)

/-- Whether a server can be asked for a number between brackets: one of hexadecimal digits, colons
and points, with something after the first colon and no point before it. -/
def isServedNumber (t : Text) : Bool :=
  let isPart (c : CodePoint) : Bool :=
    isHexDigit c || c = ('.' : CodePoint) || c = (':' : CodePoint)
  match Text.splitFirst ':' t with
  | (before, some (c :: after)) => before.all isHexDigit && (c :: after).all isPart
  | _ => false

/-- The number at which hosts listen under a scheme unless they say otherwise. -/
def usualNumber (scheme : Text) : Option Nat :=
  if (["http", "ws"].map Text.ofString).contains scheme then some 80
  else if (["https", "wss"].map Text.ofString).contains scheme then some 443
  else none

end Host

/-- The parts of an authority. -/
structure Authority where
  user : Option Text
  password : Option Text
  /-- The name of the host, or its number without brackets. -/
  name : Text
  /-- The number at which the host listens. -/
  listening : Text
  deriving DecidableEq

/-- The parts of an authority as they are sent. -/
structure Authority.Sent where
  /-- The user with the password and the at sign after them, if there is a user. -/
  user : Text
  name : Text
  listening : Option Nat
  deriving DecidableEq

namespace Authority

/-- The parts of an authority. -/
def read (t : Text) : Authority :=
  let host := Host.afterUser t
  let before := t.take (t.length - host.length)
  let (user, password) := Text.splitFirst ':' before.dropLast
  let (name, listening) :=
    match Text.splitFirst '[' host with
    | (_, some rest) =>
      let (number, after) := Text.splitFirst ']' rest
      (number, (Text.splitFirst ':' (after.getD [])).2)
    | (_, none) => Text.splitFirst ':' host
  { user := if before.isEmpty then none else some user
    password, name := Host.lowerName name, listening := listening.getD [] }

/-- The user and the password as they are sent. -/
def sentUser (authority : Authority) : Except Fault Text := do
  let safe := "%!$&'()*+,;="
  match authority.user with
  | none => return []
  | some user =>
    let user ← user.percentEncoded safe
    let password ← authority.password.mapM (·.percentEncoded safe)
    return user ++ (password.map fun password => (':' : CodePoint) :: password).getD [] ++
      [('@' : CodePoint)]

/-- The parts of an authority as they are sent. -/
def sent (authority : Authority) : Except Fault Sent := do
  let name ← (HostName.encode authority.name).mapError .unsentName
  let listening ← Host.readListening authority.listening
  let user ← authority.sentUser
  return { user, name, listening }

namespace Sent

/-- The name of the host, between brackets if it holds a colon. -/
def bracketed (sent : Sent) : Text :=
  if sent.name.contains (':' : CodePoint) then
    ('[' : CodePoint) :: sent.name ++ [(']' : CodePoint)]
  else sent.name

/-- The text of an authority. -/
def text (sent : Sent) : Text := sent.user ++ sent.bracketed ++ Host.listeningText sent.listening

/-- The host of an authority under a scheme. A server cannot be asked for one with a user, with
another name than servers have, or with the number zero. -/
def host? (sent : Sent) (scheme : Text) : Option Host :=
  let isServed :=
    if sent.name.contains (':' : CodePoint) then Host.isServedNumber sent.name
    else Host.isServedName sent.name
  if sent.user.isEmpty && isServed && sent.listening != some 0 then
    some {
      name := sent.bracketed
      listening := sent.listening.filter fun n => Host.usualNumber scheme != some n }
  else none

end Sent

end Authority

end Storefront
