import Storefront.Form
import Storefront.Json.Encoding
import Storefront.Json.Printer
import Storefront.Web.Route
import Storefront.Web.Target

/-!
# Requests and responses

A request carries a form, or a text or some bytes, and perhaps a content type. Bytes are tried as
JSON if their type says so, and as a form if it says that; what is neither is an empty form. What
the bytes of a form in parts hold is found by a parser of its own, which is no part of the shop, so
a body comes with what that parser finds in it. Forms that are larger than the server takes are left
out: it refuses them itself. The pairs of a form are left behind unless the content type names a way
to send them. A request with a text that has no bytes is never sent.

## Main definitions

* `Request`, `Body` — requests
* `Body.pairs`, `Body.fields` — the pairs of a body as a form, and its fields whichever way it
  holds them
* `Body.checkDepth` — what a body has to be for its JSON to be read
* `Request.read` — what a request asks for, if it can be sent
* `Response` — responses
-/

namespace Storefront

/-- What a request carries. -/
inductive Body
  /-- The pairs of a form, perhaps with a content type. -/
  | form (contentType : Option Text) (pairs : List (Text × Text))
  /-- A text, perhaps with a content type, and the pairs that are found in it as a form in parts. -/
  | text (contentType : Option Text) (content : Text) (parts : List (Text × Text) := [])
  /-- Bytes, perhaps with a content type, and the pairs that are found in them as a form in
  parts. -/
  | bytes (contentType : Option Text) (bytes : Bytes) (parts : List (Text × Text) := [])

/-- A request of a browser. -/
structure Request where
  client : Text
  method : Text
  target : Text
  body : Body

/-- What may stand around a media type. -/
def isMediaMargin (c : CodePoint) : Bool := c = (' ' : CodePoint) || c = ('\t' : CodePoint)

/-- The media type of a content type: what stands before the parameters, in small letters. -/
def mediaType (contentType : Text) : Text :=
  Text.toLower (Text.trimEnds isMediaMargin (Text.splitFirst ';' contentType).1)

/-- Whether a media type is one of JSON. -/
def isJsonType (media : Text) : Bool :=
  media = Text.ofString "application/json" ||
    (Text.ofString "application/").isPrefixOf media && (Text.ofString "+json").isSuffixOf media

/-- The media type of a form. -/
def formType : Text := Text.ofString "application/x-www-form-urlencoded"

/-- The media type of a form that is sent in parts. -/
def partsType : Text := Text.ofString "multipart/form-data"

/-- The media type under which a form is sent: what stands before the parameters. Its letters stay
as they are, and any blanks around it are left out. -/
def sentType (contentType : Text) : Text := (Text.splitFirst ';' contentType).1.strip

namespace Body

/-- The pairs of a form that are sent under a content type. -/
def sentPairs (contentType : Option Text) (pairs : List (Text × Text)) : List (Text × Text) :=
  let isSent := contentType.all fun contentType =>
    [formType, partsType].contains (sentType contentType)
  if isSent then Form.grouped pairs else []

/-- The media type and the bytes of a body that has a content type and is no form. -/
def typed? : Body → Option (Text × Bytes)
  | form _ _ => none
  | text contentType content _ => contentType.map fun contentType =>
    (mediaType contentType, content.utf8)
  | bytes contentType content _ => contentType.map fun contentType =>
    (mediaType contentType, content)

/-- The pairs that are found in a body as a form in parts. -/
def parts : Body → List (Text × Text)
  | form _ _ => []
  | text _ _ parts | bytes _ _ parts => parts

/-- The pairs of a body as a form. -/
def pairs : Body → List (Text × Text)
  | form contentType pairs =>
    let isRead := contentType.all fun contentType =>
      sentType contentType = partsType || mediaType contentType = formType
    if isRead then sentPairs contentType pairs else []
  | body =>
    match body.typed? with
    | some (media, content) =>
      if media = formType then Form.read content
      else if media = partsType then body.parts
      else []
    | none => []

/-- The first bracket of a body's JSON that is one too many to be open at once. -/
def excess? (room : Nat) (body : Body) : Option Json.Bracket := do
  let (media, content) ← body.typed?
  if isJsonType media then Json.excessBytes? room content else none

/-- What a body has to be for its JSON to be read: there must be room for all of its brackets. -/
def checkDepth (room : Nat) (body : Body) : Except Fault Unit :=
  match body.excess? room with
  | some bracket => .error (.nestedTooDeep bracket)
  | none => .ok ()

/-- The members of a body that is a JSON object. -/
def json? (body : Body) : Option Json.Members := do
  let (media, content) ← body.typed?
  if isJsonType media then
    match Json.readBytes? content with
    | some (.obj members) => some members
    | _ => none
  else none

/-- The fields of a body: the members of a JSON object, or the pairs of a form. A name stands for
its first value. -/
def fields (body : Body) : Json.Members :=
  match body.json? with
  | some members => members
  | none => body.pairs.map fun pair => (pair.1, .str pair.2)

/-- What a body has to be sent: a content type without line ends, and texts without surrogates. -/
def check : Body → Except Fault Unit
  | form contentType pairs => do
    checkType contentType
    (sentPairs contentType pairs).forM fun pair => do
      pair.1.checkWritten
      pair.2.checkWritten
  | text contentType content _ => do
    checkType contentType
    content.checkWritten
  | bytes contentType _ _ => checkType contentType
where
  /-- A content type has no line ends. -/
  checkType (contentType : Option Text) : Except Fault Unit :=
    if (contentType.getD []).any fun c => c = ('\r' : CodePoint) || c = ('\n' : CodePoint) then
      .error .lineEndInHeader
    else .ok ()

end Body

/-- What a request asks for, if it can be sent. -/
def Request.read (request : Request) : Except Fault Target := do
  let address ← Address.split request.target
  let target ← Target.ofAddress address
  request.body.check
  address.line.checkWritten
  target.checkHost
  return target

/-- Whether a response to a request is sent without its body. The method is taken as it was sent. -/
def Request.isHead (request : Request) : Bool := request.method = Method.head.name

/-- The content type of a response. -/
inductive Media
  | html
  | json
  deriving DecidableEq, Repr

/-- The name of a content type. -/
def Media.name : Media → Text
  | html => Text.ofString "text/html; charset=utf-8"
  | json => Text.ofString "application/json"

/-- A response. -/
structure Response where
  status : Nat
  media : Media
  body : Text
  /-- The methods that the path takes, where they are told. -/
  allow : Option (List Method) := none
  deriving DecidableEq

namespace Response

/-- A page. -/
def page (status : Nat) (body : Text) : Response where
  status := status
  media := .html
  body := body

/-- A JSON value, with an end after its line. -/
def json (status : Nat) (value : Json) : Response where
  status := status
  media := .json
  body := value.print ++ [('\n' : CodePoint)]

/-- A response that tells the methods of its path. -/
def allowing (methods : List Method) (response : Response) : Response :=
  { response with allow := some methods }

/-- A response without its body. -/
def withoutBody (response : Response) : Response := { response with body := [] }

end Response

end Storefront
