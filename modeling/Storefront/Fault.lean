import Storefront.Json.Nesting
import Storefront.Web.HostName

/-!
# What can go wrong

Every error that leaves an operation of the shop is a `Failure`. Either the database could not be
reached, which is one kind of failure whatever the driver said, or some other fault is passed on as
it is. A fault is kept as its cause; the wording follows from the cause and stands in one place.

## Main definitions

* `Fault.Kind` — the families of faults, with the two that a probe of the database treats as an
  unreachable database
* `Fault` — the causes
* `Fault.message` — their wording
* `Fault.answer` — the wording as it is answered
* `Failure` — an unreachable database or another fault
-/

namespace Storefront

/-- The tables of the store. -/
inductive Table
  | users
  | products
  deriving DecidableEq, Repr

/-- The name of a table. -/
def Table.name : Table → Text
  | users => Text.ofString "users"
  | products => Text.ofString "products"

/-- The name of what a row of a table holds. -/
def Table.rowName : Table → Text
  | users => Text.ofString "User"
  | products => Text.ofString "Product"

/-- A column of a table. -/
structure Column where
  table : Table
  name : Text
  deriving DecidableEq

/-- The full name of a column. -/
def Column.fullName (column : Column) : Text :=
  column.table.name ++ ('.' : CodePoint) :: column.name

namespace Fault

/-- The family of a fault. -/
inductive Kind
  | operational
  | integrity
  | programming
  | database
  | interface
  | internal
  | data
  | notSupported
  | driver
  | argument
  | noSuchModule
  | invalidRequest
  | timeout
  | compile
  | statement
  | toolkit
  | value
  | key
  | type
  | attribute
  | overflow
  | encoding
  | reading
  | naming
  | decimal
  | system
  | runtime
  | recursion
  | unmapped
  deriving DecidableEq, Repr

/-- The faults that the database driver reports. -/
def Kind.isDriver : Kind → Bool
  | operational | integrity | programming | database | interface | internal | data | notSupported
  | driver => true
  | _ => false

/-- The faults of a database address that cannot be used. -/
def Kind.isArgument : Kind → Bool
  | argument | noSuchModule => true
  | _ => false

end Fault

/-- A fault by its cause. -/
inductive Fault
  /-- A fault with a message of its own, and whether it has cost the connection. -/
  | raised (kind : Fault.Kind) (message : Text) (invalidated : Bool)
  /-- The database cannot be opened. -/
  | cannotOpen
  /-- A table does not exist. -/
  | noTable (table : Table)
  /-- The database takes no writes. -/
  | readOnly
  /-- No number is left for a new row. -/
  | full
  /-- A column that must have a value was given none. -/
  | notNull (column : Column)
  /-- A column whose values must differ was given a value that it has. -/
  | notUnique (column : Column)
  /-- An integer has more than the 64 bits that a column keeps. -/
  | integerTooWide
  /-- A run of surrogates keeps a text from being written as bytes. -/
  | unencodable (place : Nat) (run : Text)
  /-- A list or an object was given for a column. -/
  | unstorable (position : Nat) (value : Json)
  /-- A signaling NaN was given for a price. -/
  | signalingPrice
  /-- An integer beyond all doubles was given for a price. -/
  | priceTooWide
  /-- A list or an object was given for a price. -/
  | priceNotNumber (value : Json)
  /-- A value that is no truth value was given for a flag. -/
  | notFlag (value : Json)
  /-- A text is no JSON, as it shows at an index, in a column of a line. -/
  | misreadJson (flaw : Json.Flaw) (line column index : Nat)
  /-- A bracket in a JSON text is one too many to be open at once. -/
  | nestedTooDeep (bracket : Json.Bracket)
  /-- A text is no integer. -/
  | misreadInteger (text : Text) (why : Integer.Misread)
  /-- A text is no decimal. -/
  | misreadDecimal (why : Decimal.Misread)
  /-- An infinite number has no integer part. -/
  | infiniteInteger
  /-- NaN has no integer part. -/
  | nanInteger
  /-- A value of a type that is no number at all. -/
  | notNumeric (value : Json)
  /-- A product was to be made without a title. -/
  | missingTitle
  /-- A product was to be stored with a field that products do not have. -/
  | unexpectedField (name : Text)
  /-- A user or product was to be made with a field that it does not have. -/
  | unknownField (table : Table) (name : Text)
  /-- A user was to be made with a field that follows from the others. -/
  | fixedField (name : Text)
  /-- A record was given something else than an object for its members as a whole. -/
  | membersNotObject (value : Json)
  /-- A record was given a value for its kind. -/
  | kindNotChangeable (value : Json)
  /-- A record was given a value for what points to it. -/
  | referenceNotWritable (table : Table)
  /-- A record was given a value for what is asked of its whole table, outside of any shop. -/
  | outsideContext
  /-- A record was given a value for itself. -/
  | selfGiven
  /-- A column was given a value in a record whose changes are not noticed. -/
  | unwatched (table : Table)
  /-- A column was asked for that a record whose changes are not noticed has no value for. -/
  | unread (table : Table)
  /-- A value stands where something that works should be. -/
  | notCallable (value : Json)
  /-- A value without members was asked for one. -/
  | missingAttribute (value : Json) (name : Text)
  /-- A visitor record was asked for a member that it has not. -/
  | missingRecordAttribute (name : Text)
  /-- An object has no member of a name. -/
  | missingMember (name : Text)
  /-- A length was to be compared with a value that is no number. -/
  | notLimit (value : Json)
  /-- A variable of an environment was given a value with a zero byte. -/
  | zeroByte
  /-- No log level has the name. -/
  | unknownLevel (name : Text)
  /-- A value is neither the number nor the name of a log level. -/
  | notLevel (value : Json)
  /-- A text is no address of a database. -/
  | misreadAddress
  /-- A host in a request's target has one of two brackets only, or something beside them. -/
  | loneBracket
  /-- A host's number is in no form that there will ever be. -/
  | unknownHostNumber
  /-- A host's number is in the form that does not stand between brackets. -/
  | shortHostNumber
  /-- Something else than a host's number stands between brackets. -/
  | notHostNumber (text : Text)
  /-- An authority has code points that may be taken for separators. -/
  | lookalike (authority : Text)
  /-- The name of a host cannot be sent. -/
  | unsentName (flaw : HostName.Flaw)
  /-- The name of a host cannot be shown as it was meant. -/
  | unshownName (flaw : HostName.Flaw)
  /-- The text after a host in a request's target is no number. -/
  | misreadHostNumber (text : Text)
  /-- The number after a host in a request's target is too great. -/
  | hostNumberTooGreat
  /-- The content type of a request has a line end in it. -/
  | lineEndInHeader

/-- The word for the type of a value. -/
def Json.typeName : Json → Text
  | .null => Text.ofString "NoneType"
  | .bool _ => Text.ofString "bool"
  | .int _ => Text.ofString "int"
  | .float _ => Text.ofString "float"
  | .str _ => Text.ofString "str"
  | .arr _ => Text.ofString "list"
  | .obj _ => Text.ofString "dict"

namespace Fault

/-- The family that a fault belongs to. -/
def kind : Fault → Kind
  | raised kind .. => kind
  | cannotOpen | noTable _ | readOnly | full => .operational
  | notNull _ | notUnique _ => .integrity
  | unstorable .. => .programming
  | integerTooWide | infiniteInteger => .overflow
  | unencodable .. => .encoding
  | misreadJson .. => .reading
  | signalingPrice | priceTooWide | priceNotNumber _ | notFlag _ => .statement
  | misreadInteger .. | nanInteger | unknownLevel _ | loneBracket | unknownHostNumber
  | shortHostNumber | notHostNumber _ | lookalike _ | misreadHostNumber _ | hostNumberTooGreat
  | lineEndInHeader | zeroByte => .value
  | unsentName _ | unshownName _ => .naming
  | misreadDecimal _ => .decimal
  | notNumeric _ | missingTitle | unexpectedField _ | unknownField .. | notLevel _
  | membersNotObject _ | kindNotChangeable _ | selfGiven | notCallable _ | notLimit _ => .type
  | missingAttribute .. | missingRecordAttribute _ | fixedField _ | referenceNotWritable _
  | unwatched _ => .attribute
  | outsideContext => .runtime
  | nestedTooDeep _ => .recursion
  | unread _ => .unmapped
  | missingMember _ => .key
  | misreadAddress => .argument

/-- Whether the fault has cost the connection on which it arose. -/
def invalidated : Fault → Bool
  | raised _ _ invalidated => invalidated
  | _ => false

/-- The wording for a run of surrogates: its place, and what it is if it is a single one. -/
def unencodableMessage (place : Nat) : Text → Text
  | [c] =>
    Text.ofString "'utf-8' codec can't encode character '\\u" ++ Text.hex 4 c.toNat ++
      Text.ofString "' in position " ++ Text.ofNat place ++
      Text.ofString ": surrogates not allowed"
  | run =>
    Text.ofString "'utf-8' codec can't encode characters in position " ++ Text.ofNat place ++
      ('-' : CodePoint) :: Text.ofNat (place + run.length - 1) ++
      Text.ofString ": surrogates not allowed"

/-- The wording for a flaw of a text that is no JSON. -/
def jsonFlawMessage : Json.Flaw → Text
  | .noValue => Text.ofString "Expecting value"
  | .noName => Text.ofString "Expecting property name enclosed in double quotes"
  | .noColon => Text.ofString "Expecting ':' delimiter"
  | .noComma => Text.ofString "Expecting ',' delimiter"
  | .surplus => Text.ofString "Extra data"
  | .openString => Text.ofString "Unterminated string starting at"
  | .control => Text.ofString "Invalid control character at"
  | .unknownEscape => Text.ofString "Invalid \\escape"
  | .brokenEscape => Text.ofString "Invalid \\uXXXX escape"
  | .marked => Text.ofString "Unexpected UTF-8 BOM (decode using utf-8-sig)"

/-- The wording for a bracket that is one too many. -/
def nestedTooDeepMessage (bracket : Json.Bracket) : Text :=
  let word := match bracket with
    | .array => "array"
    | .object => "object"
  Text.ofString <|
    "maximum recursion depth exceeded while decoding a JSON " ++ word ++ " from a unicode string"

/-- The wording for a text that is no integer; of a long text only the start is shown. -/
def misreadIntegerMessage (text : Text) : Integer.Misread → Text
  | .malformed =>
    Text.ofString "invalid literal for int() with base 10: " ++ text.quoted.take 200
  | .tooLong digits =>
    Text.ofString "Exceeds the limit (" ++ Text.ofNat Integer.maxDigits ++
      Text.ofString " digits) for integer string conversion: value has " ++ Text.ofNat digits ++
      Text.ofString " digits; use sys.set_int_max_str_digits() to increase the limit"

/-- The wording for a text that is no decimal. -/
def misreadDecimalMessage : Decimal.Misread → Text
  | .malformed => Text.ofString "[<class 'decimal.ConversionSyntax'>]"
  | .outOfRange => Text.ofString "[<class 'decimal.InvalidOperation'>]"

/-- The wording for a value or record that lacks an attribute. -/
def missingAttributeMessage (typeName name : Text) : Text :=
  ('\'' : CodePoint) :: typeName ++ Text.ofString "' object has no attribute '" ++ name ++
    [('\'' : CodePoint)]

/-- The wording for a value that is no flag. -/
def notFlagMessage : Json → Text
  | .int n =>
    Text.ofString "Value " ++ Text.ofInt n ++ Text.ofString " is not None, True, or False"
  | .arr items =>
    Text.ofString "unhashable type: '" ++ (Json.arr items).typeName ++ [('\'' : CodePoint)]
  | .obj members =>
    Text.ofString "unhashable type: '" ++ (Json.obj members).typeName ++ [('\'' : CodePoint)]
  | value => Text.ofString "Not a boolean value: " ++ value.literal

/-- The wording for a label that tells nothing. -/
def misreadLabelMessage : Punycode.Misread → Text
  | .incomplete => Text.ofString "incomplete punicode string"
  | .notDigit c => Text.ofString "Invalid extended code point '" ++ [c, '\'']
  | .outOfRange n =>
    Text.ofString "Invalid character U+" ++ (Nat.toDigits 16 n).map CodePoint.ofChar

/-- The wording for the flaw of a name. -/
def flawMessage : HostName.Flaw → Text
  | .emptyOrLongLabel => Text.ofString "label empty or too long"
  | .longLabel => Text.ofString "label too long"
  | .forbidden c => Text.ofString "Invalid character " ++ Text.quoted [c]
  | .mixedDirections => Text.ofString "Violation of BIDI requirement 2"
  | .looseDirection => Text.ofString "Violation of BIDI requirement 3"
  | .marked => Text.ofString "Label starts with ACE prefix"
  | .misread why =>
    Text.ofString "decoding with 'punycode' codec failed (UnicodeError: " ++
      misreadLabelMessage why ++ [(')' : CodePoint)]
  | .unstable label sent =>
    Text.ofString "('IDNA does not round-trip', b" ++ label.quoted ++ Text.ofString ", b" ++
      sent.quoted ++ [(')' : CodePoint)]

/-- The wording for a name with a flaw that keeps it from being sent or shown. -/
def badNameMessage (work : String) (flaw : HostName.Flaw) : Text :=
  match flaw with
  | .unstable .. => flawMessage flaw
  | _ =>
    Text.ofString (work ++ " with 'idna' codec failed (UnicodeError: ") ++ flawMessage flaw ++
      [(')' : CodePoint)]

/-- The wording for what is asked for outside of any shop. -/
def outsideContextMessage : Text :=
  Text.ofString <|
    "Working outside of application context.\n\n" ++
    "This typically means that you attempted to use functionality that needed\n" ++
    "the current application. To solve this, set up an application context\n" ++
    "with app.app_context(). See the documentation for more information."

/-- The full name of what the rows of a table are. -/
def fullRowName : Table → String
  | .users => "shopfront.models.user.User"
  | .products => "shopfront.models.product.Product"

/-- The wording for a column that a record has no value for. -/
def unreadMessage (table : Table) : Text :=
  Text.ofString <|
    "Class '" ++ fullRowName table ++ "' is mapped, but this instance lacks instrumentation.  " ++
    "This occurs when the instance is created before sqlalchemy.orm.mapper(" ++
    fullRowName table ++ ") was called."

/-- The wording of a fault. -/
def message : Fault → Text
  | raised .key message _ => message.quoted
  | raised _ message _ => message
  | cannotOpen => Text.ofString "unable to open database file"
  | noTable table => Text.ofString "no such table: " ++ table.name
  | readOnly => Text.ofString "attempt to write a readonly database"
  | full => Text.ofString "database or disk is full"
  | notNull column => Text.ofString "NOT NULL constraint failed: " ++ column.fullName
  | notUnique column => Text.ofString "UNIQUE constraint failed: " ++ column.fullName
  | integerTooWide => Text.ofString "Python int too large to convert to SQLite INTEGER"
  | unencodable place run => unencodableMessage place run
  | unstorable position value =>
    Text.ofString "Error binding parameter " ++ Text.ofNat position ++
      Text.ofString ": type '" ++ value.typeName ++ Text.ofString "' is not supported"
  | signalingPrice => Text.ofString "cannot convert signaling NaN to float"
  | priceTooWide => Text.ofString "int too large to convert to float"
  | priceNotNumber value =>
    Text.ofString "float() argument must be a string or a real number, not '" ++ value.typeName ++
      [('\'' : CodePoint)]
  | notFlag value => notFlagMessage value
  | misreadJson flaw line column index =>
    jsonFlawMessage flaw ++ Text.ofString ": line " ++ Text.ofNat line ++
      Text.ofString " column " ++ Text.ofNat column ++ Text.ofString " (char " ++
      Text.ofNat index ++ [(')' : CodePoint)]
  | nestedTooDeep bracket => nestedTooDeepMessage bracket
  | misreadInteger text why => misreadIntegerMessage text why
  | misreadDecimal why => misreadDecimalMessage why
  | infiniteInteger => Text.ofString "cannot convert float infinity to integer"
  | nanInteger => Text.ofString "cannot convert float NaN to integer"
  | notNumeric value =>
    Text.ofString
        "int() argument must be a string, a bytes-like object or a real number, not '" ++
      value.typeName ++ [('\'' : CodePoint)]
  | missingTitle =>
    Text.ofString "create_product() missing 1 required positional argument: 'title'"
  | unexpectedField name =>
    Text.ofString "create_product() got an unexpected keyword argument '" ++ name ++
      [('\'' : CodePoint)]
  | unknownField table name =>
    name.quoted ++ Text.ofString " is an invalid keyword argument for " ++ table.rowName
  | fixedField name =>
    Text.ofString "property '" ++ name ++ Text.ofString "' of 'User' object has no setter"
  | membersNotObject value =>
    Text.ofString "__dict__ must be set to a dictionary, not a '" ++ value.typeName ++
      [('\'' : CodePoint)]
  | kindNotChangeable value =>
    Text.ofString "__class__ must be set to a class, not '" ++ value.typeName ++
      Text.ofString "' object"
  | referenceNotWritable table =>
    let holder := match table with
      | .users => "UserMixin"
      | .products => "Model"
    Text.ofString ("attribute '__weakref__' of '" ++ holder ++ "' objects is not writable")
  | outsideContext => outsideContextMessage
  | selfGiven => Text.ofString "__init__() got multiple values for argument 'self'"
  | unwatched table =>
    missingAttributeMessage table.rowName (Text.ofString "_sa_instance_state")
  | unread table => unreadMessage table
  | notCallable value =>
    ('\'' : CodePoint) :: value.typeName ++ Text.ofString "' object is not callable"
  | missingAttribute value name => missingAttributeMessage value.typeName name
  | missingRecordAttribute name =>
    missingAttributeMessage (Text.ofString "types.SimpleNamespace") name
  | missingMember name => name.quoted
  | notLimit value =>
    Text.ofString "'>' not supported between instances of 'int' and '" ++ value.typeName ++
      [('\'' : CodePoint)]
  | unknownLevel name => Text.ofString "Unknown level: " ++ name.quoted
  | notLevel value =>
    Text.ofString "Level not an integer or a valid string: " ++ value.literal
  | misreadAddress => Text.ofString "Could not parse SQLAlchemy URL from given URL string"
  | loneBracket => Text.ofString "Invalid IPv6 URL"
  | unknownHostNumber => Text.ofString "IPvFuture address is invalid"
  | shortHostNumber => Text.ofString "An IPv4 address cannot be in brackets"
  | notHostNumber text =>
    text.quoted ++ Text.ofString " does not appear to be an IPv4 or IPv6 address"
  | lookalike authority =>
    Text.ofString "netloc '" ++ authority ++
      Text.ofString "' contains invalid characters under NFKC normalization"
  | unsentName flaw => badNameMessage "encoding" flaw
  | unshownName flaw => badNameMessage "decoding" flaw
  | misreadHostNumber text =>
    Text.ofString "Port could not be cast to integer value as " ++ text.quoted
  | hostNumberTooGreat => Text.ofString "Port out of range 0-65535"
  | zeroByte => Text.ofString "embedded null byte"
  | lineEndInHeader => Text.ofString "Header values must not contain newline characters."

/-- What stands in front of a pointer to further reading. -/
def pointerMark : Text := Text.ofString "\n(Background on this error at:"

/-- A wording without a pointer to further reading and all that follows it. -/
def withoutPointer (wording : Text) : Text := Text.before pointerMark wording

/-- The wording of a fault as it is answered. What comes from the driver is passed on as it is. -/
def answer (fault : Fault) : Text :=
  if fault.kind.isDriver || fault.kind = .statement then fault.message
  else withoutPointer fault.message

/-- The fault of a text that was not read as JSON. Lines and columns are counted from one. -/
def ofMisread (t : Text) : Json.Misread → Fault
  | .tooLong digits => .misreadInteger [] (.tooLong digits)
  | .flawed flaw index =>
    let isLineEnd (c : CodePoint) : Bool := c = ('\n' : CodePoint)
    let before := t.take index
    .misreadJson flaw (before.countP isLineEnd + 1)
      ((before.reverse.takeWhile (!isLineEnd ·)).length + 1) index

/-- The wording of a fault in the log, where a fault of the driver is shown with its family and, if
the probe's query met it, with that query. -/
def description (fault : Fault) : Text :=
  match fault with
  | raised kind message _ =>
    if kind.isDriver then
      Text.ofString "(builtins.Exception) " ++ message ++ Text.ofString "\n[SQL: SELECT 1]"
    else message
  | cannotOpen => Text.ofString "(sqlite3.OperationalError) " ++ fault.message
  | _ => fault.message

end Fault

/-- What leaves an operation that fails. -/
inductive Failure
  /-- The database cannot be reached; the cause is the driver's fault, if there was one. -/
  | unreachable (message : Text) (cause : Option Fault)
  /-- Another fault. -/
  | fault (fault : Fault)

namespace Failure

/-- The wording for a database that cannot be reached. -/
def connectionFailed : Text := Text.ofString "Could not connect to the database"

/-- The failure that stands for a driver's fault: the database is gone. -/
def lost (cause : Fault) : Failure := .unreachable connectionFailed (some cause)

/-- The wording of a failure. -/
def message : Failure → Text
  | .unreachable message _ => message
  | .fault cause => cause.message

/-- The wording of a failure as it is answered. -/
def answer : Failure → Text
  | .unreachable message _ => Fault.withoutPointer message
  | .fault cause => cause.answer

/-- What a failure to open a connection comes to: a fault of the driver or of the address is an
unreachable database. -/
def onConnect : Failure → Failure
  | .fault cause =>
    if cause.kind.isDriver || cause.kind.isArgument then lost cause else .fault cause
  | failure => failure

end Failure

end Storefront
