import Storefront.Fault

/-!
# Records

Users and products are records, made from named values before anything is stored. The values of its
columns are what a record is for. It takes values also for the names of what all records of its kind
have, and most of these go unnoticed; a few change the record itself or cannot be given. Other names
are refused. The first name at fault decides.

## Main definitions

* `Record`, `Record.put` — records, and one of them with a further value
* `Record.ofFields` — the record that named values make
* `Record.read` — the value of a column
-/

namespace Storefront

/-- The names of the columns of a table. -/
def Table.columnNames : Table → List Text
  | .users => ["id", "name", "email", "created_at"].map Text.ofString
  | .products =>
    ["id", "title", "sku", "description", "price", "stock", "is_active", "created_at",
     "updated_at"].map Text.ofString

/-- The names of what a record of a table has that follows from its columns. -/
def Table.fixedNames : Table → List Text
  | .users => ["is_active", "is_anonymous", "is_authenticated"].map Text.ofString
  | .products => []

/-- The name of what makes the summary of a product. -/
def summaryName : Text := Text.ofString "to_dict"

/-- The names of what the records of a table have of their own. A value given for one of them stands
in front of it. -/
def Table.ownNames : Table → List Text
  | .users => [Text.ofString "get_id"]
  | .products => [summaryName]

/-- The names of what every kind of record has. A value given for one of them goes unnoticed. -/
def commonNames : List Text :=
  ["__abstract__", "__annotations__", "__base__", "__bases__", "__basicsize__", "__call__",
   "__class_getitem__", "__delattr__", "__dictoffset__", "__dir__", "__doc__", "__eq__",
   "__flags__", "__format__", "__fsa__", "__ge__", "__getattribute__", "__getstate__", "__gt__",
   "__hash__", "__init__", "__init_subclass__", "__instancecheck__", "__itemsize__", "__le__",
   "__lt__", "__mapper__", "__module__", "__mro__", "__name__", "__ne__", "__new__", "__or__",
   "__orig_bases__", "__parameters__", "__prepare__", "__qualname__", "__reduce__",
   "__reduce_ex__", "__repr__", "__ror__", "__setattr__", "__sizeof__", "__slots__", "__str__",
   "__subclasscheck__", "__subclasses__", "__subclasshook__", "__table__", "__table_cls__",
   "__tablename__", "__text_signature__", "__weakrefoffset__", "_is_protocol",
   "_sa_class_manager", "_sa_registry", "metadata", "mro", "query_class", "registry"].map
    Text.ofString

/-- A record that is being made. -/
structure Record where
  table : Table
  members : Json.Members := []
  /-- Whether changes of the columns are noticed. They are until the members are put in as a
  whole. -/
  isWatched : Bool := true

namespace Record

/-- A record with a further value. -/
def put (record : Record) (name : Text) (value : Json) : Except Fault Record :=
  let kept : Record := { record with members := record.members.set name value }
  if record.table.columnNames.contains name then
    if record.isWatched then .ok kept else .error (.unwatched record.table)
  else if record.table.ownNames.contains name || commonNames.contains name then .ok kept
  else if record.table.fixedNames.contains name then .error (.fixedField name)
  else if name = Text.ofString "__dict__" then
    match value with
    | .obj members => .ok { record with members, isWatched := false }
    | value => .error (.membersNotObject value)
  else if name = Text.ofString "__class__" then .error (.kindNotChangeable value)
  else if name = Text.ofString "__weakref__" then .error (.referenceNotWritable record.table)
  else if name = Text.ofString "query" then .error .outsideContext
  else .error (.unknownField record.table name)

/-- The record that named values make. -/
def ofFields (table : Table) (fields : Json.Members) : Except Fault Record :=
  if (fields.get? (Text.ofString "self")).isSome then .error .selfGiven
  else fields.foldlM (fun record field => record.put field.1 field.2) { table }

/-- The value of a column, null where none was given. -/
def read (record : Record) (column : Text) : Except Fault Json :=
  match record.members.get? column with
  | some value => .ok value
  | none => if record.isWatched then .ok .null else .error (.unread record.table)

end Record

end Storefront
