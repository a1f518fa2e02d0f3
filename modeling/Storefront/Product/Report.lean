import Storefront.Product.Draft
import Storefront.Product.Limit

/-!
# Judging submitted products

The six fields of a submitted product are judged one by one. Each is accepted, in the form in which
it will be stored, or refused with a complaint, or absent, which only a title and a price may not
be. A field whose value is null or blank counts as absent. No verdict depends on
another field; only the SKU is compared with what the shop has.

## Main definitions

* `Product.Complaint` — what can be wrong with a field
* `Product.Verdict`, `Product.Report` — the verdict on one field, and on all six
* `Product.judge` — the report on submitted fields
* `Product.Report.cleaned`, `Product.Report.complaints` — what is accepted, and what is wrong
* `Product.Report.draft` — what is to be stored
-/

namespace Storefront

/-- Whether a submitted value counts as absent: null, or a text of blanks. -/
def Json.isBlank : Json → Bool
  | .null => true
  | .str t => t.isBlank
  | _ => false

/-- The flag that a value stands for: a truth value, one or zero in any form, or a word for them in
any case with any blanks around it. -/
def Json.flag? : Json → Option Bool
  | .bool b => some b
  | .int 0 => some false
  | .int 1 => some true
  | .float x => if x.equals 0 then some false else if x.equals 1 then some true else none
  | .str t =>
    let word := t.strip.toLower
    if (["1", "true", "on", "yes"].map Text.ofString).contains word then some true
    else if (["0", "false", "off", "no"].map Text.ofString).contains word then some false
    else none
  | _ => none

namespace Product

/-- What is set for the longest title and the longest SKU, in characters. -/
structure Limits where
  title : Json
  sku : Json

/-- What can be wrong with a field. -/
inductive Complaint
  | titleRequired
  | titleNotText
  | titleTooLong (limit : Limit)
  | skuNotText
  | skuTooLong (limit : Limit)
  | skuTaken
  | descriptionNotText
  | priceRequired
  | priceNotNumber
  | priceNegative
  | stockNotInteger
  | stockNegative
  | flagUnclear
  deriving DecidableEq, Repr

/-- The wording of a complaint. -/
def Complaint.message : Complaint → Text
  | titleRequired => Text.ofString "Product title is required."
  | titleNotText => Text.ofString "Product title must be a string."
  | titleTooLong limit =>
    Text.ofString "Product title is too long (max " ++ limit.text ++
      Text.ofString " characters)."
  | skuNotText => Text.ofString "SKU must be a string."
  | skuTooLong limit =>
    Text.ofString "SKU must be at most " ++ limit.text ++ Text.ofString " characters."
  | skuTaken => Text.ofString "SKU already exists."
  | descriptionNotText => Text.ofString "Product description must be a string."
  | priceRequired => Text.ofString "Product price is required."
  | priceNotNumber => Text.ofString "Product price must be a number."
  | priceNegative => Text.ofString "Product price cannot be negative."
  | stockNotInteger => Text.ofString "Product stock must be an integer."
  | stockNegative => Text.ofString "Product stock cannot be negative."
  | flagUnclear => Text.ofString "Product active flag must be true or false."

/-- The verdict on a field. -/
inductive Verdict (α : Type)
  | absent
  | accepted (value : α)
  | refused (complaint : Complaint)
  deriving DecidableEq

namespace Verdict

variable {α : Type}

/-- The value of an accepted field. -/
def value? : Verdict α → Option α
  | accepted a => some a
  | _ => none

/-- The complaint about a refused field. -/
def complaint? : Verdict α → Option Complaint
  | refused c => some c
  | _ => none

end Verdict

/-- The verdict on the length of a text, for which there must be a limit. -/
def judgeLength (limit : Json) (tooLong : Limit → Complaint) (t : Text) :
    Except Fault (Verdict Text) := do
  let limit ← Limit.read limit
  return if limit.isExceededBy t.length then .refused (tooLong limit) else .accepted t

/-- The title: a text that is not blank, within the limit once its ends are trimmed. -/
def judgeTitle (limits : Limits) (value : Json) : Except Fault (Verdict Text) :=
  if value.isBlank then .ok (.refused .titleRequired)
  else
    match value with
    | .str t => judgeLength limits.title .titleTooLong t.strip
    | _ => .ok (.refused .titleNotText)

/-- The SKU: a text within the limit that no product has. Whether one has it is asked only of a text
within the limit; where the question is put decides what else may come of it. -/
def judgeSku {m : Type → Type} [Monad m] [MonadLiftT (Except Fault) m] (limits : Limits)
    (taken : Text → m Bool) (value : Json) : m (Verdict Text) :=
  if value.isBlank then pure .absent
  else
    match value with
    | .str t => do
      match ← judgeLength limits.sku .skuTooLong t.strip with
      | .accepted sku => if ← taken sku then return .refused .skuTaken else return .accepted sku
      | verdict => return verdict
    | _ => pure (.refused .skuNotText)

/-- The description: any text. -/
def judgeDescription (value : Json) : Verdict Text :=
  if value.isBlank then .absent
  else
    match value with
    | .str t => .accepted t.strip
    | _ => .refused .descriptionNotText

/-- The decimal that a submitted value writes: that of its text, for a number or a text. -/
def decimal? : Json → Option Decimal
  | .int n => (Decimal.read (Text.ofInt n)).toOption
  | .float x => (Decimal.read x.text).toOption
  | .str t => (Decimal.read t).toOption
  | _ => none

/-- The price: a finite number that is not below zero. -/
def judgePrice (value : Json) : Verdict Decimal :=
  if value.isBlank then .refused .priceRequired
  else
    match decimal? value with
    | some d =>
      if !d.isFinite then .refused .priceNotNumber
      else if d.isBelowZero then .refused .priceNegative
      else .accepted d
    | none => .refused .priceNotNumber

/-- The integer that a submitted value writes: that of its text, for an integer or a text. A
floating-point number writes none, nor does an integer of too many digits. -/
def integer? : Json → Option Int
  | .int n => (Integer.read (Text.ofInt n)).toOption
  | .str t => (Integer.read t.strip).toOption
  | _ => none

/-- The stock: an integer that is not below zero. -/
def judgeStock (value : Json) : Verdict Int :=
  if value.isBlank then .absent
  else
    match integer? value with
    | some n => if n < 0 then .refused .stockNegative else .accepted n
    | none => .refused .stockNotInteger

/-- The flag that says whether the product is active. -/
def judgeActive (value : Json) : Verdict Bool :=
  if value.isBlank then .absent
  else
    match value.flag? with
    | some b => .accepted b
    | none => .refused .flagUnclear

/-- The verdicts on the six fields of a submitted product. -/
structure Report where
  title : Verdict Text
  sku : Verdict Text
  description : Verdict Text
  price : Verdict Decimal
  stock : Verdict Int
  isActive : Verdict Bool
  deriving DecidableEq

/-- The report on submitted fields. Nothing is asked but whether a SKU is taken, and that after the
title has been measured. -/
def judge {m : Type → Type} [Monad m] [MonadLiftT (Except Fault) m] (limits : Limits)
    (taken : Text → m Bool) (fields : Json.Members) : m Report := do
  let field (name : String) : Json := (fields.get? (Text.ofString name)).getD .null
  let title ← judgeTitle limits (field "title")
  let sku ← judgeSku limits taken (field "sku")
  return {
    title
    sku
    description := judgeDescription (field "description")
    price := judgePrice (field "price")
    stock := judgeStock (field "stock")
    isActive := judgeActive (field "is_active") }

/-- An accepted value of any field. -/
inductive Value
  | text (t : Text)
  | price (d : Decimal)
  | stock (n : Int)
  | flag (b : Bool)
  deriving DecidableEq

namespace Report

/-- The accepted values with the names of their fields, in the order of the names. -/
def cleaned (report : Report) : List (Text × Value) :=
  [(Text.ofString "description", report.description.value?.map .text),
   (Text.ofString "is_active", report.isActive.value?.map .flag),
   (Text.ofString "price", report.price.value?.map .price),
   (Text.ofString "sku", report.sku.value?.map .text),
   (Text.ofString "stock", report.stock.value?.map .stock),
   (Text.ofString "title", report.title.value?.map .text)].filterMap
    fun entry => entry.2.map (entry.1, ·)

/-- The complaints with the names of their fields, in the order of the names. -/
def complaints (report : Report) : List (Text × Complaint) :=
  [(Text.ofString "description", report.description.complaint?),
   (Text.ofString "is_active", report.isActive.complaint?),
   (Text.ofString "price", report.price.complaint?),
   (Text.ofString "sku", report.sku.complaint?),
   (Text.ofString "stock", report.stock.complaint?),
   (Text.ofString "title", report.title.complaint?)].filterMap
    fun entry => entry.2.map (entry.1, ·)

/-- The value of an accepted field, null for any other. -/
def given {α : Type} (json : α → Json) (verdict : Verdict α) : Json :=
  (verdict.value?.map json).getD .null

/-- The draft of the accepted fields. -/
def draft (report : Report) : Draft where
  title := given .str report.title
  sku := given .str report.sku
  description := given .str report.description
  price := report.price.value?.map .decimal
  stock := given .int report.stock
  isActive := given .bool report.isActive

end Report

end Product

end Storefront
