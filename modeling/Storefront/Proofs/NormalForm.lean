import Storefront.Proofs.Submission

/-!
# Submitted fields in normal form

Blanks and absence make no difference to the judging of a product: each text may be trimmed, each
field that is null or has nothing but blanks may be left out, and so may all that is no field.
Wherever a field is trimmed in its own judging, be it to measure it, to look it up or to read a
number in it, that is done to a text without blanks at its ends as well.

## Main definitions

* `Json.normal?` — what is left of a submitted value
* `Json.Members.normal`, `Json.normalForm` — submitted fields and payloads in normal form

## Main results

* `Json.Members.get?_normal` — the fields that a normal form has
* `Json.apply_normal` — what does not tell a value from its normal form
* `Shop.judge_normalForm` — a payload is judged as its normal form is
-/

namespace Storefront

/-- What is left of a submitted value without the blanks at the ends of a text: nothing if it is
null or an empty text then. -/
def Json.normal? : Json → Option Json
  | .null => none
  | .str t => if t.strip.isEmpty then none else some (.str t.strip)
  | value => some value

/-- What is left of submitted fields: the six fields of a product, where anything is left of
them. -/
def Json.Members.normal (fields : Json.Members) : Json.Members :=
  Product.fieldNames.filterMap fun name => ((fields.get? name).bind Json.normal?).map (name, ·)

/-- The normal form of a payload. What is no object is left as it is. -/
def Json.normalForm : Json → Json
  | .obj fields => .obj (Json.Members.normal fields)
  | value => value

/-! ### Look-ups -/

/-- A look-up among entries that are made of their names. -/
theorem Text.lookup_filterMap {α : Type} (names : List Text) (make : Text → Option α)
    (name : Text) :
    (names.filterMap fun other => (make other).map (other, ·)).lookup name =
      if name ∈ names then make name else none := by
  induction names with
  | nil => rfl
  | cons first rest ih =>
    rw [List.filterMap_cons]
    by_cases same : name = first
    · subst same
      cases made : make name with
      | none => simp [ih, made]
      | some a => simp
    · have differs : (name == first) = false := by simpa using same
      cases make first <;> simp [List.lookup_cons, differs, same, ih]

theorem Json.Members.get?_normal (fields : Json.Members) (name : Text) :
    fields.normal.get? name =
      if name ∈ Product.fieldNames then (fields.get? name).bind Json.normal? else none :=
  Text.lookup_filterMap _ _ _

theorem Json.Members.submitted_normal {name : String}
    (field : Text.ofString name ∈ Product.fieldNames) (fields : Json.Members) :
    fields.normal.submitted name = (fields.submitted name).normal?.getD .null := by
  unfold submitted
  rw [get?_normal, if_pos field]
  cases fields.get? (Text.ofString name) <;> rfl

/-! ### Single values -/

@[simp] theorem Json.isBlank_null : Json.null.isBlank = true := rfl

@[simp] theorem Json.isBlank_str (t : Text) : (Json.str t).isBlank = t.isBlank := rfl

/-- What neither tells blanks from null nor a text from the trimmed one does not tell a value from
its normal form. -/
theorem Json.apply_normal {α : Type} {judge : Json → α}
    (blank : ∀ value, value.isBlank = true → judge value = judge .null)
    (trimmed : ∀ t : Text, t.isBlank = false → judge (.str t.strip) = judge (.str t))
    (value : Json) : judge (value.normal?.getD .null) = judge value := by
  cases value with
  | str t =>
    cases empty : t.isBlank with
    | true =>
      have none : (Json.str t).normal? = none := by
        rw [normal?, Text.strip_eq_nil_iff.2 empty]
        rfl
      rw [none, blank (.str t) empty]
      rfl
    | false =>
      have some : (Json.str t).normal? = some (.str t.strip) := by
        have nonempty : t.strip ≠ [] := fun nil => by
          rw [Text.strip_eq_nil_iff.1 nil] at empty
          cases empty
        rw [normal?, if_neg (by rwa [List.isEmpty_iff])]
      rw [some]
      exact trimmed t empty
  -- Null is left out, which counts as null, and every other value is kept.
  | _ => rfl

namespace Product

variable {m : Type → Type} [Monad m] [MonadLiftT (Except Fault) m]
variable {limits : Limits} {taken : Text → m Bool}

theorem judgeTitle_normal (value : Json) :
    judgeTitle limits (value.normal?.getD .null) = judgeTitle limits value := by
  refine Json.apply_normal (fun value blank => ?_) (fun t nonblank => ?_) value
  · simp [judgeTitle, blank]
  · simp [judgeTitle, nonblank]

theorem judgeSku_normal (value : Json) :
    judgeSku limits taken (value.normal?.getD .null) = judgeSku limits taken value := by
  refine Json.apply_normal (fun value blank => ?_) (fun t nonblank => ?_) value
  · simp [judgeSku, blank]
  · simp [judgeSku, nonblank]

theorem judgeDescription_normal (value : Json) :
    judgeDescription (value.normal?.getD .null) = judgeDescription value := by
  refine Json.apply_normal (fun value blank => ?_) (fun t nonblank => ?_) value
  · simp [judgeDescription, blank]
  · simp [judgeDescription, nonblank]

theorem judgePrice_normal (value : Json) :
    judgePrice (value.normal?.getD .null) = judgePrice value := by
  refine Json.apply_normal (fun value blank => ?_) (fun t nonblank => ?_) value
  · simp [judgePrice, blank]
  · simp [judgePrice, nonblank, decimal?, Decimal.read]

theorem judgeStock_normal (value : Json) :
    judgeStock (value.normal?.getD .null) = judgeStock value := by
  refine Json.apply_normal (fun value blank => ?_) (fun t nonblank => ?_) value
  · simp [judgeStock, blank]
  · simp [judgeStock, nonblank, integer?]

theorem judgeActive_normal (value : Json) :
    judgeActive (value.normal?.getD .null) = judgeActive value := by
  refine Json.apply_normal (fun value blank => ?_) (fun t nonblank => ?_) value
  · simp [judgeActive, blank]
  · simp [judgeActive, nonblank, Json.flag?]

/-! ### Payloads -/

theorem judge_normal (limits : Limits) (taken : Text → m Bool) (fields : Json.Members) :
    judge limits taken fields.normal = judge limits taken fields := by
  have field {name : String} (known : Text.ofString name ∈ fieldNames) :
      (fields.normal.get? (Text.ofString name)).getD .null =
        ((fields.get? (Text.ofString name)).getD .null).normal?.getD .null :=
    Json.Members.submitted_normal known fields
  unfold judge
  dsimp only
  rw [field (by decide : Text.ofString "title" ∈ fieldNames),
    field (by decide : Text.ofString "sku" ∈ fieldNames),
    field (by decide : Text.ofString "description" ∈ fieldNames),
    field (by decide : Text.ofString "price" ∈ fieldNames),
    field (by decide : Text.ofString "stock" ∈ fieldNames),
    field (by decide : Text.ofString "is_active" ∈ fieldNames)]
  simp only [judgeTitle_normal, judgeSku_normal, judgeDescription_normal, judgePrice_normal,
    judgeStock_normal, judgeActive_normal]

end Product

/-- A payload is judged as its normal form is: with the same report or the same failure. -/
theorem Shop.judge_normalForm (payload : Json) : judge payload.normalForm = judge payload := by
  cases payload with
  | obj fields =>
    change (Service.shop >>= fun shop =>
      Product.judge shop.limits isTaken (Json.Members.normal fields)) =
      Service.shop >>= fun shop => Product.judge shop.limits isTaken fields
    simp only [Product.judge_normal]
  | _ => rfl

end Storefront
