import Storefront.Proofs.Fieldwise
import Storefront.Proofs.Printed

/-!
# Accepted fields judged again

What a judging has accepted can be submitted as it is, the price and the stock as the texts of their
numbers: the same is accepted again, the price with its sign, its digits and its exponent, and where
there was no complaint there is none now.

## Main definitions

* `Product.Report.resubmitted` — the accepted values of a report as submitted fields
* `Product.Verdict.Confirms` — a verdict that accepts what another one has accepted

## Main results

* `Product.judgePrice_text`, `Product.judgeStock_ofInt` — numbers are accepted in their texts
* `Shop.judge_resubmitted` — the accepted fields are judged as before
-/

namespace Storefront

open Service

theorem Except.eq_ok_of_toOption {ε α : Type} {result : Except ε α} {a : α}
    (h : result.toOption = some a) : result = .ok a := by
  cases result with
  | ok other => exact congrArg Except.ok (Option.some.inj h)
  | error fault => cases h

namespace Product

variable {α : Type}

/-- An accepted value as a submitted one: of a number its text. -/
def Value.json : Value → Json
  | text t => .str t
  | price d => .str d.text
  | stock n => .str (Text.ofInt n)
  | flag b => .bool b

/-- The accepted values of a report as fields that can be submitted. -/
def Report.resubmitted (report : Report) : Json.Members :=
  report.cleaned.map fun entry => (entry.1, entry.2.json)

/-- A verdict that accepts what another one has accepted, and has no complaint if that had none. -/
structure Verdict.Confirms (again verdict : Verdict α) : Prop where
  value?_eq : again.value? = verdict.value?
  complaint?_eq : verdict.complaint? = none → again.complaint? = none

/-- A judging confirms itself if it accepts a value as it writes it and knows nothing of what is
left out. -/
theorem Verdict.confirms_given {judge : Json → Verdict α} {json : α → Json} {value : Json}
    {verdict : Verdict α} (judged : judge value = verdict)
    (accepts : ∀ a, judge value = .accepted a → judge (json a) = .accepted a)
    (missing : (judge .null).value? = none)
    (absent : judge value = .absent → judge .null = .absent) :
    (judge (Report.given json verdict)).Confirms verdict := by
  cases verdict with
  | absent =>
    have none : judge (Report.given json (.absent : Verdict α)) = .absent := absent judged
    rw [none]
    exact ⟨rfl, fun fine => fine⟩
  | accepted a =>
    have same : judge (Report.given json (.accepted a)) = .accepted a := accepts a judged
    rw [same]
    exact ⟨rfl, fun fine => fine⟩
  | refused complaint => exact ⟨missing, nofun⟩

/-! ### Resubmitted fields -/

namespace Report

variable {report again : Report} {name : String}

theorem submitted_resubmitted {make : α → Value} {verdict : Verdict α}
    (found : report.verdicts.lookup (Text.ofString name) = some (verdict.map make)) :
    report.resubmitted.submitted name = given (fun a => (make a).json) verdict := by
  have written (entries : List (Text × Value)) (name : Text) :
      (entries.map fun entry => (entry.1, entry.2.json)).lookup name =
        (entries.lookup name).map Value.json := by
    induction entries with
    | nil => rfl
    | cons entry rest ih =>
      rw [List.map_cons, List.lookup_cons, List.lookup_cons, ih]
      cases name == entry.1 <;> rfl
  unfold Json.Members.submitted Json.Members.get? resubmitted
  rw [written, lookup_cleaned, found]
  cases verdict <;> rfl

theorem cleaned_congr (title : again.title.value? = report.title.value?)
    (sku : again.sku.value? = report.sku.value?)
    (description : again.description.value? = report.description.value?)
    (price : again.price.value? = report.price.value?)
    (stock : again.stock.value? = report.stock.value?)
    (isActive : again.isActive.value? = report.isActive.value?) :
    again.cleaned = report.cleaned := by
  simp only [cleaned, title, sku, description, price, stock, isActive]

end Report

/-! ### Accepted values judged again -/

variable {limits : Limits} {value : Json} {t : Text} {d : Decimal} {n : Int}

theorem judgeLength_of_isWithin {limit : Json} (within : IsWithin limit t)
    (tooLong : Limit → Complaint) : judgeLength limit tooLong t = .ok (.accepted t) := by
  obtain ⟨bound, read, fits⟩ := within
  refine Except.bind_eq_ok_iff.2 ⟨bound, read, ?_⟩
  rw [fits]
  rfl

theorem judgeTitle_of_isTrimmed (trimmed : t.IsTrimmed) (within : IsWithin limits.title t) :
    judgeTitle limits (.str t) = .ok (.accepted t) := by
  have judged := judgeLength_of_isWithin within .titleTooLong
  simp [judgeTitle, trimmed.1, trimmed.2, judged]

theorem judgeDescription_of_isTrimmed (trimmed : t.IsTrimmed) :
    judgeDescription (.str t) = .accepted t := by
  simp [judgeDescription, trimmed.1, trimmed.2]

theorem exists_read_of_decimal? (h : decimal? value = some d) : ∃ t, Decimal.read t = .ok d := by
  cases value with
  | int n => exact ⟨_, Except.eq_ok_of_toOption h⟩
  | float x => exact ⟨_, Except.eq_ok_of_toOption h⟩
  | str t => exact ⟨_, Except.eq_ok_of_toOption h⟩
  | _ => cases h

theorem exists_read_of_integer? (h : integer? value = some n) : ∃ t, Integer.read t = .ok n := by
  cases value with
  | int n => exact ⟨_, Except.eq_ok_of_toOption h⟩
  | str t => exact ⟨_, Except.eq_ok_of_toOption h⟩
  | _ => cases h

/-- A price that is accepted is accepted in its text. -/
theorem judgePrice_text (h : judgePrice value = .accepted d) :
    judgePrice (.str d.text) = .accepted d := by
  obtain ⟨-, written, finite, nonneg⟩ := judgePrice_eq_accepted_iff.1 h
  obtain ⟨t, read⟩ := exists_read_of_decimal? written
  have back := Decimal.read_text (Decimal.isInBounds_of_read read finite)
  have again : decimal? (.str d.text) = some d := by
    rw [decimal?, back]
    rfl
  exact judgePrice_eq_accepted_iff.2 ⟨Decimal.isBlank_of_read back, again, finite, nonneg⟩

theorem judgeStock_eq_accepted_iff :
    judgeStock value = .accepted n ↔
      value.isBlank = false ∧ integer? value = some n ∧ 0 ≤ n := by
  constructor
  · intro h
    have nonneg := judgeStock_eq_accepted h
    unfold judgeStock at h
    split at h
    · cases h
    next nonblank =>
      split at h
      next written =>
        split at h
        · cases h
        · obtain rfl := Verdict.accepted.inj h
          exact ⟨by simpa using nonblank, written, nonneg⟩
      next => cases h
  · rintro ⟨nonblank, written, nonneg⟩
    simp [judgeStock, nonblank, written, Int.not_lt.2 nonneg]

/-- A stock that is accepted is accepted in its numeral. -/
theorem judgeStock_ofInt (h : judgeStock value = .accepted n) :
    judgeStock (.str (Text.ofInt n)) = .accepted n := by
  obtain ⟨-, written, nonneg⟩ := judgeStock_eq_accepted_iff.1 h
  obtain ⟨t, read⟩ := exists_read_of_integer? written
  have back := Integer.read_ofInt_of_read read nonneg
  obtain ⟨m, rfl⟩ := Int.eq_ofNat_of_zero_le nonneg
  have unblank : ∀ c ∈ Text.ofNat m, c.isBlank = false := fun c mem =>
    Decimal.isBlank_of_isNumeric (Decimal.isNumeric_of_digit (Text.ascii_of_mem_ofNat mem))
  have trimmed : (Text.ofInt m).strip = Text.ofInt m := Decimal.strip_of_isBlank unblank
  refine judgeStock_eq_accepted_iff.2 ⟨?_, ?_, nonneg⟩
  · rw [Json.isBlank_str, ← Bool.not_eq_true, ← Text.strip_eq_nil_iff, trimmed]
    exact Text.ofNat_ne_nil m
  · rw [integer?, trimmed, back]
    rfl

/-! ### Verdicts on accepted values -/

theorem exists_judgeTitle_given {verdict : Verdict Text}
    (h : judgeTitle limits value = .ok verdict) :
    ∃ again, judgeTitle limits (Report.given .str verdict) = .ok again ∧
      again.Confirms verdict := by
  cases verdict with
  | absent => exact (judgeTitle_ne_absent h).elim
  | accepted t =>
    obtain ⟨trimmed, within⟩ := judgeTitle_eq_accepted h
    exact ⟨_, judgeTitle_of_isTrimmed trimmed within, rfl, fun fine => fine⟩
  | refused complaint => exact ⟨_, rfl, rfl, nofun⟩

theorem confirms_judgeDescription {verdict : Verdict Text}
    (h : judgeDescription value = verdict) :
    (judgeDescription (Report.given .str verdict)).Confirms verdict :=
  Verdict.confirms_given h
    (fun _ accepted => judgeDescription_of_isTrimmed (judgeDescription_eq_accepted accepted))
    rfl fun _ => rfl

theorem confirms_judgePrice {verdict : Verdict Decimal} (h : judgePrice value = verdict) :
    (judgePrice (Report.given (fun d => .str d.text) verdict)).Confirms verdict :=
  Verdict.confirms_given h (fun _ => judgePrice_text) rfl
    fun absent => (judgePrice_ne_absent absent).elim

theorem confirms_judgeStock {verdict : Verdict Int} (h : judgeStock value = verdict) :
    (judgeStock (Report.given (fun n => .str (Text.ofInt n)) verdict)).Confirms verdict :=
  Verdict.confirms_given h (fun _ => judgeStock_ofInt) rfl fun _ => rfl

theorem confirms_judgeActive {verdict : Verdict Bool} (h : judgeActive value = verdict) :
    (judgeActive (Report.given .bool verdict)).Confirms verdict :=
  Verdict.confirms_given h (fun _ _ => rfl) rfl fun _ => rfl

end Product

namespace Shop

variable {start after later : Shop} {payload value : Json} {report : Product.Report}
variable {limits : Product.Limits}

/-- A SKU is accepted again where the same limits and the same products are found. -/
theorem exists_gives_judgeSku {sku : Text} (outage : later.outage = start.outage)
    (table : later.store.products = start.store.products)
    (judged : Gives (Product.judgeSku limits isTaken value) start (.accepted sku) after) :
    ∃ last, Gives (Product.judgeSku limits isTaken (.str sku)) later (.accepted sku) last := by
  obtain ⟨trimmed, within, free⟩ := gives_judgeSku_accepted judged
  obtain ⟨last, asked⟩ : ∃ last, (isTaken sku).Gives later false last := by
    rw [exists_gives_isTaken_iff, outage, table]
    exact exists_gives_isTaken_iff.1 free
  refine ⟨last, ?_⟩
  unfold Product.judgeSku
  -- The SKU has been trimmed, so the same text is measured and looked up.
  rw [if_neg (by simp [trimmed.1])]
  refine gives_ofFault_bind_iff.2 ⟨.accepted sku, ?_, gives_bind_iff.2 ⟨false, last, asked, ?_⟩⟩
  · rw [trimmed.2]
    exact Product.judgeLength_of_isWithin within _
  · exact gives_pure_iff.2 ⟨rfl, rfl⟩

theorem exists_gives_judgeSku_given {verdict : Product.Verdict Text}
    (outage : later.outage = start.outage) (table : later.store.products = start.store.products)
    (judged : Gives (Product.judgeSku limits isTaken value) start verdict after) :
    ∃ again last, Gives (Product.judgeSku limits isTaken (Product.Report.given .str verdict)) later
      again last ∧ again.Confirms verdict := by
  cases verdict with
  | absent => exact ⟨.absent, later, gives_pure_iff.2 ⟨rfl, rfl⟩, rfl, fun fine => fine⟩
  | accepted sku =>
    obtain ⟨last, again⟩ := exists_gives_judgeSku outage table judged
    exact ⟨_, last, again, rfl, fun fine => fine⟩
  | refused complaint => exact ⟨.absent, later, gives_pure_iff.2 ⟨rfl, rfl⟩, rfl, nofun⟩

/-- What a judging has accepted is accepted again with the same limits and the same products, if it
is submitted with numbers as texts; and where there was no complaint there is none now. -/
theorem judge_resubmitted (judged : (judge payload).Gives start report after)
    (limits : later.limits = start.limits) (outage : later.outage = start.outage)
    (table : later.store.products = start.store.products) :
    ∃ again last, (judge (.obj report.resubmitted)).Gives later again last ∧
      again.cleaned = report.cleaned ∧ (report.complaints = [] → again.complaints = []) := by
  obtain ⟨fields, rfl⟩ := exists_of_gives_judge judged
  obtain ⟨titled, skued, described, priced, stocked, active⟩ := gives_judge_iff.1 judged
  rw [← limits] at titled skued
  obtain ⟨title, titleAgain, confirmsTitle⟩ := Product.exists_judgeTitle_given titled
  obtain ⟨sku, last, skuAgain, confirmsSku⟩ := exists_gives_judgeSku_given outage table skued
  have description := Product.confirms_judgeDescription described
  have price := Product.confirms_judgePrice priced
  have stock := Product.confirms_judgeStock stocked
  have isActive := Product.confirms_judgeActive active
  -- The fields that are submitted again are those that the single judgings were given.
  have field {α : Type} {name : String} (make : α → Product.Value) {verdict : Product.Verdict α}
      (found : report.verdicts.lookup (Text.ofString name) = some (verdict.map make)) :=
    Product.Report.submitted_resubmitted found
  let again : Product.Report := {
    title, sku
    description := Product.judgeDescription (Product.Report.given .str report.description)
    price := Product.judgePrice (Product.Report.given (fun d => .str d.text) report.price)
    stock := Product.judgeStock (Product.Report.given (fun n => .str (Text.ofInt n)) report.stock)
    isActive := Product.judgeActive (Product.Report.given .bool report.isActive) }
  have judgedAgain : (judge (.obj report.resubmitted)).Gives later again last := by
    refine gives_judge_iff.2 ⟨?_, ?_, congrArg _ (field .text rfl), congrArg _ (field .price rfl),
      congrArg _ (field .stock rfl), congrArg _ (field .flag rfl)⟩
    · rw [field .text rfl]
      exact titleAgain
    · rw [field .text rfl]
      exact skuAgain
  refine ⟨again, last, judgedAgain, ?_, fun clean => ?_⟩
  · exact Product.Report.cleaned_congr confirmsTitle.value?_eq confirmsSku.value?_eq
      description.value?_eq price.value?_eq stock.value?_eq isActive.value?_eq
  · obtain ⟨title?, sku?, description?, price?, stock?, isActive?⟩ :=
      Product.Report.complaints_eq_nil_iff.1 clean
    exact Product.Report.complaints_eq_nil_iff.2 ⟨confirmsTitle.complaint?_eq title?,
      confirmsSku.complaint?_eq sku?, description.complaint?_eq description?,
      price.complaint?_eq price?, stock.complaint?_eq stock?, isActive.complaint?_eq isActive?⟩

/-- Submitted fields with blanks around a SKU that is free, a stock and a zero with a sign. -/
def zeroFields : Json.Members :=
  [(Text.ofString "title", .str (Text.ofString "A")),
   (Text.ofString "sku", .str (Text.ofString " B ")),
   (Text.ofString "price", .str (Text.ofString "-0")), (Text.ofString "stock", .int 7)]

/-- They are judged again right after they have been accepted. -/
theorem judge_resubmitted_withProduct :
    ∃ report after again last, (judge (.obj zeroFields)).Gives withProduct report after ∧
      report.price = .accepted (.finite true 0 0) ∧ report.complaints = [] ∧
        (judge (.obj report.resubmitted)).Gives after again last ∧
          again.cleaned = report.cleaned ∧ again.complaints = [] := by
  have accepted : (judge (.obj zeroFields) withProduct).result.toOption.any
      (fun report => report.price = .accepted (.finite true 0 0) && report.complaints.isEmpty) =
        true := by
    decide +kernel
  obtain ⟨report, after, judged, found⟩ := exists_gives_of_any accepted
  rw [Bool.and_eq_true, decide_eq_true_eq, List.isEmpty_iff] at found
  obtain ⟨zero, clean⟩ := found
  have like := (isQuiet_judge _).alike_of_gives judged
  have limits : after.limits = withProduct.limits := by
    rw [Shop.limits, like.config]
    rfl
  have table : after.store.products = withProduct.store.products := by
    rw [like.store]
  obtain ⟨again, last, judgedAgain, same, cleanAgain⟩ :=
    judge_resubmitted judged limits like.outage table
  exact ⟨report, after, again, last, judged, zero, clean, judgedAgain, same, cleanAgain clean⟩

end Shop

end Storefront
