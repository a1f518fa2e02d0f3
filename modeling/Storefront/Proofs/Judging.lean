import Storefront.Product.Report
import Storefront.Proofs.Statement

/-!
# What a judgement promises

The texts of an accepted field are trimmed and within their limits, and an accepted stock is not
below zero. What is stored of a draft that was judged so has the same properties; in between nothing
is cut off or made longer.

## Main definitions

* `Text.IsTrimmed` — texts that are not blank and have no blanks at their ends
* `Product.IsWithin` — texts within the limit that a value sets
* `Product.Draft.IsJudged` — drafts to which there was no complaint
* `Store.Entry.IsJudged` — what the columns keep of them

## Main results

* `Product.Report.isJudged_draft` — a report without complaints makes such a draft
* `Store.Entry.isJudged_of_entry` — and the columns keep what the judgement has promised
-/

namespace Storefront

/-- A text that is not blank and has no blanks at its ends. -/
def Text.IsTrimmed (t : Text) : Prop := t.isBlank = false ∧ t.strip = t

theorem Text.isTrimmed_strip {t : Text} (h : t.strip ≠ []) : t.strip.IsTrimmed := by
  refine ⟨?_, t.strip_strip⟩
  rw [← Bool.not_eq_true, ← Text.strip_eq_nil_iff, Text.strip_strip]
  exact h

namespace Product

/-- A text that is not longer than a value allows, which must be one that can limit it. -/
def IsWithin (limit : Json) (t : Text) : Prop :=
  ∃ bound, Limit.read limit = .ok bound ∧ bound.isExceededBy t.length = false

/-! ### Single verdicts -/

theorem judgeLength_eq_accepted {limit : Json} {tooLong : Limit → Complaint} {t kept : Text}
    (h : judgeLength limit tooLong t = .ok (.accepted kept)) : kept = t ∧ IsWithin limit t := by
  obtain ⟨bound, read, judged⟩ := Except.bind_eq_ok_iff.1 h
  cases exceeded : bound.isExceededBy t.length with
  | true => simp [exceeded, pure, Except.pure] at judged
  | false =>
    simp only [exceeded, pure, Except.pure, Except.ok.injEq] at judged
    obtain rfl := Verdict.accepted.inj judged
    exact ⟨rfl, bound, read, exceeded⟩

theorem judgeTitle_eq_accepted {limits : Limits} {value : Json} {t : Text}
    (h : judgeTitle limits value = .ok (.accepted t)) : t.IsTrimmed ∧ IsWithin limits.title t := by
  unfold judgeTitle at h
  split at h
  · cases h
  next nonblank =>
    cases value with
    | str given =>
      obtain ⟨rfl, within⟩ := judgeLength_eq_accepted h
      refine ⟨Text.isTrimmed_strip fun empty => nonblank ?_, within⟩
      exact Text.strip_eq_nil_iff.1 empty
    | _ => cases h

/-- A title is never absent. -/
theorem judgeTitle_ne_absent {limits : Limits} {value : Json} :
    judgeTitle limits value ≠ .ok .absent := by
  intro h
  unfold judgeTitle at h
  split at h
  · cases h
  · cases value with
    | str given =>
      obtain ⟨bound, -, judged⟩ := Except.bind_eq_ok_iff.1 h
      split at judged <;> cases judged
    | _ => cases h

theorem judgeDescription_eq_accepted {value : Json} {t : Text}
    (h : judgeDescription value = .accepted t) : t.IsTrimmed := by
  unfold judgeDescription at h
  split at h
  · cases h
  next nonblank =>
    cases value with
    | str given =>
      obtain rfl := Verdict.accepted.inj h
      exact Text.isTrimmed_strip fun empty => nonblank (Text.strip_eq_nil_iff.1 empty)
    | _ => cases h

theorem judgeStock_eq_accepted {value : Json} {n : Int} (h : judgeStock value = .accepted n) :
    0 ≤ n := by
  unfold judgeStock at h
  split at h
  · cases h
  split at h
  · next written _ =>
    split at h
    · cases h
    next nonneg =>
      obtain rfl := Verdict.accepted.inj h
      exact Int.not_lt.1 nonneg
  · cases h

/-- The prices that are accepted. -/
theorem judgePrice_eq_accepted_iff {value : Json} {d : Decimal} :
    judgePrice value = .accepted d ↔ value.isBlank = false ∧ decimal? value = some d ∧
      d.isFinite = true ∧ d.isBelowZero = false := by
  constructor
  · intro h
    unfold judgePrice at h
    split at h
    · cases h
    next nonblank =>
      split at h
      next written =>
        split at h
        · cases h
        next finite =>
          split at h
          · cases h
          next nonneg =>
            obtain rfl := Verdict.accepted.inj h
            exact ⟨by simpa using nonblank, written, by simpa using finite, by simpa using nonneg⟩
      next => cases h
  · rintro ⟨nonblank, written, finite, nonneg⟩
    simp [judgePrice, nonblank, written, finite, nonneg]

theorem judgePrice_eq_accepted {value : Json} {d : Decimal} (h : judgePrice value = .accepted d) :
    d.isFinite = true ∧ d.isBelowZero = false :=
  (judgePrice_eq_accepted_iff.1 h).2.2

/-! ### Reports without complaints -/

/-- A draft to which there was no complaint. -/
structure Draft.IsJudged (limits : Limits) (draft : Draft) : Prop where
  title : ∃ t, draft.title = .str t ∧ t.IsTrimmed ∧ IsWithin limits.title t
  sku : draft.sku = .null ∨ ∃ t, draft.sku = .str t ∧ t.IsTrimmed ∧ IsWithin limits.sku t
  description : draft.description = .null ∨ ∃ t, draft.description = .str t ∧ t.IsTrimmed
  stock : draft.stock = .null ∨ ∃ n : Int, draft.stock = .int n ∧ 0 ≤ n

/-- A verdict without a complaint leaves nothing or the value that was accepted. -/
theorem Verdict.given_of_complaint? {α : Type} {verdict : Verdict α} (json : α → Json)
    (h : verdict.complaint? = none) :
    verdict = .absent ∧ Report.given json verdict = .null ∨
      ∃ a, verdict = .accepted a ∧ Report.given json verdict = json a := by
  cases verdict with
  | absent => exact .inl ⟨rfl, rfl⟩
  | accepted a => exact .inr ⟨a, rfl, rfl⟩
  | refused complaint => cases h

theorem Report.complaints_eq_nil_iff {report : Report} :
    report.complaints = [] ↔
      report.title.complaint? = none ∧ report.sku.complaint? = none ∧
        report.description.complaint? = none ∧ report.price.complaint? = none ∧
        report.stock.complaint? = none ∧ report.isActive.complaint? = none := by
  simp only [complaints, List.filterMap_eq_nil_iff, List.forall_mem_cons, List.not_mem_nil,
    Option.map_eq_none_iff, false_implies, implies_true, and_true]
  -- Complaints stand in the order of the names of their fields.
  constructor
  · rintro ⟨description, isActive, price, sku, stock, title⟩
    exact ⟨title, sku, description, price, stock, isActive⟩
  · rintro ⟨title, sku, description, price, stock, isActive⟩
    exact ⟨description, isActive, price, sku, stock, title⟩

/-- What judging makes of a title, a SKU, a description and a stock that it accepts, is a draft with
these in it. -/
theorem Report.isJudged_draft {report : Report} {limits : Limits} {title description stock : Json}
    (clean : report.complaints = [])
    (titled : judgeTitle limits title = .ok report.title)
    (sku : ∀ t, report.sku = .accepted t → t.IsTrimmed ∧ IsWithin limits.sku t)
    (described : report.description = judgeDescription description)
    (stocked : report.stock = judgeStock stock) :
    report.draft.IsJudged limits := by
  obtain ⟨title?, sku?, description?, -, stock?, -⟩ := complaints_eq_nil_iff.1 clean
  -- The title is the one field that has to be there; each other one may be absent.
  refine ⟨?_, ?_, ?_, ?_⟩
  · rcases Verdict.given_of_complaint? .str title? with ⟨absent, -⟩ | ⟨t, accepted, kept⟩
    · exact (judgeTitle_ne_absent (absent ▸ titled)).elim
    · exact ⟨t, kept, judgeTitle_eq_accepted (accepted ▸ titled)⟩
  · rcases Verdict.given_of_complaint? .str sku? with ⟨-, kept⟩ | ⟨t, accepted, kept⟩
    · exact .inl kept
    · exact .inr ⟨t, kept, sku t accepted⟩
  · rcases Verdict.given_of_complaint? .str description? with ⟨-, kept⟩ | ⟨t, accepted, kept⟩
    · exact .inl kept
    · exact .inr ⟨t, kept, judgeDescription_eq_accepted (described ▸ accepted)⟩
  · rcases Verdict.given_of_complaint? .int stock? with ⟨-, kept⟩ | ⟨n, accepted, kept⟩
    · exact .inl kept
    · exact .inr ⟨n, kept, judgeStock_eq_accepted (stocked ▸ accepted)⟩

end Product

/-! ### What the columns keep -/

/-- What the columns keep of a draft to which there was no complaint. -/
structure Store.Entry.IsJudged (limits : Product.Limits) (entry : Store.Entry) : Prop where
  title : ∀ t, entry.title = some t → t.IsTrimmed ∧ Product.IsWithin limits.title t
  sku : ∀ t, entry.sku = some t → t.IsTrimmed ∧ Product.IsWithin limits.sku t
  description : ∀ t, entry.description = some t → t.IsTrimmed
  stock : ∃ n : Int, entry.stock = some (.whole n) ∧ 0 ≤ n ∧ n ≤ Cell.maxInteger

/-- A column of texts keeps a text, or nothing, as it is. -/
theorem Cell.inTexts_of_given {position : Nat} {value : Json} {cell : Cell} {P : Text → Prop}
    (made : Cell.ofJson position value = .ok cell)
    (given : value = .null ∨ ∃ t, value = .str t ∧ P t) :
    ∀ t, cell.inTexts = some t → P t := by
  intro t kept
  rcases given with rfl | ⟨given, rfl, holds⟩
  · rw [Cell.ofJson_null made] at kept
    cases kept
  · rw [Cell.ofJson_str made] at kept
    exact Option.some.inj kept ▸ holds

/-- The columns keep what the judgement has promised. -/
theorem Store.Entry.isJudged_of_entry {limits : Product.Limits} {draft : Product.Draft}
    {price : Binary64} {isActive : Bool} {entry : Store.Entry} (judged : draft.IsJudged limits)
    (h : Store.entry draft price isActive = .ok entry) : entry.IsJudged limits := by
  obtain ⟨title, madeTitle, h⟩ := Except.bind_eq_ok_iff.1 h
  obtain ⟨sku, madeSku, h⟩ := Except.bind_eq_ok_iff.1 h
  obtain ⟨description, madeDescription, h⟩ := Except.bind_eq_ok_iff.1 h
  obtain ⟨stock, madeStock, h⟩ := Except.bind_eq_ok_iff.1 h
  obtain rfl := Except.ok.inj h
  refine ⟨?_, ?_, ?_, ?_⟩
  · exact Cell.inTexts_of_given madeTitle (.inr judged.title)
  · exact Cell.inTexts_of_given madeSku judged.sku
  · exact Cell.inTexts_of_given madeDescription judged.description
  · rcases judged.stock with given | ⟨n, given, nonneg⟩
    · -- A draft without a stock has none of the product, which is a stock of zero.
      rw [given] at madeStock
      obtain ⟨rfl, -⟩ := Cell.ofJson_int (n := 0) madeStock
      exact ⟨0, rfl, by decide, by decide⟩
    · rw [given] at madeStock
      obtain ⟨rfl, below⟩ := Cell.ofJson_int madeStock
      exact ⟨n, rfl, nonneg, below⟩

end Storefront
