import Storefront.Shop.Catalogue
import Storefront.Proofs.Frame
import Storefront.Proofs.Judging

/-!
# The services for products

Judging a product and finding one change nothing. A product is added with all that its columns keep
of the draft, behind the other rows, or nothing is added at all.

## Main definitions

* `Store.IsNewProduct` — a row that can be added for a new product

## Main results

* `Shop.isQuiet_judge`, `Shop.isQuiet_findProduct` — nothing is changed
* `Shop.isJudged_of_judge` — a judgement without complaints makes a sound draft
* `Shop.gives_addProduct` — what has happened when a product was added
* `Shop.isAtomic_addProduct` — a product is added or nothing is
-/

namespace Storefront

open Service

/-- A row that can be put behind the others for a new product. -/
structure Store.IsNewProduct (store : Store) (product : Product) : Prop where
  writable : store.readOnly = false
  products : ∃ products, store.products = some products ∧
    product.id = nextId (products.map Product.id) ∧
    ∀ other ∈ products, product.sku = none ∨ other.sku ≠ product.sku
  id_le : product.id ≤ maxId

namespace Shop

variable {start after : Shop}

/-! ### Judging -/

theorem isQuiet_isTaken (sku : Text) : (isTaken sku).IsQuiet :=
  isQuiet_query.guarded.bind fun _ => isQuiet_pure _

theorem isQuiet_judgeSku (limits : Product.Limits) (value : Json) :
    IsQuiet (Product.judgeSku limits isTaken value) := by
  unfold Product.judgeSku
  split
  · exact isQuiet_pure _
  cases value with
  | str t =>
    refine (isQuiet_ofFault _).bind fun verdict => ?_
    cases verdict with
    | accepted sku =>
      refine (isQuiet_isTaken sku).bind fun taken => ?_
      split <;> exact isQuiet_pure _
    | absent => exact isQuiet_pure _
    | refused complaint => exact isQuiet_pure _
  | _ => exact isQuiet_pure _

theorem isQuiet_judge (payload : Json) : (judge payload).IsQuiet := by
  cases payload with
  | obj fields =>
    refine isQuiet_shop.bind fun shop => (isQuiet_ofFault _).bind fun title => ?_
    exact (isQuiet_judgeSku _ _).bind fun sku => isQuiet_pure _
  | _ => exact isQuiet_fail _

/-- A SKU that is accepted is trimmed and within the limit, and no product has it. -/
theorem gives_judgeSku_accepted {limits : Product.Limits} {value : Json} {sku : Text}
    (h : Gives (Product.judgeSku limits isTaken value) start (.accepted sku) after) :
    sku.IsTrimmed ∧ Product.IsWithin limits.sku sku ∧
      ∃ mid, (isTaken sku).Gives start false mid := by
  unfold Product.judgeSku at h
  split at h
  · simp at h
  next nonblank =>
    cases value with
    | str t =>
      obtain ⟨verdict, judged, asked⟩ := gives_ofFault_bind_iff.1 h
      cases verdict with
      | accepted kept =>
        obtain ⟨rfl, within⟩ := Product.judgeLength_eq_accepted judged
        obtain ⟨taken, mid, found, returned⟩ := gives_bind_iff.1 asked
        cases taken with
        | true => cases (gives_pure_iff.1 returned).1
        | false =>
          obtain rfl := Product.Verdict.accepted.inj (gives_pure_iff.1 returned).1
          refine ⟨Text.isTrimmed_strip fun empty => nonblank ?_, within, mid, found⟩
          exact Text.strip_eq_nil_iff.1 empty
      | absent => simp at asked
      | refused complaint => simp at asked
    | _ => simp at h

/-- A product without complaints makes a draft with all that the judgement promises. -/
theorem isJudged_of_judge {fields : Json.Members} {report : Product.Report}
    (h : (judge (.obj fields)).Gives start report after) (clean : report.complaints = []) :
    report.draft.IsJudged start.limits := by
  obtain ⟨title, titled, rest⟩ := gives_ofFault_bind_iff.1 (gives_shop_bind_iff.1 h)
  obtain ⟨sku, _, judged, returned⟩ := gives_bind_iff.1 rest
  obtain ⟨rfl, -⟩ := gives_pure_iff.1 returned
  refine Product.Report.isJudged_draft clean titled ?_ rfl rfl
  rintro t rfl
  obtain ⟨trimmed, within, -⟩ := gives_judgeSku_accepted judged
  exact ⟨trimmed, within⟩

/-! ### Storing and finding -/

/-- What has happened when a product was added: its row stands behind the others. -/
theorem gives_addProduct {draft : Product.Draft} {product : Product}
    (h : (addProduct draft).Gives start product after) :
    start.outage = false ∧ start.store.IsNewProduct product ∧
      (∃ price isActive, draft.convert = .ok (price, isActive) ∧
        Store.entry draft price isActive = .ok ⟨some product.title, product.sku,
          product.description, some product.price, some product.stock, product.isActive⟩) ∧
      Shop.Alike { start with store := start.store.putProduct product } after := by
  obtain ⟨added, _, guarded, rest⟩ := gives_bind_iff.1 h
  -- What follows the insertion only remembers a statement and writes a record.
  have returned := gives_record_bind_iff.1 (gives_change_bind_iff.1 rest)
  obtain ⟨rfl, rfl⟩ := gives_pure_iff.1 returned
  -- The insertion itself: a connection, the values for the columns, and then the row.
  obtain ⟨outage, rest⟩ := gives_connected_bind_iff.1 (gives_guarded_iff.1 guarded)
  obtain ⟨⟨price, isActive⟩, convert, called⟩ := gives_ofFault_bind_iff.1 rest
  obtain ⟨-, entry, store, made, effect, like⟩ := gives_call called
  obtain ⟨products, table, writable, id, le, rfl, fresh, rfl⟩ := Store.effect_addProduct.1 effect
  exact ⟨outage, ⟨writable, ⟨products, table, id, fresh⟩, le⟩, ⟨price, isActive, convert, made⟩,
    like.trans (alike_remember _ _)⟩

/-- A product is added or nothing is. -/
theorem isAtomic_addProduct (draft : Product.Draft) : (addProduct draft).IsAtomic := by
  refine (IsAtomic.guarded ?_).bind_of_cannotFail fun product start failure after => ?_
  · refine .bind_of_isQuiet isQuiet_connected fun _ => ?_
    exact .bind_of_isQuiet (isQuiet_ofFault _) fun converted => isAtomic_call _
  · simp [fails_bind_iff]

theorem isQuiet_findProduct (id : Int) : (findProduct id).IsQuiet := isQuiet_query.guarded

/-- A product that was found has a row. -/
theorem gives_findProduct {id : Int} {found : Option Product}
    (h : (findProduct id).Gives start found after) :
    start.outage = false ∧ ∃ products, start.store.products = some products ∧
      products.find? (fun product => (product.id : Int) = id) = found := by
  obtain ⟨outage, _, store, -, effect, -⟩ := gives_call (gives_guarded_iff.1 h)
  exact ⟨outage, (Store.effect_productById.1 effect).1⟩

end Shop

end Storefront
