import Storefront.Proofs.Storable

/-!
# Insertions of products

What comes of a product that is to be stored is known exactly while there are a connection and the
table, faults included: a statement that writes is never told of an older fault. So for a draft of
accepted fields there are only two ways to fail on a store that takes writes and has no other row
with the SKU. Something that was accepted has no form for the store, or no number is left for the
row. Neither is a matter of the rules of the table. A row with the SKU is.

## Main definitions

* `Shop.insertion` — what the guard stands around when a product is added

## Main results

* `Shop.exists_gives_addProduct`, `Shop.exists_fails_addProduct` — a product is added exactly as the
  rows allow
* `Store.fault_of_stored` — what a draft of accepted fields can fail with
* `Store.stored_of_taken` — a SKU is never given twice
-/

namespace Storefront

open Service

/-- A row of steps fails with a fault of the first or with one of what follows. -/
theorem Except.bind_eq_error_iff {ε α β : Type} {first : Except ε α} {next : α → Except ε β}
    {e : ε} : (first >>= next) = .error e ↔
      first = .error e ∨ ∃ a, first = .ok a ∧ next a = .error e := by
  cases first <;> simp [Bind.bind, Except.bind]

/-- A statement that writes is told of its own values whatever is left on the connection. -/
theorem Statement.Call.run_of_writes {α β : Type} {call : Statement.Call β α} {store : Store}
    (writes : call.statement.writes = true) (table : store.has call.statement.table = true)
    (isPrepared : Bool) (left : Option Fault) :
    call.run isPrepared left store = call.values >>= (call.effect · store) := by
  have taken : call.taken isPrepared left = call.values := by
    unfold taken
    cases call.values <;> cases left <;> simp [writes]
  rw [run, isReady, table, Bool.or_true, if_pos rfl, taken]

namespace Store

variable {store : Store} {products others : List Product} {report : Product.Report}
variable {fault : Fault}

/-- What a complete entry comes to depends on the number for its row and on its SKU. -/
theorem effect_of_complete (table : store.products = some products)
    (writable : store.readOnly = false) (draft : Product.Draft) (x price : Binary64)
    (given active : Bool) (title : Text) (sku description : Option Text) (stock : Stock) :
    (addProduct draft x given).effect
        ⟨some title, sku, description, some price, some stock, active⟩ store = do
      let id ← newId (products.map Product.id)
      if sku.isSome && products.any (·.sku = sku) then
        .error (.notUnique ⟨.products, Text.ofString "sku"⟩)
      else
        let product : Product := ⟨id, title, sku, description, price, stock, active⟩
        return (product, store.putProduct product) := by
  simp only [addProduct, table, rows, checkWritable, writable, required, putProduct]
  rfl

/-- The draft of accepted fields that have forms for the store makes a complete entry. -/
theorem exists_entry_draft (fine : report.IsFine others) (storable : report.IsStorable) :
    ∃ (x price : Binary64) (b : Bool) (title : Text) (n : Int),
      report.draft.convert = .ok (x, b) ∧ entry report.draft x b = .ok ⟨some title,
        report.sku.value?, report.description.value?, some price, some (.whole n), b⟩ := by
  obtain ⟨t, accepted⟩ := fine.title
  obtain ⟨d, priced, finite⟩ := fine.price
  obtain ⟨b, flagged⟩ := fine.isActive
  obtain ⟨price, kept⟩ := exists_keptPrice finite
  obtain ⟨n, made⟩ := Product.exists_entry_of_isStorable fine storable (.ofDecimal d) b
  rw [accepted, kept] at made
  exact ⟨.ofDecimal d, price, b, t, n, Product.convert_draft priced finite flagged, made⟩

/-- What is expected of a draft whose entry can be made. -/
theorem stored_of_entry {draft : Product.Draft} {x : Binary64} {b : Bool} {values : Entry}
    (converted : draft.convert = .ok (x, b)) (made : entry draft x b = .ok values) :
    store.stored draft = ((addProduct draft x b).effect values store).map Prod.fst := by
  unfold stored Statement.Call.expected
  rw [converted]
  change ((addProduct draft x b).values >>= _) = _
  rw [show (addProduct draft x b).values = .ok values from made]
  change ((addProduct draft x b).effect values store >>= _) = _
  cases (addProduct draft x b).effect values store <;> rfl

section Complete

variable (table : store.products = some products) (writable : store.readOnly = false)
variable (fine : report.IsFine others) (storable : report.IsStorable)

include table writable fine storable

/-- A SKU that another product has is refused by the table, even if the judging has not found it. -/
theorem stored_of_taken {sku : Text} (known : report.sku.value? = some sku)
    (taken : ∃ other ∈ products, other.sku = some sku)
    (room : nextId (products.map Product.id) ≤ maxId) :
    store.stored report.draft = .error (.notUnique ⟨.products, Text.ofString "sku"⟩) := by
  obtain ⟨x, price, b, title, n, converted, made⟩ := exists_entry_draft fine storable
  have any : products.any (·.sku = some sku) = true := by simpa using taken
  rw [stored_of_entry converted made, effect_of_complete table writable, newId, if_pos room, known]
  change Except.map Prod.fst (if _ then _ else _) = _
  rw [any]
  rfl

/-- A product whose SKU no other one has is stored as long as there are numbers. -/
theorem exists_stored_of_fresh
    (fresh : ∀ sku, report.sku.value? = some sku → ∀ other ∈ products, other.sku ≠ some sku)
    (room : nextId (products.map Product.id) ≤ maxId) :
    ∃ product, store.stored report.draft = .ok product ∧ product.sku = report.sku.value? := by
  obtain ⟨x, price, b, title, n, converted, made⟩ := exists_entry_draft fine storable
  have none : (report.sku.value?.isSome && products.any (·.sku = report.sku.value?)) = false := by
    cases known : report.sku.value? with
    | none => rfl
    | some sku => simpa using fresh sku known
  refine ⟨⟨nextId (products.map Product.id), title, report.sku.value?, report.description.value?,
    price, .whole n, b⟩, ?_, rfl⟩
  rw [stored_of_entry converted made, effect_of_complete table writable, newId, if_pos room]
  change Except.map Prod.fst (if _ then _ else _) = _
  rw [none]
  rfl

end Complete

/-! ### Faults -/

/-- A text or nothing is refused for its surrogates only. -/
theorem kind_of_ofJson_optionalText {position : Nat} {kept : Option Text}
    (h : Cell.ofJson position (Product.optionalText kept) = .error fault) :
    fault.kind = .encoding := by
  cases kept with
  | none => cases h
  | some t =>
    change (t.checkWritten).map (fun _ => Cell.text t) = .error fault at h
    unfold Text.checkWritten at h
    split at h
    · cases h
    · cases h
      rfl

/-- An integer is refused for its size only. -/
theorem kind_of_ofJson_int {position : Nat} {n : Int}
    (h : Cell.ofJson position (.int n) = .error fault) : fault.kind = .overflow := by
  change (Cell.checkInteger n).map (fun _ => Cell.integer n) = .error fault at h
  unfold Cell.checkInteger at h
  split at h
  · cases h
  · cases h
    rfl

/-- An entry of accepted fields fails for a surrogate or for the size of a stock. -/
theorem kind_of_entry {x : Binary64} {b : Bool} (fine : report.IsFine others)
    (h : entry report.draft x b = .error fault) :
    fault.kind = .encoding ∨ fault.kind = .overflow := by
  obtain ⟨n, draftStock, -⟩ := fine.stock
  have title : report.draft.title = Product.optionalText report.title.value? :=
    Product.Report.given_str _
  have sku : report.draft.sku = Product.optionalText report.sku.value? :=
    Product.Report.given_str _
  have description : report.draft.description = Product.optionalText report.description.value? :=
    Product.Report.given_str _
  have stock : Product.orDefault (.int 0) report.draft.stock = .int n := draftStock
  unfold entry at h
  rw [title, sku, description, stock] at h
  -- The values are taken one after the other, and the first that has no form is told of.
  rcases Except.bind_eq_error_iff.1 h with failed | ⟨_, -, h⟩
  · exact .inl (kind_of_ofJson_optionalText failed)
  rcases Except.bind_eq_error_iff.1 h with failed | ⟨_, -, h⟩
  · exact .inl (kind_of_ofJson_optionalText failed)
  rcases Except.bind_eq_error_iff.1 h with failed | ⟨_, -, h⟩
  · exact .inl (kind_of_ofJson_optionalText failed)
  rcases Except.bind_eq_error_iff.1 h with failed | ⟨_, -, h⟩
  · exact .inr (kind_of_ofJson_int failed)
  · cases h

/-- A draft of accepted fields whose SKU no other product has fails for something that has no form
for the store, or because no number is left. -/
theorem fault_of_stored (table : store.products = some products)
    (writable : store.readOnly = false) (fine : report.IsFine products)
    (h : store.stored report.draft = .error fault) :
    ¬report.IsStorable ∧ (fault.kind = .encoding ∨ fault.kind = .overflow) ∨
      maxId < nextId (products.map Product.id) ∧ fault = .full := by
  by_cases storable : report.IsStorable
  · refine .inr ?_
    by_cases room : nextId (products.map Product.id) ≤ maxId
    · obtain ⟨product, stored⟩ := (exists_stored_iff table writable fine).2 ⟨storable, room⟩
      rw [stored] at h
      cases h
    · obtain ⟨x, price, b, title, n, converted, made⟩ := exists_entry_draft fine storable
      rw [stored_of_entry converted made, effect_of_complete table writable, newId,
        if_neg room] at h
      cases h
      exact ⟨Nat.not_le.1 room, rfl⟩
  · obtain ⟨d, priced, finite⟩ := fine.price
    obtain ⟨b, flagged⟩ := fine.isActive
    have converted := Product.convert_draft priced finite flagged
    rcases Except.bind_eq_error_iff.1 h with failed | ⟨⟨x, active⟩, -, expected⟩
    · rw [converted] at failed
      cases failed
    · rcases Except.bind_eq_error_iff.1 expected with unmade | ⟨values, made, -⟩
      · exact .inl ⟨storable, kind_of_entry fine unmade⟩
      · exact absurd (Product.isStorable_of_entry made) storable

end Store

/-! ### Services -/

namespace Shop

variable {start : Shop} {draft : Product.Draft} {product : Product} {fault : Fault}

/-- What the guard stands around when a product is added. -/
def insertion (draft : Product.Draft) : Service Product := do
  Service.connected
  let (price, isActive) ← Service.ofFault draft.convert
  Service.call (Store.addProduct draft price isActive)

theorem isAtomic_insertion (draft : Product.Draft) : (insertion draft).IsAtomic :=
  .bind_of_isQuiet isQuiet_connected fun _ =>
    .bind_of_isQuiet (isQuiet_ofFault _) fun _ => isAtomic_call _

/-- No fault of an insertion costs the connection. -/
theorem sparesConnection_stored (store : Store) (draft : Product.Draft) :
    SparesConnection (store.stored draft) :=
  draft.sparesConnection_convert.bind fun converted =>
    (Store.isRegular_addProduct draft converted.1 converted.2).sparesConnection_expected

/-- A row is inserted if that is expected. -/
theorem exists_gives_insertion (outage : start.outage = false)
    (stored : start.store.stored draft = .ok product) :
    ∃ after, (insertion draft).Gives start product after := by
  obtain ⟨⟨price, isActive⟩, converted, expected⟩ := Except.bind_eq_ok_iff.1 stored
  obtain ⟨values, store, taken, effect⟩ := Statement.Call.expected_eq_ok_iff.1 expected
  obtain ⟨products, table, -⟩ := Store.effect_addProduct.1 effect
  have has : start.store.has (Store.addProduct draft price isActive).statement.table = true := by
    change start.store.products.isSome = true
    rw [table, Option.isSome_some]
  obtain ⟨mid, called, -⟩ := exists_gives_call _ outage has taken effect
  refine ⟨mid, gives_connected_bind_iff.2 ⟨outage, ?_⟩⟩
  exact gives_ofFault_bind_iff.2 ⟨(price, isActive), converted, called⟩

/-- A row is not inserted if a fault is expected, and it is this fault that is told. -/
theorem exists_fails_insertion {products : List Product} (outage : start.outage = false)
    (table : start.store.products = some products)
    (stored : start.store.stored draft = .error fault) :
    ∃ after, (insertion draft).Fails start (.fault fault) after := by
  have opened : connected.Gives start () start := gives_connected outage
  rcases Except.bind_eq_error_iff.1 stored with
    unconverted | ⟨⟨price, isActive⟩, converted, expected⟩
  · have failed : (Service.ofFault draft.convert).Fails start (.fault fault) start :=
      fails_ofFault_iff.2 ⟨fault, unconverted, rfl, rfl⟩
    exact ⟨start, fails_bind_iff.2 (.inr ⟨(), start, opened, fails_bind_iff.2 (.inl failed)⟩)⟩
  · let call := Store.addProduct draft price isActive
    have has : start.store.has call.statement.table = true := by
      change start.store.products.isSome = true
      rw [table, Option.isSome_some]
    -- What the values and the effect come to is what the statement is told of.
    have ran : call.run (start.prepared.contains call.statement) start.left start.store =
        .error fault := by
      rw [Statement.Call.run_of_writes rfl has]
      rcases Except.bind_eq_error_iff.1 expected with unmade | ⟨values, made, rest⟩
      · rw [unmade]
        rfl
      · rcases Except.bind_eq_error_iff.1 rest with failed | ⟨done, -, returned⟩
        · exact Except.bind_eq_error_iff.2 (.inr ⟨values, made, failed⟩)
        · cases returned
    have called : (Service.call call).Fails start (.fault fault) (Service.call call start).shop := by
      refine ⟨?_, rfl⟩
      rw [call_of_connected outage, perform_of_run_eq_error ran]
    have read : (Service.ofFault draft.convert).Gives start (price, isActive) start :=
      gives_ofFault_iff.2 ⟨converted, rfl⟩
    refine ⟨(Service.call call start).shop, fails_bind_iff.2 (.inr ⟨(), start, opened, ?_⟩)⟩
    exact fails_bind_iff.2 (.inr ⟨_, start, read, called⟩)

/-- A product is added if that is expected. -/
theorem exists_gives_addProduct (outage : start.outage = false)
    (stored : start.store.stored draft = .ok product) :
    ∃ after, (addProduct draft).Gives start product after := by
  obtain ⟨mid, inserted⟩ := exists_gives_insertion outage stored
  refine ⟨mid.remember .productById,
    gives_bind_iff.2 ⟨product, mid, gives_guarded_iff.2 inserted, ?_⟩⟩
  exact gives_change_bind_iff.2 (gives_record_bind_iff.2 (gives_pure_iff.2 ⟨rfl, rfl⟩))

/-- A product is not added if a fault is expected, and it is this fault that is told. -/
theorem exists_fails_addProduct {products : List Product} (outage : start.outage = false)
    (table : start.store.products = some products)
    (stored : start.store.stored draft = .error fault) :
    ∃ after, (addProduct draft).Fails start (.fault fault) after := by
  obtain ⟨mid, failed⟩ := exists_fails_insertion outage table stored
  have like := isAtomic_insertion draft failed
  have spares := sparesConnection_stored start.store draft fault stored
  have passed := guardedFailure_of_spares (like.outage.trans outage) spares
  exact ⟨_, fails_bind_iff.2 (.inl (fails_guarded_iff.2 ⟨_, mid, failed, passed.symm, rfl⟩))⟩

end Shop

end Storefront
