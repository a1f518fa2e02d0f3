import Storefront.Proofs.Frame

/-!
# What the connection remembers

A connection remembers which statements it has prepared and which fault was met on it last. Neither
decides whether a statement goes well: one whose values have forms for the store comes to the same
on every connection, and one with a value that has none fails on every connection. All that may
differ then is which fault is told.

## Main definitions

* `SparesConnection` — results that are no fault that has cost the connection
* `Statement.Call.IsRegular` — calls that need their table and spare the connection
* `Shop.IsIntact`, `Shop.Twin` — shops with a connection that still stands, and two such shops that
  differ in nothing but their connections

## Main results

* `Statement.Call.run_of_values_ok`, `Statement.Call.exists_run_of_values_error` — what a call comes
  to on any connection
-/

namespace Storefront

/-! ### Faults that spare the connection -/

/-- A result that is no fault that has cost the connection. -/
def SparesConnection {α : Type} (result : Except Fault α) : Prop :=
  ∀ fault, result = .error fault → fault.invalidated = false

section Spares

variable {α β : Type}

theorem sparesConnection_ok (a : α) : SparesConnection (.ok a : Except Fault α) := nofun

theorem sparesConnection_error {fault : Fault} (h : fault.invalidated = false) :
    SparesConnection (.error fault : Except Fault α) := by
  intro other same
  exact Except.error.inj same ▸ h

theorem SparesConnection.bind {first : Except Fault α} {next : α → Except Fault β}
    (h : SparesConnection first) (hn : ∀ a, SparesConnection (next a)) :
    SparesConnection (first >>= next) := by
  cases first with
  | ok a => exact hn a
  | error fault => exact sparesConnection_error (h fault rfl)

theorem SparesConnection.map {first : Except Fault α} (h : SparesConnection first) (f : α → β) :
    SparesConnection (first.map f) := by
  cases first with
  | ok a => exact sparesConnection_ok _
  | error fault => exact sparesConnection_error (h fault rfl)

theorem sparesConnection_checkWritten (t : Text) : SparesConnection t.checkWritten := by
  unfold Text.checkWritten
  split
  · exact sparesConnection_ok _
  · exact sparesConnection_error rfl

theorem sparesConnection_checkInteger (n : Int) : SparesConnection (Cell.checkInteger n) := by
  unfold Cell.checkInteger
  split
  · exact sparesConnection_ok _
  · exact sparesConnection_error rfl

theorem sparesConnection_ofJson (position : Nat) (value : Json) :
    SparesConnection (Cell.ofJson position value) := by
  unfold Cell.ofJson
  split
  · exact sparesConnection_ok _
  · exact sparesConnection_ok _
  · exact (sparesConnection_checkInteger _).map _
  · exact sparesConnection_ok _
  · exact sparesConnection_ok _
  · exact (sparesConnection_checkWritten _).map _
  · exact sparesConnection_error rfl

theorem sparesConnection_rows (table : Table) (found : Option (List α)) :
    SparesConnection (Store.rows table found) := by
  cases found with
  | some rows => exact sparesConnection_ok _
  | none => exact sparesConnection_error rfl

theorem sparesConnection_checkWritable (store : Store) : SparesConnection store.checkWritable := by
  unfold Store.checkWritable
  split
  · exact sparesConnection_error rfl
  · exact sparesConnection_ok _

theorem sparesConnection_newId (ids : List Nat) : SparesConnection (Store.newId ids) := by
  unfold Store.newId
  split
  · exact sparesConnection_ok _
  · exact sparesConnection_error rfl

theorem sparesConnection_required (table : Table) (column : String) (given : Option α) :
    SparesConnection (Store.required table column given) := by
  cases given with
  | some a => exact sparesConnection_ok _
  | none => exact sparesConnection_error rfl

theorem Product.sparesConnection_toBinary64 (amount : Amount) :
    SparesConnection amount.toBinary64 := by
  unfold Amount.toBinary64
  split
  · exact sparesConnection_error rfl
  · exact sparesConnection_ok _
  · split
    · exact sparesConnection_error rfl
    · exact sparesConnection_ok _
  · exact sparesConnection_ok _
  · exact sparesConnection_error rfl

theorem Product.sparesConnection_flagOfField (value : Json) :
    SparesConnection (flagOfField value) := by
  unfold flagOfField
  split
  · exact sparesConnection_ok _
  · exact sparesConnection_ok _
  · exact sparesConnection_ok _
  · split
    · exact sparesConnection_ok _
    · split
      · exact sparesConnection_ok _
      · exact sparesConnection_error rfl
  · exact sparesConnection_error rfl

theorem Product.Draft.sparesConnection_convert (draft : Draft) : SparesConnection draft.convert :=
  (sparesConnection_toBinary64 _).bind fun _ =>
    (sparesConnection_flagOfField _).bind fun _ => sparesConnection_ok _

theorem sparesConnection_drop (store : Store) (table : Table) :
    SparesConnection (store.drop table) := by
  cases table with
  | users =>
    exact (sparesConnection_rows _ _).bind fun _ =>
      (sparesConnection_checkWritable _).bind fun _ => sparesConnection_ok _
  | products =>
    exact (sparesConnection_rows _ _).bind fun _ =>
      (sparesConnection_checkWritable _).bind fun _ => sparesConnection_ok _

theorem sparesConnection_dump (store : Store) : SparesConnection store.dump :=
  (sparesConnection_rows _ _).bind fun _ =>
    (sparesConnection_rows _ _).bind fun _ => sparesConnection_ok _

end Spares

/-! ### Calls -/

namespace Statement.Call

variable {α β : Type} {call : Call β α}

/-- A call that cannot do without its table, and that never costs the connection. -/
structure IsRegular (call : Call β α) : Prop where
  missing : ∀ values store, store.has call.statement.table = false →
    call.effect values store = .error (.noTable call.statement.table)
  values : SparesConnection call.values
  effect : ∀ values store, SparesConnection (call.effect values store)

/-- A call with values that have forms for the store comes to its effect on every connection. -/
theorem run_of_values_ok (regular : call.IsRegular) {values : β} (h : call.values = .ok values)
    (isPrepared : Bool) (left : Option Fault) (store : Store) :
    call.run isPrepared left store = call.effect values store := by
  unfold run
  split
  · rw [taken_of_ok h]
    rfl
  next unready =>
    -- A statement that cannot be made ready has no table, and without one there is no effect.
    have absent : store.has call.statement.table = false := by
      simp only [isReady, Bool.or_eq_true, not_or, Bool.not_eq_true] at unready
      exact unready.2
    rw [regular.missing values store absent]

/-- A call with a value that has no form for the store fails on every connection. -/
theorem exists_run_of_values_error (regular : call.IsRegular) {fault : Fault}
    (h : call.values = .error fault) (isPrepared : Bool) {left : Option Fault}
    (intact : ∀ older, left = some older → older.invalidated = false) (store : Store) :
    ∃ told, call.run isPrepared left store = .error told ∧ told.invalidated = false := by
  -- Either the statement cannot be prepared, or its values are asked for in vain.
  unfold run
  split
  · unfold taken
    rw [h]
    cases left with
    | none => exact ⟨fault, rfl, regular.values fault h⟩
    | some older =>
      -- An older fault may hide that of the value.
      refine ⟨_, rfl, ?_⟩
      split
      · exact intact older rfl
      · exact regular.values fault h
  · exact ⟨_, rfl, rfl⟩

/-- A query that can be made ready is told of a value that has no form for the store, or of the
fault that is left on the connection if it was prepared there before. -/
theorem run_of_isReady {fault : Fault} (query : call.statement.writes = false)
    (h : call.values = .error fault) {isPrepared : Bool} {store : Store}
    (ready : call.isReady isPrepared store = true) (left : Option Fault) :
    call.run isPrepared left store = .error ((if isPrepared then left else none).getD fault) := by
  have told : call.taken isPrepared left =
      .error ((if isPrepared then left else none).getD fault) := by
    unfold taken
    rw [h, query]
    cases left with
    | none => simp
    | some older => cases isPrepared <;> rfl
  unfold run
  rw [if_pos ready, told]
  rfl

end Statement.Call

namespace Store

open Statement.Call

/-- A query is regular if it only looks for something among the rows of its table. -/
theorem isRegular_query {α β γ : Type} {statement : Statement} {values : Except Fault β}
    {table : Store → Option (List γ)} {answer : List γ → α} (spares : SparesConnection values)
    (has : ∀ store, store.has statement.table = (table store).isSome) :
    (statement.query values fun _ store => do
      let rows ← rows statement.table (table store)
      return answer rows).IsRegular where
  missing _ store absent := by
    change store.has statement.table = false at absent
    rw [has, Option.isSome_eq_false_iff, Option.isNone_iff_eq_none] at absent
    simp only [Statement.query, absent]
    rfl
  values := spares
  effect _ store := ((sparesConnection_rows _ _).bind fun _ => sparesConnection_ok _).map _

theorem isRegular_userById (id : Int) : (userById id).IsRegular :=
  isRegular_query (sparesConnection_checkInteger id) fun _ => rfl

theorem isRegular_userByEmail (email : Text) : (userByEmail email).IsRegular :=
  isRegular_query (sparesConnection_checkWritten email) fun _ => rfl

theorem isRegular_productById (id : Int) : (productById id).IsRegular :=
  isRegular_query (sparesConnection_checkInteger id) fun _ => rfl

theorem isRegular_productBySku (sku : Text) : (productBySku sku).IsRegular :=
  isRegular_query (sparesConnection_checkWritten sku) fun _ => rfl

/-- Rows that are not there are missed before anything else is. -/
theorem rows_bind_of_has_eq_false {α γ : Type} {table : Table} {found : Option (List γ)}
    (absent : found.isSome = false) (next : List γ → Except Fault α) :
    (rows table found >>= next) = .error (.noTable table) := by
  rw [Option.isSome_eq_false_iff, Option.isNone_iff_eq_none] at absent
  rw [absent]
  rfl

theorem isRegular_addUser (name : Json) (email : Text) : (addUser name email).IsRegular where
  missing _ _ absent := rows_bind_of_has_eq_false absent _
  values := (sparesConnection_ofJson _ _).bind fun _ =>
    (sparesConnection_checkWritten _).bind fun _ => sparesConnection_ok _
  effect _ _ := by
    refine (sparesConnection_rows _ _).bind fun _ => (sparesConnection_checkWritable _).bind fun _ =>
      (sparesConnection_newId _).bind fun _ => (sparesConnection_required _ _ _).bind fun _ => ?_
    split
    · exact sparesConnection_error rfl
    · exact sparesConnection_ok _

theorem sparesConnection_entry (draft : Product.Draft) (price : Binary64) (isActive : Bool) :
    SparesConnection (entry draft price isActive) :=
  (sparesConnection_ofJson _ _).bind fun _ => (sparesConnection_ofJson _ _).bind fun _ =>
    (sparesConnection_ofJson _ _).bind fun _ => (sparesConnection_ofJson _ _).bind fun _ =>
      sparesConnection_ok _

theorem isRegular_addProduct (draft : Product.Draft) (price : Binary64) (isActive : Bool) :
    (addProduct draft price isActive).IsRegular where
  missing _ _ absent := rows_bind_of_has_eq_false absent _
  values := sparesConnection_entry draft price isActive
  effect _ _ := by
    refine (sparesConnection_rows _ _).bind fun _ => (sparesConnection_checkWritable _).bind fun _ =>
      (sparesConnection_newId _).bind fun _ => (sparesConnection_required _ _ _).bind fun _ =>
        (sparesConnection_required _ _ _).bind fun _ =>
          (sparesConnection_required _ _ _).bind fun _ => ?_
    split
    · exact sparesConnection_error rfl
    · exact sparesConnection_ok _

theorem isRegular_delete (table : Table) (id : Int) : (delete table id).IsRegular := by
  cases table with
  | users =>
    exact {
      missing := fun _ _ absent => rows_bind_of_has_eq_false absent _
      values := sparesConnection_checkInteger id
      effect := fun _ _ => (sparesConnection_rows _ _).bind fun _ =>
        (sparesConnection_checkWritable _).bind fun _ => sparesConnection_ok _ }
  | products =>
    exact {
      missing := fun _ _ absent => rows_bind_of_has_eq_false absent _
      values := sparesConnection_checkInteger id
      effect := fun _ _ => (sparesConnection_rows _ _).bind fun _ =>
        (sparesConnection_checkWritable _).bind fun _ => sparesConnection_ok _ }

end Store

/-! ### Twin shops -/

namespace Shop

/-- A shop whose connection has not been lost by the fault that is left on it. -/
def IsIntact (shop : Shop) : Prop := ∀ fault, shop.left = some fault → fault.invalidated = false

/-- Two shops that differ at most in what their connections remember, neither of which has been
lost. -/
structure Twin (a b : Shop) : Prop where
  alike : a.Alike b
  first : a.IsIntact
  second : b.IsIntact

theorem IsIntact.of_left_eq {shop other : Shop} (h : shop.IsIntact)
    (same : other.left = shop.left) : other.IsIntact := by
  intro fault left
  exact h fault (same ▸ left)

theorem isIntact_of_left_eq_none {shop : Shop} (h : shop.left = none) : shop.IsIntact := by
  intro fault left
  rw [h] at left
  cases left

theorem left_remember (shop : Shop) (statement : Statement) :
    (shop.remember statement).left = shop.left := by
  unfold remember
  split <;> rfl

theorem IsIntact.probed {shop : Shop} (h : shop.IsIntact) : shop.probed.IsIntact := by
  unfold Shop.probed
  split
  · exact h
  · exact isIntact_of_left_eq_none rfl

namespace Twin

variable {a b : Shop}

theorem outage_eq (h : a.Twin b) : b.outage = a.outage := h.alike.outage

/-- Twins stay twins under what changes both alike and leaves the connections alone. -/
theorem change (h : a.Twin b) {f : Shop → Shop} (alike : (f a).Alike (f b))
    (left : ∀ shop : Shop, (f shop).left = shop.left) : (f a).Twin (f b) :=
  ⟨alike, h.first.of_left_eq (left a), h.second.of_left_eq (left b)⟩

theorem remember (h : a.Twin b) (statement : Statement) :
    (a.remember statement).Twin (b.remember statement) :=
  h.change (f := (·.remember statement))
    (((alike_remember a _).symm.trans h.alike).trans (alike_remember b _))
    fun shop => left_remember shop statement

theorem probed (h : a.Twin b) : a.probed.Twin b.probed :=
  ⟨((alike_probed a).symm.trans h.alike).trans (alike_probed b), h.first.probed, h.second.probed⟩

end Twin

end Shop

end Storefront
