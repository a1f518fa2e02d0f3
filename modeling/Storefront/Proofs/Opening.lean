import Storefront.Shop.Start
import Storefront.Proofs.Frame

/-!
# Tables and the opening of a shop

Tables are made after a probe, so nothing is made in an outage; a table that exists keeps its rows.
A shop that has been opened has two empty tables and nobody in a session.

## Main definitions

* `Shop.IsOpened` — a shop that has just been opened with a configuration

## Main results

* `Shop.gives_prepare`, `Shop.exists_store_of_prepare` — what the making of tables has changed
* `Shop.isOpened_of_start`, `Shop.threshold_of_start` — how a shop starts
-/

namespace Storefront

open Service

namespace Store

variable {store after : Store}

/-- A table that is made is empty and one that exists is kept. -/
theorem makeTables_eq_ok (h : store.makeTables = .ok after) :
    after.users = some (store.users.getD []) ∧ after.products = some (store.products.getD []) ∧
      after.readOnly = store.readOnly := by
  unfold makeTables at h
  split at h
  next users products =>
    obtain rfl := Except.ok.inj h
    simp [users, products]
  · obtain ⟨_, -, made⟩ := Except.bind_eq_ok_iff.1 h
    obtain rfl := Except.ok.inj made
    exact ⟨rfl, rfl, rfl⟩

/-- A drop leaves the other table alone. -/
theorem drop_eq_ok {table : Table} (h : store.drop table = .ok after) :
    after = match table with
      | .users => { store with users := none }
      | .products => { store with products := none } := by
  cases table with
  | users =>
    obtain ⟨_, -, h⟩ := Except.bind_eq_ok_iff.1 h
    obtain ⟨_, -, h⟩ := Except.bind_eq_ok_iff.1 h
    exact (Except.ok.inj h).symm
  | products =>
    obtain ⟨_, -, h⟩ := Except.bind_eq_ok_iff.1 h
    obtain ⟨_, -, h⟩ := Except.bind_eq_ok_iff.1 h
    exact (Except.ok.inj h).symm

end Store

namespace Shop

variable {start after : Shop}

/-- Tables are made where the probe has not failed. -/
theorem outcome_prepare_eq_ok_iff {shop : Shop} {α : Type} {made : Except Failure α} {a : α} :
    shop.outcome (Database.prepare (.ofResult made)) = .ok a ↔
      shop.outage = false ∧ made = .ok a := by
  obtain ⟨probe, engine⟩ := shop.check_engine
  unfold outcome Database.prepare
  cases outage : shop.outage with
  | true =>
    rw [outage, if_pos rfl] at probe
    rw [Database.Work.bind_of_error probe]
    simp
  | false =>
    rw [outage, if_neg Bool.false_ne_true] at probe
    rw [Database.Work.bind_of_ok probe, engine]
    change shop.outcome (Database.guard (.ofResult made)) = .ok a ↔ _
    cases made with
    | ok made => simp [outcome_guard_ok]
    | error failure => simp [outcome_guard_error]

/-- What the making of tables comes to before it is announced. -/
def madeStore (shop : Shop) : Except Failure Store :=
  shop.outcome <| Database.prepare <| .ofResult <|
    if shop.outage then .error (.fault .cannotOpen) else shop.store.makeTables.mapError .fault

theorem madeStore_eq_ok_iff {shop : Shop} {store : Store} :
    shop.madeStore = .ok store ↔ shop.outage = false ∧ shop.store.makeTables = .ok store := by
  rw [madeStore, outcome_prepare_eq_ok_iff]
  refine and_congr_right fun outage => ?_
  rw [outage, if_neg Bool.false_ne_true]
  cases shop.store.makeTables with
  | ok made =>
    change (Except.ok made : Except Failure Store) = .ok store ↔ _
    simp only [Except.ok.injEq]
  | error fault => exact ⟨nofun, nofun⟩

/-- Whatever the making of tables comes to, the store is as it was or has all its tables. -/
theorem exists_store_of_prepareAt (url : Database.Url) (start : Shop) :
    ∃ store, (store = start.store ∨ start.store.makeTables = .ok store) ∧
      Shop.Alike { start with store } (prepareAt url start).shop := by
  -- The announcement decides on the result alone.
  change ∃ store, _ ∧ Shop.Alike _
    ({ start with store := start.madeStore.toOption.getD start.store } : Shop).probed
  cases made : start.madeStore with
  | ok store => exact ⟨store, .inr (madeStore_eq_ok_iff.1 made).2, alike_probed _⟩
  | error failure => exact ⟨start.store, .inl rfl, alike_probed _⟩

/-- Tables that were made with success are all there. -/
theorem gives_prepareAt {url : Database.Url} {u : Unit} (h : (prepareAt url).Gives start u after) :
    start.outage = false ∧ ∃ store, start.store.makeTables = .ok store ∧
      Shop.Alike { start with store } after := by
  obtain ⟨result, rfl⟩ := h
  change (Database.announce url start.madeStore).1.map (fun _ => ()) = .ok u at result
  change _ ∧ ∃ store, _ ∧ Shop.Alike _
    ({ start with store := start.madeStore.toOption.getD start.store } : Shop).probed
  cases made : start.madeStore with
  | ok store =>
    obtain ⟨outage, tables⟩ := madeStore_eq_ok_iff.1 made
    exact ⟨outage, store, tables, alike_probed _⟩
  | error failure =>
    rw [made] at result
    cases failure <;> cases result

theorem gives_prepare {u : Unit} (h : prepare.Gives start u after) :
    start.outage = false ∧ ∃ store, start.store.makeTables = .ok store ∧
      Shop.Alike { start with store } after := by
  obtain ⟨url, -, made⟩ := gives_ofFault_bind_iff.1 (gives_shop_bind_iff.1 h)
  exact gives_prepareAt made

/-- The tables are made at the address that can be read. -/
theorem prepare_of_read {url : Database.Url}
    (read : Database.Url.read start.config.databaseUrl = .ok url) :
    prepare start = prepareAt url start := by
  rw [prepare, shop_bind, read]
  change (pure url >>= prepareAt) start = _
  rw [pure_bind]

theorem exists_store_of_prepare (start : Shop) :
    ∃ store, (store = start.store ∨ start.store.makeTables = .ok store) ∧
      Shop.Alike { start with store } (prepare start).shop := by
  cases read : Database.Url.read start.config.databaseUrl with
  | ok url =>
    rw [prepare_of_read read]
    exact exists_store_of_prepareAt url start
  | error fault =>
    rw [prepare, shop_bind, read]
    exact ⟨start.store, .inl rfl, .refl start⟩

/-! ### Opened shops -/

/-- A shop that has just been opened with a configuration. -/
structure IsOpened (config : Config) (shop : Shop) : Prop where
  config : shop.config = config
  store : shop.store = { users := some [], products := some [] }
  outage : shop.outage = false
  sessions : shop.sessions = []

/-- A shop that starts has a readable level for its log, and its tables are made. -/
theorem exists_gives_prepare_of_start {config : Config} {outage : Bool} {shop : Shop}
    (h : (Shop.start config outage).1 = .ok shop) :
    ∃ threshold, config.logLevel.threshold = .ok threshold ∧
      prepare.Gives { config, threshold, outage } () shop := by
  unfold Shop.start at h
  cases read : config.logLevel.threshold with
  | error fault => simp [read] at h
  | ok threshold =>
    rw [read] at h
    cases made : (prepare { config, threshold, outage }).result with
    | error failure => simp [made, Except.map] at h
    | ok u => exact ⟨threshold, rfl, made, by simpa [made, Except.map] using h⟩

theorem isOpened_of_start {config : Config} {outage : Bool} {shop : Shop}
    (h : (Shop.start config outage).1 = .ok shop) : shop.IsOpened config := by
  obtain ⟨threshold, -, opened⟩ := exists_gives_prepare_of_start h
  -- The tables are made on an empty store, so they have no rows.
  obtain ⟨outage, store, tables, like⟩ := gives_prepare opened
  obtain rfl := Except.ok.inj tables
  exact ⟨like.config, like.store, like.outage.trans outage, like.sessions⟩

theorem threshold_of_start {config : Config} {outage : Bool} {shop : Shop}
    (h : (Shop.start config outage).1 = .ok shop) :
    config.logLevel.threshold = .ok shop.threshold := by
  obtain ⟨threshold, read, opened⟩ := exists_gives_prepare_of_start h
  obtain ⟨-, store, -, like⟩ := gives_prepare opened
  rw [read, like.threshold]

end Shop

end Storefront
