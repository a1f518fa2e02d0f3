import Storefront.Proofs.Failures

/-!
# Tables made again

The tables are made when a shop is opened, and they can be made again at any time, whatever has
become of them since. That is safe to do on a shop with rows: a table that is there keeps its rows,
and a missing one is made empty. What can be in the way shows beforehand. An outage is, and is told
as an unreachable database; a store that takes no writes is, but only if there is a table to be
made.

## Main definitions

* `Store.lacksTable`, `Store.complete` — a missing table, and a store with those that it lacked
* `Store.obstacle?`, `Store.remade` — what keeps tables from being made, and the store afterwards
* `Shop.RemakesTables` — what comes of it when the tables are to be made, once and again

## Main results

* `Store.makeTables_eq` — when the tables are made, and what they are then
* `Shop.madeStore_eq`, `Shop.step_prepare` — what is in the way is told, and otherwise they are made
* `Shop.remakesTables_of_isReachable` — tables can safely be made again in every reachable shop
-/

namespace Storefront

open Service

/-! ### Stores -/

namespace Store

variable {store : Store} {outage : Bool}

/-- Whether a table is missing. -/
def lacksTable (store : Store) : Bool := store.users.isNone || store.products.isNone

/-- The store with an empty table for each one that it lacks. -/
def complete (store : Store) : Store where
  users := some (store.users.getD [])
  products := some (store.products.getD [])
  readOnly := store.readOnly

/-- Tables are made unless one is missing and no writes are taken. -/
theorem makeTables_eq (store : Store) :
    store.makeTables =
      if store.readOnly && store.lacksTable then .error .readOnly else .ok store.complete := by
  obtain ⟨users, products, readOnly⟩ := store
  cases users <;> cases products <;> cases readOnly <;> rfl

/-- What keeps the tables from being made, in an outage or outside of one. -/
def obstacle? (store : Store) (outage : Bool) : Option Failure :=
  if outage then some (.lost .cannotOpen)
  else if store.readOnly && store.lacksTable then some (.fault .readOnly)
  else none

/-- The store after its tables were to be made. -/
def remade (store : Store) (outage : Bool) : Store :=
  if (store.obstacle? outage).isSome then store else store.complete

theorem remade_of_obstacle {failure : Failure} (met : store.obstacle? outage = some failure) :
    store.remade outage = store := by
  simp [remade, met]

theorem remade_of_none (free : store.obstacle? outage = none) :
    store.remade outage = store.complete := by
  simp [remade, free]

/-- What was in the way still is, and nothing new is. -/
theorem obstacle?_remade (store : Store) (outage : Bool) :
    (store.remade outage).obstacle? outage = store.obstacle? outage := by
  cases met : store.obstacle? outage with
  | some failure => rw [remade_of_obstacle met, met]
  | none =>
    rw [remade_of_none met]
    cases outage with
    | true => cases met
    | false => simp [obstacle?, lacksTable, complete]

theorem remade_remade (store : Store) (outage : Bool) :
    (store.remade outage).remade outage = store.remade outage := by
  cases met : store.obstacle? outage with
  | some failure => rw [remade_of_obstacle met, remade_of_obstacle met]
  | none =>
    have free : store.complete.obstacle? outage = none := by
      rw [← remade_of_none met, obstacle?_remade, met]
    rw [remade_of_none met, remade_of_none free]
    rfl

/-- An unreachable database is in the way in an outage. -/
theorem obstacle?_eq_unreachable_iff :
    (∃ message cause, store.obstacle? outage = some (.unreachable message cause)) ↔
      outage = true := by
  cases outage with
  | true => exact ⟨fun _ => rfl, fun _ => ⟨_, _, rfl⟩⟩
  | false =>
    change (∃ message cause, (if store.readOnly && store.lacksTable then
      some (Failure.fault .readOnly) else none) = some (.unreachable message cause)) ↔ _
    cases store.readOnly && store.lacksTable <;> simp

/-- An operational fault is in the way otherwise if no writes are taken and a table is missing. -/
theorem obstacle?_eq_operational_iff :
    (∃ fault, store.obstacle? outage = some (.fault fault) ∧ fault.kind = .operational) ↔
      outage = false ∧ store.readOnly = true ∧ store.lacksTable = true := by
  cases outage with
  | true => simp [obstacle?, Failure.lost]
  | false =>
    change (∃ fault, (if store.readOnly && store.lacksTable then
      some (Failure.fault .readOnly) else none) = some (.fault fault) ∧ _) ↔ _
    rw [← Bool.and_eq_true]
    cases store.readOnly && store.lacksTable <;> simp [Fault.kind]

end Store

/-! ### Shops -/

namespace Shop

variable {shop : Shop} {config : Config}

/-- What is in the way is met before any table is made. -/
theorem madeStore_eq (shop : Shop) :
    shop.madeStore =
      match shop.store.obstacle? shop.outage with
      | some failure => .error failure
      | none => .ok shop.store.complete := by
  obtain ⟨probe, engine⟩ := shop.check_engine
  unfold madeStore outcome Database.prepare Store.obstacle?
  cases outage : shop.outage with
  | true =>
    -- The probe fails, so what the store would say to new tables does not matter.
    rw [outage, if_pos rfl] at probe
    rw [Database.Work.bind_of_error probe]
    rfl
  | false =>
    rw [outage, if_neg Bool.false_ne_true] at probe
    rw [Database.Work.bind_of_ok probe, engine, if_neg Bool.false_ne_true,
      if_neg Bool.false_ne_true, Store.makeTables_eq]
    cases shop.store.readOnly && shop.store.lacksTable with
    | true =>
      -- The refusal is an operational fault, which the guard lets pass: its probe succeeds too.
      exact (outcome_guard_error shop (.fault .readOnly)).trans
        (congrArg Except.error (guardedFailure_of_spares outage rfl))
    | false => exact outcome_guard_ok shop shop.store.complete

/-- The shop after its tables were to be made. -/
def remade (shop : Shop) : Shop :=
  Shop.probed { shop with store := shop.store.remade shop.outage }

theorem alike_remade (shop : Shop) :
    Shop.Alike { shop with store := shop.store.remade shop.outage } shop.remade := alike_probed _

/-- The making of tables is announced without a fault where the address can be told. -/
theorem result_prepareAt {url : Database.Url} {address : Text} (shown : url.shown = .ok address)
    (shop : Shop) :
    (prepareAt url shop).result =
      match shop.store.obstacle? shop.outage with
      | some failure => .error failure
      | none => .ok () := by
  change (Database.announce url shop.madeStore).1.map (fun _ => ()) = _
  rw [madeStore_eq]
  cases shop.store.obstacle? shop.outage with
  | none => simp [Database.announce, shown, Except.map]
  | some failure => cases failure <;> rfl

theorem shop_prepareAt (url : Database.Url) (shop : Shop) :
    (prepareAt url shop).shop = shop.remade := by
  change ({ shop with store := shop.madeStore.toOption.getD shop.store } : Shop).probed = _
  rw [madeStore_eq, remade]
  cases met : shop.store.obstacle? shop.outage with
  | none =>
    rw [Store.remade_of_none met]
    rfl
  | some failure =>
    rw [Store.remade_of_obstacle met]
    rfl

/-- The tables are made, unless something is in the way, which is told. -/
theorem step_prepare (shows : shop.config.ShowsDatabase) :
    (shop.step .prepare).answer =
        (match shop.store.obstacle? shop.outage with
        | some failure => .failed failure
        | none => .done) ∧
      (shop.step .prepare).shop = shop.remade := by
  obtain ⟨url, address, read, shown⟩ := shows
  have same : prepare shop = prepareAt url shop := prepare_of_read read
  have result := result_prepareAt shown shop
  rw [← shop_prepareAt url, ← same]
  rw [← same] at result
  cases met : shop.store.obstacle? shop.outage with
  | none =>
    rw [met] at result
    have ends : Step.prepare.service.Gives shop .done (prepare shop).shop :=
      gives_map_iff.2 ⟨(), ⟨result, rfl⟩, rfl⟩
    exact step_of_gives ends
  | some failure =>
    rw [met] at result
    have ends : Step.prepare.service.Fails shop failure (prepare shop).shop :=
      fails_map_iff.2 ⟨result, rfl⟩
    exact step_of_fails ends

theorem remade_remade (shop : Shop) : shop.remade.remade = shop.remade := by
  have like := shop.alike_remade
  have store : shop.remade.store = shop.store.remade shop.outage := like.store
  have outage : shop.remade.outage = shop.outage := like.outage
  have same : shop.remade.store.remade shop.remade.outage = shop.remade.store := by
    rw [store, outage, Store.remade_remade]
  have opened : shop.remade.remade = shop.remade.probed := by
    change Shop.probed { shop.remade with
      store := shop.remade.store.remade shop.remade.outage } = _
    rw [same]
  rw [opened, probed, outage]
  unfold remade probed
  cases shop.outage <;> rfl

/-- What comes of it when the tables of a shop are to be made. -/
structure RemakesTables (shop : Shop) : Prop where
  done_or_failed : (shop.step .prepare).answer = .done ∨
    ∃ failure, (shop.step .prepare).answer = .failed failure
  /-- A table that was there has the rows that it had, and one that was missing has none. -/
  done : (shop.step .prepare).answer = .done →
    (shop.step .prepare).shop.store.users = some (shop.store.users.getD []) ∧
      (shop.step .prepare).shop.store.products = some (shop.store.products.getD [])
  failed : ∀ failure, (shop.step .prepare).answer = .failed failure →
    (shop.step .prepare).shop.store = shop.store
  /-- Nothing but the tables and the connection is ever touched. -/
  others : Shop.Alike { shop with store := (shop.step .prepare).shop.store }
    (shop.step .prepare).shop
  answer_again : ((shop.step .prepare).shop.step .prepare).answer = (shop.step .prepare).answer
  shop_again : ((shop.step .prepare).shop.step .prepare).shop = (shop.step .prepare).shop
  unreachable_iff :
    (∃ message cause, (shop.step .prepare).answer = .failed (.unreachable message cause)) ↔
      shop.outage = true
  operational_iff :
    (∃ fault, (shop.step .prepare).answer = .failed (.fault fault) ∧ fault.kind = .operational) ↔
      shop.outage = false ∧ shop.store.readOnly = true ∧
        (shop.store.users = none ∨ shop.store.products = none)

theorem remakesTables (shows : shop.config.ShowsDatabase) : shop.RemakesTables := by
  obtain ⟨answer, after⟩ := step_prepare shows
  have like := shop.alike_remade
  have shows' : shop.remade.config.ShowsDatabase := like.config ▸ shows
  obtain ⟨again, after'⟩ := step_prepare shows'
  constructor
  case done_or_failed =>
    rw [answer]
    cases shop.store.obstacle? shop.outage with
    | none => exact .inl rfl
    | some failure => exact .inr ⟨failure, rfl⟩
  case done =>
    intro done
    rw [after, like.store]
    cases met : shop.store.obstacle? shop.outage with
    | none =>
      rw [Store.remade_of_none met]
      exact ⟨rfl, rfl⟩
    | some failure =>
      rw [answer, met] at done
      cases done
  case failed =>
    intro failure failed
    rw [after, like.store]
    cases met : shop.store.obstacle? shop.outage with
    | none =>
      rw [answer, met] at failed
      cases failed
    | some failure => exact Store.remade_of_obstacle met
  case others =>
    rw [after]
    exact ⟨like.config, like.threshold, rfl, like.outage, like.sessions⟩
  case answer_again =>
    rw [after, again, answer, like.store, like.outage, Store.obstacle?_remade]
  case shop_again =>
    rw [after, after', remade_remade]
  case unreachable_iff =>
    rw [← Store.obstacle?_eq_unreachable_iff, answer]
    cases shop.store.obstacle? shop.outage <;> simp
  case operational_iff =>
    have lacks : shop.store.lacksTable = true ↔
        shop.store.users = none ∨ shop.store.products = none := by
      simp [Store.lacksTable]
    rw [← lacks, ← Store.obstacle?_eq_operational_iff, answer]
    cases shop.store.obstacle? shop.outage <;> simp

/-- Whatever has become of the tables, the rows, the writes and the database, the tables can be made
again without harm. -/
theorem remakesTables_of_isReachable (reachable : shop.IsReachable (fun _ => True) config) :
    shop.RemakesTables :=
  remakesTables (showsDatabase_of_isReachable reachable)

/-- A user comes, and then the table of the products goes. -/
def productsLost : List Step := [.request (.forLogin "a" "a@example.com"), .dropTable .products]

/-- The user stays when the products are made again, and when they cannot be made. -/
theorem remakesTables_of_isReachable_productsLost :
    (forTests.run productsLost).2.IsReachable (fun _ => True) (Config.forTests {}) ∧
      ((forTests.run productsLost).2.step .prepare).answer = .done ∧
      ((forTests.run productsLost).2.step .prepare).shop.store.users =
        some ((forTests.run productsLost).2.store.users.getD []) ∧
      ((forTests.run productsLost).2.step .prepare).shop.store.products = some [] ∧
      let refusing := (forTests.run (productsLost ++ [.setReadOnly true])).2
      refusing.IsReachable (fun _ => True) (Config.forTests {}) ∧
        (refusing.step .prepare).answer = .failed (.fault .readOnly) ∧
        (refusing.step .prepare).shop.store = refusing.store := by
  have reachable (steps : List Step) :
      (forTests.run steps).2.IsReachable (fun _ => True) (Config.forTests {}) :=
    ⟨false, forTests, steps, rfl, fun _ _ => trivial, rfl⟩
  have made : ((forTests.run productsLost).2.step .prepare).answer = .done := rfl
  have refused : ((forTests.run (productsLost ++ [.setReadOnly true])).2.step .prepare).answer =
      .failed (.fault .readOnly) := rfl
  have remakes := remakesTables_of_isReachable (reachable productsLost)
  have remakes' := remakesTables_of_isReachable (reachable (productsLost ++ [.setReadOnly true]))
  obtain ⟨users, products⟩ := remakes.done made
  exact ⟨reachable _, made, users, products, reachable _, refused, remakes'.failed _ refused⟩

end Shop

end Storefront
