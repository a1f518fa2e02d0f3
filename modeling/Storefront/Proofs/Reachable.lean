import Storefront.Proofs.Requests

/-!
# Runs and what they preserve

One step of a run changes little, and what it may change is said once for all kinds of steps. What
is preserved by all such changes is preserved by every run, and holds of every shop that a run has
led to.

## Main definitions

* `Shop.Moves` — what a step may have changed
* `Shop.IsReachable` — the shops that some steps can lead to
* `Shop.IsKept` — what steps of some kinds preserve

## Main results

* `Shop.exists_moves` — a step does no more than `Shop.Moves` says
* `Shop.Moves.products_sublist`, `Shop.Moves.users_sublist` — most steps add no row
* `Shop.IsKept.run`, `Shop.IsKept.of_isReachable` — what steps preserve holds after every run
-/

namespace Storefront

open Service

namespace Shop

/-- The shop as a step may have changed it. -/
inductive Moves (start : Shop) : Step → Shop → Prop
  | kept {step : Step} : Moves start step start
  | handled {request : Request} {answer : Answer} {changed : Shop}
      (handles : start.Handles request answer changed) :
    Moves start (.request request) changed
  | userNumberSet {client : Text} {id : Json} :
    Moves start (.setUserNumber client id)
      { start with sessions := start.sessions.set { client, host := Target.defaultHost } id }
  | outageSet {on : Bool} : Moves start (.setOutage on) { start with outage := on }
  | readOnlySet {on : Bool} :
    Moves start (.setReadOnly on) { start with store := { start.store with readOnly := on } }
  | tableDropped {table : Table} {store : Store} (dropped : start.store.drop table = .ok store) :
    Moves start (.dropTable table) { start with store }
  | rowDeleted {table : Table} {id : Int} :
    Moves start (.deleteRow table id) { start with store := start.store.removeRow table id }
  | tablesMade {store : Store} (made : start.store.makeTables = .ok store) :
    Moves start .prepare { start with store }
  | productAdded {fields : Json.Members} {product : Product}
      (isNew : start.store.IsNewProduct product) :
    Moves start (.addProduct fields) { start with store := start.store.putProduct product }
  | userAdded {email : Text} {user : User} (added : user.email = email)
      (isNew : start.store.IsNewUser start.config.defaultUserName user) :
    Moves start (.userFor email) { start with store := start.store.putUser user }

variable {start after : Shop}

/-! ### Single steps -/

/-- A service that is quiet is a step that changes nothing. -/
theorem exists_moves_of_isQuiet {step : Step} (h : step.service.IsQuiet) (start : Shop) :
    ∃ changed, start.Moves step changed ∧ changed.Alike (step.service start).shop :=
  ⟨start, .kept, h start⟩

/-- A service that is atomic changes something only where it ends well. -/
theorem exists_moves_of_isAtomic {step : Step} (h : step.service.IsAtomic) (start : Shop)
    (gives : ∀ answer after, step.service.Gives start answer after →
      ∃ changed, start.Moves step changed ∧ changed.Alike after) :
    ∃ changed, start.Moves step changed ∧ changed.Alike (step.service start).shop := by
  rcases gives_or_fails step.service start with ⟨answer, after, ends⟩ | ⟨failure, after, ends⟩
  · rw [ends.2]
    exact gives answer after ends
  · rw [ends.2]
    exact ⟨start, .kept, h ends⟩

/-- A step changes what it may and nothing else. -/
theorem exists_moves (start : Shop) (step : Step) :
    ∃ changed, start.Moves step changed ∧ changed.Alike (start.step step).shop := by
  cases step with
  | request request =>
    obtain ⟨changed, handles, like⟩ := start.exists_handles request
    exact ⟨changed, .handled handles, like⟩
  | setUserNumber client id => exact ⟨_, .userNumberSet, .refl _⟩
  | setOutage on => exact ⟨_, .outageSet, .refl _⟩
  | setReadOnly on => exact ⟨_, .readOnlySet, ⟨rfl, rfl, rfl, rfl, rfl⟩⟩
  | dropTable table =>
    refine exists_moves_of_isAtomic ?_ start fun answer after ends => ?_
    · exact (isAtomic_onStore _).map _
    · obtain ⟨_, worked, -⟩ := gives_map_iff.1 ends
      obtain ⟨store, dropped, like⟩ := gives_onStore worked
      cases drop : start.store.drop table with
      | ok after =>
        obtain rfl : after = store := by simpa [drop, Except.map] using dropped
        exact ⟨_, .tableDropped drop, like⟩
      | error fault => simp [drop, Except.map] at dropped
  | deleteRow table id =>
    -- How many rows there were to delete is answered, but does not matter here.
    refine exists_moves_of_isAtomic ((isAtomic_perform _).map _) start fun answer after ends => ?_
    obtain ⟨count, deleted, -⟩ := gives_map_iff.1 ends
    obtain ⟨_, store, -, effect, like⟩ := gives_perform deleted
    exact ⟨_, .rowDeleted, Store.effect_delete effect ▸ like⟩
  | prepare =>
    -- What the making of tables has changed is known whether or not it ended well.
    have same : (start.step .prepare).shop = (prepare start).shop := by
      cases h : (prepare start).result with
      | ok u => simp [Shop.step, Step.service, bind_of_ok h, pure, ofResult]
      | error failure => simp [Shop.step, Step.service, bind_of_error h]
    rw [same]
    obtain ⟨store, rfl | made, like⟩ := exists_store_of_prepare start
    · exact ⟨start, .kept, like⟩
    · exact ⟨_, .tablesMade made, like⟩
  | check =>
    refine exists_moves_of_isQuiet ?_ start
    refine isQuiet_shop.bind fun shop => (isQuiet_ofResult _).bind fun _ => ?_
    exact (isQuiet_change alike_probed).map _
  | judge payload => exact exists_moves_of_isQuiet ((isQuiet_judge payload).map _) start
  | addProduct fields =>
    refine exists_moves_of_isAtomic ?_ start fun answer after ends => ?_
    · exact .bind_of_isQuiet (isQuiet_ofFault _) fun draft => (isAtomic_addProduct draft).map _
    · obtain ⟨draft, -, rest⟩ := gives_ofFault_bind_iff.1 ends
      obtain ⟨product, added, -⟩ := gives_map_iff.1 rest
      obtain ⟨-, isNew, -, like⟩ := gives_addProduct added
      exact ⟨_, .productAdded isNew, like⟩
  | findProduct id => exact exists_moves_of_isQuiet ((isQuiet_findProduct id).map _) start
  | userFor email =>
    refine exists_moves_of_isAtomic ?_ start fun answer after ends => ?_
    · exact (isAtomic_userFor email).map _
    · obtain ⟨user, found, -⟩ := gives_map_iff.1 ends
      obtain ⟨same, -, ⟨-, like⟩ | ⟨isNew, like⟩⟩ := gives_userFor found
      · exact ⟨start, .kept, like⟩
      · exact ⟨_, .userAdded same isNew, like⟩
  | dump =>
    refine exists_moves_of_isAtomic ?_ start fun answer after ends => ?_
    · exact .bind_of_isQuiet isQuiet_connected fun _ => (isAtomic_onStore _).map _
    · obtain ⟨-, rest⟩ := gives_connected_bind_iff.1 ends
      obtain ⟨rows, worked, -⟩ := gives_map_iff.1 rest
      obtain ⟨store, dumped, like⟩ := gives_onStore worked
      cases dump : start.store.dump with
      | ok rows' =>
        -- A dump reads all rows and hands the store back as it was.
        obtain ⟨-, rfl⟩ : rows' = rows ∧ start.store = store := by
          simpa [dump, Except.map] using dumped
        exact ⟨start, .kept, like⟩
      | error fault => simp [dump, Except.map] at dumped

/-! ### Rows -/

/-- No product comes into the tables but by a request or by a direct call. -/
theorem Moves.products_sublist {step : Step} {changed : Shop} (moves : start.Moves step changed)
    (noRequest : ∀ request, step ≠ .request request)
    (noCall : ∀ fields, step ≠ .addProduct fields) :
    (changed.store.products.getD []).Sublist (start.store.products.getD []) := by
  cases moves with
  | handled handles => exact absurd rfl (noRequest _)
  | productAdded isNew => exact absurd rfl (noCall _)
  | @tableDropped table store dropped =>
    rw [Store.drop_eq_ok dropped]
    cases table with
    | users => exact .refl _
    | products => exact List.nil_sublist _
  | @rowDeleted table id =>
    cases table with
    | users => exact .refl _
    | products =>
      cases found : start.store.products with
      | none => simp [Store.removeRow, found]
      | some products =>
        simp only [Store.removeRow, found, Option.map_some, Option.getD_some]
        exact List.filter_sublist
  | tablesMade made =>
    rw [(Store.makeTables_eq_ok made).2.1]
    exact .refl _
  | _ => exact .refl _

/-- Nor does a user. -/
theorem Moves.users_sublist {step : Step} {changed : Shop} (moves : start.Moves step changed)
    (noRequest : ∀ request, step ≠ .request request) (noCall : ∀ email, step ≠ .userFor email) :
    (changed.store.users.getD []).Sublist (start.store.users.getD []) := by
  cases moves with
  | handled handles => exact absurd rfl (noRequest _)
  | userAdded added isNew => exact absurd rfl (noCall _)
  | @tableDropped table store dropped =>
    rw [Store.drop_eq_ok dropped]
    cases table with
    | users => exact List.nil_sublist _
    | products => exact .refl _
  | @rowDeleted table id =>
    cases table with
    | users =>
      cases found : start.store.users with
      | none => simp [Store.removeRow, found]
      | some users =>
        simp only [Store.removeRow, found, Option.map_some, Option.getD_some]
        exact List.filter_sublist
    | products => exact .refl _
  | tablesMade made =>
    rw [(Store.makeTables_eq_ok made).1]
    exact .refl _
  | _ => exact .refl _

/-! ### Runs -/

/-- What is preserved by steps of some kinds, of shops that are alike as of one. -/
structure IsKept (allowed : Step → Prop) (P : Shop → Prop) : Prop where
  alike : ∀ ⦃a b : Shop⦄, a.Alike b → P a → P b
  moves : ∀ ⦃start : Shop⦄ ⦃step : Step⦄ ⦃changed : Shop⦄,
    allowed step → P start → start.Moves step changed → P changed

variable {allowed : Step → Prop} {P : Shop → Prop}

theorem IsKept.step (h : IsKept allowed P) (holds : P start) {step : Step} (is : allowed step) :
    P (start.step step).shop := by
  obtain ⟨changed, moves, like⟩ := start.exists_moves step
  exact h.alike like (h.moves is holds moves)

/-- What every step preserves is preserved by the run, by induction on its steps. -/
theorem IsKept.run (h : IsKept allowed P) (holds : P start) {steps : List Step}
    (all : ∀ step ∈ steps, allowed step) : P (start.run steps).2 := by
  induction steps generalizing start with
  | nil => exact holds
  | cons first rest ih =>
    refine ih (h.step holds (all first List.mem_cons_self)) fun step mem => ?_
    exact all step (List.mem_cons_of_mem first mem)

/-- A shop that steps of some kinds lead to from the opening of one with a configuration. -/
def IsReachable (allowed : Step → Prop) (config : Config) (shop : Shop) : Prop :=
  ∃ (outage : Bool) (opened : Shop) (steps : List Step),
    (Shop.start config outage).1 = .ok opened ∧ (∀ step ∈ steps, allowed step) ∧
      (opened.run steps).2 = shop

theorem IsReachable.mono {config : Config} {shop : Shop} {permitted : Step → Prop}
    (reachable : shop.IsReachable allowed config) (more : ∀ step, allowed step → permitted step) :
    shop.IsReachable permitted config := by
  obtain ⟨outage, start, steps, started, all, led⟩ := reachable
  exact ⟨outage, start, steps, started, fun step mem => more step (all step mem), led⟩

/-- The shop that is opened under test. -/
def forTests : Shop := (prepare { config := Config.forTests {}, threshold := 10 }).shop

/-- The shop that is opened under test, with a user who is logged in. -/
def withUser : Shop := (forTests.run [.request (.forLogin "a" "a@example.com")]).2

theorem isReachable_withUser : withUser.IsReachable (fun _ => True) (Config.forTests {}) :=
  ⟨false, forTests, _, rfl, fun _ _ => trivial, rfl⟩

/-- What holds of opened shops and is preserved by every step holds of all reachable shops. -/
theorem IsKept.of_isReachable (h : IsKept allowed P) {config : Config} {shop : Shop}
    (opened : ∀ start : Shop, start.IsOpened config → P start)
    (reachable : shop.IsReachable allowed config) : P shop := by
  obtain ⟨outage, start, steps, started, all, rfl⟩ := reachable
  exact h.run (opened start (isOpened_of_start started)) all

end Shop

end Storefront
