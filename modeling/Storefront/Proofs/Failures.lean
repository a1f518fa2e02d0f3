import Mathlib.Data.List.Forall2
import Storefront.Proofs.Reachable
import Storefront.Proofs.Steady

/-!
# What failures leave behind

A step that fails, or that is answered with a status for errors, changes no table and no session.
What it may leave behind is on the connection alone: a statement that has been prepared, or a fault.
Later steps are answered as if the failed one had never been made, but where such a step fails with
a fault in either case, it may be another fault that is told.

## Main definitions

* `Answer.IsFailure` — answers of steps that have failed
* `Answer.Resembles`, `Shop.Progress.Agrees` — answers and steps that differ in a fault at most
* `Config.ShowsDatabase` — configurations with an address that can be told

## Main results

* `Shop.alike_of_isFailure` — a step that fails changes nothing but the connection
* `Shop.agrees_step`, `Shop.agrees_run` — twins go on side by side
* `Shop.agrees_afterFailure` — what goes on after a failure
* `Shop.not_always_forgotten` — a failure can be seen in the fault that is told later
-/

namespace Storefront

open Service

/-- A step has failed when there is no answer but a failure, or a status for errors. -/
def Answer.IsFailure : Answer → Prop
  | .failed _ => True
  | .response sent => 400 ≤ sent.status
  | _ => False

/-- Two answers that are the same, or both of them faults. -/
def Answer.Resembles (first second : Answer) : Prop :=
  first = second ∨
    ∃ told other : Fault, first = .failed (.fault told) ∧ second = .failed (.fault other)

/-- A configuration with an address of the database that can be read and told. -/
def Config.ShowsDatabase (config : Config) : Prop :=
  ∃ url address, Database.Url.read config.databaseUrl = .ok url ∧ url.shown = .ok address

namespace Shop

variable {start after a b : Shop} {failure : Failure}

/-! ### The making of tables -/

/-- Tables that were made with success have been announced. -/
theorem showsDatabase_of_gives_prepare {u : Unit} (h : prepare.Gives start u after) :
    start.config.ShowsDatabase := by
  obtain ⟨url, read, made⟩ := gives_ofFault_bind_iff.1 (gives_shop_bind_iff.1 h)
  have announced : (Database.announce url start.madeStore).1.map (fun _ => ()) = .ok u := made.1
  cases store : start.madeStore with
  | ok store =>
    cases shown : url.shown with
    | ok address => exact ⟨url, address, read, shown⟩
    | error fault =>
      rw [store] at announced
      simp [Database.announce, shown, Except.map] at announced
  | error failure =>
    rw [store] at announced
    cases failure <;> cases announced

theorem showsDatabase_of_start {config : Config} {outage : Bool}
    (h : (Shop.start config outage).1 = .ok start) : config.ShowsDatabase := by
  obtain ⟨threshold, -, opened⟩ := exists_gives_prepare_of_start h
  exact showsDatabase_of_gives_prepare opened

/-- Where the address can be told, the making of tables fails only when none have been made. -/
theorem alike_of_fails_prepare (shows : start.config.ShowsDatabase)
    (h : prepare.Fails start failure after) : start.Alike after := by
  obtain ⟨url, address, read, shown⟩ := shows
  have same : prepare start = prepareAt url start := prepare_of_read read
  obtain ⟨result, rfl⟩ := h
  rw [same] at result ⊢
  -- If the tables had been made, that would have been announced without a fault.
  change (Database.announce url start.madeStore).1.map (fun _ => ()) = .error failure at result
  change start.Alike
    ({ start with store := start.madeStore.toOption.getD start.store } : Shop).probed
  cases made : start.madeStore with
  | ok store =>
    rw [made] at result
    simp [Database.announce, shown, Except.map] at result
  | error first => exact alike_probed _

/-! ### Steps that fail -/

/-- Only a request is answered with a status. -/
theorem not_isFailure_of_gives {step : Step} {answer : Answer}
    (noRequest : ∀ request, step ≠ .request request)
    (h : step.service.Gives start answer after) : ¬answer.IsFailure := by
  cases step with
  | request request => exact (noRequest request rfl).elim
  | setUserNumber client id =>
    have returned := gives_change_bind_iff.1 h
    rw [(gives_pure_iff.1 returned).1]
    exact not_false
  | setOutage on =>
    have returned := gives_change_bind_iff.1 h
    rw [(gives_pure_iff.1 returned).1]
    exact not_false
  | setReadOnly on =>
    obtain ⟨_, -, rfl⟩ := gives_map_iff.1 h
    exact not_false
  | dropTable table =>
    obtain ⟨_, -, rfl⟩ := gives_map_iff.1 h
    exact not_false
  | deleteRow table id =>
    obtain ⟨_, -, rfl⟩ := gives_map_iff.1 h
    exact not_false
  | prepare =>
    obtain ⟨_, -, rfl⟩ := gives_map_iff.1 h
    exact not_false
  | check =>
    obtain ⟨_, _, -, rest⟩ := gives_bind_iff.1 (gives_shop_bind_iff.1 h)
    have returned := gives_change_bind_iff.1 rest
    rw [(gives_pure_iff.1 returned).1]
    exact not_false
  | judge payload =>
    obtain ⟨_, -, rfl⟩ := gives_map_iff.1 h
    exact not_false
  | addProduct fields =>
    obtain ⟨_, -, rest⟩ := gives_ofFault_bind_iff.1 h
    obtain ⟨_, -, rfl⟩ := gives_map_iff.1 rest
    exact not_false
  | findProduct id =>
    obtain ⟨_, -, rfl⟩ := gives_map_iff.1 h
    exact not_false
  | userFor email =>
    obtain ⟨_, -, rfl⟩ := gives_map_iff.1 h
    exact not_false
  | dump =>
    obtain ⟨-, rest⟩ := gives_connected_bind_iff.1 h
    obtain ⟨_, -, rfl⟩ := gives_map_iff.1 rest
    exact not_false

/-- A step other than a request changes nothing but the connection when it fails. -/
theorem alike_of_fails_service {step : Step} (noRequest : ∀ request, step ≠ .request request)
    (shows : start.config.ShowsDatabase) (h : step.service.Fails start failure after) :
    start.Alike after := by
  cases step with
  | request request => exact (noRequest request rfl).elim
  | setUserNumber client id => simp [Step.service] at h
  | setOutage on => simp [Step.service] at h
  | setReadOnly on => exact (isAtomic_onStore _).map _ h
  | dropTable table => exact (isAtomic_onStore _).map _ h
  | deleteRow table id => exact (isAtomic_perform _).map _ h
  | prepare => exact alike_of_fails_prepare shows (fails_map_iff.1 h)
  | check =>
    refine IsQuiet.isAtomic (isQuiet_shop.bind fun shop => ?_) h
    exact (isQuiet_ofResult _).bind fun _ => (isQuiet_change alike_probed).map _
  | judge payload => exact ((isQuiet_judge payload).map _).isAtomic h
  | addProduct fields =>
    exact IsAtomic.bind_of_isQuiet (isQuiet_ofFault _)
      (fun draft => (isAtomic_addProduct draft).map _) h
  | findProduct id => exact ((isQuiet_findProduct id).map _).isAtomic h
  | userFor email => exact (isAtomic_userFor email).map _ h
  | dump =>
    exact IsAtomic.bind_of_isQuiet isQuiet_connected (fun _ => (isAtomic_onStore _).map _) h

/-- A view that changes a table or a session answers with no status for errors. -/
theorem Serves.eq_of_isFailure {key : Sessions.Key} {body : Body} {v : View} {response : Response}
    {changed : Shop} (serves : start.Serves key body v response changed)
    (failed : 400 ≤ response.status) : changed = start := by
  cases serves <;> first | rfl | simp at failed

theorem Handles.eq_of_isFailure {request : Request} {answer : Answer} {changed : Shop}
    (handles : start.Handles request answer changed) (failed : answer.IsFailure) :
    changed = start := by
  cases handles with
  | served visited serves =>
    refine serves.eq_of_isFailure ?_
    simpa [Answer.IsFailure] using failed
  | _ => rfl

/-- A step that fails changes nothing but the connection. -/
theorem alike_of_isFailure (shows : start.config.ShowsDatabase) {step : Step}
    (failed : (start.step step).answer.IsFailure) : start.Alike (start.step step).shop := by
  -- A request is judged by its answer, and any other step by whether it ends well.
  by_cases isRequest : ∃ request, step = .request request
  · obtain ⟨request, rfl⟩ := isRequest
    obtain ⟨changed, handles, like⟩ := start.exists_handles request
    rwa [handles.eq_of_isFailure failed] at like
  · have noRequest : ∀ request, step ≠ .request request := not_exists.1 isRequest
    rcases gives_or_fails step.service start with ⟨answer, after, ends⟩ | ⟨failure, after, ends⟩
    · rw [(step_of_gives ends).1] at failed
      exact (not_isFailure_of_gives noRequest ends failed).elim
    · rw [(step_of_fails ends).2]
      exact alike_of_fails_service noRequest shows ends

/-! ### Twins side by side -/

/-- Two steps that differ in a fault at most, and in what is on the connection afterwards. -/
structure Progress.Agrees (x y : Progress) : Prop where
  answer : x.answer.Resembles y.answer
  log : x.log.map Log.Record.bare = y.log.map Log.Record.bare
  twin : x.shop.Twin y.shop

theorem isSteady_prepareAt (url : Database.Url) : (prepareAt url).IsSteady := by
  apply IsSteady.of_result_eq
  intro a b twin
  have like := twin.alike
  have made : b.madeStore = a.madeStore := by
    unfold madeStore outcome engine
    rw [like.outage, like.store]
  -- What is announced depends on what was made alone.
  refine ⟨?_, ?_, ?_⟩
  · change Twin ({ a with store := a.madeStore.toOption.getD a.store } : Shop).probed
      ({ b with store := b.madeStore.toOption.getD b.store } : Shop).probed
    rw [made, like.store]
    exact Twin.probed ⟨⟨like.config, like.threshold, rfl, like.outage, like.sessions⟩,
      twin.first.of_left_eq rfl, twin.second.of_left_eq rfl⟩
  · change (Database.announce url a.madeStore).2 = (Database.announce url b.madeStore).2
    rw [made]
  · change (Database.announce url a.madeStore).1.map _ = (Database.announce url b.madeStore).1.map _
    rw [made]

theorem isSteady_prepare : prepare.IsSteady := by
  refine isSteady_shop_bind (fun a b like => by rw [like.config]) fun shop => ?_
  exact (isSteady_ofFault _).bind fun url => isSteady_prepareAt url

theorem isSteady_check : Step.check.service.IsSteady := by
  refine isSteady_shop_bind (fun a b like => ?_) fun shop => ?_
  · unfold outcome engine
    rw [like.outage]
  · refine (isSteady_ofResult _).bind fun _ => ?_
    exact (isSteady_change fun _ _ twin => twin.probed).bind fun _ => isSteady_pure _

/-- A step comes to the same in twin shops, but for a fault that it may tell. -/
theorem agrees_service (twin : a.Twin b) (step : Step) :
    (step.service a).Agrees (step.service b) := by
  cases step with
  | request request => exact ((isSteady_respond request).map _ twin).1
  | setUserNumber client id =>
    exact ((isSteady_changeSessions (·.set { client, host := Target.defaultHost } id)).bind
      (fun _ => isSteady_pure _) twin).1
  | setOutage on =>
    refine ((isSteady_change fun a b twin => ?_).bind (fun _ => isSteady_pure _) twin).1
    have like := twin.alike
    exact ⟨⟨like.config, like.threshold, like.store, rfl, like.sessions⟩,
      twin.first.of_left_eq rfl, twin.second.of_left_eq rfl⟩
  | setReadOnly on =>
    exact ((isSteady_onStore fun _ => sparesConnection_ok _).bind (fun _ => isSteady_pure _) twin).1
  | dropTable table =>
    exact ((isSteady_onStore fun store => (sparesConnection_drop store table).map _).bind
      (fun _ => isSteady_pure _) twin).1
  | deleteRow table id =>
    -- A row is deleted whether or not connections open, so this is no statement of a service.
    exact (agrees_perform (Store.isRegular_delete table id) twin).bind fun _ => isSteady_pure _
  | prepare => exact (isSteady_prepare.bind (fun _ => isSteady_pure _) twin).1
  | check => exact (isSteady_check twin).1
  | judge payload => exact ((isSteady_judge payload).map _ twin).1
  | addProduct fields =>
    exact ((isSteady_ofFault _).bind
      (fun draft => (isSteady_addProduct draft).bind fun _ => isSteady_pure _) twin).1
  | findProduct id => exact ((isSteady_findProduct id).map _ twin).1
  | userFor email => exact ((isSteady_userFor email).map _ twin).1
  | dump =>
    exact (isSteady_connected.bind (fun _ => (isSteady_onStore fun store =>
      (sparesConnection_dump store).map _).bind fun _ => isSteady_pure _) twin).1

theorem agrees_step (twin : a.Twin b) (step : Step) : (a.step step).Agrees (b.step step) := by
  have served := agrees_service twin step
  refine ⟨?_, ?_, served.twin⟩
  · rcases served.result with same | ⟨told, other, failed, failed', -⟩
    · exact .inl (by simp only [Shop.step, same])
    · exact .inr ⟨told, other, by simp only [Shop.step, failed], by simp only [Shop.step, failed']⟩
  · simp only [Shop.step, twin.alike.threshold, Log.map_bare_filter, served.log]

/-- The answers to two steps, with their records, that differ in a fault at most. -/
def Accords (x y : Answer × List Log.Record) : Prop :=
  x.1.Resembles y.1 ∧ x.2.map Log.Record.bare = y.2.map Log.Record.bare

/-- Twins stay twins over a run and give answers that accord, by induction on the steps. -/
theorem agrees_run (twin : a.Twin b) (steps : List Step) :
    List.Forall₂ Accords (a.run steps).1 (b.run steps).1 ∧ (a.run steps).2.Twin (b.run steps).2 := by
  induction steps generalizing a b with
  | nil => exact ⟨.nil, twin⟩
  | cons first rest ih =>
    have agrees := agrees_step twin first
    obtain ⟨answers, last⟩ := ih agrees.twin
    exact ⟨.cons ⟨agrees.answer, agrees.log⟩ answers, last⟩

/-! ### Reachable shops -/

/-- No fault that has cost the connection is ever left on it. -/
theorem IsIntact.run (intact : a.IsIntact) (steps : List Step) : (a.run steps).2.IsIntact :=
  (agrees_run ⟨.refl a, intact, intact⟩ steps).2.first

theorem isIntact_of_start {config : Config} {outage : Bool}
    (h : (Shop.start config outage).1 = .ok start) : start.IsIntact := by
  obtain ⟨threshold, -, -, rfl⟩ := exists_gives_prepare_of_start h
  -- Nothing is left on the connection before the tables are made.
  have unused : Shop.IsIntact { config, threshold, outage } := isIntact_of_left_eq_none rfl
  exact (isSteady_prepare ⟨.refl _, unused, unused⟩).1.twin.first

theorem Serves.settings_eq {key : Sessions.Key} {body : Body} {v : View} {response : Response}
    {changed : Shop} (h : start.Serves key body v response changed) :
    changed.config = start.config ∧ changed.threshold = start.threshold := by
  cases h <;> exact ⟨rfl, rfl⟩

/-- Neither the configuration nor the level of the log is changed by a step. -/
theorem isKept_settings (config : Config) (threshold : Int) :
    IsKept (fun _ => True) fun shop => shop.config = config ∧ shop.threshold = threshold where
  alike a b like same := ⟨like.config.trans same.1, like.threshold.trans same.2⟩
  moves start step changed _ same moves := by
    cases moves with
    | handled handles =>
      cases handles with
      | served visited serves =>
        exact ⟨serves.settings_eq.1.trans same.1, serves.settings_eq.2.trans same.2⟩
      | _ => exact same
    | _ => exact same

theorem settings_run (start : Shop) (steps : List Step) :
    (start.run steps).2.config = start.config ∧
      (start.run steps).2.threshold = start.threshold :=
  (isKept_settings start.config start.threshold).run ⟨rfl, rfl⟩ fun _ _ => trivial

theorem threshold_of_isReachable {config : Config} {allowed : Step → Prop}
    (reachable : a.IsReachable allowed config) : config.logLevel.threshold = .ok a.threshold := by
  obtain ⟨outage, opened, steps, started, -, rfl⟩ := reachable
  rw [(settings_run opened steps).2]
  exact threshold_of_start started

theorem showsDatabase_of_isReachable {config : Config} {allowed : Step → Prop}
    (reachable : a.IsReachable allowed config) : a.config.ShowsDatabase := by
  obtain ⟨outage, opened, steps, started, -, rfl⟩ := reachable
  rw [(settings_run opened steps).1, (isOpened_of_start started).config]
  exact showsDatabase_of_start started

theorem isIntact_of_isReachable {config : Config} {allowed : Step → Prop}
    (reachable : a.IsReachable allowed config) : a.IsIntact := by
  obtain ⟨outage, opened, steps, started, -, rfl⟩ := reachable
  exact (isIntact_of_start started).run steps

/-- A step that fails leaves the tables and the sessions as they are, and all that is done later
goes as if it had never been made, but for the faults that are told. -/
theorem agrees_afterFailure {config : Config} {shop : Shop}
    (reachable : shop.IsReachable (fun _ => True) config) (step : Step)
    (failed : (shop.step step).answer.IsFailure) (later : List Step) :
    shop.Alike (shop.step step).shop ∧
      List.Forall₂ Accords (shop.run later).1 ((shop.step step).shop.run later).1 ∧
      (shop.run later).2.Alike ((shop.step step).shop.run later).2 := by
  have like := alike_of_isFailure (showsDatabase_of_isReachable reachable) failed
  have intact := isIntact_of_isReachable reachable
  have twin : shop.Twin (shop.step step).shop := ⟨like, intact, intact.run [step]⟩
  obtain ⟨answers, last⟩ := agrees_run twin later
  exact ⟨like, answers, last.alike⟩

/-- A number that has no form for the store. -/
def unfitNumber : Int := 9223372036854775808

theorem isFailure_findProduct_unfitNumber :
    (forTests.step (.findProduct unfitNumber)).answer.IsFailure := by
  have answer : (forTests.step (.findProduct unfitNumber)).answer =
      .failed (.fault .integerTooWide) := rfl
  rw [answer]
  trivial

/-- A failed look-up is told of later only by the fault that is met. -/
theorem agrees_afterFailure_findProduct :
    (forTests.step (.findProduct unfitNumber)).answer.IsFailure ∧
      List.Forall₂ Accords
        (forTests.run [.dropTable .products, .findProduct unfitNumber]).1
        ((forTests.step (.findProduct unfitNumber)).shop.run
          [.dropTable .products, .findProduct unfitNumber]).1 := by
  have reachable : forTests.IsReachable (fun _ => True) (Config.forTests {}) :=
    ⟨false, forTests, [], rfl, fun _ _ => trivial, rfl⟩
  have failed := isFailure_findProduct_unfitNumber
  exact ⟨failed, (agrees_afterFailure reachable (.findProduct unfitNumber) failed
    [.dropTable .products, .findProduct unfitNumber]).2.1⟩

/-- Later steps are not always answered as if a failed one had never been made: a look-up that has
failed leaves its statement prepared, and then the number that has no form is found before the table
is missed. -/
theorem not_always_forgotten :
    ¬∀ (config : Config) (shop : Shop), shop.IsReachable (fun _ => True) config →
      ∀ step : Step, (shop.step step).answer.IsFailure → ∀ later : List Step,
        ((shop.step step).shop.run later).1.map Prod.fst = (shop.run later).1.map Prod.fst := by
  intro always
  have reachable : forTests.IsReachable (fun _ => True) (Config.forTests {}) :=
    ⟨false, forTests, [], rfl, fun _ _ => trivial, rfl⟩
  have same := always _ _ reachable (.findProduct unfitNumber) isFailure_findProduct_unfitNumber
    [.dropTable .products, .findProduct unfitNumber]
  have found : (((forTests.step (.findProduct unfitNumber)).shop.run
      [.dropTable .products, .findProduct unfitNumber]).1.map Prod.fst) =
      [.done, .failed (.fault .integerTooWide)] := rfl
  have missed : ((forTests.run [.dropTable .products, .findProduct unfitNumber]).1.map Prod.fst) =
      [.done, .failed (.fault (.noTable .products))] := rfl
  rw [found, missed] at same
  cases same

end Shop

end Storefront
