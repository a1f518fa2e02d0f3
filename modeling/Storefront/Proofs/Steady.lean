import Storefront.Proofs.Connection
import Storefront.Proofs.Views

/-!
# Services that the connection does not decide

Two shops that differ in their connections alone go on side by side. Whatever is asked of both is
answered alike; only where both run into a fault may the two faults be different ones, and then the
records that report them are. This is shown of single steps of services and of services that are
made of such, from the statements up to the views.

## Main definitions

* `Log.Record.bare` — a record without the failure that it reports
* `Failure.Rhymes` — results that are the same but for the fault that they tell
* `Service.Outcome.Agrees`, `Service.IsSteady` — outcomes with such results, and services that lead
  to such outcomes in twin shops

## Main results

* `Service.agrees_perform`, `Service.isSteady_call` — a statement is steady
* `Service.IsSteady.bind`, `Service.IsSteady.guarded`, `Service.IsSteady.recover` — so are services
  that are made of steady ones
* `Shop.isSteady_respond` — and the answering of a request
-/

namespace Storefront

/-! ### Steady services -/

/-- A record without the failure that it reports. -/
def Log.Record.bare (record : Log.Record) : Log.Record := { record with failure := none }

theorem Log.map_bare_filter (threshold : Int) (records : List Log.Record) :
    (Log.filter threshold records).map Record.bare =
      Log.filter threshold (records.map Record.bare) := by
  unfold Log.filter
  rw [List.filter_map]
  rfl

/-- Two results that are the same, or both of them faults that spare the connection. -/
def Failure.Rhymes {α : Type} (first second : Except Failure α) : Prop :=
  first = second ∨ ∃ told other : Fault, first = .error (.fault told) ∧
    second = .error (.fault other) ∧ told.invalidated = false ∧ other.invalidated = false

namespace Service

variable {α β : Type}

/-- Two outcomes that are the same but for what the connections remember and, where both are faults,
for which faults they are. -/
structure Outcome.Agrees (x y : Outcome α) : Prop where
  twin : x.shop.Twin y.shop
  log : x.log.map Log.Record.bare = y.log.map Log.Record.bare
  result : Failure.Rhymes x.result y.result

/-- Where one of two such outcomes is a value, the other one is the same value. -/
theorem Outcome.Agrees.result_eq_ok {x y : Outcome α} (h : x.Agrees y) {value : α}
    (result : x.result = .ok value) : y.result = .ok value := by
  rcases h.result with same | ⟨told, other, failed, -⟩
  · rw [← same, result]
  · rw [result] at failed
    cases failed

/-- A service that comes to the same whatever the connection remembers, but for the fault that it
may tell while there is a connection. -/
def IsSteady (service : Service α) : Prop :=
  ∀ ⦃a b : Shop⦄, a.Twin b → (service a).Agrees (service b) ∧
    ((service a).result = (service b).result ∨ (service a).shop.outage = false)

variable {service : Service α} {next : α → Service β} {a b : Shop}

/-- Outcomes with the same result agree as soon as their shops and records do. -/
theorem IsSteady.of_result_eq
    (h : ∀ ⦃a b : Shop⦄, a.Twin b → (service a).shop.Twin (service b).shop ∧
      (service a).log = (service b).log ∧ (service a).result = (service b).result) :
    service.IsSteady := by
  intro a b twin
  obtain ⟨after, log, result⟩ := h twin
  exact ⟨⟨after, by rw [log], .inl result⟩, .inl result⟩

/-! #### Single steps -/

theorem isSteady_ofResult (result : Except Failure α) : (ofResult result).IsSteady :=
  .of_result_eq fun _ _ twin => ⟨twin, rfl, rfl⟩

theorem isSteady_pure (a : α) : (pure a : Service α).IsSteady := isSteady_ofResult _

theorem isSteady_fail (failure : Failure) : (fail failure : Service α).IsSteady :=
  isSteady_ofResult _

theorem isSteady_ofFault (result : Except Fault α) : (ofFault result).IsSteady :=
  isSteady_ofResult _

theorem isSteady_record (entry : Log.Record) : (record entry).IsSteady :=
  .of_result_eq fun _ _ twin => ⟨twin, rfl, rfl⟩

theorem isSteady_change {f : Shop → Shop} (h : ∀ ⦃a b : Shop⦄, a.Twin b → (f a).Twin (f b)) :
    (change f).IsSteady :=
  .of_result_eq fun _ _ twin => ⟨h twin, rfl, rfl⟩

/-- What is asked of the shop must be no matter of its connection. -/
theorem isSteady_shop_bind {next : Shop → Service β}
    (same : ∀ ⦃a b : Shop⦄, a.Alike b → next b = next a) (hn : ∀ shop, (next shop).IsSteady) :
    (shop >>= next).IsSteady := by
  intro a b twin
  rw [shop_bind, shop_bind, same twin.alike]
  exact hn a twin

/-! #### Steps in a row -/

/-- What goes on alike after outcomes that agree leads to outcomes that agree. -/
theorem Outcome.Agrees.bind (h : (service a).Agrees (service b)) (hn : ∀ value, (next value).IsSteady) :
    ((service >>= next) a).Agrees ((service >>= next) b) := by
  rcases h.result with same | ⟨told, other, failed, failed', spares, spares'⟩
  · cases result : (service a).result with
    | ok value =>
      have second := (hn value h.twin).1
      rw [bind_of_ok result, bind_of_ok (same ▸ result)]
      refine ⟨second.twin, ?_, second.result⟩
      rw [List.map_append, List.map_append, h.log, second.log]
    | error failure =>
      rw [bind_of_error result, bind_of_error (same ▸ result)]
      exact ⟨h.twin, h.log, .inl rfl⟩
  · -- Both have failed, and nothing is gone on with.
    rw [bind_of_error failed, bind_of_error failed']
    exact ⟨h.twin, h.log, .inr ⟨told, other, rfl, rfl, spares, spares'⟩⟩

theorem IsSteady.bind (h : service.IsSteady) (hn : ∀ value, (next value).IsSteady) :
    (service >>= next).IsSteady := by
  intro a b twin
  obtain ⟨first, known⟩ := h twin
  refine ⟨first.bind hn, ?_⟩
  -- What is known of the results is known of the last service that was made.
  cases result : (service a).result with
  | ok value =>
    have result' := first.result_eq_ok result
    rw [bind_of_ok result, bind_of_ok result']
    exact (hn value first.twin).2
  | error failure =>
    rw [bind_of_error result]
    refine known.imp (fun same => ?_) id
    rw [bind_of_error (same ▸ result)]

theorem IsSteady.map (h : service.IsSteady) (f : α → β) : (f <$> service).IsSteady := by
  rw [← bind_pure_comp]
  exact h.bind fun _ => isSteady_pure _

theorem isSteady_connected : connected.IsSteady := by
  refine isSteady_shop_bind (fun a b like => by rw [like.outage]) fun shop => ?_
  split
  · exact isSteady_fail _
  · exact isSteady_pure ()

/-! #### Statements -/

variable {call : Statement.Call β α}

theorem perform_of_run_eq_ok {shop : Shop} {value : α} {store : Store}
    (ran : call.run (shop.prepared.contains call.statement) shop.left shop.store =
      .ok (value, store)) :
    perform call shop =
      { result := .ok value
        shop := { shop.remember call.statement with store, left := none } } := by
  simp only [perform, ran]

theorem perform_of_run_eq_error {shop : Shop} {fault : Fault}
    (ran : call.run (shop.prepared.contains call.statement) shop.left shop.store = .error fault) :
    perform call shop =
      { result := .error (.fault fault)
        shop := { shop.remember call.statement with
          left := call.leaves (shop.prepared.contains call.statement) shop.store fault } } := by
  simp only [perform, ran]

/-- After a statement that has failed without cost to the connection, twins are twins. -/
theorem twin_afterFailure (twin : a.Twin b) {fault other : Fault}
    (spares : fault.invalidated = false) (spares' : other.invalidated = false) :
    Shop.Twin
      { a.remember call.statement with
        left := call.leaves (a.prepared.contains call.statement) a.store fault }
      { b.remember call.statement with
        left := call.leaves (b.prepared.contains call.statement) b.store other } := by
  have kept (shop : Shop) {fault : Fault} (spares : fault.invalidated = false) :
      Shop.IsIntact { shop.remember call.statement with
        left := call.leaves (shop.prepared.contains call.statement) shop.store fault } := by
    intro older left
    unfold Statement.Call.leaves at left
    split at left
    · cases left
    · split at left
      · cases left
        exact spares
      · cases left
  have like := (twin.remember call.statement).alike
  exact ⟨⟨like.config, like.threshold, like.store, like.outage, like.sessions⟩, kept a spares,
    kept b spares'⟩

/-- A statement comes to the same on both connections, or fails on both. -/
theorem agrees_perform (regular : call.IsRegular) (twin : a.Twin b) :
    (perform call a).Agrees (perform call b) := by
  cases values : call.values with
  | ok value =>
    have ran (shop : Shop) := Statement.Call.run_of_values_ok regular values
      (shop.prepared.contains call.statement) shop.left shop.store
    cases effect : call.effect value a.store with
    | ok done =>
      rw [perform_of_run_eq_ok ((ran a).trans effect),
        perform_of_run_eq_ok ((ran b).trans (twin.alike.store ▸ effect))]
      have like := (twin.remember call.statement).alike
      refine ⟨⟨⟨like.config, like.threshold, rfl, like.outage, like.sessions⟩, ?_, ?_⟩, rfl,
        .inl rfl⟩
      · exact Shop.isIntact_of_left_eq_none rfl
      · exact Shop.isIntact_of_left_eq_none rfl
    | error fault =>
      have spares := regular.effect value a.store fault effect
      rw [perform_of_run_eq_error ((ran a).trans effect),
        perform_of_run_eq_error ((ran b).trans (twin.alike.store ▸ effect))]
      exact ⟨twin_afterFailure twin spares spares, rfl, .inl rfl⟩
  | error fault =>
    -- A value has no form for the store, so neither connection can do it.
    have fails (shop : Shop) (intact : shop.IsIntact) := Statement.Call.exists_run_of_values_error
      regular values (shop.prepared.contains call.statement) intact shop.store
    obtain ⟨told, ran, spares⟩ := fails a twin.first
    obtain ⟨other, ran', spares'⟩ := fails b twin.second
    rw [perform_of_run_eq_error ran, perform_of_run_eq_error ran']
    exact ⟨twin_afterFailure twin spares spares', rfl,
      .inr ⟨told, other, rfl, rfl, spares, spares'⟩⟩

/-- Where a connection opens, a statement is made. -/
theorem call_of_connected (outage : a.outage = false) : Service.call call a = perform call a := by
  have ends : connected.Gives a () a := gives_connected_iff.2 ⟨outage, rfl⟩
  have silent : (connected a).log = [] := by
    simp [connected, Bind.bind, Service.bind, Service.shop, outage, pure, ofResult]
  rw [Service.call, bind_of_ok ends.1, ends.2, silent, List.nil_append]

theorem isSteady_call (regular : call.IsRegular) : (Service.call call).IsSteady := by
  intro a b twin
  cases outage : a.outage with
  | true =>
    -- Without a connection nothing is made of the statement.
    have closed (shop : Shop) (outage : shop.outage = true) :
        connected.Fails shop (.fault .cannotOpen) shop :=
      fails_connected_iff.2 ⟨outage, rfl, rfl⟩
    have first := closed a outage
    have second := closed b (twin.outage_eq.trans outage)
    rw [Service.call, bind_of_error first.1, bind_of_error second.1]
    refine ⟨⟨?_, (isSteady_connected twin).1.log, .inl rfl⟩, .inl rfl⟩
    exact (isSteady_connected twin).1.twin
  | false =>
    rw [call_of_connected outage, call_of_connected (twin.outage_eq.trans outage)]
    refine ⟨agrees_perform regular twin, .inr ?_⟩
    have like := a.alike_remember call.statement
    unfold perform
    dsimp only
    split
    · exact like.outage.trans outage
    · exact like.outage.trans outage

/-! #### The guard -/

/-- While there is a connection, the guard passes on what has not cost it. -/
theorem guardedFailure_of_spares {shop : Shop} {fault : Fault} (outage : shop.outage = false)
    (spares : fault.invalidated = false) : shop.guardedFailure (.fault fault) = .fault fault := by
  simp [Shop.guardedFailure, outage, spares]

theorem guardedFailure_congr (like : a.Alike b) (failure : Failure) :
    b.guardedFailure failure = a.guardedFailure failure := by
  unfold Shop.guardedFailure
  rw [like.outage]

theorem guarded_of_error {failure : Failure} (h : (service a).result = .error failure) :
    service.guarded a =
      { service a with
        result := .error ((service a).shop.guardedFailure failure)
        shop := if isProbed (.error failure : Except Failure α) then (service a).shop.probed
          else (service a).shop } := by
  simp [guarded, h, Shop.outcome_guard_error]

/-- Whether or not the connections are probed, twins stay twins. -/
theorem twin_probedIf (twin : a.Twin b) (first second : Bool) :
    Shop.Twin (if first then a.probed else a) (if second then b.probed else b) := by
  have like (shop : Shop) (isProbed : Bool) :
      shop.Alike (if isProbed then shop.probed else shop) := by
    cases isProbed
    · exact .refl shop
    · exact shop.alike_probed
  have intact {shop : Shop} (h : shop.IsIntact) (isProbed : Bool) :
      Shop.IsIntact (if isProbed then shop.probed else shop) := by
    cases isProbed
    · exact h
    · exact h.probed
  exact ⟨((like a first).symm.trans twin.alike).trans (like b second), intact twin.first first,
    intact twin.second second⟩

theorem IsSteady.guarded (h : service.IsSteady) : service.guarded.IsSteady := by
  intro a b twin
  obtain ⟨done, known⟩ := h twin
  cases result : (service a).result with
  | ok value =>
    have result' := done.result_eq_ok result
    rw [guarded_of_ok result, guarded_of_ok result']
    exact ⟨done, known⟩
  | error failure =>
    rcases done.result with same | ⟨told, other, failed, failed', spares, spares'⟩
    · rw [guarded_of_error result, guarded_of_error (same ▸ result),
        guardedFailure_congr done.twin.alike]
      exact ⟨⟨twin_probedIf done.twin _ _, done.log, .inl rfl⟩, .inl rfl⟩
    · -- Two faults may differ, so it matters whether there was a connection to tell them.
      rw [guarded_of_error failed, guarded_of_error failed']
      have after : (if isProbed (.error (.fault told) : Except Failure α) then
          (service a).shop.probed else (service a).shop).outage = (service a).shop.outage := by
        split
        · exact (Shop.alike_probed _).outage
        · rfl
      rcases known with same | outage
      · -- The two faults may be the same after all.
        rw [failed, failed'] at same
        cases same
        rw [guardedFailure_congr done.twin.alike]
        exact ⟨⟨twin_probedIf done.twin _ _, done.log, .inl rfl⟩, .inl rfl⟩
      · rw [guardedFailure_of_spares outage spares,
          guardedFailure_of_spares (done.twin.outage_eq.trans outage) spares']
        exact ⟨⟨twin_probedIf done.twin _ _, done.log,
          .inr ⟨told, other, rfl, rfl, spares, spares'⟩⟩, .inr (after.trans outage)⟩

/-! #### Failures that are dealt with -/

theorem IsSteady.recover {handler : Failure → Service α} (h : service.IsSteady)
    (hn : ∀ failure, (handler failure).IsSteady)
    (hf : ∀ ⦃a b : Shop⦄ ⦃told other : Fault⦄, a.Twin b → a.outage = false →
      told.invalidated = false → other.invalidated = false →
        (handler (.fault told) a).Agrees (handler (.fault other) b) ∧
          (handler (.fault told) a).shop.outage = false) :
    (service.recover handler).IsSteady := by
  intro a b twin
  obtain ⟨done, known⟩ := h twin
  -- What is done after the same failure is the same for both.
  have again {failure : Failure} (failed : (service a).result = .error failure)
      (failed' : (service b).result = .error failure) :
      (service.recover handler a).Agrees (service.recover handler b) ∧
        ((service.recover handler a).result = (service.recover handler b).result ∨
          (service.recover handler a).shop.outage = false) := by
    rw [recover_of_error failed, recover_of_error failed']
    obtain ⟨handled, known'⟩ := hn failure done.twin
    refine ⟨⟨handled.twin, ?_, handled.result⟩, known'⟩
    rw [List.map_append, List.map_append, done.log, handled.log]
  rcases done.result with same | ⟨told, other, failed, failed', spares, spares'⟩
  · cases result : (service a).result with
    | ok value =>
      rw [recover_of_ok result, recover_of_ok (same ▸ result)]
      exact ⟨done, known⟩
    | error failure => exact again result (same ▸ result)
  · rcases known with same | outage
    · exact again failed (same ▸ failed)
    · rw [recover_of_error failed, recover_of_error failed']
      obtain ⟨handled, open'⟩ := hf done.twin outage spares spares'
      refine ⟨⟨handled.twin, ?_, handled.result⟩, .inr open'⟩
      rw [List.map_append, List.map_append, done.log, handled.log]

/-! #### Work on the store -/

theorem isSteady_onStore {work : Store → Except Fault (α × Store)}
    (spares : ∀ store, SparesConnection (work store)) : (onStore work).IsSteady := by
  apply IsSteady.of_result_eq
  intro a b twin
  have like := twin.alike
  -- The same work is done on the same store, and the connection is not asked.
  unfold onStore
  rw [like.store]
  cases worked : work a.store with
  | ok done =>
    exact ⟨⟨⟨like.config, like.threshold, rfl, like.outage, like.sessions⟩,
      Shop.isIntact_of_left_eq_none rfl, Shop.isIntact_of_left_eq_none rfl⟩, rfl, rfl⟩
  | error fault =>
    have intact {shop : Shop} (left : shop.left = some fault) : shop.IsIntact := by
      intro older left'
      rw [left] at left'
      exact spares a.store older (Option.some.inj left' ▸ worked)
    exact ⟨⟨⟨like.config, like.threshold, rfl, like.outage, like.sessions⟩, intact rfl,
      intact rfl⟩, rfl, rfl⟩

end Service

namespace Shop

open Service

/-! ### The services of a shop -/

theorem isSteady_remember (statement : Statement) :
    (Service.change (·.remember statement)).IsSteady :=
  isSteady_change fun _ _ twin => twin.remember statement

/-- What is written into the sessions of both twins leaves them twins. -/
theorem isSteady_changeSessions (f : Sessions → Sessions) :
    (Service.change fun shop => { shop with sessions := f shop.sessions }).IsSteady :=
  isSteady_change fun _ _ twin =>
    ⟨twin.alike.mapSessions f, twin.first.of_left_eq rfl, twin.second.of_left_eq rfl⟩

/-! #### Products -/

theorem isSteady_isTaken (sku : Text) : (isTaken sku).IsSteady :=
  (isSteady_call (Store.isRegular_productBySku sku)).guarded.bind fun _ => isSteady_pure _

theorem isSteady_judgeSku (limits : Product.Limits) (value : Json) :
    IsSteady (Product.judgeSku limits isTaken value) := by
  unfold Product.judgeSku
  split
  · exact isSteady_pure _
  cases value with
  | str t =>
    refine (isSteady_ofFault _).bind fun verdict => ?_
    cases verdict with
    | accepted sku =>
      refine (isSteady_isTaken sku).bind fun taken => ?_
      split <;> exact isSteady_pure _
    | absent => exact isSteady_pure _
    | refused complaint => exact isSteady_pure _
  | _ => exact isSteady_pure _

theorem isSteady_judge (payload : Json) : (judge payload).IsSteady := by
  cases payload with
  | obj fields =>
    refine isSteady_shop_bind (fun a b like => by rw [limits, limits, like.config]) fun shop => ?_
    refine (isSteady_ofFault _).bind fun title => ?_
    exact (isSteady_judgeSku _ _).bind fun sku => isSteady_pure _
  | _ => exact isSteady_fail _

theorem isSteady_addProduct (draft : Product.Draft) : (addProduct draft).IsSteady := by
  refine IsSteady.bind (IsSteady.guarded ?_) fun product => ?_
  · refine isSteady_connected.bind fun _ => (isSteady_ofFault _).bind fun converted => ?_
    exact isSteady_call (Store.isRegular_addProduct _ _ _)
  · refine (isSteady_remember _).bind fun _ => ?_
    exact (isSteady_record _).bind fun _ => isSteady_pure _

theorem isSteady_findProduct (id : Int) : (findProduct id).IsSteady :=
  (isSteady_call (Store.isRegular_productById id)).guarded

/-! #### Users -/

theorem isSteady_findOrAddUser (email : Text) : (findOrAddUser email).IsSteady := by
  refine (isSteady_call (Store.isRegular_userByEmail email)).bind fun found => ?_
  cases found with
  | some user => exact isSteady_pure _
  | none =>
    refine isSteady_shop_bind (fun a b like => by rw [like.config]) fun shop => ?_
    exact (isSteady_call (Store.isRegular_addUser _ _)).bind fun _ => isSteady_pure _

theorem isSteady_userFor (email : Text) : (userFor email).IsSteady := by
  refine (isSteady_findOrAddUser email).guarded.bind fun (user, isNew) => ?_
  cases isNew with
  | false => exact isSteady_pure _
  | true =>
    refine (isSteady_remember _).bind fun _ => ?_
    exact (isSteady_record _).bind fun _ => isSteady_pure _

theorem isSteady_currentUser (key : Sessions.Key) : (currentUser key).IsSteady := by
  refine isSteady_shop_bind (fun a b like => by rw [like.sessions]) fun shop => ?_
  split
  · exact isSteady_pure _
  · refine IsSteady.guarded ((isSteady_ofFault _).bind fun number => ?_)
    exact isSteady_call (Store.isRegular_userById number)

/-! #### Views -/

theorem isSteady_page (key : Sessions.Key) (status : Nat) (body : Text) :
    (page key status body).IsSteady :=
  (isSteady_currentUser key).bind fun _ => isSteady_pure _

theorem isSteady_homePage (key : Sessions.Key) : (homePage key).IsSteady :=
  (isSteady_currentUser key).bind fun _ => isSteady_pure _

theorem isSteady_forUser (key : Sessions.Key) {work : Service Response} (h : work.IsSteady) :
    (forUser key work).IsSteady := by
  refine (isSteady_currentUser key).bind fun found => ?_
  cases found with
  | some user => exact h
  | none => exact isSteady_page _ _ _

theorem isSteady_logIn (key : Sessions.Key) (body : Body) : (logIn key body).IsSteady := by
  unfold logIn
  dsimp only
  split
  · exact isSteady_page _ _ _
  · refine (isSteady_userFor _).bind fun user => ?_
    refine (isSteady_changeSessions (·.set key (.str (Text.ofNat user.id)))).bind fun _ => ?_
    exact (isSteady_record _).bind fun _ => isSteady_pure _

theorem isSteady_logOut (key : Sessions.Key) : (logOut key).IsSteady := by
  have cleared : IsSteady do
      Service.change fun shop => { shop with sessions := shop.sessions.clear key }
      return Response.page 200 Page.loggedOut :=
    (isSteady_changeSessions (·.clear key)).bind fun _ => isSteady_pure _
  refine (isSteady_currentUser key).bind fun found => ?_
  cases found with
  | some user => exact (isSteady_record _).bind fun _ => cleared
  | none => exact (isSteady_pure ()).bind fun _ => cleared

theorem isSteady_submitProduct (fields : Json.Members) : (submitProduct fields).IsSteady := by
  refine (isSteady_judge _).bind fun report => ?_
  split
  · exact (isSteady_addProduct _).bind fun _ => isSteady_pure _
  · exact isSteady_pure _

theorem isSteady_submitBody (body : Body) : (submitBody body).IsSteady := by
  refine isSteady_shop_bind (fun a b like => by rw [like.config]) fun shop => ?_
  exact (isSteady_ofFault _).bind fun _ => isSteady_submitProduct _

theorem isSteady_showProduct (id : Nat) : (showProduct id).IsSteady := by
  refine (isSteady_findProduct id).bind fun found => ?_
  cases found <;> exact isSteady_pure _

theorem isSteady_productForm (key : Sessions.Key) : (productForm key).IsSteady := by
  refine isSteady_shop_bind (fun a b like => by rw [limits, limits, like.config]) fun shop => ?_
  refine (isSteady_page _ _ _).bind fun response => ?_
  exact (isSteady_ofFault _).bind fun _ => isSteady_pure _

/-- What a view does is not decided by the connection. -/
theorem isSteady_view (v : View) (key : Sessions.Key) (body : Body) :
    (view v key body).IsSteady := by
  cases v with
  | home => exact isSteady_homePage key
  | dashboard => exact isSteady_forUser key (isSteady_homePage key)
  | loginForm => exact isSteady_page _ _ _
  | login => exact isSteady_logIn key body
  | logout => exact isSteady_logOut key
  | addProduct => exact isSteady_forUser key (isSteady_submitBody body)
  | product id => exact isSteady_showProduct id
  | productForm => exact isSteady_forUser key (isSteady_productForm key)
  | file => exact isSteady_pure _

/-! #### Requests -/

/-- A fault is passed on by what answers an unreachable database. -/
theorem isSteady_recover_answerFailure {work : Service Response} (h : work.IsSteady)
    (key : Sessions.Key) : (work.recover (answerFailure key)).IsSteady := by
  refine h.recover (fun failure => ?_) fun a b told other twin outage spares spares' => ?_
  · cases failure with
    | unreachable message cause => exact (isSteady_record _).bind fun _ => isSteady_page _ _ _
    | fault fault => exact isSteady_fail _
  · exact ⟨⟨twin, rfl, .inr ⟨told, other, rfl, rfl, spares, spares'⟩⟩, outage⟩

/-- Two faults that are settled differ in the record at most, and under test they are passed on. -/
theorem isSteady_recover_settle {work : Service Response} (h : work.IsSteady) (request : Request)
    (target : Target) : (work.recover (settle request target)).IsSteady := by
  refine h.recover (fun failure => ?_) fun a b told other twin outage spares spares' => ?_
  · refine isSteady_shop_bind (fun a b like => by rw [like.config]) fun shop => ?_
    split
    · exact isSteady_fail _
    · exact (isSteady_record _).bind fun _ => isSteady_pure _
  · unfold settle
    rw [shop_bind, shop_bind, twin.alike.config]
    cases a.config.isTesting with
    | true => exact ⟨⟨twin, rfl, .inr ⟨told, other, rfl, rfl, spares, spares'⟩⟩, outage⟩
    | false => exact ⟨⟨twin, rfl, .inl rfl⟩, outage⟩

theorem isSteady_answer (request : Request) (target : Target) :
    (answer request target).IsSteady := by
  unfold answer
  split
  · exact isSteady_pure _
  · split <;> try exact isSteady_pure _
    exact isSteady_recover_answerFailure (isSteady_view _ _ _) _

/-- How a request is answered is not decided by the connection. -/
theorem isSteady_respond (request : Request) : (respond request).IsSteady := by
  refine (isSteady_ofFault _).bind fun target => ?_
  refine (isSteady_recover_settle (isSteady_answer request target) request target).bind
    fun response => ?_
  exact isSteady_pure _

end Shop

end Storefront
