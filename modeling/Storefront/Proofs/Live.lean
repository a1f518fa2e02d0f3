import Storefront.Proofs.Access
import Storefront.Proofs.Failures
import Storefront.Proofs.Outage
import Storefront.Proofs.Unreachable

/-!
# A database that can be reached

While connections can be opened, nothing is ever said of an unreachable database, whatever tables
there are and whether or not they may be written. The guard probes the database after a fault of the
driver's, finds it there, and passes the fault on. So a fault that a statement meets anywhere in the
course of a service is the fault in which the service ends, and the page for an unreachable database
is not shown.

## Main definitions

* `Shop.IsLive` — a shop with a database that can be reached
* `Service.FailsOnly` — services that fail with faults of some sort only in such a shop
* `Service.Meets`, `Step.Meets` — the faults that statements meet in the course of a service or step

## Main results

* `Service.exists_fails_of_meets` — a fault that is met is passed on as it is
* `Shop.neverUnreachable_respond` — no request reports an unreachable database
* `Shop.answer_of_live` — what is answered while the database can be reached
-/

namespace Storefront

/-- A fault that the guard passes on while the database can be reached: if it is a driver's fault,
it has not cost the connection. -/
def Fault.IsPassedOn (fault : Fault) : Prop := fault.kind = .operational → fault.invalidated = false

namespace Shop

/-- A shop with a database that can be reached, on a connection that has not been lost. -/
structure IsLive (shop : Shop) : Prop where
  outage : shop.outage = false
  intact : shop.IsIntact

namespace IsLive

variable {shop other : Shop}

theorem of_eq (h : shop.IsLive) (outage : other.outage = shop.outage)
    (left : other.left = shop.left) : other.IsLive :=
  ⟨outage.trans h.outage, h.intact.of_left_eq left⟩

theorem probed (h : shop.IsLive) : shop.probed.IsLive :=
  ⟨(alike_probed shop).outage.trans h.outage, h.intact.probed⟩

theorem remember (h : shop.IsLive) (statement : Statement) : (shop.remember statement).IsLive :=
  h.of_eq (alike_remember shop statement).outage (left_remember shop statement)

/-- The guard finds the database there and leaves the fault as it is. -/
theorem guardedFailure_eq (h : shop.IsLive) {fault : Fault} (passed : fault.IsPassedOn) :
    shop.guardedFailure (.fault fault) = .fault fault := by
  refine if_neg ?_
  rintro ⟨operational, lost | outage⟩
  · rw [passed operational] at lost
    cases lost
  · rw [h.outage] at outage
    cases outage

end IsLive

end Shop

namespace Service

variable {α β : Type} {P Q : Fault → Prop} {service : Service α} {next : α → Service β}

/-- A service that fails with faults of some sort only while the database can be reached, and that
leaves the database so. -/
def FailsOnly (P : Fault → Prop) (service : Service α) : Prop :=
  ∀ ⦃start : Shop⦄, start.IsLive → (service start).shop.IsLive ∧
    ∀ failure, (service start).result = .error failure → ∃ fault, failure = .fault fault ∧ P fault

/-- A service that never reports an unreachable database while it can be reached. -/
abbrev NeverUnreachable (service : Service α) : Prop := service.FailsOnly fun _ => True

theorem FailsOnly.mono (h : service.FailsOnly P) (hPQ : ∀ fault, P fault → Q fault) :
    service.FailsOnly Q := by
  intro start live
  obtain ⟨after, fails⟩ := h live
  refine ⟨after, fun failure result => ?_⟩
  obtain ⟨fault, same, is⟩ := fails failure result
  exact ⟨fault, same, hPQ fault is⟩

theorem FailsOnly.neverUnreachable (h : service.FailsOnly P) : service.NeverUnreachable :=
  h.mono fun _ _ => trivial

/-! ### Single steps -/

theorem failsOnly_pure (a : α) : FailsOnly P (pure a) := fun _ live => ⟨live, nofun⟩

theorem failsOnly_ofFault {result : Except Fault α} (h : ∀ fault, result = .error fault → P fault) :
    FailsOnly P (ofFault result) := by
  intro start live
  cases result with
  | ok a => exact failsOnly_pure a live
  | error fault =>
    refine ⟨live, fun failure same => ⟨fault, ?_, h fault rfl⟩⟩
    exact (Except.error.inj same).symm

theorem neverUnreachable_ofFault (result : Except Fault α) : NeverUnreachable (ofFault result) :=
  failsOnly_ofFault fun _ _ => trivial

theorem failsOnly_record (entry : Log.Record) : FailsOnly P (record entry) :=
  fun _ live => ⟨live, nofun⟩

theorem failsOnly_change {f : Shop → Shop} (h : ∀ ⦃shop : Shop⦄, shop.IsLive → (f shop).IsLive) :
    FailsOnly P (change f) := fun _ live => ⟨h live, nofun⟩

theorem failsOnly_shop : FailsOnly P shop := fun _ live => ⟨live, nofun⟩

theorem failsOnly_connected : FailsOnly P connected := by
  intro start live
  have opened : connected.Gives start () start := gives_connected_iff.2 ⟨live.outage, rfl⟩
  rw [opened.1, opened.2]
  exact ⟨live, nofun⟩

/-! ### Steps in a row -/

theorem FailsOnly.bind (h : service.FailsOnly P) (hn : ∀ a, (next a).FailsOnly P) :
    (service >>= next).FailsOnly P := by
  intro start live
  obtain ⟨mid, fails⟩ := h live
  cases result : (service start).result with
  | ok a =>
    rw [bind_of_ok result]
    exact hn a mid
  | error failure =>
    rw [bind_of_error result]
    refine ⟨mid, fun other same => fails other ?_⟩
    rw [result, Except.error.inj same]

theorem FailsOnly.map (h : service.FailsOnly P) (f : α → β) : FailsOnly P (f <$> service) := by
  rw [← bind_pure_comp]
  exact h.bind fun _ => failsOnly_pure _

/-- The guard passes on whatever a service fails with that has not cost the connection. -/
theorem FailsOnly.guarded (h : service.FailsOnly Fault.IsPassedOn) :
    service.guarded.FailsOnly Fault.IsPassedOn := by
  intro start live
  obtain ⟨after, fails⟩ := h live
  cases result : (service start).result with
  | ok a =>
    rw [guarded_of_ok result]
    exact ⟨after, fails⟩
  | error failure =>
    obtain ⟨fault, rfl, passed⟩ := fails failure result
    rw [guarded_of_error result, after.guardedFailure_eq passed]
    constructor
    · dsimp only
      split
      · exact after.probed
      · exact after
    · intro other same
      exact ⟨fault, (Except.error.inj same).symm, passed⟩

theorem FailsOnly.recover {handler : Failure → Service α} (h : service.NeverUnreachable)
    (hn : ∀ fault, (handler (.fault fault)).FailsOnly P) :
    (service.recover handler).FailsOnly P := by
  intro start live
  obtain ⟨mid, fails⟩ := h live
  cases result : (service start).result with
  | ok a =>
    rw [recover_of_ok result]
    exact ⟨mid, fun failure same => by rw [result] at same; cases same⟩
  | error failure =>
    obtain ⟨fault, rfl, -⟩ := fails failure result
    rw [recover_of_error result]
    exact hn fault mid

/-! ### Statements -/

/-- What a statement fails with has not cost the connection. -/
theorem failsOnly_call {call : Statement.Call β α} (regular : call.IsRegular) :
    FailsOnly Fault.IsPassedOn (Service.call call) := by
  intro start live
  rw [call_of_connected live.outage]
  have twin : start.Twin start := ⟨.refl start, live.intact, live.intact⟩
  have intact := (agrees_perform regular twin).twin.first
  have spares : SparesConnection
      (call.run (start.prepared.contains call.statement) start.left start.store) := by
    cases values : call.values with
    | ok taken =>
      rw [Statement.Call.run_of_values_ok regular values]
      exact regular.effect taken start.store
    | error fault =>
      obtain ⟨told, ran, spared⟩ := Statement.Call.exists_run_of_values_error regular values
        (start.prepared.contains call.statement) live.intact start.store
      rw [ran]
      exact sparesConnection_error spared
  have outage : (perform call start).shop.outage = start.outage := by
    unfold perform
    dsimp only
    split <;> exact (start.alike_remember call.statement).outage
  refine ⟨⟨outage.trans live.outage, intact⟩, fun failure result => ?_⟩
  cases ran : call.run (start.prepared.contains call.statement) start.left start.store with
  | ok done =>
    rw [perform_of_run_eq_ok ran] at result
    cases result
  | error fault =>
    rw [perform_of_run_eq_error ran] at result
    exact ⟨fault, (Except.error.inj result).symm, fun _ => spares fault ran⟩

/-- So a statement that meets a fault leaves a database that can be reached. -/
theorem exists_fails_call {call : Statement.Call β α} {start : Shop} {fault : Fault}
    (regular : call.IsRegular) (live : start.IsLive)
    (ran : call.run (start.prepared.contains call.statement) start.left start.store =
      .error fault) :
    ∃ after, (Service.call call).Fails start (.fault fault) after ∧ after.IsLive ∧
      fault.IsPassedOn := by
  have called : (Service.call call).Fails start (.fault fault) (perform call start).shop := by
    rw [Fails, call_of_connected live.outage, perform_of_run_eq_error ran]
    exact ⟨rfl, rfl⟩
  obtain ⟨after, fails⟩ := failsOnly_call regular live
  obtain ⟨other, same, passed⟩ := fails _ called.1
  cases same
  exact ⟨_, called, called.2 ▸ after, passed⟩

/-- The guard passes on a fault that a service ends in while the database can be reached. -/
theorem exists_fails_guarded {start mid : Shop} {fault : Fault}
    (fails : service.Fails start (.fault fault) mid) (live : mid.IsLive)
    (passed : fault.IsPassedOn) : ∃ after, service.guarded.Fails start (.fault fault) after :=
  ⟨_, fails_guarded_iff.2 ⟨_, mid, fails, (live.guardedFailure_eq passed).symm, rfl⟩⟩

/-! ### Faults that are met -/

/-- A fault that a statement meets in the course of a service, on a connection that it has not
cost. -/
inductive Meets : {α : Type} → Service α → Shop → Fault → Prop
  | statement {α β : Type} {call : Statement.Call β α} {start after : Shop} {fault : Fault}
      (outage : start.outage = false) (fails : (Service.call call).Fails start (.fault fault) after)
      (spares : fault.invalidated = false) : Meets (Service.call call) start fault
  | first {α β : Type} {service : Service α} {start : Shop} {fault : Fault}
      (meets : Meets service start fault) (next : α → Service β) :
    Meets (service >>= next) start fault
  | next {α β : Type} {service : Service α} {next : α → Service β} {start mid : Shop} {a : α}
      {fault : Fault} (gives : service.Gives start a mid) (meets : Meets (next a) mid fault) :
    Meets (service >>= next) start fault
  | guarded {α : Type} {service : Service α} {start : Shop} {fault : Fault}
      (meets : Meets service start fault) : Meets service.guarded start fault

/-- A fault that is met is passed on as it is, by induction on where it is met. -/
theorem exists_fails_of_meets {start : Shop} {fault : Fault} (h : service.Meets start fault) :
    fault.invalidated = false ∧
      ∃ after, service.Fails start (.fault fault) after ∧ after.outage = false := by
  induction h with
  | @statement _ _ call start after fault outage fails spares =>
    exact ⟨spares, after, fails, (isAtomic_call call fails).outage.trans outage⟩
  | first meets next ih =>
    obtain ⟨spares, after, fails, outage⟩ := ih
    exact ⟨spares, after, fails_bind_iff.2 (.inl fails), outage⟩
  | next gives meets ih =>
    obtain ⟨spares, after, fails, outage⟩ := ih
    exact ⟨spares, after, fails_bind_iff.2 (.inr ⟨_, _, gives, fails⟩), outage⟩
  | @guarded _ service start fault meets ih =>
    obtain ⟨spares, mid, fails, outage⟩ := ih
    refine ⟨spares, _, fails_guarded_iff.2 ⟨.fault fault, mid, fails, ?_, rfl⟩, ?_⟩
    · exact (guardedFailure_of_spares outage spares).symm
    · split
      · exact (Shop.alike_probed mid).outage.trans outage
      · exact outage

end Service

open Service

namespace Shop

/-! ### What is asked of the shop -/

theorem failsOnly_loadUser (id : Json) : (loadUser id).FailsOnly Fault.IsPassedOn := by
  refine FailsOnly.guarded (FailsOnly.bind (failsOnly_ofFault fun fault read operational => ?_)
    fun number => failsOnly_call (Store.isRegular_userById number))
  -- A value that stands for no number is no matter of the driver.
  exact absurd operational (kind_ne_operational_of_userNumber read)

theorem neverUnreachable_currentUser (key : Sessions.Key) : (currentUser key).NeverUnreachable := by
  refine failsOnly_shop.bind fun shop => ?_
  split
  · exact failsOnly_pure none
  · exact (failsOnly_loadUser _).neverUnreachable

theorem failsOnly_findOrAddUser (email : Text) :
    (findOrAddUser email).FailsOnly Fault.IsPassedOn := by
  refine (failsOnly_call (Store.isRegular_userByEmail email)).bind fun found => ?_
  cases found with
  | some user => exact failsOnly_pure _
  | none =>
    refine failsOnly_shop.bind fun shop => ?_
    exact (failsOnly_call (Store.isRegular_addUser _ _)).bind fun _ => failsOnly_pure _

theorem neverUnreachable_remember (statement : Statement) :
    NeverUnreachable (Service.change (·.remember statement)) :=
  failsOnly_change fun _ live => live.remember statement

theorem neverUnreachable_userFor (email : Text) : (userFor email).NeverUnreachable := by
  refine (failsOnly_findOrAddUser email).guarded.neverUnreachable.bind fun (user, isNew) => ?_
  cases isNew with
  | false => exact failsOnly_pure _
  | true =>
    refine (neverUnreachable_remember _).bind fun _ => ?_
    exact (failsOnly_record _).bind fun _ => failsOnly_pure _

theorem neverUnreachable_isTaken (sku : Text) : (isTaken sku).NeverUnreachable :=
  (failsOnly_call (Store.isRegular_productBySku sku)).guarded.neverUnreachable.bind
    fun _ => failsOnly_pure _

theorem neverUnreachable_judgeSku (limits : Product.Limits) (value : Json) :
    NeverUnreachable (Product.judgeSku limits isTaken value) := by
  unfold Product.judgeSku
  split
  · exact failsOnly_pure _
  cases value with
  | str t =>
    refine (neverUnreachable_ofFault _).bind fun verdict => ?_
    cases verdict with
    | accepted sku =>
      refine (neverUnreachable_isTaken sku).bind fun taken => ?_
      split <;> exact failsOnly_pure _
    | absent => exact failsOnly_pure _
    | refused complaint => exact failsOnly_pure _
  | _ => exact failsOnly_pure _

theorem neverUnreachable_judge (payload : Json) : (judge payload).NeverUnreachable := by
  cases payload with
  | obj fields =>
    refine failsOnly_shop.bind fun shop => (neverUnreachable_ofFault _).bind fun title => ?_
    exact (neverUnreachable_judgeSku _ _).bind fun sku => failsOnly_pure _
  | _ => exact neverUnreachable_ofFault (.error _)

theorem neverUnreachable_addProduct (draft : Product.Draft) :
    (addProduct draft).NeverUnreachable := by
  refine FailsOnly.bind (FailsOnly.guarded ?_).neverUnreachable fun product => ?_
  · refine failsOnly_connected.bind fun _ => FailsOnly.bind ?_ fun converted => ?_
    · exact failsOnly_ofFault fun fault converted _ =>
        draft.sparesConnection_convert fault converted
    · exact failsOnly_call (Store.isRegular_addProduct _ _ _)
  · refine (neverUnreachable_remember _).bind fun _ => ?_
    exact (failsOnly_record _).bind fun _ => failsOnly_pure _

theorem neverUnreachable_findProduct (id : Int) : (findProduct id).NeverUnreachable :=
  (failsOnly_call (Store.isRegular_productById id)).guarded.neverUnreachable

theorem neverUnreachable_page (key : Sessions.Key) (status : Nat) (body : Text) :
    (page key status body).NeverUnreachable :=
  (neverUnreachable_currentUser key).bind fun _ => failsOnly_pure _

theorem neverUnreachable_homePage (key : Sessions.Key) : (homePage key).NeverUnreachable :=
  (neverUnreachable_currentUser key).bind fun _ => failsOnly_pure _

theorem neverUnreachable_forUser (key : Sessions.Key) {work : Service Response}
    (h : work.NeverUnreachable) : (forUser key work).NeverUnreachable := by
  refine (neverUnreachable_currentUser key).bind fun found => ?_
  cases found with
  | some user => exact h
  | none => exact neverUnreachable_page _ _ _

/-- What is written into sessions is no matter of the connection. -/
theorem neverUnreachable_changeSessions (f : Sessions → Sessions) :
    NeverUnreachable (Service.change fun shop => { shop with sessions := f shop.sessions }) :=
  failsOnly_change fun _ live => live.of_eq rfl rfl

theorem neverUnreachable_logIn (key : Sessions.Key) (body : Body) :
    (logIn key body).NeverUnreachable := by
  unfold logIn
  dsimp only
  split
  · exact neverUnreachable_page _ _ _
  · refine (neverUnreachable_userFor _).bind fun user => ?_
    exact (neverUnreachable_changeSessions (·.set key (.str (Text.ofNat user.id)))).bind fun _ =>
      (failsOnly_record _).bind fun _ => failsOnly_pure _

theorem neverUnreachable_logOut (key : Sessions.Key) : (logOut key).NeverUnreachable := by
  have cleared : NeverUnreachable do
      Service.change fun shop => { shop with sessions := shop.sessions.clear key }
      return Response.page 200 Page.loggedOut :=
    (neverUnreachable_changeSessions (·.clear key)).bind fun _ => failsOnly_pure _
  refine (neverUnreachable_currentUser key).bind fun found => ?_
  cases found with
  | some user => exact (failsOnly_record _).bind fun _ => cleared
  | none => exact (failsOnly_pure ()).bind fun _ => cleared

theorem neverUnreachable_submitProduct (fields : Json.Members) :
    (submitProduct fields).NeverUnreachable := by
  refine (neverUnreachable_judge _).bind fun report => ?_
  split
  · exact (neverUnreachable_addProduct _).bind fun _ => failsOnly_pure _
  · exact failsOnly_pure _

theorem neverUnreachable_submitBody (body : Body) : (submitBody body).NeverUnreachable :=
  failsOnly_shop.bind fun _ => (neverUnreachable_ofFault _).bind fun _ =>
    neverUnreachable_submitProduct _

theorem neverUnreachable_showProduct (id : Nat) : (showProduct id).NeverUnreachable := by
  refine (neverUnreachable_findProduct id).bind fun found => ?_
  cases found <;> exact failsOnly_pure _

theorem neverUnreachable_productForm (key : Sessions.Key) : (productForm key).NeverUnreachable :=
  failsOnly_shop.bind fun _ => (neverUnreachable_page _ _ _).bind fun _ =>
    (neverUnreachable_ofFault _).bind fun _ => failsOnly_pure _

/-- No view reports an unreachable database while it can be reached. -/
theorem neverUnreachable_view (v : View) (key : Sessions.Key) (body : Body) :
    (view v key body).NeverUnreachable := by
  cases v with
  | home => exact neverUnreachable_homePage key
  | dashboard => exact neverUnreachable_forUser key (neverUnreachable_homePage key)
  | loginForm => exact neverUnreachable_page _ _ _
  | login => exact neverUnreachable_logIn key body
  | logout => exact neverUnreachable_logOut key
  | addProduct => exact neverUnreachable_forUser key (neverUnreachable_submitBody body)
  | product id => exact neverUnreachable_showProduct id
  | productForm => exact neverUnreachable_forUser key (neverUnreachable_productForm key)
  | file => exact failsOnly_pure _

/-- A view's fault is passed on by what would answer an unreachable database. -/
theorem neverUnreachable_recover_answerFailure (v : View) (key : Sessions.Key) (body : Body) :
    ((view v key body).recover (answerFailure key)).NeverUnreachable :=
  (neverUnreachable_view v key body).recover fun fault => neverUnreachable_ofFault (.error fault)

theorem neverUnreachable_settle (request : Request) (target : Target) (fault : Fault) :
    (settle request target (.fault fault)).NeverUnreachable :=
  failsOnly_shop.bind fun shop => by
    split
    · exact neverUnreachable_ofFault (.error fault)
    · exact (failsOnly_record _).bind fun _ => failsOnly_pure _

theorem neverUnreachable_answer (request : Request) (target : Target) :
    (answer request target).NeverUnreachable := by
  unfold answer
  split
  · exact failsOnly_pure _
  · split <;> try exact failsOnly_pure _
    exact neverUnreachable_recover_answerFailure _ _ _

/-- No request reports an unreachable database while it can be reached. -/
theorem neverUnreachable_respond (request : Request) : (respond request).NeverUnreachable :=
  (neverUnreachable_ofFault _).bind fun target =>
    ((neverUnreachable_answer request target).recover fun _ => neverUnreachable_settle _ _ _).bind
      fun _ => failsOnly_pure _

/-! #### The tables and the probe -/

theorem sparesConnection_makeTables (store : Store) : SparesConnection store.makeTables := by
  unfold Store.makeTables
  split
  · exact sparesConnection_ok _
  · exact (sparesConnection_checkWritable _).bind fun _ => sparesConnection_ok _

/-- What the making of tables comes to is passed on while the database can be reached. -/
theorem madeStore_of_live {shop : Shop} (live : shop.IsLive) :
    shop.madeStore = shop.store.makeTables.mapError .fault := by
  cases made : shop.store.makeTables with
  | ok store => exact madeStore_eq_ok_iff.2 ⟨live.outage, made⟩
  | error fault =>
    have passed : fault.IsPassedOn := fun _ => sparesConnection_makeTables _ fault made
    obtain ⟨probe, engine⟩ := shop.check_engine
    rw [live.outage, if_neg Bool.false_ne_true] at probe
    unfold madeStore outcome Database.prepare
    rw [live.outage, if_neg Bool.false_ne_true, made, Database.Work.bind_of_ok probe, engine]
    exact (outcome_guard_error shop (.fault fault)).trans
      (congrArg Except.error (live.guardedFailure_eq passed))

theorem neverUnreachable_prepareAt (url : Database.Url) : (prepareAt url).NeverUnreachable := by
  intro start live
  constructor
  · change ({ start with store := start.madeStore.toOption.getD start.store } : Shop).probed.IsLive
    exact IsLive.probed (live.of_eq rfl rfl)
  · intro failure result
    change (Database.announce url start.madeStore).1.map (fun _ => ()) = .error failure at result
    rw [madeStore_of_live live] at result
    -- Either the tables were not made, or they were and the address cannot be told.
    cases made : start.store.makeTables with
    | ok store =>
      cases shown : url.shown with
      | ok address => simp [made, Except.mapError, Database.announce, shown, Except.map] at result
      | error fault =>
        refine ⟨fault, ?_, trivial⟩
        simpa [made, Except.mapError, Database.announce, shown, Except.map, eq_comm] using result
    | error fault =>
      refine ⟨fault, ?_, trivial⟩
      simpa [made, Except.mapError, Database.announce, Except.map, eq_comm] using result

theorem neverUnreachable_prepare : prepare.NeverUnreachable :=
  failsOnly_shop.bind fun _ => (neverUnreachable_ofFault _).bind neverUnreachable_prepareAt

/-- A fault in the making of tables is what it comes to. -/
theorem exists_fails_prepare {start : Shop} {fault : Fault} (live : start.IsLive)
    (shows : start.config.ShowsDatabase) (unmade : start.store.makeTables = .error fault) :
    ∃ after, prepare.Fails start (.fault fault) after := by
  obtain ⟨url, address, read, -⟩ := shows
  refine ⟨_, ?_, rfl⟩
  rw [prepare_of_read read]
  change (Database.announce url start.madeStore).1.map (fun _ => ()) = _
  rw [madeStore_of_live live, unmade]
  rfl

theorem neverUnreachable_check : Step.check.service.NeverUnreachable := by
  intro start live
  have probe : start.outcome Database.check = .ok () := by
    rw [outcome, start.check_engine.1, live.outage]
    rfl
  have same : Step.check.service start =
      { result := .ok .confirmed, shop := start.probed, log := [] } := by
    change (Service.ofResult (start.outcome Database.check) >>= _) start = _
    rw [probe]
    rfl
  rw [same]
  refine ⟨live.probed, fun failure result => ?_⟩
  cases result

end Shop

/-! ### Steps -/

namespace Step

/-- Nothing that is asked of the shop reports an unreachable database while it can be reached. -/
theorem neverUnreachable_service {step : Step} (asks : step.isOfShop = true) :
    step.service.NeverUnreachable := by
  cases step with
  | request sent => exact (Shop.neverUnreachable_respond sent).map _
  | prepare => exact Shop.neverUnreachable_prepare.bind fun _ => failsOnly_pure _
  | check => exact Shop.neverUnreachable_check
  | judge payload => exact (Shop.neverUnreachable_judge payload).map _
  | addProduct fields =>
    exact (neverUnreachable_ofFault _).bind fun draft =>
      (Shop.neverUnreachable_addProduct draft).bind fun _ => failsOnly_pure _
  | findProduct id => exact (Shop.neverUnreachable_findProduct id).map _
  | userFor email => exact (Shop.neverUnreachable_userFor email).map _
  | _ => cases asks

/-- A fault that the database has in the course of a step. -/
def Meets (shop : Shop) (fault : Fault) : Step → Prop
  | .request sent =>
    ∃ visit, sent.visit? = some visit ∧
      (Shop.view visit.view visit.key sent.body).Meets shop fault
  | .prepare => shop.store.makeTables = .error fault
  | step => step.service.Meets shop fault

/-- The answer to a step that ends in a fault. Outside of tests a browser is told nothing of it. -/
def answerTo (shop : Shop) (fault : Fault) : Step → Answer
  | .request sent =>
    if shop.config.isTesting then .failed (.fault fault)
    else .response (sent.delivered (.page 500 Page.internalError))
  | _ => .failed (.fault fault)

end Step

namespace Shop

variable {shop : Shop} {step : Step} {request : Request} {fault : Fault}

/-- A step that meets a fault is answered with that fault. -/
theorem answer_of_meets (live : shop.IsLive) (shows : shop.config.ShowsDatabase)
    (meets : step.Meets shop fault) : (shop.step step).answer = step.answerTo shop fault := by
  have direct (meets : step.service.Meets shop fault) :
      (shop.step step).answer = .failed (.fault fault) := by
    obtain ⟨-, after, fails, -⟩ := exists_fails_of_meets meets
    exact (step_of_fails fails).1
  cases step with
  | request sent =>
    obtain ⟨visit, visited, meets⟩ := meets
    obtain ⟨-, after, fails, -⟩ := exists_fails_of_meets meets
    exact answer_of_view_fails visited fails
  | prepare =>
    obtain ⟨after, fails⟩ := exists_fails_prepare live shows meets
    exact (step_of_fails (fails_map_iff.2 fails)).1
  | _ => exact direct meets

/-- A view never answers with the status of an unreachable database. -/
theorem Serves.status_ne {key : Sessions.Key} {body : Body} {v : View} {response : Response}
    {after : Shop} (serves : shop.Serves key body v response after) : response.status ≠ 503 := by
  cases serves <;> simp

/-- No request is answered with the page for an unreachable database while it can be reached. -/
theorem status_ne_of_live (live : shop.IsLive) (request : Request) :
    (shop.step (.request request)).answer.status? ≠ some 503 := by
  cases visited : request.visit? with
  | none =>
    obtain ⟨changed, handles, -⟩ := shop.exists_handles request
    generalize (shop.step (.request request)).answer = answer at handles
    cases handles with
    | unsent => simp [Answer.status?]
    | unvisited unvisited known =>
      intro status
      rw [Option.some.inj status] at known
      revert known
      decide
    | served visited' | unavailable visited' | broken visited' | failed visited' =>
      rw [visited] at visited'
      cases visited'
  | some visit =>
    rcases gives_or_fails (settled request visit) shop with
      ⟨response, after, ends⟩ | ⟨failure, after, ends⟩
    · have different : response.status ≠ 503 := by
        rcases gives_recover_iff.1 ends with done | ⟨second, last, -, settles⟩
        · rcases gives_recover_iff.1 done with shown | ⟨first, mid, raised, answered⟩
          · obtain ⟨changed, serves, -⟩ := exists_serves_of_gives shown
            exact serves.status_ne
          · -- What a view fails with is a fault, for which there is no page.
            obtain ⟨fault, rfl, -⟩ := (neverUnreachable_view _ _ _ live).2 first raised.1
            simp [answerFailure] at answered
        · rw [gives_settle settles]
          decide
      rw [(step_of_gives_settled visited ends).1]
      simpa [Answer.status?] using different
    · rw [(step_of_fails_settled visited ends).1]
      simp [Answer.status?]

/-- A step that ends well is not answered with a failure. -/
theorem ne_failed_of_gives {answer : Answer} {after : Shop} {failure : Failure}
    (h : step.service.Gives shop answer after) : answer ≠ .failed failure := by
  rintro rfl
  by_cases isRequest : ∃ request, step = .request request
  · obtain ⟨request, rfl⟩ := isRequest
    obtain ⟨response, -, same⟩ := gives_map_iff.1 h
    cases same
  · exact not_isFailure_of_gives (not_exists.1 isRequest) h trivial

/-- Only requests are answered with a status. -/
theorem status_ne_of_noRequest (noRequest : ∀ request, step ≠ .request request) :
    (shop.step step).answer.status? ≠ some 503 := by
  rcases gives_or_fails step.service shop with ⟨answer, after, ends⟩ | ⟨failure, after, ends⟩
  · rw [(step_of_gives ends).1]
    have well := not_isFailure_of_gives noRequest ends
    cases answer with
    | response sent =>
      intro status
      rw [Answer.IsFailure, Option.some.inj status] at well
      exact well (by decide)
    | _ => simp [Answer.status?]
  · rw [(step_of_fails ends).1]
    simp [Answer.status?]

/-- While the database can be reached, nothing that is asked of the shop is answered with word of an
unreachable database, and a fault that the database has in the course of it is the one that is
answered. -/
theorem answer_of_live {config : Config} (reachable : shop.IsReachable (fun _ => True) config)
    (outage : shop.outage = false) (asks : step.isOfShop = true) :
    (∀ message cause, (shop.step step).answer ≠ .failed (.unreachable message cause)) ∧
      (shop.step step).answer.status? ≠ some 503 ∧
      ∀ fault, step.Meets shop fault → (shop.step step).answer = step.answerTo shop fault := by
  have live : shop.IsLive := ⟨outage, isIntact_of_isReachable reachable⟩
  refine ⟨fun message cause answered => ?_, ?_, fun fault => ?_⟩
  · rcases gives_or_fails step.service shop with ⟨answer, after, ends⟩ | ⟨failure, after, ends⟩
    · rw [(step_of_gives ends).1] at answered
      exact ne_failed_of_gives ends answered
    · rw [(step_of_fails ends).1] at answered
      obtain ⟨fault, rfl, -⟩ := (Step.neverUnreachable_service asks live).2 failure ends.1
      cases answered
  · by_cases isRequest : ∃ request, step = .request request
    · obtain ⟨request, rfl⟩ := isRequest
      exact status_ne_of_live live request
    · exact status_ne_of_noRequest (not_exists.1 isRequest)
  · exact answer_of_meets live (showsDatabase_of_isReachable reachable)

/-- What befalls a shop that loses its products and takes no writes from then on. -/
def losses : List Step := [.dropTable .products, .setReadOnly true]

/-- The shop that is opened in the standard configuration. -/
def standard : Shop := (prepare { config := .standard {}, threshold := 20 }).shop

/-- After such losses a product is looked for and a user is to be added, under test and
otherwise. -/
theorem answer_of_live_losses :
    (forTests.run losses).2.outage = false ∧
      ((forTests.run losses).2.step (.request (.forPage "a" "/products/1"))).answer =
        .failed (.fault (.noTable .products)) ∧
      ((forTests.run losses).2.step (.userFor (Text.ofString "b@example.com"))).answer =
        .failed (.fault .readOnly) ∧
      (standard.run losses).2.outage = false ∧
      ((standard.run losses).2.step (.request (.forPage "a" "/products/1"))).answer =
        .response (.page 500 Page.internalError) := by
  have reachable : (forTests.run losses).2.IsReachable (fun _ => True) (.forTests {}) :=
    ⟨false, forTests, _, rfl, fun _ _ => trivial, rfl⟩
  have standing : (standard.run losses).2.IsReachable (fun _ => True) (.standard {}) :=
    ⟨false, standard, _, rfl, fun _ _ => trivial, rfl⟩
  have unlisted (shop : Shop) (fails : ∃ after,
      (Service.call (Store.productById 1)).Fails shop (.fault (.noTable .products)) after)
      (outage : shop.outage = false) :
      (Step.request (.forPage "a" "/products/1")).Meets shop (.noTable .products) := by
    obtain ⟨after, fails⟩ := fails
    exact ⟨_, rfl, .first (.guarded (.statement outage fails rfl)) _⟩
  have unwritable : (Step.userFor (Text.ofString "b@example.com")).Meets (forTests.run losses).2
      .readOnly := by
    have added : (findOrAddUser (Text.ofString "b@example.com")).Meets (forTests.run losses).2
        .readOnly :=
      .next (a := none) ⟨rfl, rfl⟩
        (.next ⟨rfl, rfl⟩ (.first (.statement rfl ⟨rfl, rfl⟩ rfl) _))
    exact .first (.first added.guarded _) _
  refine ⟨rfl, ?_, ?_, rfl, ?_⟩
  · exact (answer_of_live reachable rfl rfl).2.2 _ (unlisted _ ⟨_, rfl, rfl⟩ rfl)
  · exact (answer_of_live reachable rfl rfl).2.2 _ unwritable
  · exact (answer_of_live standing rfl rfl).2.2 _ (unlisted _ ⟨_, rfl, rfl⟩ rfl)

end Shop

end Storefront
