import Storefront.Proofs.Reachable

/-!
# What is done in an outage

While no connection can be opened, nothing that is asked of the shop changes it: neither a table nor
a session, nor what the connection remembers. Most services fail before they have done anything.
Some go through, since they need no connection or find the session empty, and these change nothing
either: the logout of an empty session clears what is clear already. So a run goes on as it would
without all that was asked of the shop in an outage.

## Main definitions

* `Service.IsIdle`, `Service.IsBarred` — services that change nothing in an outage, and those that
  fail in one
* `Step.isOfShop` — the steps that ask something of the shop
* `Shop.transcript` — a run with what was answered and whether there was an outage

## Main results

* `Shop.isIdle_view`, `Shop.step_of_outage` — what is asked of the shop in an outage changes nothing
* `Shop.run_spared` — a run without such steps
-/

namespace Storefront

namespace Sessions

/-- Nothing is cleared of a session that is empty. -/
theorem clear_of_get?_eq_none {sessions : Sessions} {key : Key} (empty : sessions.get? key = none) :
    sessions.clear key = sessions := by
  refine List.filter_eq_self.2 fun entry mem => ?_
  have differs := List.lookup_eq_none_iff.1 empty entry mem
  exact decide_eq_true (bne_iff_ne.1 differs).symm

end Sessions

theorem Shop.probed_of_outage {shop : Shop} (outage : shop.outage = true) : shop.probed = shop := by
  rw [probed, if_pos outage]

namespace Service

variable {α β : Type} {service : Service α} {next : α → Service β} {start : Shop}

/-- A service that leaves the shop exactly as it is in an outage. -/
def IsIdle (service : Service α) : Prop :=
  ∀ ⦃start : Shop⦄, start.outage = true → (service start).shop = start

/-- A service that fails in an outage and leaves the shop exactly as it is. -/
def IsBarred (service : Service α) : Prop :=
  ∀ ⦃start : Shop⦄, start.outage = true → ∃ failure, service.Fails start failure start

theorem IsBarred.isIdle (h : service.IsBarred) : service.IsIdle := by
  intro start outage
  obtain ⟨failure, -, same⟩ := h outage
  exact same

/-! ### Services that change nothing -/

theorem isIdle_ofResult (result : Except Failure α) : IsIdle (ofResult result) := fun _ _ => rfl

theorem isIdle_pure (a : α) : IsIdle (pure a) := isIdle_ofResult _

theorem isIdle_fail (failure : Failure) : IsIdle (fail failure : Service α) := isIdle_ofResult _

theorem isIdle_ofFault (result : Except Fault α) : IsIdle (ofFault result) := isIdle_ofResult _

theorem isIdle_record (entry : Log.Record) : IsIdle (record entry) := fun _ _ => rfl

theorem isIdle_shop : IsIdle shop := fun _ _ => rfl

theorem IsIdle.bind (h : service.IsIdle) (hn : ∀ a, (next a).IsIdle) :
    (service >>= next).IsIdle := by
  intro start outage
  have same := h outage
  cases result : (service start).result with
  | ok a =>
    rw [bind_of_ok result, same]
    exact hn a outage
  | error failure => rw [bind_of_error result, same]

theorem IsIdle.map (h : service.IsIdle) (f : α → β) : IsIdle (f <$> service) := by
  rw [← bind_pure_comp]
  exact h.bind fun _ => isIdle_pure _

/-- The probe of the guard finds no connection that it might clear. -/
theorem IsIdle.guarded (h : service.IsIdle) : service.guarded.IsIdle := by
  intro start outage
  have same := h outage
  simp only [Service.guarded, same, Shop.probed_of_outage outage, ite_self]

theorem IsIdle.recover {handler : Failure → Service α} (h : service.IsIdle)
    (hn : ∀ failure, (handler failure).IsIdle) : (service.recover handler).IsIdle := by
  intro start outage
  have same := h outage
  cases result : (service start).result with
  | ok a => rw [recover_of_ok result, same]
  | error failure =>
    rw [recover_of_error result, same]
    exact hn failure outage

/-! ### Services that fail -/

theorem isBarred_connected : IsBarred connected := fun _ outage =>
  ⟨_, fails_connected_iff.2 ⟨outage, rfl, rfl⟩⟩

/-- What would follow a service that fails is not done. -/
theorem IsBarred.bind (h : service.IsBarred) (next : α → Service β) :
    (service >>= next).IsBarred := by
  intro start outage
  obtain ⟨failure, fails⟩ := h outage
  exact ⟨failure, fails_bind_iff.2 (.inl fails)⟩

theorem IsBarred.guarded (h : service.IsBarred) : service.guarded.IsBarred := by
  intro start outage
  obtain ⟨failure, fails⟩ := h outage
  refine ⟨_, fails_guarded_iff.2 ⟨failure, start, fails, rfl, ?_⟩⟩
  rw [Shop.probed_of_outage outage, ite_self]

/-- No statement is made without a connection. -/
theorem isBarred_call (call : Statement.Call β α) : IsBarred (Service.call call) :=
  isBarred_connected.bind _

end Service

open Service

namespace Shop

/-! ### What is asked of the shop -/

theorem isIdle_currentUser (key : Sessions.Key) : (currentUser key).IsIdle := by
  refine isIdle_shop.bind fun shop => ?_
  split
  · exact isIdle_pure none
  · exact IsIdle.guarded ((isIdle_ofFault _).bind fun _ => (isBarred_call _).isIdle)

/-- In an outage nobody is found for a session that holds anything. -/
theorem get?_eq_none_of_gives_currentUser {start after : Shop} {key : Sessions.Key}
    {found : Option User} (outage : start.outage = true)
    (h : (currentUser key).Gives start found after) : start.sessions.get? key = none := by
  cases held : start.sessions.get? key with
  | none => rfl
  | some id =>
    rw [Service.Gives, currentUser_of_get?_eq_some held] at h
    obtain ⟨number, -, called⟩ := gives_ofFault_bind_iff.1 (gives_guarded_iff.1 h)
    rw [(gives_call called).1] at outage
    cases outage

theorem isBarred_userFor (email : Text) : (userFor email).IsBarred :=
  ((isBarred_call _).bind _).guarded.bind _

theorem isBarred_isTaken (sku : Text) : (isTaken sku).IsBarred := (isBarred_call _).guarded.bind _

theorem isIdle_judgeSku (limits : Product.Limits) (value : Json) :
    IsIdle (Product.judgeSku limits isTaken value) := by
  unfold Product.judgeSku
  split
  · exact isIdle_pure _
  cases value with
  | str t =>
    refine (isIdle_ofFault _).bind fun verdict => ?_
    cases verdict with
    | accepted sku => exact ((isBarred_isTaken sku).bind _).isIdle
    | absent => exact isIdle_pure _
    | refused complaint => exact isIdle_pure _
  | _ => exact isIdle_pure _

theorem isIdle_judge (payload : Json) : (judge payload).IsIdle := by
  cases payload with
  | obj fields =>
    refine isIdle_shop.bind fun shop => (isIdle_ofFault _).bind fun title => ?_
    exact (isIdle_judgeSku _ _).bind fun sku => isIdle_pure _
  | _ => exact isIdle_fail _

theorem isBarred_addProduct (draft : Product.Draft) : (addProduct draft).IsBarred :=
  (isBarred_connected.bind _).guarded.bind _

theorem isBarred_findProduct (id : Int) : (findProduct id).IsBarred := (isBarred_call _).guarded

theorem isIdle_page (key : Sessions.Key) (status : Nat) (body : Text) :
    (page key status body).IsIdle :=
  (isIdle_currentUser key).bind fun _ => isIdle_pure _

theorem isIdle_homePage (key : Sessions.Key) : (homePage key).IsIdle :=
  (isIdle_currentUser key).bind fun _ => isIdle_pure _

theorem isIdle_forUser (key : Sessions.Key) {work : Service Response} (h : work.IsIdle) :
    (forUser key work).IsIdle := by
  refine (isIdle_currentUser key).bind fun found => ?_
  cases found with
  | some user => exact h
  | none => exact isIdle_page _ _ _

theorem isIdle_logIn (key : Sessions.Key) (body : Body) : (logIn key body).IsIdle := by
  unfold logIn
  dsimp only
  split
  · exact isIdle_page _ _ _
  · exact ((isBarred_userFor _).bind _).isIdle

/-- Only the logout of an empty session goes through, and that clears nothing. -/
theorem isIdle_logOut (key : Sessions.Key) : (logOut key).IsIdle := by
  intro start outage
  have same := isIdle_currentUser key outage
  cases result : (currentUser key start).result with
  | ok found =>
    have empty := get?_eq_none_of_gives_currentUser outage ⟨result, same⟩
    have cleared : ({ start with sessions := start.sessions.clear key } : Shop) = start := by
      rw [Sessions.clear_of_get?_eq_none empty]
    unfold logOut
    rw [bind_of_ok result, same]
    cases found with
    | none => exact cleared
    | some user => exact cleared
  | error failure =>
    unfold logOut
    rw [bind_of_error result, same]

theorem isIdle_submitProduct (fields : Json.Members) : (submitProduct fields).IsIdle := by
  refine (isIdle_judge _).bind fun report => ?_
  split
  · exact ((isBarred_addProduct _).bind _).isIdle
  · exact isIdle_pure _

theorem isIdle_submitBody (body : Body) : (submitBody body).IsIdle :=
  isIdle_shop.bind fun _ => (isIdle_ofFault _).bind fun _ => isIdle_submitProduct _

theorem isIdle_showProduct (id : Nat) : (showProduct id).IsIdle :=
  ((isBarred_findProduct id).bind _).isIdle

theorem isIdle_productForm (key : Sessions.Key) : (productForm key).IsIdle :=
  isIdle_shop.bind fun _ => (isIdle_page _ _ _).bind fun _ =>
    (isIdle_ofFault _).bind fun _ => isIdle_pure _

/-- No view changes anything in an outage. -/
theorem isIdle_view (v : View) (key : Sessions.Key) (body : Body) : (view v key body).IsIdle := by
  cases v with
  | home => exact isIdle_homePage key
  | dashboard => exact isIdle_forUser key (isIdle_homePage key)
  | loginForm => exact isIdle_page _ _ _
  | login => exact isIdle_logIn key body
  | logout => exact isIdle_logOut key
  | addProduct => exact isIdle_forUser key (isIdle_submitBody body)
  | product id => exact isIdle_showProduct id
  | productForm => exact isIdle_forUser key (isIdle_productForm key)
  | file => exact isIdle_pure _

theorem isIdle_answerFailure (key : Sessions.Key) (failure : Failure) :
    (answerFailure key failure).IsIdle := by
  cases failure with
  | unreachable message cause => exact (isIdle_record _).bind fun _ => isIdle_page _ _ _
  | fault fault => exact isIdle_fail _

theorem isIdle_settle (request : Request) (target : Target) (failure : Failure) :
    (settle request target failure).IsIdle :=
  isIdle_shop.bind fun shop => by
    split
    · exact isIdle_fail _
    · exact (isIdle_record _).bind fun _ => isIdle_pure _

theorem isIdle_answer (request : Request) (target : Target) : (answer request target).IsIdle := by
  unfold answer
  split
  · exact isIdle_pure _
  · split <;> try exact isIdle_pure _
    exact (isIdle_view _ _ _).recover fun _ => isIdle_answerFailure _ _

theorem isIdle_respond (request : Request) : (respond request).IsIdle :=
  (isIdle_ofFault _).bind fun target =>
    ((isIdle_answer request target).recover fun _ => isIdle_settle _ _ _).bind fun _ =>
      isIdle_pure _

/-- No tables are made in an outage. -/
theorem isIdle_prepareAt (url : Database.Url) : (prepareAt url).IsIdle := by
  intro start outage
  -- The store is kept because the probe fails, and the connection because nothing goes well on it.
  change ({ start with store := start.madeStore.toOption.getD start.store } : Shop).probed = start
  have unmade : start.madeStore.toOption.getD start.store = start.store := by
    cases made : start.madeStore with
    | ok store =>
      rw [(madeStore_eq_ok_iff.1 made).1] at outage
      cases outage
    | error failure => rfl
  rw [unmade]
  exact probed_of_outage outage

theorem isIdle_prepare : prepare.IsIdle :=
  isIdle_shop.bind fun _ => (isIdle_ofFault _).bind isIdle_prepareAt

theorem isIdle_check : Step.check.service.IsIdle := by
  have probes : (Service.change (·.probed)).IsIdle := fun _ outage => probed_of_outage outage
  exact isIdle_shop.bind fun _ => (isIdle_ofResult _).bind fun _ =>
    probes.bind fun _ => isIdle_pure _

end Shop

/-! ### Steps -/

/-- The steps that ask something of the shop: requests and direct calls of its services. The others
happen to it from outside. -/
def Step.isOfShop : Step → Bool
  | .request _ | .prepare | .check | .judge _ | .addProduct _ | .findProduct _ | .userFor _ => true
  | .setUserNumber .. | .setOutage _ | .setReadOnly _ | .dropTable _ | .deleteRow ..
  | .dump => false

theorem Step.isIdle_service {step : Step} (h : step.isOfShop = true) : step.service.IsIdle := by
  cases step with
  | request sent => exact (Shop.isIdle_respond sent).map _
  | prepare => exact Shop.isIdle_prepare.bind fun _ => isIdle_pure _
  | check => exact Shop.isIdle_check
  | judge payload => exact (Shop.isIdle_judge payload).map _
  | addProduct fields =>
    exact (isIdle_ofFault _).bind fun draft => ((Shop.isBarred_addProduct draft).bind _).isIdle
  | findProduct id => exact (Shop.isBarred_findProduct id).isIdle.map _
  | userFor email => exact (Shop.isBarred_userFor email).isIdle.map _
  | _ => cases h

namespace Shop

/-- What is asked of the shop in an outage changes nothing at all. -/
theorem step_of_outage {start : Shop} {step : Step} (asks : step.isOfShop = true)
    (outage : start.outage = true) : (start.step step).shop = start :=
  Step.isIdle_service asks outage

/-! ### Runs -/

/-- A step of a run as it has gone: whether it was made in an outage, and its answer with its
records in the log. -/
structure Entry where
  outage : Bool
  step : Step
  answer : Answer × List Log.Record

/-- Whether a step asks something of the shop in an outage. -/
def Entry.isVain (entry : Entry) : Bool := entry.outage && entry.step.isOfShop

/-- A run as it has gone. -/
def transcript (start : Shop) : List Step → List Entry
  | [] => []
  | first :: rest =>
    let progress := start.step first
    { outage := start.outage, step := first, answer := (progress.answer, progress.log) } ::
      progress.shop.transcript rest

/-- The transcript holds the steps of the run and their answers. -/
theorem map_transcript (start : Shop) (steps : List Step) :
    (start.transcript steps).map Entry.step = steps ∧
      (start.transcript steps).map Entry.answer = (start.run steps).1 := by
  induction steps generalizing start with
  | nil => exact ⟨rfl, rfl⟩
  | cons first rest ih =>
    obtain ⟨made, answered⟩ := ih (start.step first).shop
    simp [transcript, run, made, answered]

/-- What a run comes to without the steps that asked something of the shop in an outage: the other
steps have the answers and the records that they have in the full run, and the shop is the same in
the end. By induction on the steps, since a step that is left out has led to the shop in which it
was made. -/
theorem run_spared (start : Shop) (steps : List Step) :
    let spared := (start.transcript steps).filter (!·.isVain)
    (start.transcript steps).map Entry.step = steps ∧
      (start.transcript steps).map Entry.answer = (start.run steps).1 ∧
      start.run (spared.map Entry.step) = (spared.map Entry.answer, (start.run steps).2) := by
  refine ⟨(map_transcript start steps).1, (map_transcript start steps).2, ?_⟩
  induction steps generalizing start with
  | nil => rfl
  | cons first rest ih =>
    have later := ih (start.step first).shop
    rw [transcript, List.filter_cons]
    cases vain : Entry.isVain
      ⟨start.outage, first, (start.step first).answer, (start.step first).log⟩ with
    | true =>
      obtain ⟨outage, asks⟩ := Bool.and_eq_true_iff.1 vain
      have same := step_of_outage asks outage
      rw [same] at later
      simp [run, same, later]
    | false => simp [run, later]

end Shop

end Storefront
