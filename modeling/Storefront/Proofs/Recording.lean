import Storefront.Proofs.Requests

/-!
# What services record

Most services record nothing. A record of a row or of a session is written once nothing can go wrong
any more, so a view that fails has recorded nothing either.

## Main definitions

* `Service.IsSilent` — services that record nothing
* `Service.FailsSilently` — services that have recorded nothing when they fail
* `View.isRecorded` — the views that may record something

## Main results

* `Service.log_bind_of_gives`, `Service.log_bind_of_fails` — the records of services in a row
* `Shop.log_of_gives_userFor`, `Shop.log_of_gives_addProduct` — a row that was added is recorded
* `Shop.isSilent_view`, `Shop.failsSilently_view` — which views record nothing
-/

namespace Storefront

namespace Service

variable {α β : Type} {service : Service α} {next : α → Service β} {start after : Shop}

/-! ### Records of services in a row -/

theorem log_bind_of_gives {a : α} {mid : Shop} (h : service.Gives start a mid) :
    ((service >>= next) start).log = (service start).log ++ (next a mid).log := by
  rw [bind_of_ok h.1, h.2]

theorem log_bind_of_fails {failure : Failure} (h : service.Fails start failure after) :
    ((service >>= next) start).log = (service start).log := by
  rw [bind_of_error h.1]

theorem log_map (f : α → β) : ((f <$> service) start).log = (service start).log := by
  rw [← bind_pure_comp]
  rcases gives_or_fails service start with ⟨a, after, ends⟩ | ⟨failure, after, ends⟩
  · rw [log_bind_of_gives ends]
    exact List.append_nil _
  · rw [log_bind_of_fails ends]

theorem log_recover_of_fails {handler : Failure → Service α} {failure : Failure}
    (h : service.Fails start failure after) :
    ((service.recover handler) start).log = (service start).log ++ (handler failure after).log := by
  rw [recover_of_error h.1, h.2]

/-! ### Services that record nothing -/

/-- A service that records nothing. -/
def IsSilent (service : Service α) : Prop := ∀ start : Shop, (service start).log = []

theorem isSilent_ofResult (result : Except Failure α) : IsSilent (ofResult result) := fun _ => rfl

theorem isSilent_shop : IsSilent shop := fun _ => rfl

theorem isSilent_change (f : Shop → Shop) : IsSilent (change f) := fun _ => rfl

theorem IsSilent.bind (h : service.IsSilent) (hn : ∀ a, (next a).IsSilent) :
    (service >>= next).IsSilent := by
  intro start
  rcases gives_or_fails service start with ⟨a, after, ends⟩ | ⟨failure, after, ends⟩
  · rw [log_bind_of_gives ends, h, hn]
    rfl
  · rw [log_bind_of_fails ends, h]

theorem IsSilent.map (h : service.IsSilent) (f : α → β) : (f <$> service).IsSilent := by
  intro start
  rw [log_map, h]

theorem IsSilent.guarded (h : service.IsSilent) : service.guarded.IsSilent := fun start => h start

theorem isSilent_connected : IsSilent connected :=
  isSilent_shop.bind fun shop => by
    split <;> exact isSilent_ofResult _

theorem isSilent_perform (call : Statement.Call β α) : IsSilent (perform call) := by
  intro start
  unfold perform
  dsimp only
  split <;> rfl

theorem isSilent_call (call : Statement.Call β α) : IsSilent (Service.call call) :=
  isSilent_connected.bind fun _ => isSilent_perform call

theorem isSilent_onStore (work : Store → Except Fault (α × Store)) : IsSilent (onStore work) := by
  intro start
  unfold onStore
  split <;> rfl

/-! ### Services that fail without a record -/

/-- A service that has recorded nothing whenever it fails. -/
def FailsSilently (service : Service α) : Prop :=
  ∀ ⦃start : Shop⦄ ⦃failure : Failure⦄ ⦃after : Shop⦄,
    service.Fails start failure after → (service start).log = []

theorem IsSilent.failsSilently (h : service.IsSilent) : service.FailsSilently := fun start _ _ _ =>
  h start

/-- A silent service may stand in front of one that fails silently. -/
theorem FailsSilently.bind_of_isSilent (h : service.IsSilent) (hn : ∀ a, (next a).FailsSilently) :
    (service >>= next).FailsSilently := by
  intro start failure after ends
  rcases fails_bind_iff.1 ends with first | ⟨a, mid, first, second⟩
  · rw [log_bind_of_fails first, h]
  · rw [log_bind_of_gives first, h, hn a second]
    rfl

/-- What cannot fail may follow. -/
theorem FailsSilently.bind_of_cannotFail (h : service.FailsSilently)
    (hn : ∀ (a : α) (start : Shop) (failure : Failure) (after : Shop),
      ¬(next a).Fails start failure after) :
    (service >>= next).FailsSilently := by
  intro start failure after ends
  rcases fails_bind_iff.1 ends with first | ⟨a, mid, -, second⟩
  · rw [log_bind_of_fails first]
    exact h first
  · exact (hn _ _ _ _ second).elim

theorem FailsSilently.map (h : service.FailsSilently) (f : α → β) :
    (f <$> service).FailsSilently := by
  intro start failure after ends
  rw [log_map]
  exact h (fails_map_iff.1 ends)

end Service

/-- The views that may record something. -/
def View.isRecorded : View → Bool
  | .login | .logout | .addProduct => true
  | _ => false

open Service

namespace Shop

variable {start after : Shop}

/-! ### Users -/

/-- The user is looked up without a record. -/
theorem isSilent_currentUser (key : Sessions.Key) : (currentUser key).IsSilent := by
  refine isSilent_shop.bind fun shop => ?_
  split
  · exact isSilent_ofResult _
  · exact IsSilent.guarded ((isSilent_ofResult _).bind fun _ => isSilent_call _)

theorem isSilent_findOrAddUser (email : Text) : (findOrAddUser email).IsSilent := by
  refine (isSilent_call _).bind fun found => ?_
  cases found with
  | some user => exact isSilent_ofResult _
  | none =>
    exact isSilent_shop.bind fun _ => (isSilent_call _).bind fun _ => isSilent_ofResult _

/-- Only a user who was added is recorded. -/
theorem log_of_gives_userFor {email : Text} {user : User}
    (h : (userFor email).Gives start user after) :
    (start.Alike after ∧ (userFor email start).log = []) ∨
      start.store.IsNewUser start.config.defaultUserName user ∧
        Shop.Alike { start with store := start.store.putUser user } after ∧
        (userFor email start).log = [userRecord "Created user " user ""] := by
  obtain ⟨⟨found, isNew⟩, mid, first, ends⟩ := gives_bind_iff.1 h
  have spec := gives_findOrAddUser (gives_guarded_iff.1 first)
  have log : (userFor email start).log = _ :=
    (log_bind_of_gives first).trans
      (congrArg (· ++ _) ((isSilent_findOrAddUser email).guarded start))
  cases isNew with
  | false =>
    obtain ⟨rfl, rfl⟩ := gives_pure_iff.1 ends
    exact .inl ⟨spec.2.2.2, log⟩
  | true =>
    have returned := gives_record_bind_iff.1 (gives_change_bind_iff.1 ends)
    obtain ⟨rfl, rfl⟩ := gives_pure_iff.1 returned
    exact .inr ⟨spec.2.2.1, spec.2.2.2.trans (alike_remember _ _), log⟩

theorem failsSilently_userFor (email : Text) : (userFor email).FailsSilently := by
  refine (isSilent_findOrAddUser email).guarded.failsSilently.bind_of_cannotFail ?_
  rintro ⟨user, isNew⟩ start failure after
  cases isNew <;> simp [fails_bind_iff]

/-! ### Products -/

theorem isSilent_isTaken (sku : Text) : (isTaken sku).IsSilent :=
  (isSilent_call _).guarded.bind fun _ => isSilent_ofResult _

theorem isSilent_judgeSku (limits : Product.Limits) (value : Json) :
    IsSilent (Product.judgeSku limits isTaken value) := by
  unfold Product.judgeSku
  split
  · exact isSilent_ofResult _
  cases value with
  | str t =>
    refine IsSilent.bind (isSilent_ofResult _) fun verdict => ?_
    cases verdict with
    | accepted sku =>
      refine (isSilent_isTaken sku).bind fun taken => ?_
      split <;> exact isSilent_ofResult _
    | absent => exact isSilent_ofResult _
    | refused complaint => exact isSilent_ofResult _
  | _ => exact isSilent_ofResult _

theorem isSilent_judge (payload : Json) : (judge payload).IsSilent := by
  cases payload with
  | obj fields =>
    refine isSilent_shop.bind fun shop => IsSilent.bind (isSilent_ofResult _) fun title => ?_
    exact (isSilent_judgeSku _ _).bind fun sku => isSilent_ofResult _
  | _ => exact isSilent_ofResult _

theorem isSilent_insertion (draft : Product.Draft) :
    (Service.guarded do
      Service.connected
      let (price, isActive) ← Service.ofFault draft.convert
      Service.call (Store.addProduct draft price isActive)).IsSilent :=
  IsSilent.guarded <| isSilent_connected.bind fun _ =>
    IsSilent.bind (isSilent_ofResult _) fun _ => isSilent_call _

/-- A product that was added is recorded. -/
theorem log_of_gives_addProduct {draft : Product.Draft} {product : Product}
    (h : (addProduct draft).Gives start product after) :
    (addProduct draft start).log = [productRecord product] := by
  obtain ⟨added, mid, first, rest⟩ := gives_bind_iff.1 h
  have returned := gives_record_bind_iff.1 (gives_change_bind_iff.1 rest)
  obtain ⟨rfl, rfl⟩ := gives_pure_iff.1 returned
  exact (log_bind_of_gives first).trans
    (congrArg (· ++ _) (isSilent_insertion draft start))

theorem failsSilently_addProduct (draft : Product.Draft) : (addProduct draft).FailsSilently := by
  refine (isSilent_insertion draft).failsSilently.bind_of_cannotFail ?_
  intro product start failure after
  simp [fails_bind_iff]

theorem isSilent_findProduct (id : Int) : (findProduct id).IsSilent := (isSilent_call _).guarded

/-! ### Views -/

theorem isSilent_page (key : Sessions.Key) (status : Nat) (body : Text) :
    (page key status body).IsSilent :=
  (isSilent_currentUser key).bind fun _ => isSilent_ofResult _

theorem isSilent_homePage (key : Sessions.Key) : (homePage key).IsSilent :=
  (isSilent_currentUser key).bind fun _ => isSilent_ofResult _

theorem isSilent_forUser (key : Sessions.Key) {work : Service Response} (h : work.IsSilent) :
    (forUser key work).IsSilent := by
  refine (isSilent_currentUser key).bind fun found => ?_
  cases found with
  | some user => exact h
  | none => exact isSilent_page _ _ _

theorem isSilent_productForm (key : Sessions.Key) : (productForm key).IsSilent :=
  isSilent_shop.bind fun _ => (isSilent_page _ _ _).bind fun _ =>
    IsSilent.bind (isSilent_ofResult _) fun _ => isSilent_ofResult _

theorem isSilent_showProduct (id : Nat) : (showProduct id).IsSilent := by
  refine (isSilent_findProduct id).bind fun found => ?_
  cases found <;> exact isSilent_ofResult _

theorem isSilent_view {v : View} (unrecorded : v.isRecorded = false) (key : Sessions.Key)
    (body : Body) : (view v key body).IsSilent := by
  cases v with
  | home => exact isSilent_homePage key
  | dashboard => exact isSilent_forUser key (isSilent_homePage key)
  | loginForm => exact isSilent_page _ _ _
  | product id => exact isSilent_showProduct id
  | productForm => exact isSilent_forUser key (isSilent_productForm key)
  | file => exact isSilent_ofResult _
  | _ => cases unrecorded

theorem failsSilently_logIn (key : Sessions.Key) (body : Body) :
    (logIn key body).FailsSilently := by
  unfold logIn
  dsimp only
  split
  · exact (isSilent_page _ _ _).failsSilently
  · refine (failsSilently_userFor _).bind_of_cannotFail fun user start failure after => ?_
    simp [fails_bind_iff]

theorem failsSilently_logOut (key : Sessions.Key) : (logOut key).FailsSilently := by
  refine (isSilent_currentUser key).failsSilently.bind_of_cannotFail ?_
  intro found start failure after
  cases found <;> simp [fails_bind_iff]

theorem failsSilently_submitProduct (fields : Json.Members) :
    (submitProduct fields).FailsSilently := by
  refine .bind_of_isSilent (isSilent_judge _) fun report => ?_
  split
  · refine (failsSilently_addProduct _).bind_of_cannotFail fun product start failure after => ?_
    simp
  · exact (isSilent_ofResult _).failsSilently

theorem failsSilently_submitBody (body : Body) : (submitBody body).FailsSilently :=
  .bind_of_isSilent isSilent_shop fun _ =>
    .bind_of_isSilent (isSilent_ofResult _) fun _ => failsSilently_submitProduct _

/-- A view that fails has recorded nothing. -/
theorem failsSilently_view (v : View) (key : Sessions.Key) (body : Body) :
    (view v key body).FailsSilently := by
  cases v with
  | login => exact failsSilently_logIn key body
  | logout => exact failsSilently_logOut key
  | addProduct =>
    refine .bind_of_isSilent (isSilent_currentUser key) fun found => ?_
    cases found with
    | some user => exact failsSilently_submitBody body
    | none => exact (isSilent_page _ _ _).failsSilently
  | _ => exact (isSilent_view rfl key body).failsSilently

end Shop

end Storefront
