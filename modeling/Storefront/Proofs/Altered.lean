import Storefront.Proofs.Opening
import Storefront.Proofs.Steady

/-!
# Changes that services do not see

Hardly a service looks at the configuration of the shop, at its sessions or at the level of its log.
A service that does not look at what is changed about them does the same before and after the
change: the same value or the same failure, the same records, and the same to the store and to the
connection.

## Main definitions

* `Shop.Change`, `Shop.changed` — a shop with something changed that is neither its store nor its
  connection
* `Service.Ignores` — services that do not see such a change
* `Shop.altered`, `Service.Commutes` — changes to the configuration and the sessions, and services
  that do not see them

## Main results

* `Service.ignores_call` — a statement does not see a change
* `Service.Ignores.bind`, `Service.Ignores.guarded`, `Service.Ignores.recover` — nor does what is
  made of services that do not see it
-/

namespace Storefront

/-- What is changed about a shop aside from its store and its connection. -/
structure Shop.Change where
  config : Config → Config := id
  sessions : Sessions → Sessions := id
  threshold : Int → Int := id

/-- The shop with something changed about it. -/
def Shop.changed (shop : Shop) (k : Change) : Shop :=
  { shop with
    config := k.config shop.config
    sessions := k.sessions shop.sessions
    threshold := k.threshold shop.threshold }

variable {k : Shop.Change}

theorem Shop.remember_changed (shop : Shop) (statement : Statement) :
    (shop.changed k).remember statement = (shop.remember statement).changed k := by
  unfold remember changed
  dsimp only
  split <;> rfl

theorem Shop.probed_changed (shop : Shop) :
    (shop.changed k).probed = shop.probed.changed k := by
  unfold probed changed
  dsimp only
  split <;> rfl

namespace Service

variable {α β : Type} {service : Service α} {next : α → Service β}

/-- A service that does not see a change of the shop. -/
def Ignores (k : Shop.Change) (service : Service α) : Prop :=
  ∀ start : Shop, service (start.changed k) =
    { service start with shop := (service start).shop.changed k }

/-! ### Single steps -/

theorem ignores_ofResult (result : Except Failure α) : (ofResult result).Ignores k :=
  fun _ => rfl

theorem ignores_pure (a : α) : (pure a : Service α).Ignores k := ignores_ofResult _

theorem ignores_fail (failure : Failure) : (fail failure : Service α).Ignores k :=
  ignores_ofResult _

theorem ignores_ofFault (result : Except Fault α) : (ofFault result).Ignores k :=
  ignores_ofResult _

theorem ignores_record (entry : Log.Record) : (record entry).Ignores k := fun _ => rfl

theorem ignores_change {h : Shop → Shop}
    (same : ∀ shop : Shop, h (shop.changed k) = (h shop).changed k) :
    (change h).Ignores k := by
  intro start
  dsimp only [change]
  rw [same]

theorem ignores_remember (statement : Statement) :
    (change (·.remember statement)).Ignores k :=
  ignores_change fun shop => shop.remember_changed statement

/-- What is asked of the shop must be no matter of what is changed. -/
theorem ignores_shop_bind {next : Shop → Service β}
    (same : ∀ shop : Shop, next (shop.changed k) = next shop)
    (hn : ∀ shop, (next shop).Ignores k) : (shop >>= next).Ignores k := by
  intro start
  rw [shop_bind, shop_bind, same]
  exact hn start start

theorem ignores_connected : connected.Ignores k :=
  ignores_shop_bind (fun _ => rfl) fun shop => by
    split
    · exact ignores_fail _
    · exact ignores_pure _

theorem ignores_perform (call : Statement.Call β α) : (perform call).Ignores k := by
  intro start
  cases ran : call.run (start.prepared.contains call.statement) start.left start.store with
  | ok done =>
    have same := @perform_of_run_eq_ok _ _ call (start.changed k) _ _ ran
    rw [perform_of_run_eq_ok ran, same, Shop.remember_changed]
    rfl
  | error fault =>
    have same := @perform_of_run_eq_error _ _ call (start.changed k) _ ran
    rw [perform_of_run_eq_error ran, same, Shop.remember_changed]
    rfl

theorem ignores_onStore (work : Store → Except Fault (α × Store)) :
    (onStore work).Ignores k := by
  intro start
  unfold onStore Shop.changed
  dsimp only
  split <;> rfl

/-! ### Steps in a row -/

theorem Ignores.bind (h : service.Ignores k) (hn : ∀ a, (next a).Ignores k) :
    (service >>= next).Ignores k := by
  intro start
  have same := h start
  cases result : (service start).result with
  | ok a =>
    have result' : (service (start.changed k)).result = .ok a := by rw [same, result]
    rw [bind_of_ok result, bind_of_ok result', same, hn]
  | error failure =>
    have result' : (service (start.changed k)).result = .error failure := by rw [same, result]
    rw [bind_of_error result, bind_of_error result', same]

theorem Ignores.map (h : service.Ignores k) (f : α → β) : (f <$> service).Ignores k := by
  rw [← bind_pure_comp]
  exact h.bind fun _ => ignores_pure _

/-- The probe of the guard sees the engine alone. -/
theorem Ignores.guarded (h : service.Ignores k) : service.guarded.Ignores k := by
  intro start
  unfold Service.guarded
  rw [h start]
  dsimp only
  split
  · rw [Shop.probed_changed]
    rfl
  · rfl

theorem Ignores.recover {handler : Failure → Service α} (h : service.Ignores k)
    (hn : ∀ failure, (handler failure).Ignores k) : (service.recover handler).Ignores k := by
  intro start
  have same := h start
  cases result : (service start).result with
  | ok a =>
    have result' : (service (start.changed k)).result = .ok a := by rw [same, result]
    rw [recover_of_ok result, recover_of_ok result', same]
  | error failure =>
    have result' : (service (start.changed k)).result = .error failure := by rw [same, result]
    rw [recover_of_error result, recover_of_error result', same, hn]

theorem ignores_call (call : Statement.Call β α) : (Service.call call).Ignores k :=
  ignores_connected.bind fun _ => ignores_perform call

end Service

open Service

namespace Shop

/-! ### Services that look at the store alone -/

theorem ignores_isTaken (sku : Text) : (isTaken sku).Ignores k :=
  (ignores_call _).guarded.bind fun _ => ignores_pure _

theorem ignores_addProduct (draft : Product.Draft) : (addProduct draft).Ignores k := by
  refine Ignores.bind (ignores_connected.bind fun _ => ?_).guarded fun product => ?_
  · exact (ignores_ofFault _).bind fun _ => ignores_call _
  · exact (ignores_remember _).bind fun _ => (ignores_record _).bind fun _ => ignores_pure _

theorem ignores_findProduct (id : Int) : (findProduct id).Ignores k :=
  (ignores_call _).guarded

theorem ignores_showProduct (id : Nat) : (showProduct id).Ignores k := by
  refine (ignores_findProduct id).bind fun found => ?_
  cases found <;> exact ignores_pure _

/-- The store that the tables are made in is the same, and so is the engine that is probed. -/
theorem ignores_prepareAt (url : Database.Url) : (prepareAt url).Ignores k := by
  intro start
  have left : (prepareAt url start).shop =
      Shop.probed { start with store := start.madeStore.toOption.getD start.store } := rfl
  rw [left, ← Shop.probed_changed]
  rfl

/-! ### Services that look at something else too -/

/-- A user is looked up for what a session holds. -/
theorem ignores_currentUser (key : Sessions.Key)
    (same : ∀ sessions, (k.sessions sessions).get? key = sessions.get? key) :
    (currentUser key).Ignores k := by
  refine ignores_shop_bind (fun shop => ?_) fun shop => ?_
  · dsimp only [Shop.changed]
    rw [same]
  · split
    · exact ignores_pure _
    · exact Ignores.guarded ((ignores_ofFault _).bind fun _ => ignores_call _)

/-- A new user is given a name of the configuration. -/
theorem ignores_findOrAddUser (same : ∀ config, (k.config config).defaultUserName = config.defaultUserName)
    (email : Text) : (findOrAddUser email).Ignores k := by
  refine (ignores_call _).bind fun found => ?_
  cases found with
  | some user => exact ignores_pure _
  | none =>
    refine ignores_shop_bind (fun shop => ?_) fun _ =>
      (ignores_call _).bind fun _ => ignores_pure _
    dsimp only [Shop.changed]
    rw [same]

theorem ignores_userFor (same : ∀ config, (k.config config).defaultUserName = config.defaultUserName)
    (email : Text) : (userFor email).Ignores k := by
  refine (ignores_findOrAddUser same email).guarded.bind fun (user, isNew) => ?_
  cases isNew with
  | false => exact ignores_pure _
  | true =>
    exact (ignores_remember _).bind fun _ => (ignores_record _).bind fun _ => ignores_pure _

end Shop

/-! ### Changes to the configuration and the sessions -/

/-- The shop with something changed about its configuration and its sessions. -/
def Shop.altered (shop : Shop) (f : Config → Config) (g : Sessions → Sessions) : Shop :=
  { shop with config := f shop.config, sessions := g shop.sessions }

/-- A service that does not see a change to the configuration and the sessions. -/
def Service.Commutes {α : Type} (f : Config → Config) (g : Sessions → Sessions)
    (service : Service α) : Prop :=
  ∀ start : Shop, service (start.altered f g) =
    { service start with shop := (service start).shop.altered f g }

theorem Service.Ignores.commutes {α : Type} {service : Service α} {f : Config → Config}
    {g : Sessions → Sessions} (h : service.Ignores { config := f, sessions := g }) :
    service.Commutes f g :=
  h

end Storefront
