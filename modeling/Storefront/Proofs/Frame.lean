import Storefront.Proofs.Service
import Storefront.Proofs.Statement

/-!
# What services leave alone

Most services change nothing but what the connection remembers: which statements it has prepared and
which fault is left on it. Two shops that differ only there are alike. A service is quiet if the
shop after it is always like the one before, and atomic if that is so whenever it fails; the second
is what makes a failed request leave no trace in a table or in a session.

## Main definitions

* `Shop.Alike` — shops that differ in their connections alone
* `Service.IsQuiet`, `Service.IsAtomic` — services that leave the shop as it is, always or when they
  fail

## Main results

* `Service.gives_call` — what a statement has done that was made with success
* `Service.exists_gives_call` — when a statement is made with success
* `Service.isQuiet_query` — a query changes nothing
* `Service.IsAtomic.bind_of_isQuiet`, `Service.IsAtomic.bind_of_cannotFail` — atomic services in a
  row
-/

namespace Storefront

/-- Two shops that differ at most in what their connections remember. -/
structure Shop.Alike (a b : Shop) : Prop where
  config : b.config = a.config
  threshold : b.threshold = a.threshold
  store : b.store = a.store
  outage : b.outage = a.outage
  sessions : b.sessions = a.sessions

namespace Shop.Alike

variable {a b c : Shop}

theorem refl (a : Shop) : a.Alike a := ⟨rfl, rfl, rfl, rfl, rfl⟩

theorem symm (h : a.Alike b) : b.Alike a :=
  ⟨h.config.symm, h.threshold.symm, h.store.symm, h.outage.symm, h.sessions.symm⟩

theorem trans (h : a.Alike b) (h' : b.Alike c) : a.Alike c :=
  ⟨h'.config.trans h.config, h'.threshold.trans h.threshold, h'.store.trans h.store,
    h'.outage.trans h.outage, h'.sessions.trans h.sessions⟩

/-- Shops that are alike stay so when something is done to the stores of both. -/
theorem mapStore (h : a.Alike b) (f : Store → Store) :
    Shop.Alike { a with store := f a.store } { b with store := f b.store } :=
  ⟨h.config, h.threshold, congrArg f h.store, h.outage, h.sessions⟩

/-- Shops that are alike stay so when something is done to the sessions of both. -/
theorem mapSessions (h : a.Alike b) (f : Sessions → Sessions) :
    Shop.Alike { a with sessions := f a.sessions } { b with sessions := f b.sessions } :=
  ⟨h.config, h.threshold, h.store, h.outage, congrArg f h.sessions⟩

end Shop.Alike

namespace Shop

theorem alike_remember (shop : Shop) (statement : Statement) :
    shop.Alike (shop.remember statement) := by
  unfold remember
  split <;> exact ⟨rfl, rfl, rfl, rfl, rfl⟩

theorem alike_probed (shop : Shop) : shop.Alike shop.probed := by
  unfold probed
  split <;> exact ⟨rfl, rfl, rfl, rfl, rfl⟩

/-- The shop after a statement, like the shop before but for the store. -/
theorem alike_afterStatement (shop : Shop) (statement : Statement) (store : Store)
    (left : Option Fault) :
    Shop.Alike { shop with store } { shop.remember statement with store, left } := by
  have h := shop.alike_remember statement
  exact ⟨h.config, h.threshold, rfl, h.outage, h.sessions⟩

end Shop

namespace Service

variable {α β : Type} {service : Service α} {next : α → Service β} {start after : Shop}
variable {a : α} {failure : Failure}

/-- A service that changes nothing but the connection. -/
def IsQuiet (service : Service α) : Prop := ∀ start : Shop, start.Alike (service start).shop

/-- A service that has changed nothing but the connection whenever it fails. -/
def IsAtomic (service : Service α) : Prop :=
  ∀ ⦃start : Shop⦄ ⦃failure : Failure⦄ ⦃after : Shop⦄,
    service.Fails start failure after → start.Alike after

theorem IsQuiet.alike_of_gives (h : service.IsQuiet) (gives : service.Gives start a after) :
    start.Alike after := gives.2 ▸ h start

theorem IsQuiet.isAtomic (h : service.IsQuiet) : service.IsAtomic :=
  fun start _ _ fails => fails.2 ▸ h start

theorem isQuiet_of_forall
    (gives : ∀ ⦃start : Shop⦄ ⦃a : α⦄ ⦃after : Shop⦄,
      service.Gives start a after → start.Alike after)
    (fails : service.IsAtomic) : service.IsQuiet := by
  intro start
  rcases gives_or_fails service start with ⟨a, after, ends⟩ | ⟨failure, after, ends⟩
  · exact ends.2 ▸ gives ends
  · exact ends.2 ▸ fails ends

/-! ### Quiet services -/

theorem isQuiet_pure (a : α) : IsQuiet (pure a) := fun start => .refl start

theorem isQuiet_fail (failure : Failure) : IsQuiet (fail failure : Service α) := fun start =>
  .refl start

theorem isQuiet_ofResult (result : Except Failure α) : IsQuiet (ofResult result) := fun start =>
  .refl start

theorem isQuiet_change {f : Shop → Shop} (h : ∀ shop : Shop, shop.Alike (f shop)) :
    IsQuiet (Service.change f) := h

theorem isQuiet_shop : IsQuiet Service.shop := fun start => .refl start

theorem isQuiet_record (entry : Log.Record) : IsQuiet (Service.record entry) := fun start =>
  .refl start

theorem isQuiet_ofFault (result : Except Fault α) : IsQuiet (ofFault result) := fun start =>
  .refl start

theorem IsQuiet.bind (h : service.IsQuiet) (hn : ∀ a, (next a).IsQuiet) :
    (service >>= next).IsQuiet := by
  refine isQuiet_of_forall (fun start b after ends => ?_) fun start failure after ends => ?_
  · obtain ⟨a, mid, first, second⟩ := gives_bind_iff.1 ends
    exact (h.alike_of_gives first).trans ((hn a).alike_of_gives second)
  · rcases fails_bind_iff.1 ends with first | ⟨a, mid, first, second⟩
    · exact h.isAtomic first
    · exact (h.alike_of_gives first).trans ((hn a).isAtomic second)

theorem IsQuiet.map (h : service.IsQuiet) (f : α → β) : IsQuiet (f <$> service) := by
  rw [← bind_pure_comp]
  exact h.bind fun _ => isQuiet_pure _

theorem isQuiet_connected : IsQuiet connected :=
  isQuiet_shop.bind fun shop => by
    split
    · exact isQuiet_fail _
    · exact isQuiet_pure _

theorem IsQuiet.guarded (h : service.IsQuiet) : service.guarded.IsQuiet := by
  refine isQuiet_of_forall (fun start a after ends => ?_) fun start failure after ends => ?_
  · exact h.alike_of_gives (gives_guarded_iff.1 ends)
  · obtain ⟨first, mid, failed, -, rfl⟩ := fails_guarded_iff.1 ends
    split
    · exact (h.isAtomic failed).trans mid.alike_probed
    · exact h.isAtomic failed

/-! ### Atomic services -/

/-- A quiet service may stand in front of an atomic one. -/
theorem IsAtomic.bind_of_isQuiet (h : service.IsQuiet) (hn : ∀ a, (next a).IsAtomic) :
    (service >>= next).IsAtomic := by
  intro start failure after ends
  rcases fails_bind_iff.1 ends with first | ⟨a, mid, first, second⟩
  · exact h.isAtomic first
  · exact (h.alike_of_gives first).trans (hn a second)

/-- What cannot fail may follow an atomic service. -/
theorem IsAtomic.bind_of_cannotFail (h : service.IsAtomic)
    (hn : ∀ (a : α) (start : Shop) (failure : Failure) (after : Shop),
      ¬(next a).Fails start failure after) :
    (service >>= next).IsAtomic := by
  intro start failure after ends
  -- Only the first service can have failed, and that one is atomic.
  rcases fails_bind_iff.1 ends with first | ⟨a, mid, -, second⟩
  · exact h first
  · exact (hn _ _ _ _ second).elim

theorem IsAtomic.map (h : service.IsAtomic) (f : α → β) : IsAtomic (f <$> service) := by
  intro start failure after ends
  exact h (fails_map_iff.1 ends)

theorem IsAtomic.guarded (h : service.IsAtomic) : service.guarded.IsAtomic := by
  intro start failure after ends
  obtain ⟨first, mid, failed, -, rfl⟩ := fails_guarded_iff.1 ends
  split
  · exact (h failed).trans mid.alike_probed
  · exact h failed

/-! ### Statements -/

variable {call : Statement.Call β α}

/-- A statement that was made with success has had its effect, and no other. -/
theorem gives_perform (h : (perform call).Gives start a after) :
    ∃ values store, call.values = .ok values ∧ call.effect values start.store = .ok (a, store) ∧
      Shop.Alike { start with store } after := by
  obtain ⟨result, rfl⟩ := h
  unfold perform at result ⊢
  dsimp only at result ⊢
  split at result
  · next a' store ran =>
    -- A call that has run with success has had its effect, whatever it took to be made ready.
    obtain ⟨-, values, taken, effect⟩ := Statement.Call.run_eq_ok_iff.1 ran
    cases result
    exact ⟨values, store, taken, effect, start.alike_afterStatement call.statement store none⟩
  · cases result

theorem exists_gives_perform {values : β} {store : Store}
    (table : start.store.has call.statement.table = true) (taken : call.values = .ok values)
    (effect : call.effect values start.store = .ok (a, store)) :
    ∃ after, (perform call).Gives start a after ∧ Shop.Alike { start with store } after := by
  have ran : call.run (start.prepared.contains call.statement) start.left start.store =
      .ok (a, store) :=
    Statement.Call.run_eq_ok_iff.2
      ⟨by simp [Statement.Call.isReady, table], values, taken, effect⟩
  refine ⟨_, ⟨?_, rfl⟩, ?_⟩
  · simp only [perform, ran]
  · simp only [perform, ran]
    exact start.alike_afterStatement call.statement store none

/-- A statement that fails leaves the store as it is. -/
theorem isAtomic_perform (call : Statement.Call β α) : (perform call).IsAtomic := by
  rintro start failure after ⟨result, rfl⟩
  unfold perform at result ⊢
  dsimp only at result ⊢
  split at result
  · cases result
  · next fault ran =>
    -- The statement may have been prepared and a fault left behind, but no row was touched.
    have h := start.alike_remember call.statement
    exact ⟨h.config, h.threshold, h.store, h.outage, h.sessions⟩

/-- A statement is made through a connection that has been opened. -/
theorem gives_call (h : (Service.call call).Gives start a after) :
    start.outage = false ∧ ∃ values store, call.values = .ok values ∧
      call.effect values start.store = .ok (a, store) ∧ Shop.Alike { start with store } after := by
  obtain ⟨outage, ends⟩ := gives_connected_bind_iff.1 h
  exact ⟨outage, gives_perform ends⟩

theorem exists_gives_call (call : Statement.Call β α) {values : β} {store : Store}
    (outage : start.outage = false) (table : start.store.has call.statement.table = true)
    (taken : call.values = .ok values)
    (effect : call.effect values start.store = .ok (a, store)) :
    ∃ after, (Service.call call).Gives start a after ∧ Shop.Alike { start with store } after := by
  obtain ⟨after, ends, like⟩ := exists_gives_perform table taken effect
  exact ⟨after, gives_connected_bind_iff.2 ⟨outage, ends⟩, like⟩

theorem isAtomic_call (call : Statement.Call β α) : (Service.call call).IsAtomic :=
  .bind_of_isQuiet isQuiet_connected fun _ => isAtomic_perform call

/-- A query changes nothing. -/
theorem isQuiet_query {statement : Statement} {values : Except Fault β}
    {answer : β → Store → Except Fault α} :
    IsQuiet (Service.call (statement.query values answer)) := by
  refine isQuiet_of_forall (fun start a after ends => ?_) (isAtomic_call _)
  obtain ⟨-, values, store, -, effect, like⟩ := gives_call ends
  obtain ⟨-, rfl⟩ := Store.effect_query.1 effect
  exact like

/-! ### Work on the store -/

variable {work : Store → Except Fault (α × Store)}

/-- Work on the store that has ended well is all that was done. -/
theorem gives_onStore (h : (onStore work).Gives start a after) :
    ∃ store, work start.store = .ok (a, store) ∧ Shop.Alike { start with store } after := by
  obtain ⟨result, rfl⟩ := h
  unfold onStore at result ⊢
  split at result
  · next a' store worked =>
    cases result
    exact ⟨store, worked, rfl, rfl, rfl, rfl, rfl⟩
  · cases result

theorem isAtomic_onStore (work : Store → Except Fault (α × Store)) : (onStore work).IsAtomic := by
  rintro start failure after ⟨result, rfl⟩
  unfold onStore at result ⊢
  split at result
  · cases result
  · exact ⟨rfl, rfl, rfl, rfl, rfl⟩

end Service

end Storefront
