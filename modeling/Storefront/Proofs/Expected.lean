import Storefront.Proofs.Steady

/-!
# What is expected of services

Much of what a service comes to can be calculated from the rows alone: a value, or that there is a
fault. Which fault is told is a matter of the connection as well. So what is calculated is expected
of the service, and the service comes to it, but for the fault where there is one.

## Main definitions

* `Statement.Call.expected` — what is expected of a statement
* `Service.ComesTo` — services that come to what is expected, but for the fault that is told

## Main results

* `Service.comesTo_call` — a statement comes to what its values and its effect come to
* `Service.ComesTo.bind`, `Service.ComesTo.guarded` — services that are made of others come to what
  is expected of these
-/

namespace Storefront

/-! ### Statements -/

section Expected

variable {α β : Type} {call : Statement.Call β α} {store : Store}

/-- What is expected of a call: its values are taken, and then it has its effect. -/
def Statement.Call.expected (call : Statement.Call β α) (store : Store) : Except Fault α := do
  let values ← call.values
  let (a, _) ← call.effect values store
  return a

theorem Statement.Call.expected_eq_ok_iff {a : α} :
    call.expected store = .ok a ↔
      ∃ values after, call.values = .ok values ∧ call.effect values store = .ok (a, after) := by
  simp [expected, Except.bind_eq_ok_iff, pure, Except.pure]

theorem Statement.Call.IsRegular.sparesConnection_expected (regular : call.IsRegular) :
    SparesConnection (call.expected store) :=
  regular.values.bind fun values => (regular.effect values store).bind fun _ =>
    sparesConnection_ok _

end Expected

/-! ### Services -/

namespace Service

variable {α β : Type} {service : Service α} {next : α → Service β} {start : Shop}
variable {expected : Except Fault α} {rest : α → Except Fault β}

/-- A service comes to what is expected of it; where that is a fault, it may tell another one. -/
def ComesTo (service : Service α) (start : Shop) (expected : Except Fault α) : Prop :=
  Failure.Rhymes (expected.mapError .fault) (service start).result

theorem ComesTo.exists_gives {a : α} (h : service.ComesTo start (.ok a)) :
    ∃ after, service.Gives start a after := by
  rcases h with same | ⟨told, other, failed, -⟩
  · exact ⟨_, same.symm, rfl⟩
  · cases failed

theorem ComesTo.exists_fails {fault : Fault} (h : service.ComesTo start (.error fault)) :
    ∃ told after, service.Fails start (.fault told) after := by
  rcases h with same | ⟨-, told, -, failed, -⟩
  · exact ⟨fault, _, same.symm, rfl⟩
  · exact ⟨told, _, failed, rfl⟩

/-- A service gives what is expected of it and nothing else. -/
theorem ComesTo.exists_gives_iff {a : α} (h : service.ComesTo start expected) :
    (∃ after, service.Gives start a after) ↔ expected = .ok a := by
  constructor
  · rintro ⟨after, gives⟩
    cases expected with
    | ok other =>
      obtain ⟨_, result, -⟩ := h.exists_gives
      exact congrArg Except.ok (Except.ok.inj (result.symm.trans gives.1))
    | error fault =>
      obtain ⟨told, _, failed, -⟩ := h.exists_fails
      rw [gives.1] at failed
      cases failed
  · rintro rfl
    exact h.exists_gives

theorem comesTo_pure (a : α) (start : Shop) : (pure a : Service α).ComesTo start (.ok a) := .inl rfl

theorem comesTo_ofFault (result : Except Fault α) (start : Shop) :
    (ofFault result).ComesTo start result := .inl rfl

/-- What follows is expected only of a service that has not failed. -/
theorem ComesTo.bind (h : service.ComesTo start expected)
    (hn : ∀ a, expected = .ok a → (next a).ComesTo (service start).shop (rest a)) :
    (service >>= next).ComesTo start (expected >>= rest) := by
  cases expected with
  | ok a =>
    obtain ⟨after, result, rfl⟩ := h.exists_gives
    unfold ComesTo
    rw [bind_of_ok result]
    exact hn a rfl
  | error fault =>
    unfold ComesTo at h ⊢
    rcases h with same | ⟨told, other, first, second, spares⟩
    · rw [bind_of_error same.symm]
      exact .inl rfl
    · rw [bind_of_error second]
      cases first
      exact .inr ⟨fault, other, rfl, rfl, spares⟩

theorem gives_connected (outage : start.outage = false) : connected.Gives start () start :=
  gives_connected_iff.2 ⟨outage, rfl⟩

theorem comesTo_shop_bind {next : Shop → Service β} {expected : Except Fault β}
    (h : (next start).ComesTo start expected) : (shop >>= next).ComesTo start expected := h

/-- The guard has nothing to say about an atomic service while there is a connection. -/
theorem ComesTo.guarded (h : service.ComesTo start expected) (atomic : service.IsAtomic)
    (outage : start.outage = false) (spares : SparesConnection expected) :
    service.guarded.ComesTo start expected := by
  cases expected with
  | ok a =>
    obtain ⟨after, gives⟩ := h.exists_gives
    exact .inl (gives_guarded_iff.2 gives).1.symm
  | error fault =>
    -- The guard passes on a fault that has not cost the connection.
    have passes {told : Fault} (failed : (service start).result = .error (.fault told))
        (spared : told.invalidated = false) :
        (service.guarded start).result = .error (.fault told) := by
      have still : (service start).shop.outage = false :=
        (atomic ⟨failed, rfl⟩).outage.trans outage
      rw [guarded_of_error failed, guardedFailure_of_spares still spared]
    have spared := spares fault rfl
    rcases h with same | ⟨told, other, first, second, -, spared'⟩
    · exact .inl (passes same.symm spared).symm
    · exact .inr ⟨fault, other, rfl, passes second spared', spared, spared'⟩

/-- A statement comes to what its values and its effect come to. -/
theorem comesTo_call {call : Statement.Call β α} (regular : call.IsRegular)
    (outage : start.outage = false) (intact : start.IsIntact) :
    (Service.call call).ComesTo start (call.expected start.store) := by
  unfold ComesTo Statement.Call.expected
  rw [call_of_connected outage]
  cases values : call.values with
  | ok taken =>
    have ran := Statement.Call.run_of_values_ok regular values
      (start.prepared.contains call.statement) start.left start.store
    refine .inl ?_
    change ((call.effect taken start.store >>= _).mapError _) = _
    cases effect : call.effect taken start.store with
    | ok done =>
      rw [perform_of_run_eq_ok (ran.trans effect)]
      rfl
    | error fault =>
      rw [perform_of_run_eq_error (ran.trans effect)]
      rfl
  | error fault =>
    -- On the connection an older fault may hide that of the value.
    obtain ⟨told, ran, spared⟩ := Statement.Call.exists_run_of_values_error regular values
      (start.prepared.contains call.statement) intact start.store
    rw [perform_of_run_eq_error ran]
    exact .inr ⟨fault, told, rfl, rfl, regular.values fault values, spared⟩

end Service

end Storefront
