import Storefront.Shop.Basic

/-!
# What services come to

A service either gives a value or fails, and leaves a shop behind in both cases. This file turns the
steps of which services are made into statements about values, failures and shops, so that what is
known of an outcome can be followed back through the service, one step at a time.

## Main definitions

* `Service.Gives`, `Service.Fails` — the two ways in which a service ends
* `Shop.guardedFailure` — what the guard makes of a failure

## Main results

* `Service.gives_or_fails` — a service does end in one of the two ways
* `Service.gives_bind_iff`, `Service.fails_bind_iff` — how services in a row end
* `Service.gives_guarded_iff`, `Service.fails_guarded_iff` — how a guarded service ends
* `Service.gives_recover_iff`, `Service.fails_recover_iff` — how a service ends whose failure is
  dealt with
-/

namespace Storefront

namespace Service

variable {α β : Type} {service : Service α} {next : α → Service β} {start after : Shop}
variable {a : α} {b : β} {failure : Failure}

/-- A service gives a value and leaves a shop behind. -/
def Gives (service : Service α) (start : Shop) (a : α) (after : Shop) : Prop :=
  (service start).result = .ok a ∧ (service start).shop = after

/-- A service fails and leaves a shop behind. -/
def Fails (service : Service α) (start : Shop) (failure : Failure) (after : Shop) : Prop :=
  (service start).result = .error failure ∧ (service start).shop = after

theorem fails_iff_of_error (h : (service start).result = .error failure) {other : Failure} :
    service.Fails start other after ↔ other = failure ∧ after = (service start).shop := by
  simp [Fails, h, eq_comm]

theorem gives_or_fails (service : Service α) (start : Shop) :
    (∃ a after, service.Gives start a after) ∨
      ∃ failure after, service.Fails start failure after := by
  cases h : (service start).result with
  | ok a => exact .inl ⟨a, _, h, rfl⟩
  | error failure => exact .inr ⟨failure, _, h, rfl⟩

/-! ### Single steps -/

@[simp] theorem gives_pure_iff {a' : α} :
    (pure a : Service α).Gives start a' after ↔ a' = a ∧ after = start := by
  simp [Gives, pure, ofResult, eq_comm]

@[simp] theorem fails_pure_iff : (pure a : Service α).Fails start failure after ↔ False := by
  simp [Fails, pure, ofResult]

@[simp] theorem gives_fail_iff : (fail failure : Service α).Gives start a after ↔ False := by
  simp [Gives, fail, ofResult]

@[simp] theorem fails_fail_iff {other : Failure} :
    (fail failure : Service α).Fails start other after ↔ other = failure ∧ after = start := by
  simp [Fails, fail, ofResult, eq_comm]

@[simp] theorem gives_shop_iff {shop : Shop} :
    Service.shop.Gives start shop after ↔ shop = start ∧ after = start := by
  simp [Gives, Service.shop, eq_comm]

@[simp] theorem fails_shop_iff : Service.shop.Fails start failure after ↔ False := by
  simp [Fails, Service.shop]

@[simp] theorem gives_change_iff {change : Shop → Shop} {u : Unit} :
    (Service.change change).Gives start u after ↔ after = change start := by
  simp [Gives, Service.change, eq_comm]

@[simp] theorem fails_change_iff {change : Shop → Shop} :
    (Service.change change).Fails start failure after ↔ False := by
  simp [Fails, Service.change]

@[simp] theorem gives_record_iff {entry : Log.Record} {u : Unit} :
    (Service.record entry).Gives start u after ↔ after = start := by
  simp [Gives, Service.record, eq_comm]

@[simp] theorem fails_record_iff {entry : Log.Record} :
    (Service.record entry).Fails start failure after ↔ False := by
  simp [Fails, Service.record]

@[simp] theorem ofFault_ok : ofFault (.ok a) = pure a := rfl

@[simp] theorem ofFault_error {fault : Fault} :
    ofFault (.error fault : Except Fault α) = fail (.fault fault) := rfl

@[simp] theorem gives_ofFault_iff {result : Except Fault α} :
    (ofFault result).Gives start a after ↔ result = .ok a ∧ after = start := by
  cases result with
  | ok value => simp [eq_comm]
  | error fault => simp

@[simp] theorem fails_ofFault_iff {result : Except Fault α} :
    (ofFault result).Fails start failure after ↔
      ∃ fault, result = .error fault ∧ failure = .fault fault ∧ after = start := by
  cases result with
  | ok value => simp
  | error fault => simp

@[simp] theorem gives_connected_iff {u : Unit} :
    connected.Gives start u after ↔ start.outage = false ∧ after = start := by
  cases h : start.outage <;>
    simp [Gives, connected, Service.shop, Bind.bind, Service.bind, h, fail, ofResult, pure, eq_comm]

@[simp] theorem fails_connected_iff :
    connected.Fails start failure after ↔
      start.outage = true ∧ failure = .fault .cannotOpen ∧ after = start := by
  cases h : start.outage <;>
    simp [Fails, connected, Service.shop, Bind.bind, Service.bind, h, fail, ofResult, pure, eq_comm]

/-! ### Steps in a row -/

/-- Asking for the shop is no step of its own. -/
theorem shop_bind (next : Shop → Service β) (start : Shop) :
    (Service.shop >>= next) start = next start start := rfl

theorem gives_bind_iff :
    (service >>= next).Gives start b after ↔
      ∃ a mid, service.Gives start a mid ∧ (next a).Gives mid b after := by
  cases h : (service start).result with
  | ok a => simp [Gives, bind_of_ok h, h, and_assoc]
  | error failure => simp [Gives, bind_of_error h, h]

theorem fails_bind_iff :
    (service >>= next).Fails start failure after ↔
      service.Fails start failure after ∨
        ∃ a mid, service.Gives start a mid ∧ (next a).Fails mid failure after := by
  cases h : (service start).result with
  | ok a => simp [Gives, Fails, bind_of_ok h, h, and_assoc]
  | error failure' => simp [Gives, Fails, bind_of_error h, h]

/-! A first step that changes the shop in a known way can be left out. -/

theorem gives_shop_bind_iff {next : Shop → Service β} :
    (Service.shop >>= next).Gives start b after ↔ (next start).Gives start b after := by
  rw [Gives, shop_bind, Gives]

theorem gives_change_bind_iff {change : Shop → Shop} {next : Unit → Service β} :
    (Service.change change >>= next).Gives start b after ↔
      (next ()).Gives (change start) b after := by
  rw [gives_bind_iff]
  constructor
  · rintro ⟨_, _, changed, rest⟩
    rwa [gives_change_iff.1 changed] at rest
  · intro rest
    exact ⟨(), _, gives_change_iff.2 rfl, rest⟩

theorem gives_record_bind_iff {entry : Log.Record} {next : Unit → Service β} :
    (Service.record entry >>= next).Gives start b after ↔ (next ()).Gives start b after := by
  rw [gives_bind_iff]
  constructor
  · rintro ⟨_, _, recorded, rest⟩
    rwa [gives_record_iff.1 recorded] at rest
  · intro rest
    exact ⟨(), _, gives_record_iff.2 rfl, rest⟩

theorem gives_ofFault_bind_iff {result : Except Fault α} :
    (ofFault result >>= next).Gives start b after ↔
      ∃ a, result = .ok a ∧ (next a).Gives start b after := by
  simp [gives_bind_iff, and_assoc]

theorem gives_connected_bind_iff {next : Unit → Service β} :
    (connected >>= next).Gives start b after ↔
      start.outage = false ∧ (next ()).Gives start b after := by
  rw [gives_bind_iff]
  constructor
  · rintro ⟨_, _, opened, rest⟩
    obtain ⟨outage, rfl⟩ := gives_connected_iff.1 opened
    exact ⟨outage, rest⟩
  · rintro ⟨outage, rest⟩
    exact ⟨(), start, gives_connected_iff.2 ⟨outage, rfl⟩, rest⟩

theorem gives_map_iff {f : α → β} :
    (f <$> service).Gives start b after ↔ ∃ a, service.Gives start a after ∧ b = f a := by
  rw [← bind_pure_comp, gives_bind_iff]
  simp only [gives_pure_iff]
  constructor
  · rintro ⟨a, mid, ha, hb, rfl⟩
    exact ⟨a, ha, hb⟩
  · rintro ⟨a, ha, hb⟩
    exact ⟨a, after, ha, hb, rfl⟩

@[simp] theorem fails_map_iff {f : α → β} :
    (f <$> service).Fails start failure after ↔ service.Fails start failure after := by
  rw [← bind_pure_comp, fails_bind_iff]
  simp

/-! ### Failures that are dealt with -/

variable {handler : Failure → Service α}

theorem gives_recover_iff :
    (service.recover handler).Gives start a after ↔
      service.Gives start a after ∨
        ∃ failure mid, service.Fails start failure mid ∧ (handler failure).Gives mid a after := by
  cases h : (service start).result with
  | ok a' => simp [Gives, Fails, recover_of_ok h, h]
  | error failure => simp [Gives, Fails, recover_of_error h, h, and_assoc]

theorem fails_recover_iff :
    (service.recover handler).Fails start failure after ↔
      ∃ first mid, service.Fails start first mid ∧ (handler first).Fails mid failure after := by
  cases h : (service start).result with
  | ok a => simp [Fails, recover_of_ok h, h]
  | error first => simp [Fails, recover_of_error h, h, and_assoc]

end Service

/-! ### The guard -/

/-- What the guard makes of a failure: a driver's fault on a connection that is lost or cannot be
opened anew stands for an unreachable database, and all else is passed on. -/
def Shop.guardedFailure (shop : Shop) (failure : Failure) : Failure :=
  match failure with
  | .unreachable .. => failure
  | .fault fault =>
    if fault.kind = .operational ∧ (fault.invalidated ∨ shop.outage) then .lost fault else failure

/-- The probe fails in an outage and then only, and leaves the engine as it is. -/
theorem Shop.check_engine (shop : Shop) :
    (Database.check shop.engine).result =
        (if shop.outage then .error (.lost .cannotOpen) else .ok ()) ∧
      (Database.check shop.engine).engine = shop.engine := by
  -- The engine of a shop answers every attempt alike, so one attempt leaves no trace in it.
  cases h : shop.outage <;>
    simp [Database.check, Database.connect, Database.Work.andThen, Shop.engine, h,
      Database.Engine.next, bind, Database.Work.bind, Database.Work.note, pure,
      Database.Work.ofResult, Failure.onConnect, Fault.kind, Fault.Kind.isDriver]

/-- The probe answers unless there is an outage. -/
theorem Shop.reachable_engine (shop : Shop) :
    (Database.reachable shop.engine).result = .ok (!shop.outage) := by
  unfold Database.reachable Database.Work.andThen
  dsimp only
  rw [shop.check_engine.1]
  cases shop.outage <;> rfl

theorem Shop.outcome_guard_ok {α : Type} (shop : Shop) (a : α) :
    shop.outcome (Database.guard (.ofResult (.ok a))) = .ok a := by
  rw [outcome, Database.guard_eq_of_ok (a := a) rfl]
  rfl

theorem Shop.outcome_guard_error {α : Type} (shop : Shop) (failure : Failure) :
    shop.outcome (Database.guard (.ofResult (α := α) (.error failure))) =
      .error (shop.guardedFailure failure) := by
  change (Database.settle failure shop.engine).result = _
  cases failure with
  | unreachable message cause => rfl
  | fault fault =>
    by_cases kind : fault.kind = .operational
    · cases lost : fault.invalidated with
      | true =>
        simp [Database.settle, guardedFailure, kind, lost, Database.Work.fail,
          Database.Work.ofResult]
      | false =>
        -- A driver's fault on a connection that seems to live is a matter for the probe.
        have probe := Database.Work.bind_of_ok shop.reachable_engine (α := Bool) (β := α)
        cases h : shop.outage <;>
          simp [Database.settle, guardedFailure, kind, lost, probe, h, Database.Work.fail,
            Database.Work.ofResult]
    · simp [Database.settle, guardedFailure, kind, Database.Work.fail, Database.Work.ofResult]

namespace Service

variable {α : Type} {service : Service α} {start after : Shop} {a : α} {failure : Failure}

@[simp] theorem gives_guarded_iff :
    service.guarded.Gives start a after ↔ service.Gives start a after := by
  cases h : (service start).result with
  | ok a' => simp [Gives, guarded_of_ok h]
  | error failure => simp [Gives, guarded, h, Shop.outcome_guard_error]

/-- A failure is seen by the guard where the service ended, and the probe may clear the
connection. -/
theorem fails_guarded_iff :
    service.guarded.Fails start failure after ↔
      ∃ first mid, service.Fails start first mid ∧ failure = mid.guardedFailure first ∧
        after = if isProbed (.error first : Except Failure α) then mid.probed else mid := by
  cases h : (service start).result with
  | ok a => simp [Fails, guarded_of_ok h, h]
  | error first =>
    have seen : (guarded service start).result =
        .error ((service start).shop.guardedFailure first) := by
      simp [guarded, h, Shop.outcome_guard_error]
    have left : (guarded service start).shop =
        if isProbed (.error first : Except Failure α) then (service start).shop.probed
        else (service start).shop := by
      simp [guarded, h]
    simp [fails_iff_of_error seen, fails_iff_of_error h, left, and_assoc]

end Service

end Storefront
