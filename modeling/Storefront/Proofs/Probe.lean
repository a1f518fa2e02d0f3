import Storefront.Command
import Storefront.Database.Schema

/-!
# The probe and the guard

A probe can meet a fault at two places: when a connection is asked for, and when the query is made
on it. Only the first is within reach of the rule that turns faults of the driver and of the address
into an unreachable database. A fault of the query leaves the probe as it is, and those who wait for
an unreachable database and nothing else, at start-up and on the command line, do not take it up.
The guard asks for less. It takes any fault of the driver for a database that is gone, wherever the
probe has met it; a fault that does not speak of the database leaves the block in place of the one
that the block has ended in.

## Main definitions

* `Failure.isOfDatabase` — the failures by which a database tells that it cannot be used
* `Database.Attempt.met` — what a probe meets on an attempt to open a connection
* `Database.IsClassified` — what the guard makes of the end of a block
* `Database.IsProbeFailure` — a failure of the probe as all who wait for it see it

## Main results

* `Database.check_eq`, `Database.reachable_eq` — the probe by the attempt that it is made on
* `Database.isClassified_guard` — the guard on every block of work and every engine
* `Database.not_always_own_fault` — a block can end in a fault that the probe has met
* `Database.probe_of_met` — a fault is reported if no connection was opened, and passed on as it is
  if the query has met it
* `Database.not_always_reported` — a fault of the query is not reported
-/

namespace Storefront

/-- A failure of the driver, or one that already stands for an unreachable database. -/
def Failure.isOfDriver : Failure → Bool
  | .unreachable .. => true
  | .fault cause => cause.kind.isDriver

/-- A failure by which a database tells that it cannot be used: one of the driver or one of the
address. -/
def Failure.isOfDatabase : Failure → Bool
  | .unreachable .. => true
  | .fault cause => cause.kind.isDriver || cause.kind.isArgument

namespace Database

variable {α : Type} {attempt : Attempt} {engine : Engine} {failure : Failure} {fault : Fault}

/-- What a probe meets on an attempt: a failure to open the connection, or else one of the query. -/
def Attempt.met (attempt : Attempt) : Option Failure := attempt.connect.or attempt.execute

/-- The trace of a probe on an attempt. -/
def Attempt.trace (attempt : Attempt) : List Event :=
  if attempt.connect.isSome then [.connect] else [.connect, .execute, .close]

/-- What a probe comes to on an attempt. -/
def Attempt.result (attempt : Attempt) : Except Failure Unit :=
  match attempt.connect, attempt.execute with
  | some failure, _ => .error failure.onConnect
  | none, some failure => .error failure
  | none, none => .ok ()

/-- A probe is settled by the next attempt to open a connection, which it uses up. -/
theorem check_eq (engine : Engine) :
    check engine = ⟨engine.next.1.result, engine.next.1.trace, engine.next.2⟩ := by
  cases h : engine.next with
  | mk attempt rest =>
    obtain ⟨connect, execute⟩ := attempt
    cases connect <;> cases execute <;>
      simp [check, Database.connect, h, bind, Work.bind, Work.andThen, Work.note, pure, Work.fail,
        Work.ofResult, Attempt.result, Attempt.trace]

theorem Attempt.result_of_met_eq_none (h : attempt.met = none) : attempt.result = .ok () := by
  obtain ⟨opened, answered⟩ := Option.or_eq_none_iff.1 h
  simp only [result, opened, answered]

theorem Attempt.result_of_connect (h : attempt.connect = some failure) :
    attempt.result = .error failure.onConnect := by
  simp only [result, h]

theorem Attempt.result_of_execute (opened : attempt.connect = none)
    (h : attempt.execute = some failure) : attempt.result = .error failure := by
  simp only [result, opened, h]

/-! ### What the guard learns from a probe -/

/-- Whether the database is there, as a probe on an attempt tells it. -/
def Attempt.isThere (attempt : Attempt) : Except Failure Bool :=
  match attempt.result with
  | .ok () => .ok true
  | .error failure => if failure.isOfDriver then .ok false else .error failure

/-- Asking whether the database is there uses up one attempt, as the probe does. -/
theorem reachable_eq (engine : Engine) :
    reachable engine = ⟨engine.next.1.isThere, engine.next.1.trace, engine.next.2⟩ := by
  unfold reachable Work.andThen Attempt.isThere
  rw [check_eq]
  cases engine.next.1.result with
  | ok u => simp [pure, Work.ofResult]
  | error failure =>
    cases failure with
    | unreachable message cause => simp [pure, Work.ofResult, Failure.isOfDriver]
    | fault fault =>
      cases h : fault.kind.isDriver <;>
        simp [h, pure, Work.fail, Work.ofResult, Failure.isOfDriver]

/-- On connecting, every failure that is of the database comes to be one of the driver. -/
theorem isOfDriver_onConnect (h : failure.isOfDatabase = true) :
    failure.onConnect.isOfDriver = true := by
  cases failure with
  | unreachable message cause => rfl
  | fault fault =>
    change (fault.kind.isDriver || fault.kind.isArgument) = true at h
    simp only [Failure.onConnect, h, if_true, Failure.lost, Failure.isOfDriver]

/-- On connecting, a fault that is not of the database is left as it is. -/
theorem onConnect_of_not_isOfDatabase (h : (Failure.fault fault).isOfDatabase = false) :
    (Failure.fault fault).onConnect = .fault fault := by
  change (fault.kind.isDriver || fault.kind.isArgument) = false at h
  simp only [Failure.onConnect, h, Bool.false_eq_true, if_false]

theorem not_isOfDriver_of_not_isOfDatabase (h : failure.isOfDatabase = false) :
    failure.isOfDriver = false := by
  cases failure with
  | unreachable message cause => cases h
  | fault fault => exact (Bool.or_eq_false_iff.1 h).1

namespace Attempt

theorem isThere_of_met_eq_none (h : attempt.met = none) : attempt.isThere = .ok true := by
  rw [isThere, result_of_met_eq_none h]

theorem isThere_of_connect (h : attempt.connect = some failure)
    (ofDatabase : failure.isOfDatabase = true) : attempt.isThere = .ok false := by
  rw [isThere, result_of_connect h]
  exact if_pos (isOfDriver_onConnect ofDatabase)

theorem isThere_of_execute (opened : attempt.connect = none) (h : attempt.execute = some failure) :
    attempt.isThere = if failure.isOfDriver then .ok false else .error failure := by
  rw [isThere, result_of_execute opened h]

theorem isThere_of_foreign (h : attempt.met = some (.fault fault))
    (foreign : (Failure.fault fault).isOfDatabase = false) :
    attempt.isThere = .error (.fault fault) := by
  have silent := not_isOfDriver_of_not_isOfDatabase foreign
  cases opened : attempt.connect with
  | some first =>
    rw [met, opened] at h
    obtain rfl := Option.some.inj h
    rw [isThere, result_of_connect opened, onConnect_of_not_isOfDatabase foreign]
    exact if_neg (silent ▸ Bool.false_ne_true)
  | none =>
    rw [met, opened] at h
    rw [isThere_of_execute opened h, silent]
    exact if_neg Bool.false_ne_true

end Attempt

/-! ### The guard -/

/-- How a guarded block ends if the block itself has ended in an operational fault that has not cost
the connection: one attempt to open a connection is used up, and what is met on it decides. -/
structure IsProbed (first : Outcome α) (fault : Fault) (last : Outcome α) : Prop where
  trace : last.trace = first.trace ++ first.engine.next.1.trace
  engine : last.engine = first.engine.next.2
  /-- The probe succeeds. -/
  there : first.engine.next.1.met = none → last.result = .error (.fault fault)
  /-- No connection is opened. -/
  unopened : ∀ failure, first.engine.next.1.connect = some failure →
    failure.isOfDatabase = true → last.result = .error (.lost fault)
  /-- The query fails. -/
  unanswered : ∀ failure, first.engine.next.1.connect = none →
    first.engine.next.1.execute = some failure → failure.isOfDriver = true →
      last.result = .error (.lost fault)
  /-- The probe meets a fault that does not speak of the database. -/
  foreign : ∀ other, first.engine.next.1.met = some (.fault other) →
    (Failure.fault other).isOfDatabase = false → last.result = .error (.fault other)
  /-- The query fails, but not by the driver. -/
  passed : ∀ failure, first.engine.next.1.connect = none →
    first.engine.next.1.execute = some failure → failure.isOfDriver = false →
      last.result = .error failure

/-- How a guarded block ends, by how the block itself has ended. -/
structure IsClassified (first last : Outcome α) : Prop where
  finished : ∀ a, first.result = .ok a → last = first
  unrelated : ∀ failure, first.result = .error failure →
    (∀ fault, failure = .fault fault → fault.kind ≠ .operational) → last = first
  invalidated : ∀ fault, first.result = .error (.fault fault) → fault.kind = .operational →
    fault.invalidated = true → last = { first with result := .error (.lost fault) }
  probed : ∀ fault, first.result = .error (.fault fault) → fault.kind = .operational →
    fault.invalidated = false → IsProbed first fault last

section Guard

variable {work : Work α}

/-- What has ended a block is settled from where the block has left the engine. -/
theorem guard_of_error (ended : (work engine).result = .error failure) :
    guard work engine =
      { settle (α := α) failure (work engine).engine with
        trace := (work engine).trace ++ (settle (α := α) failure (work engine).engine).trace } := by
  simp only [guard, Work.andThen, ended]

/-- A block that is settled without a look at the engine ends in the failure it is settled with. -/
theorem guard_of_settle_eq_fail {last : Failure} (ended : (work engine).result = .error failure)
    (settled : settle (α := α) failure = Work.fail last) :
    guard work engine = { work engine with result := .error last } := by
  rw [guard_of_error ended, settled]
  simp [Work.fail, Work.ofResult]

/-- A failure that is no operational fault is left as it is. -/
theorem guard_of_unrelated (ended : (work engine).result = .error failure)
    (unrelated : ∀ fault, failure = .fault fault → fault.kind ≠ .operational) :
    guard work engine = work engine := by
  have settled : settle (α := α) failure = Work.fail failure := by
    cases failure with
    | unreachable message cause => rfl
    | fault fault => exact if_pos (unrelated fault rfl)
  rw [guard_of_settle_eq_fail ended settled, ← ended]

/-- An operational fault that has cost the connection is an unreachable database. -/
theorem guard_of_invalidated (ended : (work engine).result = .error (.fault fault))
    (operational : fault.kind = .operational) (invalidated : fault.invalidated = true) :
    guard work engine = { work engine with result := .error (.lost fault) } := by
  refine guard_of_settle_eq_fail ended ?_
  simp only [settle, operational, invalidated, ne_eq, not_true_eq_false, if_false, if_true]

/-- An operational fault that has not cost the connection is settled by asking for the database. -/
theorem settle_of_operational (operational : fault.kind = .operational)
    (kept : fault.invalidated = false) (engine : Engine) :
    settle (α := α) (.fault fault) engine =
      ⟨engine.next.1.isThere.bind fun there =>
          .error (if there then .fault fault else .lost fault),
        engine.next.1.trace, engine.next.2⟩ := by
  have asked : settle (α := α) (.fault fault) =
      (reachable >>= fun there =>
        if there then Work.fail (.fault fault) else Work.fail (.lost fault)) := by
    simp [settle, operational, kept]
  have probe := reachable_eq engine
  rw [asked]
  cases told : engine.next.1.isThere with
  | error failure =>
    rw [told] at probe
    rw [Work.bind_of_error (by rw [probe]), probe]
    rfl
  | ok there =>
    rw [told] at probe
    rw [Work.bind_of_ok (by rw [probe]), probe]
    cases there <;> simp [Work.fail, Work.ofResult, Except.bind]

/-- The guard on a block that has ended in an operational fault on a connection that is left. -/
theorem guard_of_operational (ended : (work engine).result = .error (.fault fault))
    (operational : fault.kind = .operational) (kept : fault.invalidated = false) :
    guard work engine =
      ⟨(work engine).engine.next.1.isThere.bind fun there =>
          .error (if there then .fault fault else .lost fault),
        (work engine).trace ++ (work engine).engine.next.1.trace,
        (work engine).engine.next.2⟩ := by
  rw [guard_of_error ended, settle_of_operational operational kept]

theorem isProbed_guard (ended : (work engine).result = .error (.fault fault))
    (operational : fault.kind = .operational) (kept : fault.invalidated = false) :
    IsProbed (work engine) fault (guard work engine) := by
  rw [guard_of_operational ended operational kept]
  constructor
  case trace => rfl
  case engine => rfl
  case there =>
    intro met
    rw [Attempt.isThere_of_met_eq_none met]
    rfl
  case unopened =>
    intro failure unopened ofDatabase
    rw [Attempt.isThere_of_connect unopened ofDatabase]
    rfl
  case unanswered =>
    intro failure opened unanswered ofDriver
    rw [Attempt.isThere_of_execute opened unanswered, if_pos ofDriver]
    rfl
  case foreign =>
    intro other met foreign
    rw [Attempt.isThere_of_foreign met foreign]
    rfl
  case passed =>
    intro failure opened unanswered foreign
    rw [Attempt.isThere_of_execute opened unanswered, foreign, if_neg Bool.false_ne_true]
    rfl

/-- A block that ends well, or in a failure that is not operational, is left as it is. A fault that
has cost the connection is an unreachable database. Any other operational fault is put to the probe:
it stands if the database is there and is an unreachable database if it is gone, and gives way to a
fault of the probe that does not speak of the database. -/
theorem isClassified_guard (work : Work α) (engine : Engine) :
    IsClassified (work engine) (guard work engine) where
  finished _ ended := guard_eq_of_ok ended
  unrelated _ ended unrelated := guard_of_unrelated ended unrelated
  invalidated _ ended operational invalidated := guard_of_invalidated ended operational invalidated
  probed _ ended operational kept := isProbed_guard ended operational kept

/-- An engine whose attempts to open a connection time out. -/
def exhausted : Engine where
  rest := { connect := some (.fault (.raised .timeout (Text.ofString "pool exhausted") false)) }

/-- A guarded block that ends in an operational fault can leave another fault, the one that the
probe has met. -/
theorem not_always_own_fault :
    ¬∀ (work : Work Unit) (engine : Engine) (fault : Fault),
      (work engine).result = .error (.fault fault) → fault.kind = .operational →
        (guard work engine).result = .error (.fault fault) ∨
          (guard work engine).result = .error (.lost fault) := by
  intro always
  have ended := always (Work.fail (.fault (.raised .operational (Text.ofString "inside") false)))
    exhausted _ rfl rfl
  have left : (guard (α := Unit)
      (Work.fail (.fault (.raised .operational (Text.ofString "inside") false))) exhausted).result =
        .error (.fault (.raised .timeout (Text.ofString "pool exhausted") false)) := rfl
  rw [left] at ended
  rcases ended with own | lost
  · cases own
  · cases lost

end Guard

/-! ### Those who wait for the probe -/

section Waiting

/-- The verdict on a database that a fault keeps out of reach. -/
def unreachableVerdict (fault : Fault) : Command.Verdict where
  status := 1
  line := Text.ofString "database unreachable: " ++ fault.description

/-- A failure of the probe as all who wait for it see it: what the probe ends in, what start-up ends
in without any table made and has written down, and the verdict on the command line. -/
structure IsProbeFailure (engine : Engine) (failure : Failure) (log : List Log.Record)
    (verdict : Except Failure Command.Verdict) : Prop where
  checked : (check engine).result = .error failure
  /-- The making of tables is not begun. -/
  prepared : ∀ makeTables : Work Unit, prepare makeTables engine = check engine
  announced : ∀ url : Url, announce url (check engine).result = (.error failure, log)
  judged : Command.verdict (check engine).result = verdict

theorem prepare_of_check {makeTables : Work Unit} (h : (check engine).result = .error failure) :
    prepare makeTables engine = check engine := by
  rw [prepare, Work.bind_of_error h, ← h]

theorem isProbeFailure_lost (h : (check engine).result = .error (.lost fault)) :
    IsProbeFailure engine (.lost fault) [unavailableRecord (some fault)]
      (.ok (unreachableVerdict fault)) where
  checked := h
  prepared _ := prepare_of_check h
  announced url := by rw [h]; rfl
  judged := by rw [h]; rfl

theorem isProbeFailure_fault (h : (check engine).result = .error (.fault fault)) :
    IsProbeFailure engine (.fault fault) [] (.error (.fault fault)) where
  checked := h
  prepared _ := prepare_of_check h
  announced url := by rw [h]; rfl
  judged := by rw [h]; rfl

/-- A fault of the driver or of the address is reported to everybody as an unreachable database if
it is met on opening the connection. Met on the query, it reaches everybody as it is: nothing is
written down at start-up, there is no verdict, and a fault of the address even takes the place of
the one that a guarded block has ended in. -/
theorem probe_of_met (engine : Engine) :
    (engine.next.1.met = none → (check engine).result = .ok ()) ∧
    ∀ fault, (Failure.fault fault).isOfDatabase = true →
      (engine.next.1.connect = some (.fault fault) →
        IsProbeFailure engine (.lost fault) [unavailableRecord (some fault)]
          (.ok (unreachableVerdict fault))) ∧
      (engine.next.1.connect = none → engine.next.1.execute = some (.fault fault) →
        IsProbeFailure engine (.fault fault) [] (.error (.fault fault)) ∧
        ∀ (work : Work Unit) (first : Engine) (own : Fault), (work first).engine = engine →
          (work first).result = .error (.fault own) → own.kind = .operational →
            own.invalidated = false → (guard work first).result =
              .error (if fault.kind.isDriver then .lost own else .fault fault)) := by
  refine ⟨fun met => ?_, fun fault ofDatabase => ⟨fun unopened => ?_, fun opened unanswered => ?_⟩⟩
  · rw [check_eq]
    exact Attempt.result_of_met_eq_none met
  · have translated : (Failure.fault fault).onConnect = .lost fault := if_pos ofDatabase
    refine isProbeFailure_lost ?_
    rw [check_eq, ← translated]
    exact Attempt.result_of_connect unopened
  · refine ⟨isProbeFailure_fault ?_, fun work first own left ended operational kept => ?_⟩
    · rw [check_eq]
      exact Attempt.result_of_execute opened unanswered
    · rw [guard_of_operational ended operational kept, left,
        Attempt.isThere_of_execute opened unanswered]
      cases driver : fault.kind.isDriver <;> simp [Failure.isOfDriver, driver, Except.bind]

/-- An engine that opens connections on which no query is answered. -/
def unanswering (kind : Fault.Kind) : Engine where
  rest :=
    { execute := some (.fault (.raised kind (Text.ofString "server closed the connection") false)) }

/-- A fault of the driver that the query of a probe has met. -/
theorem probe_of_unanswering :
    IsProbeFailure (unanswering .operational)
      (.fault (.raised .operational (Text.ofString "server closed the connection") false)) []
      (.error
        (.fault (.raised .operational (Text.ofString "server closed the connection") false))) :=
  (((probe_of_met (unanswering .operational)).2 _ rfl).2 rfl rfl).1

/-- A failed probe is not always reported as an unreachable database with the fault for its
cause. -/
theorem not_always_reported :
    ¬∀ (engine : Engine) (fault : Fault), engine.next.1.met = some (.fault fault) →
      (Failure.fault fault).isOfDatabase = true → (check engine).result = .error (.lost fault) := by
  intro always
  have reported := always (unanswering .operational) _ rfl rfl
  cases reported

end Waiting

end Database

end Storefront
