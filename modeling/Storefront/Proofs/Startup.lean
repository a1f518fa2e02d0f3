import Storefront.Proofs.Probe

/-!
# Start-up

At start-up the database is probed, the tables are made in a guarded block, and what came of it is
announced. Failures can be met at three places: by the first probe, by the making of the tables, and
by the probe that the guard makes if the tables could not be made. Wherever they are met, there are
three endings, which the log tells apart. Either the tables are there, or the database is
unreachable for a cause that is told, or nothing is told and a fault that was met goes on as it is.

## Main definitions

* `Database.StartUp`, `Database.startUp` — what a start-up comes to
* `Database.IsMetAtStart` — the faults that can be met at start-up
* `Database.KeepsProtocol` — when the making of tables is begun, and what the log tells

## Main results

* `Database.endsGuarded` — how the guarded making of tables ends
* `Database.trace_startUp_of_error`, `Database.exists_trace_startUp_of_ok` — the trace by what the
  first probe comes to
* `Database.isMetAtStart_of_prepare` — a fault that ends a start-up was met there
* `Database.keepsProtocol_startUp` — every start-up keeps to the protocol
-/

namespace Storefront.Database

variable {engine : Engine} {attempt : Attempt} {url : Url}
variable {ended : Except Failure Unit} {failure : Failure} {fault : Fault}

/-! ### What a probe has met -/

/-- A fault on connecting that is told as such was met as it is. -/
theorem eq_of_onConnect (h : failure.onConnect = .fault fault) : failure = .fault fault := by
  cases failure with
  | unreachable message cause => cases h
  | fault other =>
    cases ofDatabase : (Failure.fault other).isOfDatabase with
    | true =>
      have translated : (Failure.fault other).onConnect = .lost other := if_pos ofDatabase
      rw [translated] at h
      cases h
    | false => rwa [onConnect_of_not_isOfDatabase ofDatabase] at h

namespace Attempt

/-- A fault that a probe ends in is what it has met. -/
theorem met_of_result (h : attempt.result = .error (.fault fault)) :
    attempt.met = some (.fault fault) := by
  cases opened : attempt.connect with
  | some first =>
    rw [result_of_connect opened] at h
    rw [met, opened, eq_of_onConnect (Except.error.inj h), Option.some_or]
  | none =>
    rw [met, opened, Option.none_or]
    cases asked : attempt.execute with
    | some second =>
      rw [result_of_execute opened asked] at h
      rw [Except.error.inj h]
    | none =>
      rw [result_of_met_eq_none (by rw [met, opened, asked]; rfl)] at h
      cases h

/-- A failure in place of an answer is what the probe has ended in. -/
theorem result_of_isThere (h : attempt.isThere = .error failure) :
    attempt.result = .error failure := by
  unfold isThere at h
  split at h
  · cases h
  · next first ends =>
    split at h
    · cases h
    · rw [ends, Except.error.inj h]

/-- A probe enters no block. -/
theorem body_notMem_trace (attempt : Attempt) : Event.body ∉ attempt.trace := by
  unfold trace
  split <;> decide

end Attempt

/-! ### Start-ups -/

/-- A block that is entered and ends in some way. -/
def entering (ended : Except Failure Unit) : Work Unit := do
  Work.note .body
  Work.ofResult ended

/-- What a start-up comes to. -/
structure StartUp where
  result : Except Failure Unit
  trace : List Event
  log : List Log.Record

/-- The start-up with the database at an address, whose tables are made by a block that ends in some
way. -/
def startUp (url : Url) (ended : Except Failure Unit) (engine : Engine) : StartUp :=
  let done := prepare (entering ended) engine
  let (result, log) := announce url done.result
  { result, trace := done.trace, log }

theorem entering_apply (ended : Except Failure Unit) (engine : Engine) :
    entering ended engine = ⟨ended, [.body], engine⟩ := by
  have noted : (Work.note .body engine).result = .ok () := rfl
  rw [entering, Work.bind_of_ok noted]
  rfl

/-- The tables are made once the first probe has given its connection back. -/
theorem prepare_of_ok (checked : (check engine).result = .ok ()) :
    prepare (entering ended) engine =
      { guard (entering ended) engine.next.2 with
        trace := engine.next.1.trace ++ (guard (entering ended) engine.next.2).trace } := by
  rw [prepare, Work.bind_of_ok checked, check_eq]

/-- How the guarded making of tables ends, by how the making itself does. -/
inductive EndsGuarded (ended : Except Failure Unit) (engine : Engine) : Outcome Unit → Prop
  | passed (unrelated : ∀ own, ended = .error (.fault own) → own.kind ≠ .operational) :
    EndsGuarded ended engine ⟨ended, [.body], engine⟩
  | invalidated {own : Fault} (raised : ended = .error (.fault own))
      (operational : own.kind = .operational) (lost : own.invalidated = true) :
    EndsGuarded ended engine ⟨.error (.lost own), [.body], engine⟩
  | probed {own : Fault} (raised : ended = .error (.fault own))
      (operational : own.kind = .operational) (kept : own.invalidated = false) :
    EndsGuarded ended engine
      ⟨engine.next.1.isThere.bind fun there => .error (if there then .fault own else .lost own),
        .body :: engine.next.1.trace, engine.next.2⟩

theorem endsGuarded (ended : Except Failure Unit) (engine : Engine) :
    EndsGuarded ended engine (guard (entering ended) engine) := by
  have block := entering_apply ended engine
  have own : (entering ended engine).result = ended := by rw [block]
  cases ended with
  | ok u =>
    rw [guard_eq_of_ok own, block]
    exact .passed nofun
  | error failure =>
    cases failure with
    | unreachable message cause =>
      rw [guard_of_unrelated own nofun, block]
      exact .passed nofun
    | fault fault =>
      -- The guard looks into operational faults alone, and probes unless the connection is lost.
      by_cases operational : fault.kind = .operational
      · cases kept : fault.invalidated with
        | true =>
          rw [guard_of_invalidated own operational kept, block]
          exact .invalidated rfl operational kept
        | false =>
          rw [guard_of_operational own operational kept, block]
          exact .probed rfl operational kept
      · have unrelated (other : Fault) (same : Failure.fault fault = .fault other) :
            other.kind ≠ .operational := Failure.fault.inj same ▸ operational
        rw [guard_of_unrelated own unrelated, block]
        exact .passed fun other raised => unrelated other (Except.error.inj raised)

/-! ### Traces -/

theorem EndsGuarded.exists_trace {last : Outcome Unit} (h : EndsGuarded ended engine last) :
    ∃ rest, last.trace = .body :: rest ∧ Event.body ∉ rest := by
  cases h with
  | passed unrelated => exact ⟨[], rfl, List.not_mem_nil⟩
  | invalidated raised operational lost => exact ⟨[], rfl, List.not_mem_nil⟩
  | probed raised operational kept => exact ⟨_, rfl, Attempt.body_notMem_trace _⟩

/-- A start-up whose first probe fails is that probe. -/
theorem trace_startUp_of_error (url : Url) (ended : Except Failure Unit)
    (checked : (check engine).result = .error failure) :
    (startUp url ended engine).trace = engine.next.1.trace := by
  change (prepare (entering ended) engine).trace = _
  rw [prepare_of_check checked, check_eq]

/-- Otherwise the making of tables is begun next, and not again. -/
theorem exists_trace_startUp_of_ok (url : Url) (ended : Except Failure Unit)
    (checked : (check engine).result = .ok ()) :
    ∃ rest, (startUp url ended engine).trace = engine.next.1.trace ++ .body :: rest ∧
      Event.body ∉ rest := by
  obtain ⟨rest, trace, once⟩ := (endsGuarded ended engine.next.2).exists_trace
  refine ⟨rest, ?_, once⟩
  change (prepare (entering ended) engine).trace = _
  rw [prepare_of_ok checked]
  exact congrArg (engine.next.1.trace ++ ·) trace

/-! ### Endings -/

/-- The faults that can be met at start-up: by the first probe, by the making of the tables, by the
probe after it, and in the address when all has gone well. -/
inductive IsMetAtStart (url : Url) (ended : Except Failure Unit) (engine : Engine) : Fault → Prop
  | first {fault : Fault} (met : engine.next.1.met = some (.fault fault)) :
    IsMetAtStart url ended engine fault
  | tables {fault : Fault} (checked : (check engine).result = .ok ())
      (raised : ended = .error (.fault fault)) : IsMetAtStart url ended engine fault
  | second {own fault : Fault} (checked : (check engine).result = .ok ())
      (raised : ended = .error (.fault own)) (operational : own.kind = .operational)
      (met : engine.next.2.next.1.met = some (.fault fault)) : IsMetAtStart url ended engine fault
  | address {fault : Fault} (checked : (check engine).result = .ok ()) (made : ended = .ok ())
      (unshown : url.shown = .error fault) : IsMetAtStart url ended engine fault

theorem EndsGuarded.met {last : Outcome Unit} (h : EndsGuarded ended engine last)
    (ends : last.result = .error (.fault fault)) :
    ended = .error (.fault fault) ∨
      ∃ own, ended = .error (.fault own) ∧ own.kind = .operational ∧
        engine.next.1.met = some (.fault fault) := by
  cases h with
  | passed unrelated => exact .inl ends
  | invalidated raised operational lost => cases ends
  | @probed own raised operational kept =>
    cases told : engine.next.1.isThere with
    | error failure =>
      -- A probe that does not tell whether the database is there puts its own fault in the place.
      rw [told] at ends
      obtain rfl := Except.error.inj ends
      exact .inr ⟨own, raised, operational,
        Attempt.met_of_result (Attempt.result_of_isThere told)⟩
    | ok there =>
      rw [told] at ends
      cases there with
      | true => exact .inl (ends ▸ raised)
      | false => cases ends

/-- A failure that is no operational fault is left as it is. -/
theorem EndsGuarded.result_of_unrelated {last : Outcome Unit} (h : EndsGuarded ended engine last)
    (raised : ended = .error failure)
    (unrelated : ∀ own, failure = .fault own → own.kind ≠ .operational) :
    last.result = .error failure := by
  cases h with
  | passed => exact raised
  | invalidated raised' operational lost =>
    exact absurd operational (unrelated _ (Except.error.inj (raised.symm.trans raised')))
  | probed raised' operational kept =>
    exact absurd operational (unrelated _ (Except.error.inj (raised.symm.trans raised')))

/-- So is an operational fault on a connection that is left, if the database is there. -/
theorem EndsGuarded.result_of_there {last : Outcome Unit} (h : EndsGuarded ended engine last)
    (raised : ended = .error (.fault fault)) (kept : fault.invalidated = false)
    (there : engine.next.1.met = none) : last.result = .error (.fault fault) := by
  cases h with
  | passed => exact raised
  | invalidated raised' operational lost =>
    cases raised.symm.trans raised'
    cases kept.symm.trans lost
  | probed raised' =>
    cases raised.symm.trans raised'
    rw [Attempt.isThere_of_met_eq_none there]
    rfl

theorem EndsGuarded.ended_eq_ok {last : Outcome Unit} (h : EndsGuarded ended engine last)
    (ends : last.result = .ok ()) : ended = .ok () := by
  cases h with
  | passed unrelated => exact ends
  | invalidated raised operational lost => cases ends
  | probed raised operational kept =>
    cases told : engine.next.1.isThere <;> rw [told] at ends <;> cases ends

/-- A fault that ends the first probe or the guarded making of tables was met there. -/
theorem isMetAtStart_of_prepare
    (ends : (prepare (entering ended) engine).result = .error (.fault fault)) :
    IsMetAtStart url ended engine fault := by
  cases checked : (check engine).result with
  | error failure =>
    rw [prepare_of_check checked, check_eq] at ends
    exact .first (Attempt.met_of_result ends)
  | ok u =>
    rw [prepare_of_ok checked] at ends
    rcases (endsGuarded ended engine.next.2).met ends with
      raised | ⟨own, raised, operational, met⟩
    · exact .tables checked raised
    · exact .second checked raised operational met

/-- Tables were made after a probe that succeeded. -/
theorem of_prepare_eq_ok (made : (prepare (entering ended) engine).result = .ok ()) :
    (check engine).result = .ok () ∧ ended = .ok () := by
  cases checked : (check engine).result with
  | error failure =>
    rw [prepare_of_check checked, checked] at made
    cases made
  | ok u =>
    rw [prepare_of_ok checked] at made
    exact ⟨rfl, (endsGuarded ended engine.next.2).ended_eq_ok made⟩

/-! ### Announcements -/

/-- The text of a cause, where there is one. -/
def causeText (cause : Option Fault) : Text :=
  (cause.map Fault.description).getD (Text.ofString "None")

/-- What is made of an ending by announcing it, and what is recorded. -/
inductive Announces (url : Url) : Except Failure Unit → Except Failure Unit → List Log.Record → Prop
  | verified {address : Text} (shown : url.shown = .ok address) :
    Announces url (.ok ()) (.ok ()) [verifiedRecord address]
  | unshown {fault : Fault} (unshown : url.shown = .error fault) :
    Announces url (.ok ()) (.error (.fault fault)) []
  | unavailable {message : Text} {cause : Option Fault} :
    Announces url (.error (.unreachable message cause)) (.error (.unreachable message cause))
      [unavailableRecord cause]
  | passed {fault : Fault} : Announces url (.error (.fault fault)) (.error (.fault fault)) []

theorem announces (url : Url) (ending : Except Failure Unit) :
    Announces url ending (announce url ending).1 (announce url ending).2 := by
  unfold announce
  cases ending with
  | ok u =>
    cases shown : url.shown with
    | ok address => exact .verified shown
    | error fault => exact .unshown shown
  | error failure =>
    cases failure with
    | unreachable message cause => exact .unavailable
    | fault fault => exact .passed

/-- The two records are not taken for each other. -/
theorem verifiedRecord_ne (address : Text) (cause : Option Fault) :
    verifiedRecord address ≠ unavailableRecord cause := by
  intro same
  cases congrArg Log.Record.level same

section Announcements

variable {ending result : Except Failure Unit} {log : List Log.Record}

/-- The tables are said to be there exactly when all has gone well. -/
theorem Announces.verified_iff (h : Announces url ending result log) :
    (∃ address, verifiedRecord address ∈ log) ↔ result = .ok () := by
  cases h with
  | verified shown => exact ⟨fun _ => rfl, fun _ => ⟨_, List.mem_singleton_self _⟩⟩
  | unshown unshown => exact ⟨nofun, nofun⟩
  | @unavailable message cause =>
    refine ⟨fun ⟨address, mem⟩ => ?_, nofun⟩
    exact absurd (List.mem_singleton.1 mem) (verifiedRecord_ne address cause)
  | passed => exact ⟨nofun, nofun⟩

/-- The database is said to be unavailable exactly when it is unreachable. -/
theorem Announces.unavailable_iff (h : Announces url ending result log) :
    (∃ cause, unavailableRecord cause ∈ log) ↔
      ∃ message cause, result = .error (.unreachable message cause) := by
  cases h with
  | @verified address shown =>
    refine ⟨fun ⟨cause, mem⟩ => ?_, nofun⟩
    exact absurd (List.mem_singleton.1 mem).symm (verifiedRecord_ne address cause)
  | unshown unshown => exact ⟨nofun, nofun⟩
  | unavailable => exact ⟨fun _ => ⟨_, _, rfl⟩, fun _ => ⟨_, List.mem_singleton_self _⟩⟩
  | passed => exact ⟨nofun, nofun⟩

theorem Announces.log_of_ok (h : Announces url ending result log) (well : result = .ok ()) :
    ∃ address, url.shown = .ok address ∧ log = [verifiedRecord address] := by
  cases h with
  | verified shown => exact ⟨_, shown, rfl⟩
  | _ => cases well

theorem Announces.log_of_unreachable {message : Text} {cause : Option Fault}
    (h : Announces url ending result log) (failed : result = .error (.unreachable message cause)) :
    log = [unavailableRecord cause] := by
  cases h with
  | unavailable =>
    cases failed
    rfl
  | _ => cases failed

/-- A fault is that of the ending or that of the address. -/
theorem Announces.log_of_fault (h : Announces url ending result log)
    (failed : result = .error (.fault fault)) :
    log = [] ∧ (ending = .error (.fault fault) ∨ ending = .ok () ∧ url.shown = .error fault) := by
  cases h with
  | unshown unshown =>
    cases failed
    exact ⟨rfl, .inr ⟨rfl, unshown⟩⟩
  | passed => exact ⟨rfl, .inl failed⟩
  | _ => cases failed

/-- A failure is announced as what it is. -/
theorem Announces.result_of_error (h : Announces url ending result log)
    (failed : ending = .error failure) : result = .error failure := by
  cases h with
  | verified shown => cases failed
  | unshown unshown => cases failed
  | unavailable => exact failed
  | passed => exact failed

end Announcements

/-! ### The protocol -/

/-- What a start-up does, and what the log tells of it. -/
structure KeepsProtocol (url : Url) (ended : Except Failure Unit) (engine : Engine)
    (startUp : StartUp) : Prop where
  /-- The making of tables is begun at most once. -/
  count_body_le : startUp.trace.count .body ≤ 1
  body_mem_iff : .body ∈ startUp.trace ↔ (check engine).result = .ok ()
  verified_iff : (∃ address, verifiedRecord address ∈ startUp.log) ↔ startUp.result = .ok ()
  unavailable_iff : (∃ cause, unavailableRecord cause ∈ startUp.log) ↔
    ∃ message cause, startUp.result = .error (.unreachable message cause)
  log_of_ok : startUp.result = .ok () →
    ∃ address, url.shown = .ok address ∧ startUp.log = [verifiedRecord address] ∧
      Text.ofString "Schema verified" <+: (verifiedRecord address).message
  /-- What is recorded ends in the text of the cause. -/
  log_of_unreachable : ∀ message cause, startUp.result = .error (.unreachable message cause) →
    startUp.log = [unavailableRecord cause] ∧ (unavailableRecord cause).level = .error ∧
      Text.ofString "Database unavailable at start-up" <+: (unavailableRecord cause).message ∧
      causeText cause <:+ (unavailableRecord cause).message
  /-- All other faults go on unrecorded, as they were met. -/
  log_of_fault : ∀ fault, startUp.result = .error (.fault fault) →
    startUp.log = [] ∧ IsMetAtStart url ended engine fault
  /-- What the first probe ends in is what the start-up ends in. -/
  refused : ∀ failure, (check engine).result = .error failure → startUp.result = .error failure
  /-- A failure of the tables that is no operational fault goes on as it is. -/
  unrelated : ∀ failure, (check engine).result = .ok () → ended = .error failure →
    (∀ own, failure = .fault own → own.kind ≠ .operational) → startUp.result = .error failure
  /-- So does an operational fault on a connection that is left, if the database is there. -/
  there : ∀ own, (check engine).result = .ok () → ended = .error (.fault own) →
    own.invalidated = false → engine.next.2.next.1.met = none →
      startUp.result = .error (.fault own)

theorem announces_startUp (url : Url) (ended : Except Failure Unit) (engine : Engine) :
    Announces url (prepare (entering ended) engine).result (startUp url ended engine).result
      (startUp url ended engine).log :=
  announces url _

/-- The making of tables is begun exactly if the first probe succeeds. -/
theorem body_mem_trace_startUp_iff (url : Url) (ended : Except Failure Unit) (engine : Engine) :
    .body ∈ (startUp url ended engine).trace ↔ (check engine).result = .ok () := by
  cases checked : (check engine).result with
  | error failure =>
    rw [trace_startUp_of_error url ended checked]
    exact ⟨fun mem => absurd mem (Attempt.body_notMem_trace _), nofun⟩
  | ok u =>
    obtain ⟨rest, trace, -⟩ := exists_trace_startUp_of_ok url ended checked
    rw [trace]
    exact ⟨fun _ => rfl, fun _ => List.mem_append_right _ List.mem_cons_self⟩

/-- It is begun once at most. -/
theorem count_body_trace_startUp_le (url : Url) (ended : Except Failure Unit) (engine : Engine) :
    (startUp url ended engine).trace.count .body ≤ 1 := by
  have probe : engine.next.1.trace.count .body = 0 :=
    List.count_eq_zero.2 (Attempt.body_notMem_trace _)
  cases checked : (check engine).result with
  | error failure =>
    rw [trace_startUp_of_error url ended checked]
    exact Nat.le_trans (Nat.le_of_eq probe) (Nat.zero_le 1)
  | ok u =>
    obtain ⟨rest, trace, once⟩ := exists_trace_startUp_of_ok url ended checked
    refine Nat.le_of_eq ?_
    rw [trace, List.count_append, List.count_cons_self, probe, List.count_eq_zero.2 once]

/-- Whatever failures the engine and the making of tables meet, a start-up begins to make the tables
exactly if the first probe succeeds, and tells of its ending what there is to be told. -/
theorem keepsProtocol_startUp (url : Url) (ended : Except Failure Unit) (engine : Engine) :
    KeepsProtocol url ended engine (startUp url ended engine) where
  count_body_le := count_body_trace_startUp_le url ended engine
  body_mem_iff := body_mem_trace_startUp_iff url ended engine
  verified_iff := (announces_startUp url ended engine).verified_iff
  unavailable_iff := (announces_startUp url ended engine).unavailable_iff
  log_of_ok well := by
    obtain ⟨address, shown, told⟩ := (announces_startUp url ended engine).log_of_ok well
    have text : (verifiedRecord address).message =
        Text.ofString "Schema verified for " ++ address := rfl
    refine ⟨address, shown, told, ?_⟩
    rw [text]
    exact ⟨Text.ofString " for " ++ address, by simp [Text.ofString]⟩
  log_of_unreachable message cause failed := by
    have told := (announces_startUp url ended engine).log_of_unreachable failed
    have text : (unavailableRecord cause).message =
        Text.ofString "Database unavailable at start-up: " ++ causeText cause := rfl
    refine ⟨told, rfl, ?_, ?_⟩
    · rw [text]
      exact ⟨Text.ofString ": " ++ causeText cause, by simp [Text.ofString]⟩
    · rw [text]
      exact List.suffix_append _ _
  log_of_fault fault failed := by
    obtain ⟨silent, ends | ⟨made, unshown⟩⟩ :=
      (announces_startUp url ended engine).log_of_fault failed
    · exact ⟨silent, isMetAtStart_of_prepare ends⟩
    · obtain ⟨checked, done⟩ := of_prepare_eq_ok made
      exact ⟨silent, .address checked done unshown⟩
  refused failure checked := by
    refine (announces_startUp url ended engine).result_of_error ?_
    rw [prepare_of_check checked, checked]
  unrelated failure checked raised unrelated := by
    refine (announces_startUp url ended engine).result_of_error ?_
    rw [prepare_of_ok checked]
    exact (endsGuarded ended engine.next.2).result_of_unrelated raised unrelated
  there own checked raised kept there := by
    refine (announces_startUp url ended engine).result_of_error ?_
    rw [prepare_of_ok checked]
    exact (endsGuarded ended engine.next.2).result_of_there raised kept there

/-- The tables cannot be made, and the probe of the guard opens no connection. -/
example :
    startUp { dialect := Text.ofString "sqlite" }
        (.error (.fault (.raised .operational (Text.ofString "disk I/O error") false)))
        { script := [{}, { connect := some (.fault .cannotOpen) }] } =
      { result := .error (.lost (.raised .operational (Text.ofString "disk I/O error") false))
        trace := [.connect, .execute, .close, .body, .connect]
        log := [unavailableRecord
          (some (.raised .operational (Text.ofString "disk I/O error") false))] } :=
  rfl

end Storefront.Database
