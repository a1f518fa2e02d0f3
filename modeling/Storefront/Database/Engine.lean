import Storefront.Fault

/-!
# Connections and the guard

The database is reached through an engine that opens connections. An engine is known by what will
happen on each attempt to open one, and the shop's dealings with it leave a trace of events. Two
rules turn faults into the one failure that the rest of the shop knows. A fault on opening a
connection is an unreachable database. A block of work is guarded: if it ends in an operational
fault, the database is probed once more, and only if it does not answer, or if the fault has cost
the connection already, is the database unreachable.

## Main definitions

* `Database.Engine`, `Database.Attempt` — what the attempts to open a connection will meet
* `Database.Event` — what a trace is made of
* `Database.Work` — a dealing with the engine: its result, its trace and the engine afterwards
* `Database.connect`, `Database.check`, `Database.reachable` — the probe
* `Database.guard` — the guarded block

## Main results

* `Database.guard_eq_of_ok` — the guard does nothing to a block that ends well
-/

namespace Storefront.Database

/-- What happens on one attempt to open a connection: a failure of the attempt itself, or of the
query that is made on the connection. -/
structure Attempt where
  connect : Option Failure := none
  execute : Option Failure := none

/-- The attempts to come: some that are laid down one by one, and the rest all alike. -/
structure Engine where
  script : List Attempt := []
  rest : Attempt := {}

/-- The next attempt, and the engine after it. -/
def Engine.next (engine : Engine) : Attempt × Engine :=
  match engine.script with
  | [] => (engine.rest, engine)
  | attempt :: script => (attempt, { engine with script })

/-- An event in a trace. -/
inductive Event
  /-- A connection is asked for. -/
  | connect
  /-- The probe's query is sent. -/
  | execute
  /-- A connection is given back. -/
  | close
  /-- A block of work is entered. -/
  | body
  deriving DecidableEq, Repr

/-- What a dealing with the engine comes to. -/
structure Outcome (α : Type) where
  result : Except Failure α
  trace : List Event
  engine : Engine

/-- A dealing with the engine. -/
def Work (α : Type) := Engine → Outcome α

namespace Work

/-- Work that leaves the engine alone. -/
def ofResult {α : Type} (result : Except Failure α) : Work α := fun engine => ⟨result, [], engine⟩

/-- Work that goes on after other work in the light of its result, failures included. -/
def andThen {α β : Type} (work : Work α) (next : Except Failure α → Work β) : Work β :=
  fun engine =>
    let first := work engine
    let second := next first.result first.engine
    ⟨second.result, first.trace ++ second.trace, second.engine⟩

/-- Work that goes on only after a result. -/
def bind {α β : Type} (work : Work α) (next : α → Work β) : Work β :=
  work.andThen fun
    | .ok a => next a
    | .error failure => ofResult (.error failure)

instance : Monad Work where
  pure a := ofResult (.ok a)
  bind := bind

/-- Work that records an event and nothing else. -/
def note (event : Event) : Work Unit := fun engine => ⟨.ok (), [event], engine⟩

/-- Work that fails. -/
def fail {α : Type} (failure : Failure) : Work α := ofResult (.error failure)

variable {α β : Type} {work : Work α} {engine : Engine}

/-- Work goes on from where the work before it ended. -/
theorem bind_of_ok {a : α} (h : (work engine).result = .ok a) (next : α → Work β) :
    (work >>= next) engine =
      { next a (work engine).engine with
        trace := (work engine).trace ++ (next a (work engine).engine).trace } := by
  change Work.bind work next engine = _
  simp only [Work.bind, andThen, h]

/-- Work does not go on after a failure. -/
theorem bind_of_error {failure : Failure} (h : (work engine).result = .error failure)
    (next : α → Work β) :
    (work >>= next) engine = ⟨.error failure, (work engine).trace, (work engine).engine⟩ := by
  change Work.bind work next engine = _
  simp only [Work.bind, andThen, h, ofResult, List.append_nil]

end Work

/-- A connection is asked for; the result is what its query will meet. -/
def connect : Work (Option Failure) := fun engine =>
  let (attempt, engine) := engine.next
  match attempt.connect with
  | some failure => ⟨.error failure.onConnect, [.connect], engine⟩
  | none => ⟨.ok attempt.execute, [.connect], engine⟩

/-- A connection is opened and given back. -/
def connectOnce : Work Unit := do
  let _ ← connect
  Work.note .close

/-- The probe: a connection is opened, a query that needs no table is made on it, and it is given
back whatever came of the query. -/
def check : Work Unit := do
  let obstacle ← connect
  Work.note .execute
  Work.note .close
  -- The connection has been given back by now, so a failure of the query leaves none open.
  match obstacle with
  | none => pure ()
  | some failure => Work.fail failure

/-- Whether the probe succeeds. A failure that does not speak of the database is passed on. -/
def reachable : Work Bool :=
  check.andThen fun
    | .ok () => pure true
    | .error (.unreachable ..) => pure false
    | .error (.fault fault) =>
      if fault.kind.isDriver then pure false else Work.fail (.fault fault)

/-- What becomes of a failure that ends a guarded block. -/
def settle {α : Type} (failure : Failure) : Work α :=
  match failure with
  | .unreachable .. => Work.fail failure
  | .fault fault =>
    if fault.kind ≠ .operational then Work.fail failure
    -- A fault that has cost the connection leaves nothing to probe for.
    else if fault.invalidated then Work.fail (.lost fault)
    else do
      if ← reachable then Work.fail failure else Work.fail (.lost fault)

/-- A block of work, guarded. -/
def guard {α : Type} (work : Work α) : Work α :=
  work.andThen fun
    | .ok a => pure a
    | .error failure => settle failure

/-- A block that ends well is left as it is. -/
theorem guard_eq_of_ok {α : Type} {work : Work α} {engine : Engine} {a : α}
    (h : (work engine).result = .ok a) : guard work engine = work engine := by
  cases hw : work engine with
  | mk result trace after =>
    rw [hw] at h
    simp_all [guard, Work.andThen, pure, Work.ofResult]

end Storefront.Database
