import Storefront.Proofs.Startup

/-!
# Leases

A connection is lent, not given away. Whoever is lent one gives it back before another one is asked
for, however the work with it ends, and where no connection could be opened there is nothing to ask
and nothing to give back. All of this is told of traces. Every attempt in a trace uses up one of the
engine, so the engine tells which of them have opened a connection.

The traces are first described as a grammar, which is closed under what the dealings with an engine
do one after the other. What they keep to is then read off at each place of such a trace.

## Main definitions

* `Database.Engine.attempt`, `Database.Engine.opens` — the attempts of an engine, by their numbers
* `Database.lend` — a connection lent to a block that makes queries and ends in any way
* `Database.IsOpenAfter`, `Database.HoldsAfter` — a connection is open after a trace
* `Database.GivesBack` — what a trace keeps to
* `Database.Lends` — the grammar of the traces

## Main results

* `Database.Lends.places` — what stands before and after each event of a trace
* `Database.check_eq_lend` — the probe is a lease with one query
* `Database.settles_dealings` — whatever is done with an engine, every connection is given back once
-/

namespace Storefront.Database

open List

/-! ### The attempts of an engine -/

namespace Engine

/-- The attempts to open a connection, numbered from the next one on. -/
def attempt (engine : Engine) : Nat → Attempt
  | 0 => engine.next.1
  | n + 1 => engine.next.2.attempt n

/-- The engine after a number of attempts. -/
def after (engine : Engine) : Nat → Engine
  | 0 => engine
  | n + 1 => engine.next.2.after n

/-- Whether an attempt opens a connection. -/
def opens (engine : Engine) (n : Nat) : Prop := (engine.attempt n).connect = none

end Engine

/-! ### What a trace keeps to -/

/-- Whether some connection is open after a trace: it has been opened, and none has been given back
since. -/
def IsOpenAfter (engine : Engine) (trace : List Event) : Prop :=
  ∃ earlier since, trace = earlier ++ .connect :: since ∧ engine.opens (earlier.count .connect) ∧
    .close ∉ since

/-- Whether the connection that was asked for last is open after a trace. -/
def HoldsAfter (engine : Engine) (trace : List Event) : Prop :=
  ∃ earlier since, trace = earlier ++ .connect :: since ∧ engine.opens (earlier.count .connect) ∧
    .connect ∉ since ∧ .close ∉ since

/-- A trace of dealings with an engine in which every connection is given back. -/
structure GivesBack (engine : Engine) (trace : List Event) : Prop where
  /-- A connection that is opened is given back once before another one is asked for. -/
  opened : ∀ before after, trace = before ++ .connect :: after →
    engine.opens (before.count .connect) → (after.takeWhile (· ≠ .connect)).count .close = 1
  /-- After an attempt that has failed nothing is asked and nothing is given back. -/
  refused : ∀ before after, trace = before ++ .connect :: after →
    ¬engine.opens (before.count .connect) → .execute ∉ after ∧ .close ∉ after
  /-- A query is made on the connection that was opened last, before that is given back. -/
  asked : ∀ before after, trace = before ++ .execute :: after →
    HoldsAfter engine before ∧ .close ∈ after.takeWhile (· ≠ .connect)
  /-- What is given back is the connection that was opened last. -/
  given : ∀ before after, trace = before ++ .close :: after → HoldsAfter engine before
  /-- No connection is open when a block of work is entered. -/
  entered : ∀ before after, trace = before ++ .body :: after → ¬IsOpenAfter engine before

/-! ### The grammar of traces -/

/-- A connection is asked for, queries are made on it, and it is given back. -/
def leased (queries : Nat) : List Event := .connect :: (replicate queries .execute ++ [.close])

/-- From one engine to the next, connections are lent one after the other and blocks of work are
entered between the leases. An attempt that fails is the end. -/
inductive Lends : Engine → List Event → Engine → Prop
  | nothing {engine : Engine} : Lends engine [] engine
  | entered {engine last : Engine} {rest : List Event} (goesOn : Lends engine rest last) :
    Lends engine (.body :: rest) last
  | refused {engine : Engine} (unopened : ¬engine.opens 0) :
    Lends engine [.connect] engine.next.2
  | lent {engine last : Engine} {rest : List Event} (opened : engine.opens 0) (queries : Nat)
      (goesOn : Lends engine.next.2 rest last) : Lends engine (leased queries ++ rest) last

/-- Every connection that was asked for has been followed by one that was given back. -/
def IsIdleAfter (trace : List Event) : Prop :=
  ∀ earlier since, trace = earlier ++ .connect :: since → .close ∈ since

/-- What stands before and after an event in a trace of leases. -/
inductive Place (engine : Engine) : List Event → Event → List Event → Prop
  | body {before : List Event} (idle : IsIdleAfter before) (after : List Event) :
    Place engine before .body after
  | refused {before : List Event} (unopened : ¬engine.opens (before.count .connect)) :
    Place engine before .connect []
  | opened {before after : List Event} (opened : engine.opens (before.count .connect))
      (queries : Nat) (quiet : .close ∉ after.takeWhile (· ≠ .connect)) :
    Place engine before .connect (replicate queries .execute ++ .close :: after)
  | asked (before : List Event) (opened : engine.opens (before.count .connect))
      (earlier later : Nat) (after : List Event) :
    Place engine (before ++ .connect :: replicate earlier .execute) .execute
      (replicate later .execute ++ .close :: after)
  | given (before : List Event) (opened : engine.opens (before.count .connect)) (queries : Nat)
      (after : List Event) :
    Place engine (before ++ .connect :: replicate queries .execute) .close after

section Places

variable {engine last : Engine} {trace before after : List Event} {event : Event}

theorem count_connect_leased (queries : Nat) : (leased queries).count .connect = 1 := by
  simp [leased, count_replicate]

/-- As many attempts are used up as there are in the trace. -/
theorem Lends.spent (h : Lends engine trace last) :
    last = engine.after (trace.count .connect) := by
  induction h with
  | nothing => rfl
  | entered goesOn ih => simpa using ih
  | refused unopened => rfl
  | @lent engine last rest opened queries goesOn ih =>
    rw [count_append, count_connect_leased, Nat.add_comm]
    exact ih

/-! #### Where a trace is split -/

/-- A trace that goes on after another is split within the one or within the other. -/
theorem split_append {first second : List Event}
    (split : first ++ second = before ++ event :: after) :
    (∃ rest, first = before ++ event :: rest ∧ after = rest ++ second) ∨
    ∃ rest, before = first ++ rest ∧ second = rest ++ event :: after := by
  rcases append_eq_append_iff.1 split with ⟨rest, here, there⟩ | ⟨rest, here, there⟩
  · exact .inr ⟨rest, here, there⟩
  · cases rest with
    -- The cut falls between the two traces, where the event is the first of the second.
    | nil => exact .inr ⟨[], by simpa using here.symm, there.symm⟩
    | cons other rest =>
      obtain ⟨rfl, rfl⟩ := List.cons.inj there
      exact .inl ⟨rest, here, rfl⟩

/-- After the connection is asked for, a lease is split at a query or at its end. -/
theorem split_queries {queries : Nat}
    (split : replicate queries .execute ++ [.close] = before ++ event :: after) :
    (∃ earlier later, before = replicate earlier .execute ∧ event = .execute ∧
      after = replicate later .execute ++ [.close]) ∨
    before = replicate queries .execute ∧ event = .close ∧ after = [] := by
  induction queries generalizing before with
  | zero =>
    rcases cons_eq_append_iff.1 split with ⟨rfl, here⟩ | ⟨rest, -, none⟩
    · cases here
      exact .inr ⟨rfl, rfl, rfl⟩
    · cases (append_eq_nil_iff.1 none.symm).2
  | succ queries ih =>
    rcases cons_eq_append_iff.1 split with ⟨rfl, here⟩ | ⟨rest, rfl, further⟩
    · cases here
      exact .inl ⟨0, queries, rfl, rfl, rfl⟩
    · rcases ih further with ⟨earlier, later, rfl, asked, ends⟩ | ⟨rfl, given, ends⟩
      · exact .inl ⟨earlier + 1, later, rfl, asked, ends⟩
      · exact .inr ⟨rfl, given, ends⟩

/-! #### Nothing is open -/

theorem isIdleAfter_nil : IsIdleAfter [] := by
  intro earlier since split
  cases (append_eq_nil_iff.1 split.symm).2

theorem IsIdleAfter.body_cons (h : IsIdleAfter trace) : IsIdleAfter (.body :: trace) := by
  intro earlier since split
  rcases cons_eq_append_iff.1 split with ⟨-, other⟩ | ⟨rest, -, further⟩
  · cases other
  · exact h rest since further

theorem IsIdleAfter.leased_append (h : IsIdleAfter trace) (queries : Nat) :
    IsIdleAfter (leased queries ++ trace) := by
  intro earlier since split
  rcases split_append split with ⟨rest, lease, rfl⟩ | ⟨rest, -, further⟩
  · rcases cons_eq_append_iff.1 lease with ⟨-, here⟩ | ⟨rest', -, further⟩
    · cases here
      simp
    · rcases split_queries further with ⟨_, _, _, other, _⟩ | ⟨_, other, _⟩ <;> cases other
  · exact h rest since further

theorem IsIdleAfter.not_isOpenAfter (h : IsIdleAfter trace) : ¬IsOpenAfter engine trace := by
  rintro ⟨earlier, since, split, -, kept⟩
  exact kept (h earlier since split)

/-! #### The places of a trace -/

theorem Place.body_cons (h : Place engine before event after) :
    Place engine (.body :: before) event after := by
  have same (trace : List Event) :
      (Event.body :: trace).count .connect = trace.count .connect := by simp
  cases h with
  | body idle => exact .body idle.body_cons after
  | refused unopened => exact .refused (same before ▸ unopened)
  | opened opened queries quiet => exact .opened (same before ▸ opened) queries quiet
  | asked before opened earlier later after =>
    exact .asked (.body :: before) (same before ▸ opened) earlier later after
  | given before opened queries after =>
    exact .given (.body :: before) (same before ▸ opened) queries after

theorem Place.leased_append (h : Place engine.next.2 before event after) (queries : Nat) :
    Place engine (leased queries ++ before) event after := by
  -- The attempts of the engine that comes next are those of this one, but for the first.
  have next (trace : List Event) :
      trace.count .connect + 1 = (leased queries ++ trace).count .connect := by
    rw [count_append, count_connect_leased, Nat.add_comm]
  cases h with
  | body idle => exact .body (idle.leased_append queries) after
  | refused unopened => exact .refused (next before ▸ unopened)
  | opened opened queries quiet => exact .opened (next before ▸ opened) queries quiet
  | asked before opened earlier later after =>
    rw [← append_assoc]
    exact .asked _ (next before ▸ opened) earlier later after
  | given before opened queries after =>
    rw [← append_assoc]
    exact .given _ (next before ▸ opened) queries after

/-- The places of a lease after which nothing is given back until another connection is asked
for. -/
theorem place_of_leased {queries : Nat} (opened : engine.opens 0)
    (split : leased queries = before ++ event :: after) {rest : List Event}
    (quiet : .close ∉ rest.takeWhile (· ≠ .connect)) :
    Place engine before event (after ++ rest) := by
  rcases cons_eq_append_iff.1 split with ⟨rfl, here⟩ | ⟨before, rfl, further⟩
  · cases here
    rw [append_assoc]
    exact .opened opened queries quiet
  · rcases split_queries further with ⟨earlier, later, rfl, rfl, rfl⟩ | ⟨rfl, rfl, rfl⟩
    · rw [append_assoc]
      exact .asked [] opened earlier later rest
    · exact .given [] opened queries rest

/-- A trace of leases gives nothing back before it has asked for it. -/
theorem Lends.close_notMem_takeWhile (h : Lends engine trace last) :
    .close ∉ trace.takeWhile (· ≠ .connect) := by
  induction h with
  | nothing => exact not_mem_nil
  | entered goesOn ih => simpa using ih
  | refused unopened => simp
  | lent opened queries goesOn ih => simp [leased]

/-- Each place of a trace is within a lease or between two of them, or it is an attempt that has
failed. -/
theorem Lends.places (h : Lends engine trace last) (split : trace = before ++ event :: after) :
    Place engine before event after := by
  -- A place of the rest of a trace stays one when a block or a whole lease is put in front.
  induction h generalizing before with
  | nothing => cases (append_eq_nil_iff.1 split.symm).2
  | entered goesOn ih =>
    rcases cons_eq_append_iff.1 split with ⟨rfl, here⟩ | ⟨before, rfl, further⟩
    · cases here
      exact .body isIdleAfter_nil _
    · exact (ih further).body_cons
  | refused unopened =>
    rcases cons_eq_append_iff.1 split with ⟨rfl, here⟩ | ⟨before, -, none⟩
    · cases here
      exact .refused unopened
    · cases (append_eq_nil_iff.1 none.symm).2
  | @lent engine last rest opened queries goesOn ih =>
    rcases split_append split with ⟨after, lease, rfl⟩ | ⟨before, rfl, further⟩
    · exact place_of_leased opened lease goesOn.close_notMem_takeWhile
    · exact (ih further).leased_append queries

/-! #### What is read off at a place -/

theorem holdsAfter_queries (opened : engine.opens (before.count .connect)) (queries : Nat) :
    HoldsAfter engine (before ++ .connect :: replicate queries .execute) :=
  ⟨before, _, rfl, opened, by simp [mem_replicate], by simp [mem_replicate]⟩

theorem takeWhile_queries (queries : Nat) (after : List Event) :
    (replicate queries Event.execute ++ .close :: after).takeWhile (· ≠ .connect) =
      replicate queries .execute ++ .close :: after.takeWhile (· ≠ .connect) := by
  rw [takeWhile_append_of_pos (by simp [mem_replicate])]
  simp

/-- In a trace of leases every connection that is opened is given back once, and queries are made
and blocks of work entered only where they may be. -/
theorem Lends.givesBack (h : Lends engine trace last) : GivesBack engine trace where
  opened before after split opened := by
    cases h.places split with
    | refused unopened => exact absurd opened unopened
    | opened _ queries quiet =>
      rw [takeWhile_queries, count_append, count_cons_self, count_eq_zero.2 quiet]
      simp [count_replicate]
  refused before after split unopened := by
    cases h.places split with
    | refused => exact ⟨not_mem_nil, not_mem_nil⟩
    | opened opened => exact absurd opened unopened
  asked before after split := by
    cases h.places split with
    | asked before opened earlier later after =>
      refine ⟨holdsAfter_queries opened earlier, ?_⟩
      rw [takeWhile_queries]
      exact mem_append_right _ mem_cons_self
  given before after split := by
    cases h.places split with
    | given before opened queries after => exact holdsAfter_queries opened queries
  entered before after split := by
    cases h.places split with
    | body idle after => exact idle.not_isOpenAfter

end Places

/-! ### What is done with an engine -/

/-- The queries of a block of work that is lent a connection. -/
def makeQueries : Nat → Work Unit
  | 0 => pure ()
  | queries + 1 => do
    Work.note .execute
    makeQueries queries

/-- A connection is opened and lent to a block of work, which makes a number of queries and ends in
some way in the light of what they meet. However it ends, the connection is given back. -/
def lend {α : Type} (queries : Nat) (ended : Option Failure → Except Failure α) : Work α := do
  let obstacle ← connect
  makeQueries queries
  Work.note .close
  Work.ofResult (ended obstacle)

/-- Dealings with an engine that give every connection back. They use up as many attempts as they
make, so that the attempts of the trace are those of the engine. -/
structure Settles {α : Type} (engine : Engine) (outcome : Outcome α) : Prop where
  spent : outcome.engine = engine.after (outcome.trace.count .connect)
  givesBack : GivesBack engine outcome.trace

section Dealings

variable {α : Type} {engine : Engine} {ended : Except Failure Unit}

theorem Lends.settles {outcome : Outcome α} (h : Lends engine outcome.trace outcome.engine) :
    Settles engine outcome :=
  ⟨h.spent, h.givesBack⟩

theorem note_bind (event : Event) (next : Unit → Work α) (engine : Engine) :
    (Work.note event >>= next) engine =
      { next () engine with trace := event :: (next () engine).trace } :=
  Work.bind_of_ok rfl next

theorem makeQueries_apply (queries : Nat) (engine : Engine) :
    makeQueries queries engine = ⟨.ok (), replicate queries .execute, engine⟩ := by
  induction queries with
  | zero => rfl
  | succ queries ih =>
    rw [makeQueries, note_bind, ih]
    rfl

theorem connect_of_opens (opened : engine.opens 0) :
    connect engine = ⟨.ok engine.next.1.execute, [.connect], engine.next.2⟩ := by
  change engine.next.1.connect = none at opened
  simp only [connect, opened]

theorem exists_connect_of_not_opens (unopened : ¬engine.opens 0) :
    ∃ failure, connect engine = ⟨.error failure, [.connect], engine.next.2⟩ := by
  obtain ⟨failure, failed⟩ := Option.ne_none_iff_exists'.1 unopened
  change engine.next.1.connect = some failure at failed
  refine ⟨failure.onConnect, ?_⟩
  simp only [connect, failed]

/-- A connection that is opened is lent, and then given back whatever came of the queries. -/
theorem lend_of_opens (opened : engine.opens 0) (queries : Nat)
    (ended : Option Failure → Except Failure α) :
    lend queries ended engine = ⟨ended engine.next.1.execute, leased queries, engine.next.2⟩ := by
  have asked := connect_of_opens opened
  have queried := makeQueries_apply queries engine.next.2
  rw [lend, Work.bind_of_ok (by rw [asked]), asked, Work.bind_of_ok (by rw [queried]), queried,
    note_bind]
  rfl

/-- Where no connection is opened, none is lent. -/
theorem exists_lend_of_not_opens (unopened : ¬engine.opens 0) (queries : Nat)
    (ended : Option Failure → Except Failure α) :
    ∃ failure, lend queries ended engine = ⟨.error failure, [.connect], engine.next.2⟩ := by
  obtain ⟨failure, asked⟩ := exists_connect_of_not_opens unopened
  refine ⟨failure, ?_⟩
  rw [lend, Work.bind_of_error (by rw [asked]), asked]

theorem lends_lend (queries : Nat) (ended : Option Failure → Except Failure α) (engine : Engine) :
    Lends engine (lend queries ended engine).trace (lend queries ended engine).engine := by
  by_cases opened : engine.opens 0
  · rw [lend_of_opens opened, ← append_nil (leased queries)]
    exact .lent opened queries .nothing
  · obtain ⟨failure, lent⟩ := exists_lend_of_not_opens opened queries ended
    rw [lent]
    exact .refused opened

/-- A connection that is opened only to be given back is lent to a block that does nothing. -/
theorem connectOnce_eq_lend : connectOnce = lend 0 fun _ => .ok () := rfl

/-- The probe lends its connection to a block that makes one query and ends as the query does. -/
theorem check_eq_lend : check = lend 1 fun obstacle => obstacle.elim (.ok ()) .error := by
  refine congrArg (connect >>= ·) (funext fun obstacle => ?_)
  cases obstacle <;> rfl

/-- So does a probe by whatever it is told of. -/
theorem lends_probe (engine : Engine) : Lends engine engine.next.1.trace engine.next.2 := by
  have lends := lends_lend 1 (fun obstacle => obstacle.elim (.ok ()) .error) engine
  rwa [← check_eq_lend, check_eq] at lends

theorem lends_reachable (engine : Engine) :
    Lends engine (reachable engine).trace (reachable engine).engine := by
  rw [reachable_eq]
  exact lends_probe engine

/-- A guarded block is entered with nothing open, and what is probed for after it is given back. -/
theorem EndsGuarded.lends {last : Outcome Unit} (h : EndsGuarded ended engine last) :
    Lends engine last.trace last.engine := by
  cases h with
  | passed unrelated => exact .entered .nothing
  | invalidated raised operational lost => exact .entered .nothing
  | probed raised operational kept => exact .entered (lends_probe engine)

/-- A probe that succeeds is a lease. -/
theorem opens_of_check (checked : (check engine).result = .ok ()) :
    engine.opens 0 ∧ engine.next.1.trace = leased 1 := by
  rw [check_eq] at checked
  cases opened : engine.next.1.connect with
  | none =>
    refine ⟨opened, ?_⟩
    rw [Attempt.trace, opened]
    rfl
  | some failure =>
    rw [Attempt.result_of_connect opened] at checked
    cases checked

theorem lends_prepare (ended : Except Failure Unit) (engine : Engine) :
    Lends engine (prepare (entering ended) engine).trace
      (prepare (entering ended) engine).engine := by
  cases checked : (check engine).result with
  | error failure =>
    rw [prepare_of_check checked, check_eq]
    exact lends_probe engine
  | ok u =>
    -- The lease of the first probe is over when the block is entered.
    obtain ⟨opened, first⟩ := opens_of_check checked
    rw [prepare_of_ok checked, first]
    exact .lent opened 1 (endsGuarded ended engine.next.2).lends

end Dealings

/-- Whatever failures an engine meets, and however the block of work ends to which a connection is
lent, or which is guarded, or which makes the tables at start-up, every connection that was opened
is given back once before another one is asked for, and none is open while a block is entered. -/
theorem settles_dealings (engine : Engine) :
    (∀ queries (ended : Option Failure → Except Failure Unit),
      Settles engine (lend queries ended engine)) ∧
    Settles engine (connectOnce engine) ∧
    Settles engine (check engine) ∧
    Settles engine (reachable engine) ∧
    (∀ ended, Settles engine (guard (entering ended) engine)) ∧
    (∀ ended, Settles engine (prepare (entering ended) engine)) ∧
    ∀ url ended, GivesBack engine (startUp url ended engine).trace := by
  have lend queries (ended : Option Failure → Except Failure Unit) :
      Settles engine (lend queries ended engine) := (lends_lend queries ended engine).settles
  refine ⟨lend, ?once, ?checked, ?asked, ?guarded, ?prepared, ?started⟩
  case once =>
    rw [connectOnce_eq_lend]
    exact lend 0 _
  case checked =>
    rw [check_eq_lend]
    exact lend 1 _
  case asked => exact (lends_reachable engine).settles
  case guarded => exact fun ended => (endsGuarded ended engine).lends.settles
  case prepared => exact fun ended => (lends_prepare ended engine).settles
  case started => exact fun url ended => (lends_prepare ended engine).givesBack

end Storefront.Database
