import Storefront.Fault

/-!
# The log

What the shop does is recorded as it happens; a threshold decides afterwards which records are
written. Nothing depends on the threshold but that choice.

## Main definitions

* `Log.Level` — the levels of records
* `Log.Record` — a record
* `Log.Setting`, `Log.Setting.threshold` — the level asked for, as a number or by name
* `Log.filter` — the records that reach a threshold

## Main results

* `Log.filter_filter` — of two thresholds the higher one decides
-/

namespace Storefront.Log

/-- The level of a record. -/
inductive Level
  | debug
  | info
  | error
  deriving DecidableEq, Repr

/-- The number of a level. -/
def Level.rank : Level → Int
  | debug => 10
  | info => 20
  | error => 40

/-- The name of a level. -/
def Level.name : Level → Text
  | debug => Text.ofString "DEBUG"
  | info => Text.ofString "INFO"
  | error => Text.ofString "ERROR"

/-- The part of the shop that a record comes from. -/
inductive Source
  | application
  | accounts
  | catalogue
  | database
  deriving DecidableEq, Repr

/-- The name under which a part of the shop writes its records. -/
def Source.name : Source → Text
  | application => Text.ofString "shopfront"
  | accounts => Text.ofString "shopfront.auth.routes"
  | catalogue => Text.ofString "shopfront.products.services"
  | database => Text.ofString "shopfront.database"

/-- A record, with the failure that it reports if it reports one. -/
structure Record where
  level : Level
  source : Source
  message : Text
  failure : Option Failure := none

/-- The message of a record as it is written. -/
def Record.shown (record : Record) : Text := Fault.withoutPointer record.message

/-- The level asked for: a number, or the name of one. Other values ask for none. -/
inductive Setting
  | number (rank : Int)
  | name (name : Text)
  | other (value : Json)

/-- The names of levels. -/
def names : List (String × Int) :=
  [("CRITICAL", 50), ("FATAL", 50), ("ERROR", 40), ("WARN", 30), ("WARNING", 30), ("INFO", 20),
   ("DEBUG", 10), ("NOTSET", 0)]

/-- The number of the level asked for. -/
def Setting.rank : Setting → Except Fault Int
  | .number rank => .ok rank
  | .name level =>
    match names.find? fun entry => Text.ofString entry.1 = level with
    | some (_, rank) => .ok rank
    | none => .error (.unknownLevel level)
  | .other value => .error (.notLevel value)

/-- The level of warnings, which counts where none is asked for. -/
def warningRank : Int := 30

/-- The least number of a record that is written; zero asks for no level. -/
def Setting.threshold (setting : Setting) : Except Fault Int :=
  setting.rank.map fun rank => if rank = 0 then warningRank else rank

/-- The records that reach a threshold, in their order. -/
def filter (threshold : Int) (records : List Record) : List Record :=
  records.filter fun record => threshold ≤ record.level.rank

@[simp] theorem filter_append (threshold : Int) (first second : List Record) :
    filter threshold (first ++ second) = filter threshold first ++ filter threshold second :=
  List.filter_append ..

/-- Of two thresholds the higher one decides. -/
theorem filter_filter {low high : Int} (h : low ≤ high) (records : List Record) :
    filter high (filter low records) = filter high records := by
  unfold filter
  rw [List.filter_filter]
  apply List.filter_congr
  intro record _
  simp only [Bool.and_eq_left_iff_imp, decide_eq_true_eq]
  exact fun reached => Int.le_trans h reached

end Storefront.Log
