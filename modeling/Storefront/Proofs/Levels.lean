import Storefront.Proofs.Failures
import Storefront.Proofs.Unseen

/-!
# Levels of the log

The level that is asked for decides which records are written down, and nothing else. Of two shops
that differ in their levels alone, both go through the same states and give the same answers, and
the one with the higher level writes those records of the other that reach its level. Level zero
asks for no level of its own, so that the level of warnings counts.

## Main definitions

* `Config.atLevel`, `Shop.atLevel` — a configuration and a shop with another level
* `Config.Filters` — one level writes what is left of the records of another
* `Config.Echoes` — one level does as another does

## Main results

* `Shop.step_atLevel` — a step at a higher level
* `Shop.run_atLevel` — a run at a higher level
* `Shop.filters_of_rank_le` — the level is a filter, and level zero is the level of warnings
-/

namespace Storefront

open Service

/-- The configuration that asks for a level. -/
def Config.atLevel (config : Config) (setting : Log.Setting) : Config :=
  { config with logLevel := setting }

/-- The shop with another level, which is asked for and which counts. -/
def Shop.atLevel (shop : Shop) (setting : Log.Setting) (threshold : Int) : Shop :=
  { shop with config := shop.config.atLevel setting, threshold }

/-- An answer with those of its records that reach a threshold. -/
def Log.reaching (threshold : Int) (told : Answer × List Record) : Answer × List Record :=
  (told.1, filter threshold told.2)

/-- Two levels of which one writes those records of the other that reach a threshold, while all else
goes the same way. -/
structure Config.Filters (config : Config) (low high : Log.Setting) (threshold : Int) : Prop where
  start : ∀ outage, Shop.start (config.atLevel high) outage =
    ((Shop.start (config.atLevel low) outage).1.map (·.atLevel high threshold),
      Log.filter threshold (Shop.start (config.atLevel low) outage).2)
  run : ∀ outage shop, (Shop.start (config.atLevel low) outage).1 = .ok shop →
    ∀ steps, (shop.atLevel high threshold).run steps =
      ((shop.run steps).1.map (Log.reaching threshold),
        (shop.run steps).2.atLevel high threshold)

/-- Two levels at which all goes the same way and the same records are written. -/
structure Config.Echoes (config : Config) (one other : Log.Setting) (threshold : Int) : Prop where
  start : ∀ outage, Shop.start (config.atLevel other) outage =
    ((Shop.start (config.atLevel one) outage).1.map (·.atLevel other threshold),
      (Shop.start (config.atLevel one) outage).2)
  run : ∀ outage shop, (Shop.start (config.atLevel one) outage).1 = .ok shop →
    ∀ steps, (shop.atLevel other threshold).run steps =
      ((shop.run steps).1, (shop.run steps).2.atLevel other threshold)

/-- No service looks up the level. -/
theorem Config.spares_atLevel (setting : Log.Setting) : Spares (·.atLevel setting) where
  databaseUrl _ := rfl
  defaultUserName _ := rfl
  titleMax _ := rfl
  skuMax _ := rfl
  maxDepth _ := rfl

namespace Shop

variable {shop : Shop} {threshold : Int} {setting : Log.Setting}

/-! ### Steps and runs -/

/-- A step does the same at a higher level, where fewer of its records are written. -/
theorem step_atLevel (higher : shop.threshold ≤ threshold) (setting : Log.Setting) (step : Step) :
    (shop.atLevel setting threshold).step step =
      { answer := (shop.step step).answer
        shop := (shop.step step).shop.atLevel setting threshold
        log := Log.filter threshold (shop.step step).log } := by
  have ignores : step.service.Ignores
      { config := (·.atLevel setting), threshold := fun _ => threshold } :=
    ignores_service (Config.spares_atLevel setting) (fun _ => rfl) step
  have written : (shop.step step).log = Log.filter shop.threshold (step.service shop).log := rfl
  refine (step_of_ignores ignores shop).trans ?_
  rw [written, Log.filter_filter higher]
  rfl

/-- The level that counts is kept, so that each step of a run is one at a higher level. -/
theorem run_atLevel (higher : shop.threshold ≤ threshold) (setting : Log.Setting)
    (steps : List Step) :
    (shop.atLevel setting threshold).run steps =
      ((shop.run steps).1.map (Log.reaching threshold),
        (shop.run steps).2.atLevel setting threshold) := by
  induction steps generalizing shop with
  | nil => rfl
  | cons first rest ih =>
    have kept : (shop.step first).shop.threshold = shop.threshold := (settings_run shop [first]).2
    simp only [run, step_atLevel higher, ih (Int.le_trans (Int.le_of_eq kept) higher),
      List.map_cons, Log.reaching]

/-- What is written in a run has reached the level of the shop. -/
theorem map_reaching_run (shop : Shop) (steps : List Step) :
    (shop.run steps).1.map (Log.reaching shop.threshold) = (shop.run steps).1 := by
  induction steps generalizing shop with
  | nil => rfl
  | cons first rest ih =>
    have kept : (shop.step first).shop.threshold = shop.threshold := (settings_run shop [first]).2
    have later := ih (shop.step first).shop
    rw [kept] at later
    have written : (shop.step first).log = Log.filter shop.threshold (first.service shop).log := rfl
    simp only [run, List.map_cons, later, Log.reaching, written, Log.filter_filter (Int.le_refl _)]

/-! ### The opening of a shop -/

section Start

variable {low high : Log.Setting} {s t : Int} (config : Config)

/-- A shop opens alike at a higher level. -/
theorem start_atLevel (lowRead : low.threshold = .ok s) (highRead : high.threshold = .ok t)
    (higher : s ≤ t) (outage : Bool) :
    start (config.atLevel high) outage =
      ((start (config.atLevel low) outage).1.map (·.atLevel high t),
        Log.filter t (start (config.atLevel low) outage).2) := by
  have lowRead' : (config.atLevel low).logLevel.threshold = .ok s := lowRead
  have highRead' : (config.atLevel high).logLevel.threshold = .ok t := highRead
  have ignores : prepare.Ignores { config := (·.atLevel high), threshold := fun _ => t } :=
    ignores_prepare (Config.spares_atLevel high)
  let opened : Shop := { config := config.atLevel low, threshold := s, outage }
  have same : prepare { config := config.atLevel high, threshold := t, outage } =
      { prepare opened with shop := (prepare opened).shop.atLevel high t } := ignores opened
  unfold start
  rw [lowRead', highRead']
  dsimp only
  rw [same, Log.filter_filter higher]
  cases (prepare opened).result <;> rfl

/-- What is written at the opening has reached the level of the shop. -/
theorem filter_start (read : low.threshold = .ok s) (outage : Bool) :
    Log.filter s (start (config.atLevel low) outage).2 = (start (config.atLevel low) outage).2 := by
  have read' : (config.atLevel low).logLevel.threshold = .ok s := read
  unfold start
  rw [read']
  exact Log.filter_filter (Int.le_refl s) _

/-- The threshold of a shop is the one that its level asks for. -/
theorem threshold_eq_of_start {outage : Bool} {shop : Shop} (read : low.threshold = .ok s)
    (started : (start (config.atLevel low) outage).1 = .ok shop) : shop.threshold = s := by
  have asked : low.threshold = .ok shop.threshold := threshold_of_start started
  exact Except.ok.inj (asked.symm.trans read)

/-- A level is a filter of what is written at a lower one. -/
theorem filters_of_threshold_le (lowRead : low.threshold = .ok s) (highRead : high.threshold = .ok t)
    (higher : s ≤ t) : config.Filters low high t where
  start outage := start_atLevel config lowRead highRead higher outage
  run outage shop started steps := by
    rw [← threshold_eq_of_start config lowRead started] at higher
    exact run_atLevel higher high steps

/-- Levels with one threshold do the same. -/
theorem echoes_of_threshold_eq (lowRead : low.threshold = .ok t) (highRead : high.threshold = .ok t) :
    config.Echoes low high t where
  start outage := by
    rw [start_atLevel config lowRead highRead (Int.le_refl t), filter_start config lowRead]
  run outage shop started steps := by
    obtain rfl := threshold_eq_of_start config lowRead started
    rw [run_atLevel (Int.le_refl _), map_reaching_run]

/-- The level is only a filter. Whatever the configuration, of two levels neither of which is zero,
the higher one goes through the same states as the lower one and gives the same answers, at the
opening of the shop and in every run; what is written at each step are those records of the lower
one that reach the higher one, in their order. At level zero all is as at the level of warnings. -/
theorem filters_of_rank_le :
    (∀ (low high : Log.Setting) (a b : Int), low.rank = .ok a → high.rank = .ok b → a ≠ 0 → b ≠ 0 →
      a ≤ b → config.Filters low high b) ∧
    ∀ zero : Log.Setting, zero.rank = .ok 0 →
      config.Echoes (.name (Text.ofString "WARNING")) zero Log.warningRank := by
  have nonzero {setting : Log.Setting} {a : Int} (read : setting.rank = .ok a) (ne : a ≠ 0) :
      setting.threshold = .ok a := by
    rw [Log.Setting.threshold, read]
    exact congrArg Except.ok (if_neg ne)
  refine ⟨fun low high a b lowRead highRead lowNe highNe le => ?_, fun zero read => ?_⟩
  · exact filters_of_threshold_le config (nonzero lowRead lowNe) (nonzero highRead highNe) le
  · have asks : zero.threshold = .ok Log.warningRank := by
      rw [Log.Setting.threshold, read]
      rfl
    exact echoes_of_threshold_eq config rfl asks

/-- A user who logs in for the first time is written down twice. Nothing is written of that at the
level of errors, nor at level zero. -/
theorem filters_of_rank_le_login :
    (Config.forTests {}).Filters (.name (Text.ofString "DEBUG")) (.number 40) 40 ∧
      (Config.forTests {}).Echoes (.name (Text.ofString "WARNING")) (.number 0) 30 ∧
      ((forTests.run [.request (.forLogin "a" "a@example.com")]).1.map fun told => told.2.length) =
        [2] ∧
      (((forTests.atLevel (.number 40) 40).run [.request (.forLogin "a" "a@example.com")]).1.map
        fun told => told.2) = [[]] := by
  have filters := (filters_of_rank_le (Config.forTests {})).1 (.name (Text.ofString "DEBUG"))
    (.number 40) 10 40 rfl rfl (by decide) (by decide) (by decide)
  have echoes := (filters_of_rank_le (Config.forTests {})).2 (.number 0) rfl
  refine ⟨filters, echoes, rfl, ?_⟩
  rw [filters.run false forTests rfl]
  rfl

end Start

end Shop

end Storefront
