import Storefront.Proofs.Failures
import Storefront.Proofs.Unseen

/-!
# Shops under test

Whether a shop is under test is asked in one place: where a request has failed and nothing has dealt
with the failure. Under test the failure is passed on, and otherwise it is recorded and answered
with a page. So the same run goes the same way in a shop that is under test and in one that is not,
but for these answers. A session is saved with a response, and there is none where a failure is
passed on; that makes no difference, since no request fails after it has changed a session.

## Main definitions

* `Shop.underTest` — a shop that is said to be under test, or said not to be
* `Step.published` — the answer under test as it is otherwise

## Main results

* `Config.spares_underTest` — whether the shop is under test is not looked up by services
* `Shop.step_underTest` — a step in a shop under test and in one that is not
* `Shop.run_underTest` — a run in both
-/

namespace Storefront

open Service

/-- The configuration that says whether the shop is under test. -/
def Config.underTest (config : Config) (on : Bool) : Config := { config with testing := some on }

theorem Config.spares_underTest (on : Bool) : Spares (·.underTest on) where
  databaseUrl _ := rfl
  defaultUserName _ := rfl
  titleMax _ := rfl
  skuMax _ := rfl
  maxDepth _ := rfl

/-- The shop that is said to be under test, or said not to be. -/
def Shop.underTest (shop : Shop) (on : Bool) : Shop := shop.altered (·.underTest on) id

/-- The answer to a step with its records, as it is told by a shop that is not under test, from what
one under test tells. A failure of a request that has been sent is recorded and answered with a
page; all else is told alike. -/
def Step.published : Step → Answer × List Log.Record → Answer × List Log.Record
  | .request sent, (.failed failure, log) =>
    match sent.read with
    | .ok target =>
      (.response (sent.delivered (.page 500 Page.internalError)),
        log ++ [Shop.failedRecord sent target failure])
    | .error _ => (.failed failure, log)
  | _, told => told

/-- A value of which something is made is recorded as before. -/
theorem Service.map_apply {α β : Type} (k : α → β) (service : Service α) (start : Shop) :
    (k <$> service) start =
      { service start with result := (service start).result.map k } := by
  rw [← bind_pure_comp]
  cases result : (service start).result with
  | ok a =>
    rw [bind_of_ok result]
    simp [pure, ofResult, Except.map]
  | error failure =>
    rw [bind_of_error result]
    rfl

namespace Shop

variable {shop : Shop} {step : Step} {request : Request} {target : Target} {failure : Failure}

/-! ### What requests come to -/

theorem step_of_unread {fault : Fault} (unread : request.read = .error fault) :
    shop.step (.request request) = { answer := .failed (.fault fault), shop, log := [] } := by
  have unsent : (Step.request request).service = .fail (.fault fault) := by
    rw [Step.service_request, respond_of_unread unread]
    rfl
  unfold Shop.step
  rw [unsent]
  rfl

theorem service_of_read (read : request.read = .ok target) :
    (Step.request request).service =
      (fun response => .response (request.delivered response)) <$>
        (answer request target).recover (settle request target) := by
  rw [Step.service_request, respond_of_read read, Functor.map_map]

theorem step_of_answered (read : request.read = .ok target) {response : Response}
    (answered : (answer request target shop).result = .ok response) :
    shop.step (.request request) =
      { answer := .response (request.delivered response)
        shop := (answer request target shop).shop
        log := Log.filter shop.threshold (answer request target shop).log } := by
  unfold Shop.step
  rw [service_of_read read, map_apply, recover_of_ok answered, answered]
  rfl

/-- Under test there is no response to a request that nothing has answered. -/
theorem step_of_unanswered_of_isTesting (tested : shop.config.isTesting = true)
    (read : request.read = .ok target)
    (unanswered : (answer request target shop).result = .error failure) :
    shop.step (.request request) =
      { answer := .failed failure
        shop := (answer request target shop).shop
        log := Log.filter shop.threshold (answer request target shop).log } := by
  have like := isAtomic_answer request target ⟨unanswered, rfl⟩
  unfold Shop.step
  rw [service_of_read read, map_apply, recover_of_error unanswered,
    settle_of_isTesting (like.config ▸ tested), List.append_nil]
  rfl

/-- Otherwise the response is a page, and one record more is written. -/
theorem step_of_unanswered_of_not_isTesting (standard : shop.config.isTesting = false)
    (low : shop.threshold ≤ Log.Level.error.rank) (read : request.read = .ok target)
    (unanswered : (answer request target shop).result = .error failure) :
    shop.step (.request request) =
      { answer := .response (request.delivered (.page 500 Page.internalError))
        shop := (answer request target shop).shop
        log := Log.filter shop.threshold (answer request target shop).log ++
          [failedRecord request target failure] } := by
  have like := isAtomic_answer request target ⟨unanswered, rfl⟩
  have written : Log.filter shop.threshold [failedRecord request target failure] =
      [failedRecord request target failure] := by
    refine List.filter_eq_self.2 fun record mem => ?_
    rw [List.mem_singleton.1 mem]
    exact decide_eq_true low
  unfold Shop.step
  rw [service_of_read read, map_apply, recover_of_error unanswered,
    settle_of_not_isTesting (like.config ▸ standard)]
  dsimp only
  rw [Log.filter_append, written]
  rfl

/-! ### Steps -/

theorem published_of_noRequest (noRequest : ∀ request, step ≠ .request request)
    (told : Answer × List Log.Record) : step.published told = told := by
  cases step with
  | request request => exact (noRequest request rfl).elim
  | _ => rfl

/-- What comes of a step in a shop under test is what comes of it in the same shop under no test,
but for the answer and the records where a request fails. -/
theorem step_underTest (tested : shop.config.isTesting = true)
    (low : shop.threshold ≤ Log.Level.error.rank) (step : Step) :
    let told := shop.step step
    let published := step.published (told.answer, told.log)
    (shop.underTest false).step step =
      { answer := published.1, shop := told.shop.underTest false, log := published.2 } := by
  by_cases asks : ∃ request, step = .request request
  · obtain ⟨request, rfl⟩ := asks
    cases read : request.read with
    | error fault =>
      simp only [step_of_unread read, Step.published, read]
    | ok target =>
      have same : answer request target (shop.underTest false) = _ :=
        ignores_answer (t := id) (Config.spares_underTest false) request target shop
      cases result : (answer request target shop).result with
      | ok response =>
        have result' : (answer request target (shop.underTest false)).result = .ok response := by
          rw [same, result]
        rw [step_of_answered read result, step_of_answered read result', same]
        rfl
      | error failure =>
        have result' : (answer request target (shop.underTest false)).result = .error failure := by
          rw [same, result]
        have other : (shop.underTest false).step (.request request) = _ :=
          step_of_unanswered_of_not_isTesting rfl low read result'
        rw [step_of_unanswered_of_isTesting tested read result, other, same]
        simp only [Step.published, read]
        rfl
  · have noRequest : ∀ request, step ≠ .request request := fun request is => asks ⟨request, is⟩
    intro told published
    have same : published = (told.answer, told.log) := published_of_noRequest noRequest _
    rw [same]
    exact step_of_ignores (ignores_service_of_noRequest (t := id) (Config.spares_underTest false)
      noRequest) shop

/-! ### Runs -/

/-- By induction on the run, since neither the configuration nor the level of the log is changed by
a step. -/
theorem run_underTest_of_isTesting (tested : shop.config.isTesting = true)
    (low : shop.threshold ≤ Log.Level.error.rank) (steps : List Step) :
    (shop.underTest false).run steps =
      (List.zipWith Step.published steps (shop.run steps).1, (shop.run steps).2.underTest false) := by
  induction steps generalizing shop with
  | nil => rfl
  | cons first rest ih =>
    obtain ⟨config, threshold⟩ := settings_run shop [first]
    have later := @ih (shop.step first).shop (by rw [← tested, ← config]; rfl)
      (Int.le_trans (Int.le_of_eq threshold) low)
    simp only [run, step_underTest tested low, later, List.zipWith_cons_cons]

/-- A shop opens alike under test and not. -/
theorem start_underTest (config : Config) (outage : Bool) :
    Shop.start (config.underTest false) outage =
      ((Shop.start (config.underTest true) outage).1.map (·.underTest false),
        (Shop.start (config.underTest true) outage).2) := by
  have level (on : Bool) : (config.underTest on).logLevel = config.logLevel := rfl
  unfold Shop.start
  rw [level, level]
  cases config.logLevel.threshold with
  | error fault => rfl
  | ok threshold =>
    let tested : Shop := { config := config.underTest true, threshold, outage }
    have same : prepare { config := config.underTest false, threshold, outage } =
        { prepare tested with shop := (prepare tested).shop.underTest false } :=
      ignores_prepare (t := id) (Config.spares_underTest false) tested
    dsimp only
    rw [same]
    cases (prepare tested).result <;> rfl

/-- A request that fails has changed no table and no session. -/
theorem alike_of_failed (failed : (shop.step (.request request)).answer = .failed failure) :
    shop.Alike (shop.step (.request request)).shop := by
  obtain ⟨changed, handles, like⟩ := shop.exists_handles request
  rw [failed] at handles
  cases handles <;> exact like

/-- With a level of the log that lets errors through, a run goes the same way in a shop under test
and in one that is not. The tables and the sessions are the same after every run, and so are the
answers and the records of every step, except that a request whose failure is told under test is
otherwise answered with the page for an internal error, with one record more of that failure. No
request that fails has changed a session, so it is no matter that none is saved then. -/
theorem run_underTest (config : Config) (outage : Bool)
    (low : ∀ threshold, config.logLevel.threshold = .ok threshold →
      threshold ≤ Log.Level.error.rank) :
    Shop.start (config.underTest false) outage =
        ((Shop.start (config.underTest true) outage).1.map (·.underTest false),
          (Shop.start (config.underTest true) outage).2) ∧
      ∀ shop, (Shop.start (config.underTest true) outage).1 = .ok shop → ∀ steps : List Step,
        (shop.underTest false).run steps =
            (List.zipWith Step.published steps (shop.run steps).1,
              (shop.run steps).2.underTest false) ∧
          ∀ request failure,
            ((shop.run steps).2.step (.request request)).answer = .failed failure →
              (shop.run steps).2.Alike ((shop.run steps).2.step (.request request)).shop := by
  refine ⟨start_underTest config outage, fun shop started steps => ⟨?_, fun _ _ => alike_of_failed⟩⟩
  have tested : shop.config.isTesting = true := by
    rw [(isOpened_of_start started).config]
    rfl
  have level : (config.underTest true).logLevel.threshold = .ok shop.threshold :=
    threshold_of_start started
  exact run_underTest_of_isTesting tested (low _ level) steps

/-- A number that cannot be read is written into a session, and the home page is asked for. -/
def misreadSteps : List Step :=
  [.setUserNumber (Text.ofString "b") (.str (Text.ofString "abc")), .request (.forPage "b" "/")]

/-- The home page that fails under test is otherwise a page for an internal error. -/
theorem run_underTest_misread :
    (∀ threshold, (Config.forTests {}).logLevel.threshold = .ok threshold →
        threshold ≤ Log.Level.error.rank) ∧
      (Shop.start ((Config.forTests {}).underTest true) false).1 = .ok forTests ∧
      (forTests.run misreadSteps).1 =
        [(.done, []), (.failed (.fault (.misreadInteger (Text.ofString "abc") .malformed)), [])] ∧
      ((forTests.underTest false).run misreadSteps).1 =
        [(.done, []), (.response (.page 500 Page.internalError),
          [{ level := .error, source := .application
             message := Text.ofString "Exception on / [GET]"
             failure := some (.fault (.misreadInteger (Text.ofString "abc") .malformed)) }])] := by
  have low : ∀ threshold, (Config.forTests {}).logLevel.threshold = .ok threshold →
      threshold ≤ Log.Level.error.rank := by
    rintro threshold read
    have debug : (Config.forTests {}).logLevel.threshold = .ok Log.Level.debug.rank := rfl
    rw [← Except.ok.inj (debug.symm.trans read)]
    decide
  have told : (forTests.run misreadSteps).1 =
      [(.done, []), (.failed (.fault (.misreadInteger (Text.ofString "abc") .malformed)), [])] :=
    rfl
  have goes := ((run_underTest (Config.forTests {}) false low).2 forTests rfl misreadSteps).1
  refine ⟨low, rfl, told, ?_⟩
  rw [goes, told]
  rfl

end Shop

end Storefront
