import Storefront.Proofs.Told

/-!
# The log and what has happened

At a level that lets informations through, a step writes the record of a created product or user
exactly if it has put such a row into its table, the record of a login exactly if a login has left
its number in the session, and the record of a logout exactly if a logout has taken the number of a
user out of the session. Each is written once, and a step that has failed has written none.

## Main definitions

* `Step.isInserting` — the steps that may put a row into a table

## Main results

* `Step.reports_service` — the other steps tell nothing of the kind
* `Shop.isTruthful` — every step tells what has happened in it
* `Shop.log_agrees` — the log agrees with the tables and the sessions
-/

namespace Storefront

open Service

/-- A step that has failed is not answered as one that went well. -/
theorem Answer.IsFailure.status?_ne {answer : Answer} (failed : answer.IsFailure) :
    answer.status? ≠ some 200 := by
  cases answer with
  | response sent =>
    intro status
    have ok : sent.status = 200 := Option.some.inj status
    have bad : 400 ≤ sent.status := failed
    omega
  | _ => exact nofun

namespace Shop

/-! ### Steps that add nothing -/

/-- The making of tables is announced under other names. -/
theorem reports_prepare (start : Shop) : Log.Reports (prepare start).log [] := by
  cases read : Database.Url.read start.config.databaseUrl with
  | error fault =>
    rw [prepare, shop_bind, read]
    exact Log.reports_nil
  | ok url =>
    rw [prepare_of_read read]
    change Log.Reports (Database.announce url start.madeStore).2 []
    cases start.madeStore with
    | ok store =>
      unfold Database.announce
      dsimp only
      cases url.shown with
      | ok address =>
        refine Log.reports_of_head? fun record mem => ?_
        obtain rfl := List.mem_singleton.1 mem
        exact ⟨'S', rfl, by decide, by decide⟩
      | error fault => exact Log.reports_nil
    | error failure =>
      cases failure with
      | unreachable message cause =>
        refine Log.reports_of_head? fun record mem => ?_
        obtain rfl := List.mem_singleton.1 mem
        exact ⟨'D', rfl, by decide, by decide⟩
      | fault fault => exact Log.reports_nil

end Shop

/-- The steps that may put a row into a table. -/
def Step.isInserting : Step → Bool
  | .request _ | .addProduct _ | .userFor _ => true
  | _ => false

/-- The other steps tell nothing of rows or sessions. -/
theorem Step.reports_service {step : Step} (other : step.isInserting = false) (start : Shop) :
    Log.Reports (step.service start).log [] := by
  have silent (quiet : step.service.IsSilent) : Log.Reports (step.service start).log [] := by
    rw [quiet start]
    exact Log.reports_nil
  cases step with
  | setUserNumber client id => exact silent ((isSilent_change _).bind fun _ => isSilent_ofResult _)
  | setOutage on => exact silent ((isSilent_change _).bind fun _ => isSilent_ofResult _)
  | setReadOnly on => exact silent ((isSilent_onStore _).bind fun _ => isSilent_ofResult _)
  | dropTable table => exact silent ((isSilent_onStore _).bind fun _ => isSilent_ofResult _)
  | deleteRow table id => exact silent ((isSilent_perform _).map _)
  | prepare =>
    have log : (Step.prepare.service start).log = (Shop.prepare start).log :=
      log_map (fun _ => Answer.done)
    rw [log]
    exact Shop.reports_prepare start
  | check =>
    refine silent (isSilent_shop.bind fun _ => (isSilent_ofResult _).bind fun _ => ?_)
    exact (isSilent_change _).bind fun _ => isSilent_ofResult _
  | judge payload => exact silent ((Shop.isSilent_judge payload).map _)
  | findProduct id => exact silent ((Shop.isSilent_findProduct id).map _)
  | dump =>
    refine silent (isSilent_connected.bind fun _ => (isSilent_onStore _).bind fun _ => ?_)
    exact isSilent_ofResult _
  | _ => cases other

namespace Shop

variable {start after : Shop} {step : Step}

/-- What is no request tells the truth by telling nothing where nothing is added. -/
theorem isTruthful_of_kept (noRequest : ∀ request, step ≠ .request request)
    (silent : Log.Reports (step.service start).log [])
    (products : (start.step step).shop.store.products.getD [] ⊆ start.store.products.getD [])
    (users : (start.step step).shop.store.users.getD [] ⊆ start.store.users.getD []) :
    start.IsTruthful step := by
  refine ⟨[], List.nodup_nil, silent, fun one => iff_of_false (by simp) ?_⟩
  exact News.not_hasHappened products users (fun request is => absurd is (noRequest request))
    fun request _ is => absurd is (noRequest request)

theorem isTruthful_of_fails {failure : Failure} (noRequest : ∀ request, step ≠ .request request)
    (silent : step.service.FailsSilently) (atomic : step.service.IsAtomic)
    (ends : step.service.Fails start failure after) : start.IsTruthful step := by
  have like := atomic ends
  have shop := (step_of_fails ends).2
  refine isTruthful_of_kept noRequest ?_ ?_ ?_
  · rw [silent ends]
    exact Log.reports_nil
  · rw [shop, like.store]
    exact fun _ mem => mem
  · rw [shop, like.store]
    exact fun _ mem => mem

/-! ### Direct calls that add a row -/

theorem isTruthful_addProduct (start : Shop) (fields : Json.Members) :
    start.IsTruthful (.addProduct fields) := by
  have noRequest (request : Request) : Step.addProduct fields ≠ .request request := nofun
  rcases gives_or_fails (Step.addProduct fields).service start with
    ⟨answer, after, ends⟩ | ⟨failure, after, ends⟩
  · obtain ⟨draft, converted, rest⟩ := gives_ofFault_bind_iff.1 ends
    obtain ⟨product, added, -⟩ := gives_map_iff.1 rest
    obtain ⟨-, isNew, -, like⟩ := gives_addProduct added
    have log : ((Step.addProduct fields).service start).log = [productRecord product] := by
      refine (log_bind_of_gives (gives_ofFault_iff.2 ⟨converted, rfl⟩)).trans ?_
      exact (log_map _).trans (log_of_gives_addProduct added)
    refine ⟨[.productCreated product.id product.title], by simp, ?_, fun one => ?_⟩
    · rw [log]
      exact Log.reports_record (.productCreated product.id product.title)
    · rw [(step_of_gives ends).2, News.hasHappened_of_alike like]
      refine List.mem_singleton.trans (Iff.symm ?_)
      apply News.hasHappened_iff_of_isNewProduct isNew rfl
      · exact fun request is => absurd is (noRequest request)
      · exact fun request _ is => absurd is (noRequest request)
  · refine isTruthful_of_fails noRequest ?_ ?_ ends
    · exact .bind_of_isSilent (isSilent_ofResult _) fun draft =>
        (failsSilently_addProduct draft).map _
    · exact .bind_of_isQuiet (isQuiet_ofFault _) fun draft => (isAtomic_addProduct draft).map _

theorem isTruthful_userFor (start : Shop) (email : Text) : start.IsTruthful (.userFor email) := by
  have noRequest (request : Request) : Step.userFor email ≠ .request request := nofun
  rcases gives_or_fails (Step.userFor email).service start with
    ⟨answer, after, ends⟩ | ⟨failure, after, ends⟩
  · obtain ⟨user, found, -⟩ := gives_map_iff.1 ends
    have same : ((Step.userFor email).service start).log = (userFor email start).log := log_map _
    rcases log_of_gives_userFor found with ⟨like, log⟩ | ⟨isNew, like, log⟩
    · refine isTruthful_of_kept noRequest ?_ ?_ ?_
      · rw [same, log]
        exact Log.reports_nil
      · rw [(step_of_gives ends).2, like.store]
        exact fun _ mem => mem
      · rw [(step_of_gives ends).2, like.store]
        exact fun _ mem => mem
    · refine ⟨[.userCreated user.id], by simp, ?_, fun one => ?_⟩
      · rw [same, log, created_eq_record]
        exact Log.reports_record (.userCreated user.id)
      · rw [(step_of_gives ends).2, News.hasHappened_of_alike like]
        refine List.mem_singleton.trans (Iff.symm ?_)
        apply News.hasHappened_iff_of_isNewUser isNew rfl
        · exact fun request is => absurd is (noRequest request)
        · exact fun request _ is => absurd is (noRequest request)
  · exact isTruthful_of_fails noRequest ((failsSilently_userFor email).map _)
      ((isAtomic_userFor email).map _) ends

/-! ### All steps -/

/-- Every step tells the truth. -/
theorem isTruthful (start : Shop) (step : Step) : start.IsTruthful step := by
  cases inserting : step.isInserting with
  | true =>
    cases step with
    | request request => exact isTruthful_request start request
    | addProduct fields => exact isTruthful_addProduct start fields
    | userFor email => exact isTruthful_userFor start email
    | _ => cases inserting
  | false =>
    have noRequest : ∀ request, step ≠ .request request := by
      rintro request rfl
      cases inserting
    obtain ⟨changed, moves, like⟩ := start.exists_moves step
    refine isTruthful_of_kept noRequest (Step.reports_service inserting start) ?_ ?_
    · rw [like.store]
      exact (moves.products_sublist noRequest (by rintro fields rfl; cases inserting)).subset
    · rw [like.store]
      exact (moves.users_sublist noRequest (by rintro email rfl; cases inserting)).subset

/-- In every shop that can be reached, and with a level that lets informations through, a step has
written the record of something just once if it has happened, and not at all if it has not; and
nothing of the kind has happened in a step that has failed. -/
theorem log_agrees {config : Config} {shop : Shop}
    (reachable : shop.IsReachable (fun _ => True) config)
    (low : ∀ threshold, config.logLevel.threshold = .ok threshold →
      threshold ≤ Log.Level.info.rank) (step : Step) :
    let progress := shop.step step
    (∀ one : News,
      (one.HasHappened shop step progress.answer progress.shop →
        progress.log.filter (fun record => record.message = one.message) = [one.record]) ∧
      (¬one.HasHappened shop step progress.answer progress.shop →
        progress.log.filter (fun record => record.message = one.message) = [])) ∧
    (progress.answer.IsFailure →
      ∀ one : News, ∀ record ∈ progress.log, record.message ≠ one.message) := by
  intro progress
  have low : shop.threshold ≤ Log.Level.info.rank := low _ (threshold_of_isReachable reachable)
  obtain ⟨news, nodup, reports, happened⟩ := shop.isTruthful step
  have written : Log.Reports progress.log news := reports.filter low
  constructor
  · intro one
    constructor
    · intro has
      exact written.filter_of_mem nodup ((happened one).2 has)
    · intro hasNot
      exact written.filter_of_notMem fun mem => hasNot ((happened one).1 mem)
  · intro failed one record mem told
    have like := alike_of_isFailure (showsDatabase_of_isReachable reachable) failed
    have none : one ∉ news := by
      rw [happened, News.hasHappened_of_alike like]
      exact News.not_hasHappened (fun _ mem => mem) (fun _ mem => mem) (fun _ _ => rfl)
        fun _ _ _ _ => failed.status?_ne
    have empty := written.filter_of_notMem none
    have among : record ∈ progress.log.filter fun record => record.message = one.message :=
      List.mem_filter.2 ⟨mem, decide_eq_true told⟩
    rw [empty] at among
    cases among

/-- The logout of the one user there is tells that they have logged out, and not that they were
created. -/
theorem log_agrees_withUser :
    withUser.IsReachable (fun _ => True) (Config.forTests {}) ∧
      (∀ threshold, (Config.forTests {}).logLevel.threshold = .ok threshold →
        threshold ≤ Log.Level.info.rank) ∧
      let progress := withUser.step (.request (.forPage "a" "/logout"))
      (News.loggedOut 1).HasHappened withUser (.request (.forPage "a" "/logout")) progress.answer
          progress.shop ∧
        progress.log.filter (fun record => record.message = (News.loggedOut 1).message) =
          [(News.loggedOut 1).record] ∧
        progress.log.filter (fun record => record.message = (News.userCreated 1).message) = [] := by
  have low : ∀ threshold, (Config.forTests {}).logLevel.threshold = .ok threshold →
      threshold ≤ Log.Level.info.rank := by
    intro threshold read
    have debug : (Config.forTests {}).logLevel.threshold = .ok Log.Level.debug.rank := rfl
    rw [← Except.ok.inj (debug.symm.trans read)]
    decide
  have agrees := (log_agrees isReachable_withUser low (.request (.forPage "a" "/logout"))).1
  have visited : (Request.forPage "a" "/logout").visit? = some ⟨_, .usual "a", .logout⟩ := rfl
  have named : withUser.userNamed (.usual "a") =
      some ⟨1, Text.ofString "Demo User", Text.ofString "a@example.com"⟩ := rfl
  have out : (News.loggedOut 1).HasHappened withUser (.request (.forPage "a" "/logout"))
      (withUser.step (.request (.forPage "a" "/logout"))).answer
      (withUser.step (.request (.forPage "a" "/logout"))).shop :=
    (News.hasHappened_loggedOut_iff visited).2 ⟨rfl, rfl, by rw [named]; rfl, rfl⟩
  refine ⟨isReachable_withUser, low, out, (agrees _).1 out, (agrees _).2 ?_⟩
  exact Store.not_gainsUser_of_subset (List.Subset.refl _)

end Shop

end Storefront
