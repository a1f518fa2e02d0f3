import Storefront.Proofs.Reachable

/-!
# Requests in an outage

A view that meets an unreachable database is to be answered with the page that says so. That page
looks up the user of the session as all pages do, and in an outage this goes well only where the
session is empty. A browser that is logged in gets no such page: what went wrong the second time is
passed on under test, and is an internal error otherwise.

## Main definitions

* `Shop.lookupFailure` — what the looking up of a session's user comes to in an outage

## Main results

* `Shop.answer_of_unreachable` — when the page for an unreachable database is shown, and what comes
  of the request when it is not
* `Shop.not_always_unavailable` — a browser that is logged in does not get the page
-/

namespace Storefront

open Service

/-- A value that stands for no number is no matter of the connection. -/
theorem kind_ne_operational_of_userNumber {id : Json} {fault : Fault}
    (h : userNumber id = .error fault) : fault.kind ≠ .operational := by
  unfold userNumber at h
  split at h
  · cases h
  · cases h
  · split at h <;> cases h
    simp [Fault.kind]
  · cases h
    simp [Fault.kind]
  · split at h <;> cases h
    simp [Fault.kind]
  · cases h
    simp [Fault.kind]

namespace Shop

variable {start after : Shop} {request : Request} {visit : Visit}

/-- What the looking up of the user whom a value stands for comes to in an outage. -/
def lookupFailure (id : Json) : Failure :=
  match userNumber id with
  | .ok _ => .lost .cannotOpen
  | .error fault => .fault fault

/-- In an outage nobody can be looked up. -/
theorem exists_fails_loadUser (outage : start.outage = true) (id : Json) :
    ∃ after, (loadUser id).Fails start (lookupFailure id) after := by
  -- The guard turns the first failure into the one that the look-up comes to.
  have ends {first : Failure}
      (failed : (do
        let number ← Service.ofFault (userNumber id)
        Service.call (Store.userById number)).Fails start first start)
      (same : start.guardedFailure first = lookupFailure id) :
      ∃ after, (loadUser id).Fails start (lookupFailure id) after :=
    ⟨_, fails_guarded_iff.2 ⟨first, start, failed, same.symm, rfl⟩⟩
  cases read : userNumber id with
  | ok number =>
    have closed : (Service.call (Store.userById number)).Fails start (.fault .cannotOpen) start :=
      fails_bind_iff.2 (.inl (fails_connected_iff.2 ⟨outage, rfl, rfl⟩))
    refine ends (fails_bind_iff.2 (.inr ⟨number, start, ?_, closed⟩)) ?_
    · exact gives_ofFault_iff.2 ⟨read, rfl⟩
    · simp [guardedFailure, lookupFailure, read, Fault.kind, outage]
  | error fault =>
    refine ends (fails_bind_iff.2 (.inl (fails_ofFault_iff.2 ⟨fault, read, rfl, rfl⟩))) ?_
    simp [guardedFailure, lookupFailure, read, kind_ne_operational_of_userNumber read]

/-- In an outage a page is shown to an empty session. -/
theorem gives_page_of_get?_eq_none {key : Sessions.Key} (empty : start.sessions.get? key = none)
    (status : Nat) (body : Text) :
    (page key status body).Gives start (.page status body) start := by
  refine gives_bind_iff.2 ⟨none, start, ?_, gives_pure_iff.2 ⟨rfl, rfl⟩⟩
  rw [Gives, currentUser_of_get?_eq_none empty]
  exact ⟨rfl, rfl⟩

/-- In an outage no page is shown to a session that holds anything. -/
theorem exists_fails_page_of_get?_eq_some {key : Sessions.Key} {id : Json}
    (outage : start.outage = true) (held : start.sessions.get? key = some id) (status : Nat)
    (body : Text) : ∃ after, (page key status body).Fails start (lookupFailure id) after := by
  obtain ⟨after, fails⟩ := exists_fails_loadUser outage id
  refine ⟨after, fails_bind_iff.2 (.inl ?_)⟩
  rw [Fails, currentUser_of_get?_eq_some held]
  exact fails

/-- What a view has failed with, and the page for an unreachable database has not taken up, is
passed on under test and is an internal error otherwise. -/
theorem answer_of_fails {failure : Failure} (visited : request.visit? = some visit)
    (failed : ((view visit.view visit.key request.body).recover (answerFailure visit.key)).Fails
      start failure after) :
    (start.step (.request request)).answer =
      if start.config.isTesting then .failed failure
      else .response (request.delivered (.page 500 Page.internalError)) := by
  have config : after.config = start.config := (isAtomic_recover_answerFailure _ _ _ failed).config
  cases testing : start.config.isTesting with
  | true =>
    have same := settle_of_isTesting (config ▸ testing) request visit.target failure
    have settles : (settle request visit.target failure).Fails after failure after := by
      rw [Fails, same]
      exact ⟨rfl, rfl⟩
    have ends := fails_recover_iff.2 ⟨_, after, failed, settles⟩
    exact (step_of_fails_settled visited ends).1
  | false =>
    have same := settle_of_not_isTesting (config ▸ testing) request visit.target failure
    have settles : (settle request visit.target failure).Gives after
        (.page 500 Page.internalError) after := by
      rw [Gives, same]
      exact ⟨rfl, rfl⟩
    have ends := gives_recover_iff.2 (.inr ⟨_, after, failed, settles⟩)
    exact (step_of_gives_settled visited ends).1

/-- So is a fault that a view has ended in, for which there is no page of its own. -/
theorem answer_of_view_fails {fault : Fault} (visited : request.visit? = some visit)
    (fails : (view visit.view visit.key request.body).Fails start (.fault fault) after) :
    (start.step (.request request)).answer =
      if start.config.isTesting then .failed (.fault fault)
      else .response (request.delivered (.page 500 Page.internalError)) := by
  have passed : (answerFailure visit.key (.fault fault)).Fails after (.fault fault) after :=
    fails_fail_iff.2 ⟨rfl, rfl⟩
  exact answer_of_fails visited (fails_recover_iff.2 ⟨_, after, fails, passed⟩)

section Unreachable

variable {message : Text} {cause : Option Fault}

/-- To an empty session the page is shown that speaks of an unreachable database. -/
theorem answer_of_unreachable_of_get?_eq_none (visited : request.visit? = some visit)
    (raised : (view visit.view visit.key request.body).Fails start (.unreachable message cause)
      after)
    (empty : start.sessions.get? visit.key = none) :
    (start.step (.request request)).answer =
      .response (request.delivered (.page 503 Page.unavailable)) := by
  have like := isAtomic_view _ _ _ raised
  have paged := gives_page_of_get?_eq_none (like.sessions ▸ empty) 503 Page.unavailable
  have answered : (answerFailure visit.key (.unreachable message cause)).Gives after
      (.page 503 Page.unavailable) after :=
    gives_record_bind_iff.2 paged
  have ends : (settled request visit).Gives start (.page 503 Page.unavailable) after :=
    gives_recover_iff.2 (.inl (gives_recover_iff.2 (.inr ⟨_, after, raised, answered⟩)))
  exact (step_of_gives_settled visited ends).1

/-- For a session that holds anything the page fails in its turn, and nothing catches that. -/
theorem answer_of_unreachable_of_get?_eq_some {id : Json} (outage : start.outage = true)
    (visited : request.visit? = some visit)
    (raised : (view visit.view visit.key request.body).Fails start (.unreachable message cause)
      after)
    (held : start.sessions.get? visit.key = some id) :
    (start.step (.request request)).answer =
      if start.config.isTesting then .failed (lookupFailure id)
      else .response (request.delivered (.page 500 Page.internalError)) := by
  have like := isAtomic_view _ _ _ raised
  -- The second look-up is made for the page that the first failure is answered with.
  obtain ⟨last, unpaged⟩ := exists_fails_page_of_get?_eq_some (like.outage.trans outage)
    (like.sessions ▸ held) 503 Page.unavailable
  have unanswered : (answerFailure visit.key (.unreachable message cause)).Fails after
      (lookupFailure id) last :=
    fails_bind_iff.2 (.inr ⟨(), after, gives_record_iff.2 rfl, unpaged⟩)
  exact answer_of_fails visited (fails_recover_iff.2 ⟨_, after, raised, unanswered⟩)

end Unreachable

/-- The answer to a request whose view has met an unreachable database in an outage: the page that
says so for an empty session, and no such page for any other. -/
theorem answer_of_unreachable {message : Text} {cause : Option Fault}
    (outage : start.outage = true) (visited : request.visit? = some visit)
    (raised : (view visit.view visit.key request.body).Fails start (.unreachable message cause)
      after) :
    ((start.step (.request request)).answer =
        .response (request.delivered (.page 503 Page.unavailable)) ↔
      start.sessions.get? visit.key = none) ∧
    ∀ id, start.sessions.get? visit.key = some id →
      (start.step (.request request)).answer =
        if start.config.isTesting then .failed (lookupFailure id)
        else .response (request.delivered (.page 500 Page.internalError)) := by
  constructor
  · constructor
    · intro answered
      cases held : start.sessions.get? visit.key with
      | none => rfl
      | some id =>
        -- What such a session is answered is no response or has another status.
        rw [answer_of_unreachable_of_get?_eq_some outage visited raised held] at answered
        split at answered
        · cases answered
        · have status := congrArg Response.status (Answer.response.inj answered)
          simp at status
    · exact answer_of_unreachable_of_get?_eq_none visited raised
  · intro id held
    exact answer_of_unreachable_of_get?_eq_some outage visited raised held

/-- A shop with somebody logged in, in an outage. -/
def loggedInOutage : Shop :=
  (forTests.run [.request (.forLogin "a" "a@example.com"), .setOutage true]).2

/-- The home page for a browser that has logged in before the outage. -/
theorem answer_of_unreachable_home :
    loggedInOutage.outage = true ∧
      (view .home (.usual "a") (.form none [])).Fails loggedInOutage (.lost .cannotOpen)
        loggedInOutage ∧
      loggedInOutage.sessions.get? (.usual "a") = some (.str (Text.ofNat 1)) ∧
      (loggedInOutage.step (.request (.forPage "a" "/"))).answer = .failed (.lost .cannotOpen) := by
  have raised : (view .home (.usual "a") (.form none [])).Fails loggedInOutage (.lost .cannotOpen)
      loggedInOutage := ⟨rfl, rfl⟩
  have visited : (Request.forPage "a" "/").visit? = some ⟨_, .usual "a", .home⟩ := rfl
  exact ⟨rfl, raised, rfl, (answer_of_unreachable rfl visited raised).2 (.str (Text.ofNat 1)) rfl⟩

/-- An unreachable database is not always answered with the page that says so. -/
theorem not_always_unavailable :
    ¬∀ (config : Config) (shop : Shop), shop.IsReachable (fun _ => True) config →
      shop.outage = true → ∀ (request : Request) (visit : Visit) (message : Text)
        (cause : Option Fault) (after : Shop), request.visit? = some visit →
          (view visit.view visit.key request.body).Fails shop (.unreachable message cause) after →
            (shop.step (.request request)).answer =
              .response (request.delivered (.page 503 Page.unavailable)) := by
  intro always
  have reachable : loggedInOutage.IsReachable (fun _ => True) (Config.forTests {}) :=
    ⟨false, forTests, _, rfl, fun _ _ => trivial, rfl⟩
  have raised : (view .home (.usual "a") (.form none [])).Fails loggedInOutage (.lost .cannotOpen)
      loggedInOutage := ⟨rfl, rfl⟩
  have answered := always _ _ reachable rfl (.forPage "a" "/") _ _ _ _ rfl raised
  have failed : (loggedInOutage.step (.request (.forPage "a" "/"))).answer =
      .failed (.lost .cannotOpen) := rfl
  rw [failed] at answered
  cases answered

end Shop

end Storefront
