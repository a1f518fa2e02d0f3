import Storefront.Run
import Storefront.Proofs.Opening
import Storefront.Proofs.Routes
import Storefront.Proofs.Views

/-!
# What requests come to

A request is handed to a view or it is not. One that is not is answered without a look at the shop.
One that is comes to what its view has done, unless the view fails; then nothing has been changed,
and the answer is the page for an unreachable database, the page for an internal error, or no
response at all.

## Main definitions

* `Request.delivered` — a response as it is sent for a request
* `Shop.Handles` — the answer to a request with what has been changed

## Main results

* `Shop.step_of_gives`, `Shop.step_of_fails` — a step comes to what its service comes to
* `Shop.respond_of_visited`, `Shop.respond_of_unvisited` — what becomes of a request
* `Shop.exists_handles` — a request does no more than `Shop.Handles` says
* `Shop.step_of_gives_view` — a request is answered as its view answers
-/

namespace Storefront

open Service

namespace Response

@[simp] theorem status_page (status : Nat) (body : Text) : (page status body).status = status := rfl

@[simp] theorem status_json (status : Nat) (value : Json) :
    (json status value).status = status := rfl

@[simp] theorem status_allowing (methods : List Method) (response : Response) :
    (response.allowing methods).status = response.status := rfl

end Response

/-- The session of a browser at the usual host. -/
def Sessions.Key.usual (client : String) : Sessions.Key where
  client := Text.ofString client
  host := Target.defaultHost

namespace Request

/-- A browser's request for a page. -/
def forPage (client path : String) : Request where
  client := Text.ofString client
  method := Method.get.name
  target := Text.ofString path
  body := .form none []

/-- A form that a browser sends. -/
def ofForm (client path : String) (fields : List (String × String)) : Request where
  client := Text.ofString client
  method := Method.post.name
  target := Text.ofString path
  body := .form none (fields.map fun field => (Text.ofString field.1, Text.ofString field.2))

/-- A browser's login with an email. -/
def forLogin (client email : String) : Request := ofForm client "/login" [("email", email)]

/-- A response as it is sent for a request. -/
def delivered (request : Request) (response : Response) : Response :=
  if request.isHead then response.withoutBody else response

@[simp] theorem status_delivered (request : Request) (response : Response) :
    (request.delivered response).status = response.status := by
  unfold delivered
  split <;> rfl

end Request

/-- A response to what was posted is sent as it is. -/
theorem Request.delivered_of_post {request : Request} {path : String} {key : Sessions.Key}
    (asks : request.AsksFor [.post] path key) (response : Response) :
    request.delivered response = response := by
  obtain ⟨_, -, -, -, -, ⟨method, post, named⟩, -⟩ := asks
  have noHead : request.isHead = false := by
    rw [Request.isHead, decide_eq_false_iff_not]
    intro head
    rw [List.mem_singleton.1 post, head] at named
    exact absurd named (by decide)
  rw [Request.delivered, noHead]
  rfl

theorem Step.service_request (request : Request) :
    (Step.request request).service = Answer.response <$> Shop.respond request := rfl

namespace Shop

/-! ### Steps -/

section Steps

variable {start after : Shop} {step : Step} {answer : Answer} {failure : Failure}

theorem step_of_gives (h : step.service.Gives start answer after) :
    (start.step step).answer = answer ∧ (start.step step).shop = after := by
  simp [Shop.step, h.1, h.2]

theorem step_of_fails (h : step.service.Fails start failure after) :
    (start.step step).answer = .failed failure ∧ (start.step step).shop = after := by
  simp [Shop.step, h.1, h.2]

theorem step_of_gives_respond {request : Request} {response : Response}
    (h : (respond request).Gives start response after) :
    (start.step (.request request)).answer = .response response ∧
      (start.step (.request request)).shop = after :=
  step_of_gives (gives_map_iff.2 ⟨response, h, rfl⟩)

theorem step_of_fails_respond {request : Request}
    (h : (respond request).Fails start failure after) :
    (start.step (.request request)).answer = .failed failure ∧
      (start.step (.request request)).shop = after :=
  step_of_fails (fails_map_iff.2 h)

end Steps

variable {start after : Shop} {request : Request} {visit : Visit} {response : Response}
variable {failure : Failure}

/-! ### Requests -/

/-- The statuses of what no view has answered. -/
def unvisitedStatuses : List Nat := [200, 308, 400, 404, 405]

/-- What a request comes to that is handed to a view. -/
def settled (request : Request) (visit : Visit) : Service Response :=
  ((view visit.view visit.key request.body).recover (answerFailure visit.key)).recover
    (settle request visit.target)

/-- A request that can be sent is answered, and a failure is settled. -/
theorem respond_of_read {target : Target} (read : request.read = .ok target) :
    respond request =
      request.delivered <$> (answer request target).recover (settle request target) := by
  unfold respond
  rw [read]
  -- The target is known without a look at the shop.
  change (pure target >>= _) = _
  rw [pure_bind, ← bind_pure_comp]
  rfl

theorem respond_of_unread {fault : Fault} (unread : request.read = .error fault) :
    respond request = .fail (.fault fault) := by
  unfold respond
  rw [unread]
  rfl

theorem respond_of_visited (visited : request.visit? = some visit) :
    respond request = request.delivered <$> settled request visit := by
  obtain ⟨read, named, key, found⟩ := Request.visit?_eq_some_iff.1 visited
  rw [respond_of_read read, answer, named, if_neg Bool.false_ne_true, found, settled, key]

theorem answer_of_unvisited {target : Target} (unvisited : request.visit? = none)
    (read : request.read = .ok target) :
    ∃ response : Response, response.status ∈ unvisitedStatuses ∧
      answer request target = pure response := by
  unfold Request.visit? at unvisited
  rw [read] at unvisited
  unfold answer
  dsimp only at unvisited
  split at unvisited
  next misnamed => exact ⟨_, by decide, if_pos misnamed⟩
  next named =>
    rw [if_neg named]
    cases found : resolve request.method target.isSocket target.path with
    | view view => simp [found] at unvisited
    | missing => exact ⟨_, by simp [unvisitedStatuses], rfl⟩
    | refused allow => exact ⟨_, by simp [unvisitedStatuses], rfl⟩
    | unsuited => exact ⟨_, by simp [unvisitedStatuses], rfl⟩
    | moved path => exact ⟨_, by simp [unvisitedStatuses], rfl⟩
    | described allow => exact ⟨_, by simp [unvisitedStatuses], rfl⟩

/-- What is not handed to a view does not depend on the shop, and leaves it as it is. -/
theorem respond_of_unvisited (unvisited : request.visit? = none) :
    (∃ fault, respond request = .fail (.fault fault)) ∨
      ∃ response : Response, response.status ∈ unvisitedStatuses ∧
        respond request = pure response := by
  cases read : request.read with
  | error fault => exact .inl ⟨fault, respond_of_unread read⟩
  | ok target =>
    obtain ⟨response, known, same⟩ := answer_of_unvisited unvisited read
    refine .inr ⟨request.delivered response, by simpa using known, ?_⟩
    rw [respond_of_read read, same]
    rfl

/-- A request that is handed to a view comes to what is made of the view. -/
theorem step_of_gives_settled (visited : request.visit? = some visit)
    (ends : (settled request visit).Gives start response after) :
    (start.step (.request request)).answer = .response (request.delivered response) ∧
      (start.step (.request request)).shop = after := by
  apply step_of_gives_respond
  rw [respond_of_visited visited, gives_map_iff]
  exact ⟨response, ends, rfl⟩

theorem step_of_fails_settled (visited : request.visit? = some visit)
    (ends : (settled request visit).Fails start failure after) :
    (start.step (.request request)).answer = .failed failure ∧
      (start.step (.request request)).shop = after := by
  apply step_of_fails_respond
  rw [respond_of_visited visited, fails_map_iff]
  exact ends

/-- A request is answered as its view answers. -/
theorem step_of_gives_view (visited : request.visit? = some visit)
    (h : (view visit.view visit.key request.body).Gives start response after) :
    (start.step (.request request)).answer = .response (request.delivered response) := by
  have ends : (settled request visit).Gives start response after :=
    gives_recover_iff.2 (.inl (gives_recover_iff.2 (.inl h)))
  exact (step_of_gives_settled visited ends).1

/-! ### Answers with what has been changed -/

/-- The answer to a request, and the shop as the request has changed it. -/
inductive Handles (start : Shop) (request : Request) : Answer → Shop → Prop
  | unsent {fault : Fault} (unvisited : request.visit? = none) :
    Handles start request (.failed (.fault fault)) start
  | unvisited {response : Response} (unvisited : request.visit? = none)
      (known : response.status ∈ unvisitedStatuses) :
    Handles start request (.response response) start
  | served {visit : Visit} {response : Response} {changed : Shop}
      (visited : request.visit? = some visit)
      (serves : start.Serves visit.key request.body visit.view response changed) :
    Handles start request (.response (request.delivered response)) changed
  | unavailable {visit : Visit} (visited : request.visit? = some visit) :
    Handles start request (.response (request.delivered (.page 503 Page.unavailable))) start
  | broken {visit : Visit} (visited : request.visit? = some visit) :
    Handles start request (.response (request.delivered (.page 500 Page.internalError))) start
  | failed {visit : Visit} {failure : Failure} (visited : request.visit? = some visit) :
    Handles start request (.failed failure) start

theorem isQuiet_answerFailure (key : Sessions.Key) (failure : Failure) :
    (answerFailure key failure).IsQuiet := by
  cases failure with
  | unreachable message cause => exact (isQuiet_record _).bind fun _ => isQuiet_page _ _ _
  | fault fault => exact isQuiet_fail _

theorem gives_answerFailure {key : Sessions.Key}
    (h : (answerFailure key failure).Gives start response after) :
    response = .page 503 Page.unavailable := by
  cases failure with
  | unreachable message cause =>
    exact (gives_page (gives_record_bind_iff.1 h)).1
  | fault fault => simp [answerFailure] at h

/-- Under test a failure that nothing has dealt with is passed on. -/
theorem settle_of_isTesting (tested : start.config.isTesting = true) (request : Request)
    (target : Target) (failure : Failure) :
    settle request target failure start = { result := .error failure, shop := start } := by
  unfold settle
  rw [shop_bind, if_pos tested]
  rfl

/-- Otherwise it is recorded and answered with a page. -/
theorem settle_of_not_isTesting (standard : start.config.isTesting = false) (request : Request)
    (target : Target) (failure : Failure) :
    settle request target failure start =
      { result := .ok (.page 500 Page.internalError), shop := start,
        log := [failedRecord request target failure] } := by
  unfold settle
  rw [shop_bind, standard, if_neg Bool.false_ne_true]
  rfl

theorem isQuiet_settle (request : Request) (target : Target) (failure : Failure) :
    (settle request target failure).IsQuiet :=
  isQuiet_shop.bind fun shop => by
    split
    · exact isQuiet_fail _
    · exact (isQuiet_record _).bind fun _ => isQuiet_pure _

theorem gives_settle {target : Target}
    (h : (settle request target failure).Gives start response after) :
    response = .page 500 Page.internalError := by
  have rest := gives_shop_bind_iff.1 h
  split at rest
  · simp at rest
  · have returned := gives_record_bind_iff.1 rest
    exact (gives_pure_iff.1 returned).1

/-- What is made of a view is atomic, since the view is and the page for an unreachable database is
quiet. -/
theorem isAtomic_recover_answerFailure (v : View) (key : Sessions.Key) (body : Body) :
    ((view v key body).recover (answerFailure key)).IsAtomic := by
  intro start failure after ends
  obtain ⟨told, mid, raised, unanswered⟩ := fails_recover_iff.1 ends
  exact (isAtomic_view _ _ _ raised).trans ((isQuiet_answerFailure _ _).isAtomic unanswered)

theorem isAtomic_answer (request : Request) (target : Target) :
    (answer request target).IsAtomic := by
  unfold answer
  split
  · exact (isQuiet_pure _).isAtomic
  · split
    case h_6 => exact isAtomic_recover_answerFailure _ _ _
    all_goals exact (isQuiet_pure _).isAtomic

/-- What follows a failure of a view is quiet. -/
theorem isAtomic_settled (request : Request) (visit : Visit) :
    (settled request visit).IsAtomic := by
  intro start failure after ends
  obtain ⟨second, last, fails, rest⟩ := fails_recover_iff.1 ends
  exact (isAtomic_recover_answerFailure _ _ _ fails).trans ((isQuiet_settle _ _ _).isAtomic rest)

/-- The response to a request is its view's, or a page for a failure that has changed nothing. -/
theorem gives_settled (h : (settled request visit).Gives start response after) :
    (view visit.view visit.key request.body).Gives start response after ∨
      start.Alike after ∧
        (response = .page 503 Page.unavailable ∨ response = .page 500 Page.internalError) := by
  rcases gives_recover_iff.1 h with done | ⟨second, last, failed, settles⟩
  · rcases gives_recover_iff.1 done with shown | ⟨first, mid, raised, answered⟩
    · exact .inl shown
    · have like := isAtomic_view _ _ _ raised
      exact .inr ⟨like.trans ((isQuiet_answerFailure _ _).alike_of_gives answered),
        .inl (gives_answerFailure answered)⟩
  · obtain ⟨first, mid, raised, failed⟩ := fails_recover_iff.1 failed
    have like := isAtomic_view _ _ _ raised
    have like' := (isQuiet_answerFailure _ _).isAtomic failed
    exact .inr ⟨(like.trans like').trans ((isQuiet_settle _ _ _).alike_of_gives settles),
      .inr (gives_settle settles)⟩

/-- A request has one of its answers and has changed what goes with it. -/
theorem exists_handles (start : Shop) (request : Request) :
    ∃ changed, start.Handles request (start.step (.request request)).answer changed ∧
      changed.Alike (start.step (.request request)).shop := by
  cases visited : request.visit? with
  | none =>
    -- The request decides alone, and the shop stays as it is.
    rcases respond_of_unvisited visited with ⟨fault, same⟩ | ⟨response, known, same⟩
    · have ends : (respond request).Fails start (.fault fault) start := by simp [same]
      obtain ⟨answer, shop⟩ := step_of_fails_respond ends
      rw [answer, shop]
      exact ⟨start, .unsent visited, .refl start⟩
    · have ends : (respond request).Gives start response start := by simp [same]
      obtain ⟨answer, shop⟩ := step_of_gives_respond ends
      rw [answer, shop]
      exact ⟨start, .unvisited visited known, .refl start⟩
  | some visit =>
    -- A response is the view's own or stands for a failure, and there may be none at all.
    rcases gives_or_fails (settled request visit) start with
      ⟨response, after, ends⟩ | ⟨failure, after, ends⟩
    · obtain ⟨answer, shop⟩ := step_of_gives_settled visited ends
      rw [answer, shop]
      rcases gives_settled ends with shown | ⟨like, rfl | rfl⟩
      · obtain ⟨changed, serves, like⟩ := exists_serves_of_gives shown
        exact ⟨changed, .served visited serves, like⟩
      · exact ⟨start, .unavailable visited, like⟩
      · exact ⟨start, .broken visited, like⟩
    · obtain ⟨answer, shop⟩ := step_of_fails_settled visited ends
      rw [answer, shop]
      exact ⟨start, .failed visited, isAtomic_settled _ _ ends⟩

end Shop

end Storefront
