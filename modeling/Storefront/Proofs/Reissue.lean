import Storefront.Proofs.Access
import Storefront.Proofs.Greeting

/-!
# Numbers that are given again

A session holds the number of a row, and a row can be deleted. Its browser is nobody from then on,
but only as long as the number is nobody's: a table gives a new row the number after the greatest
that is left, so the number of a row that was the last one is given again to the next user, and the
browser is then greeted as that user. Only a login of another browser, with an email that no user
has, gives a number again.

## Main definitions

* `Store.userNumbered` — the user with a number
* `Shop.Reissues` — runs in which a number that nobody has is given to somebody
* `Shop.Registers` — logins that add a user
* `Shop.greeted` — the email under a number, unless the browser has logged out
* `Shop.GreetingRules` — who is greeted after a login, whatever rows are deleted and added

## Main results

* `Shop.userNumbered_step`, `Shop.userNumbered_run` — what becomes of the user with a number
* `Shop.Holds.step`, `Shop.Holds.run` — a session holds the number of its last login
* `Shop.greetingRules_of_login` — every run after a login keeps to the rules
* `Shop.not_always_own` — a browser may be greeted as somebody else
-/

namespace Storefront

open Service

/-! ### What steps say -/

/-- The steps that are requests or take the row of a user away. -/
def Step.isOfUsers : Step → Prop
  | .request _ | .deleteRow .users _ => True
  | _ => False

/-- Whether a browser has logged out in the course of its steps with their answers. -/
def hasLoggedOut (history : List (Step × Answer)) : Bool :=
  history.any fun entry => entry.1.login? entry.2 = some none

theorem hasLoggedOut_cons (entry : Step × Answer) (history : List (Step × Answer)) :
    hasLoggedOut (entry :: history) =
      (decide (entry.1.login? entry.2 = some none) || hasLoggedOut history) := rfl

theorem View.login?_eq_some_iff {view : View} {email : Text} {status : Nat} {login : Option Text} :
    view.login? email status = some login ↔
      status = 200 ∧ (view = .login ∧ login = some email ∨ view = .logout ∧ login = none) := by
  unfold login?
  split
  · simp [eq_comm]
  · simp [eq_comm]
  · next notLogin notLogout =>
    constructor
    · nofun
    · rintro ⟨rfl, ⟨rfl, -⟩ | ⟨rfl, -⟩⟩
      · exact absurd rfl (notLogin rfl)
      · exact absurd rfl (notLogout rfl)

/-- Only a response to a view says who is logged in. -/
theorem Step.login?_request_eq {request : Request} {visit : Visit} {answer : Answer} {status : Nat}
    (visited : request.visit? = some visit) (responded : answer.status? = some status) :
    (Step.request request).login? answer = visit.view.login? request.body.email status := by
  cases answer with
  | response response =>
    obtain rfl := Option.some.inj responded
    simp [Step.login?, visited]
  | _ => cases responded

theorem Step.exists_visit_of_login? {request : Request} {answer : Answer} {login : Option Text}
    (tells : (Step.request request).login? answer = some login) :
    ∃ visit, request.visit? = some visit ∧ answer.status? = some 200 := by
  cases answer with
  | response response =>
    obtain ⟨visit, visited, said⟩ := Option.bind_eq_some_iff.1 tells
    exact ⟨visit, visited, congrArg some (View.login?_eq_some_iff.1 said).1⟩
  | _ => cases tells

namespace Store

variable {store : Store} {n : Int} {user : User}

/-! ### The user with a number -/

/-- The user with a number, if there is one. -/
def userNumbered (store : Store) (n : Int) : Option User :=
  (store.users.getD []).find? fun user => (user.id : Int) = n

theorem userNumbered_of_mem (numbered : store.IsNumbered) (mem : user ∈ store.users.getD []) :
    store.userNumbered user.id = some user := numbered.find?_id mem

/-- A new user has a number of their own, behind those of the others. -/
theorem userNumbered_putUser (table : store.users.isSome = true) :
    (store.putUser user).userNumbered n =
      (store.userNumbered n).or (if (user.id : Int) = n then some user else none) := by
  obtain ⟨users, table⟩ := Option.isSome_iff_exists.1 table
  unfold userNumbered
  rw [users_putUser, table, Option.map_some, Option.getD_some, Option.getD_some, List.find?_append]
  by_cases same : (user.id : Int) = n <;> simp [same]

/-- Nobody has a number whose row is taken away, and all others keep theirs. -/
theorem userNumbered_removeRow (id : Int) :
    (store.removeRow .users id).userNumbered n = if n = id then none else store.userNumbered n := by
  unfold userNumbered removeRow without
  cases store.users with
  | none => simp
  | some users =>
    rw [Option.map_some, Option.getD_some, Option.getD_some, List.find?_filter]
    split
    next same =>
      rw [List.find?_eq_none]
      intro user _
      simp [same]
    next differs =>
      refine congrArg (users.find? ·) (funext fun user => ?_)
      by_cases same : (user.id : Int) = n
      · simp [same, differs]
      · simp [same]

end Store

namespace Shop

variable {start changed after shop : Shop} {key : Sessions.Key} {request : Request}
variable {login : Option Text}

/-! ### Sessions over one step -/

/-- A view that says who is logged in has left the session so. -/
theorem Serves.greets {body : Body} {v : View} {response : Response}
    (h : start.Serves key body v response changed)
    (tells : v.login? body.email response.status = some login) : changed.Greets key login := by
  obtain ⟨well, ⟨rfl, rfl⟩ | ⟨rfl, rfl⟩⟩ := View.login?_eq_some_iff.1 tells
  · cases h with
    | refused isProtected nobody => cases isProtected
    | emailMissing missing => simp at well
    | @loggedIn user given email known =>
      obtain ⟨users, table, mem⟩ := known
      refine ⟨user, ?_, email, ?_⟩
      · simpa [table] using mem
      · rw [Sessions.get?_set_self (by simp)]
    | @registered user given email isNew =>
      refine ⟨user, (Tracks.mem_putUser isNew).2 (.inr rfl), email, ?_⟩
      rw [Sessions.get?_set_self (by simp)]
  · cases h with
    | refused isProtected nobody => cases isProtected
    | loggedOut => exact Sessions.get?_clear_self

/-- A view that says nothing of who is logged in has left all sessions as they were, and so has any
view of another session. -/
theorem Serves.get?_eq {other : Sessions.Key} {body : Body} {v : View} {response : Response}
    (h : start.Serves other body v response changed)
    (silent : other = key → v.login? body.email response.status = none) :
    changed.sessions.get? key = start.sessions.get? key := by
  by_cases same : changed.sessions.get? key = start.sessions.get? key
  · exact same
  · obtain ⟨rfl, own, well⟩ := h.sessions same
    have unsaid := silent rfl
    rcases own with rfl | rfl
    · rw [View.login?_eq_some_iff.2 ⟨well, .inl ⟨rfl, rfl⟩⟩] at unsaid
      cases unsaid
    · rw [View.login?_eq_some_iff.2 ⟨well, .inr ⟨rfl, rfl⟩⟩] at unsaid
      cases unsaid

theorem Greets.of_alike (h : start.Greets key login) (like : start.Alike after) :
    after.Greets key login := by
  unfold Greets
  rw [like.sessions, like.store]
  exact h

/-- An answer to a browser that says who is logged in tells what its session holds. -/
theorem greets_of_login? (own : (Step.request request).isOf key = true)
    (tells : (Step.request request).login? (start.step (.request request)).answer = some login) :
    (start.step (.request request)).shop.Greets key login := by
  obtain ⟨changed, handles, like⟩ := start.exists_handles request
  rcases handles.serves_or_kept with ⟨visit, response, visited, status, serves⟩ | ⟨-, -, -, kept⟩
  · have same : visit.key = key := by simpa [Step.isOf, visited] using own
    rw [Step.login?_request_eq visited status] at tells
    exact (same ▸ serves.greets tells).of_alike like
  · obtain ⟨visit, visited, well⟩ := Step.exists_visit_of_login? tells
    rw [kept well] at visited
    cases visited

/-- All other requests leave the session alone. -/
theorem get?_eq_of_login?
    (silent : (Step.request request).isOf key = true →
      (Step.request request).login? (start.step (.request request)).answer = none) :
    (start.step (.request request)).shop.sessions.get? key = start.sessions.get? key := by
  obtain ⟨changed, handles, like⟩ := start.exists_handles request
  rw [like.sessions]
  rcases handles.serves_or_kept with ⟨visit, response, visited, status, serves⟩ | ⟨rfl, -⟩
  · refine serves.get?_eq fun same => ?_
    rw [← Step.login?_request_eq visited status]
    exact silent (by simp [Step.isOf, visited, same])
  · rfl

/-! ### Rows over one step -/

/-- A login of a browser that adds a user. -/
structure Registers (start : Shop) (step : Step) (key : Sessions.Key) (user : User) : Prop where
  asks : ∃ request, step = .request request ∧ request.AsksFor [.post] "/login" key ∧
    request.body.email = user.email
  well : (start.step step).answer.status? = some 200
  /-- The number is the one after the greatest that is left, and nobody else has the email. -/
  isNew : start.store.IsNewUser start.config.defaultUserName user

/-- A view leaves the user with a number as they are, or gives the number to a user whom it adds. -/
theorem Serves.userNumbered {body : Body} {v : View} {response : Response}
    (h : start.Serves key body v response changed) (n : Int) :
    changed.store.userNumbered n = start.store.userNumbered n ∨
      start.store.userNumbered n = none ∧ ∃ user, changed.store.userNumbered n = some user ∧
        v = .login ∧ response.status = 200 ∧ body.email = user.email ∧
        start.store.IsNewUser start.config.defaultUserName user := by
  cases h with
  | @registered user given email isNew =>
    obtain ⟨users, table, -⟩ := isNew.users
    have row : (start.store.putUser user).userNumbered n =
        (start.store.userNumbered n).or (if (user.id : Int) = n then some user else none) :=
      Store.userNumbered_putUser (by rw [table]; rfl)
    dsimp only
    cases known : start.store.userNumbered n with
    | some holder =>
      rw [row, known]
      exact .inl rfl
    | none =>
      rw [known, Option.none_or] at row
      split at row
      · exact .inr ⟨rfl, user, row, rfl, rfl, email.symm, isNew⟩
      · exact .inl row
  | _ => exact .inl rfl

/-- What a step makes of the user with a number: they stay, or they go, or the number was nobody's
and a login has given it to somebody. -/
theorem userNumbered_step {step : Step} (allowed : step.isOfUsers) (start : Shop) (n : Int) :
    (start.step step).shop.store.userNumbered n = start.store.userNumbered n ∨
      (start.step step).shop.store.userNumbered n = none ∨
      start.store.userNumbered n = none ∧ ∃ key user, start.Registers step key user ∧
        (start.step step).shop.store.userNumbered n = some user := by
  cases step with
  | request request =>
    obtain ⟨changed, handles, like⟩ := start.exists_handles request
    rw [like.store]
    rcases handles.serves_or_kept with ⟨visit, response, visited, status, serves⟩ | ⟨rfl, -⟩
    · rcases serves.userNumbered n with same | ⟨nobody, user, found, login, well, email, isNew⟩
      · exact .inl same
      · have asks : request.AsksFor [.post] "/login" visit.key :=
          Request.asksFor_of_visited visited (login ▸ rfl)
        exact .inr (.inr ⟨nobody, visit.key, user,
          ⟨⟨request, rfl, asks, email⟩, well ▸ status, isNew⟩, found⟩)
    · exact .inl rfl
  | deleteRow table id =>
    obtain ⟨changed, moves, like⟩ := start.exists_moves (.deleteRow table id)
    rw [like.store]
    cases moves with
    | kept => exact .inl rfl
    | rowDeleted =>
      cases table with
      | users =>
        rw [Store.userNumbered_removeRow]
        split
        · exact .inr (.inl rfl)
        · exact .inl rfl
      | products => exact allowed.elim
  | _ => exact allowed.elim

/-! ### Searchable shops -/

/-- A shop whose users can be searched for a number. -/
structure IsSearchable (shop : Shop) : Prop where
  outage : shop.outage = false
  table : shop.store.users.isSome = true
  numbered : shop.store.IsNumbered

theorem Serves.isSearchable {body : Body} {v : View} {response : Response}
    (searchable : start.IsSearchable) (h : start.Serves key body v response changed) :
    changed.IsSearchable := by
  have numbered := h.isNumbered searchable.numbered
  cases h with
  | registered given email isNew =>
    exact ⟨searchable.outage, by simpa using searchable.table, numbered⟩
  | _ => exact ⟨searchable.outage, searchable.table, numbered⟩

/-- Requests and deletions leave the users searchable. -/
theorem isKept_isSearchable : IsKept Step.isOfUsers IsSearchable where
  alike a b like h := ⟨like.outage.trans h.outage, like.store ▸ h.table, like.store ▸ h.numbered⟩
  moves start step changed allowed h moves := by
    cases moves with
    | kept => exact h
    | handled handles =>
      cases handles with
      | served visited serves => exact serves.isSearchable h
      | _ => exact h
    | @rowDeleted table id =>
      cases table with
      | users =>
        refine ⟨h.outage, ?_, h.numbered.removeRow .users id⟩
        simpa [Store.removeRow] using h.table
      | products => exact allowed.elim
    | _ => exact allowed.elim

theorem IsOpened.isSearchable {config : Config} (h : start.IsOpened config) :
    start.IsSearchable := by
  refine ⟨h.outage, ?_, h.store ▸ .empty⟩
  rw [h.store]
  rfl

/-! ### Sessions over a run -/

/-- A session that holds a number or nothing, in a shop whose users can be searched for it. -/
structure Holds (shop : Shop) (key : Sessions.Key) (number : Option Nat) : Prop where
  searchable : shop.IsSearchable
  session : shop.sessions.get? key = number.map fun n => .str (Text.ofNat n)
  le : ∀ n ∈ number, n ≤ Store.maxId

namespace Holds

variable {number : Option Nat}

/-- The session names whoever has the number. -/
theorem userNamed (h : shop.Holds key number) :
    shop.userNamed key = number.bind fun n => shop.store.userNumbered n := by
  cases number with
  | none => exact userNamed_of_get?_eq_none h.session
  | some n =>
    have held : shop.sessions.get? key = some (.str (Text.ofNat n)) := h.session
    simp [Shop.userNamed, held, userNumber_ofNat (h.le n rfl), Except.toOption, Store.userNumbered]

theorem canRead (h : shop.Holds key number) : shop.CanRead key := by
  intro id held
  rw [h.session] at held
  obtain ⟨n, rfl, rfl⟩ := Option.map_eq_some_iff.1 held
  exact ⟨n, userNumber_ofNat (h.le n rfl), Cell.fits_ofNat (h.le n rfl)⟩

/-- The home page greets whoever has the number. -/
theorem answer_of_home (h : shop.Holds key number) (asks : request.AsksFor [.get, .head] "/" key) :
    (shop.step (.request request)).answer = .response
      (request.delivered (.page 200 (Page.home ((shop.userNamed key).map User.email)))) := by
  obtain ⟨target, visited⟩ := (Request.asksFor_iff .home rfl).1 asks
  obtain ⟨after, shown⟩ :=
    exists_gives_homePage h.searchable.outage h.searchable.table h.canRead
  exact step_of_gives_view visited shown

/-- The dashboard does so too, and is refused if nobody has the number. -/
theorem answer_of_dashboard (h : shop.Holds key number)
    (asks : request.AsksFor [.get, .head] "/dashboard" key) :
    (shop.step (.request request)).answer = .response (request.delivered
      (match (shop.userNamed key).map User.email with
        | some email => .page 200 (Page.home (some email))
        | none => .page 401 Page.unauthorized)) := by
  obtain ⟨target, visited⟩ := (Request.asksFor_iff .dashboard rfl).1 asks
  obtain ⟨outage, table, -⟩ := h.searchable
  cases named : shop.userNamed key with
  | none =>
    obtain ⟨after, refused⟩ := exists_gives_forUser_of_none outage table h.canRead named _
    exact step_of_gives_view visited refused
  | some user =>
    -- The page looks the user up again, in a shop that the first look-up has left as it was.
    have shows (mid : Shop) (like : shop.Alike mid) :
        ∃ after, (homePage key).Gives mid (.page 200 (Page.home (some user.email))) after := by
      have shown := exists_gives_homePage (like.outage.trans outage) (like.store ▸ table)
        (like.canRead h.canRead)
      rw [like.userNamed_eq, named] at shown
      exact shown
    obtain ⟨after, shown⟩ := exists_gives_forUser_of_some outage table h.canRead named shows
    exact step_of_gives_view visited shown

/-- A session that is not logged in to anew holds its number until it is logged out. -/
theorem step {step : Step} (h : start.Holds key number) (allowed : step.isOfUsers)
    (foreign : step.isOf key = true → ∀ email,
      step.login? (start.step step).answer ≠ some (some email)) :
    (start.step step).shop.Holds key
      (if step.isOf key ∧ step.login? (start.step step).answer = some none then none
        else number) := by
  have searchable := isKept_isSearchable.step h.searchable allowed
  split
  next left =>
    obtain ⟨own, tells⟩ := left
    cases step with
    | request request => exact ⟨searchable, greets_of_login? own tells, nofun⟩
    | _ => cases tells
  next stays =>
    refine ⟨searchable, ?_, h.le⟩
    rw [← h.session]
    cases step with
    | request request =>
      refine get?_eq_of_login? fun own => ?_
      cases tells : (Step.request request).login? (start.step (.request request)).answer with
      | none => rfl
      | some login =>
        cases login with
        | none => exact absurd ⟨own, tells⟩ stays
        | some email => exact absurd tells (foreign own email)
    | deleteRow table id =>
      obtain ⟨changed, moves, like⟩ := start.exists_moves (.deleteRow table id)
      rw [like.sessions]
      cases moves with
      | kept => rfl
      | rowDeleted => rfl
    | _ => exact allowed.elim

/-- So it does over a run, by induction on the steps. -/
theorem run {steps : List Step} (h : start.Holds key number) (all : ∀ step ∈ steps, step.isOfUsers)
    (foreign : ∀ entry ∈ (start.history steps).filter (·.1.isOf key), ∀ email,
      entry.1.login? entry.2 ≠ some (some email)) :
    (start.run steps).2.Holds key
      (if hasLoggedOut ((start.history steps).filter (·.1.isOf key)) then none else number) := by
  induction steps generalizing start number with
  | nil => exact h
  | cons first rest ih =>
    rw [history_cons, List.filter_cons] at foreign ⊢
    have others : ∀ step ∈ rest, step.isOfUsers := fun step mem =>
      all step (List.mem_cons_of_mem first mem)
    have allowed := all first List.mem_cons_self
    -- The first step stands in the history of the browser if it is of the browser.
    by_cases own : first.isOf key = true
    · rw [if_pos own] at foreign ⊢
      have next := h.step allowed fun _ => foreign _ List.mem_cons_self
      have rest' := fun entry mem => foreign entry (List.mem_cons_of_mem _ mem)
      change ((start.step first).shop.run rest).2.Holds key _
      by_cases tells : first.login? (start.step first).answer = some none
      · rw [if_pos ⟨own, tells⟩] at next
        simpa [hasLoggedOut_cons, tells] using ih next others rest'
      · rw [if_neg fun left => tells left.2] at next
        simpa [hasLoggedOut_cons, tells] using ih next others rest'
    · rw [if_neg own] at foreign ⊢
      have next := h.step allowed fun same => absurd same own
      rw [if_neg fun left => own left.1] at next
      exact ih next others foreign

end Holds

/-! ### Rows over a run -/

theorem run_append (start : Shop) (before rest : List Step) :
    (start.run (before ++ rest)).2 = ((start.run before).2.run rest).2 := by
  induction before generalizing start with
  | nil => rfl
  | cons first before ih => exact ih (start.step first).shop

/-- Each step of a run stands in its history with the answer that it has where the steps before it
have led. -/
theorem mem_history (start : Shop) (before : List Step) (step : Step) (rest : List Step) :
    (step, ((start.run before).2.step step).answer) ∈ start.history (before ++ step :: rest) := by
  induction before generalizing start with
  | nil => exact List.mem_cons_self
  | cons first before ih => exact List.mem_cons_of_mem _ (ih (start.step first).shop)

/-- A browser that takes no part in a run has no history there. -/
theorem filter_history_eq_nil {steps : List Step} (others : ∀ step ∈ steps, step.isOf key = false)
    (start : Shop) : (start.history steps).filter (·.1.isOf key) = [] := by
  refine List.filter_eq_nil_iff.2 fun entry mem => ?_
  rw [others entry.1 (List.of_mem_zip mem).1]
  exact Bool.false_ne_true

/-- A step of a run gives a number that nobody has to somebody. -/
def Reissues (start : Shop) (steps : List Step) (n : Int) : Prop :=
  ∃ before step rest, steps = before ++ step :: rest ∧
    (start.run before).2.store.userNumbered n = none ∧
      ((start.run before).2.step step).shop.store.userNumbered n ≠ none

theorem not_reissues_nil (start : Shop) (n : Int) : ¬start.Reissues [] n := by
  rintro ⟨before, step, rest, same, -⟩
  simp at same

/-- A number is given again by the first step or by one of the others. -/
theorem reissues_cons_iff {first : Step} {rest : List Step} {n : Int} :
    start.Reissues (first :: rest) n ↔
      start.store.userNumbered n = none ∧ (start.step first).shop.store.userNumbered n ≠ none ∨
        (start.step first).shop.Reissues rest n := by
  constructor
  · rintro ⟨before, step, last, same, nobody, somebody⟩
    cases before with
    | nil =>
      obtain ⟨rfl, rfl⟩ := List.cons.inj same
      exact .inl ⟨nobody, somebody⟩
    | cons head before =>
      obtain ⟨rfl, rfl⟩ := List.cons.inj same
      exact .inr ⟨before, step, last, rfl, nobody, somebody⟩
  · rintro (⟨nobody, somebody⟩ | ⟨before, step, last, rfl, nobody, somebody⟩)
    · exact ⟨[], first, rest, rfl, nobody, somebody⟩
    · exact ⟨first :: before, step, last, rfl, nobody, somebody⟩

instance decidableReissues (n : Int) :
    (start : Shop) → (steps : List Step) → Decidable (start.Reissues steps n)
  | start, [] => isFalse (not_reissues_nil start n)
  | start, first :: rest =>
    have := decidableReissues n (start.step first).shop rest
    decidable_of_iff' _ reissues_cons_iff

/-- What is given in a later part of a run is given in the run. -/
theorem Reissues.append {before rest : List Step} {n : Int}
    (h : (start.run before).2.Reissues rest n) : start.Reissues (before ++ rest) n := by
  induction before generalizing start with
  | nil => exact h
  | cons first before ih => exact reissues_cons_iff.2 (.inr (ih h))

/-- Over a run in which a number is not given again, the user with the number stays or goes, by
induction on the steps. -/
theorem userNumbered_run {steps : List Step} {n : Int} (all : ∀ step ∈ steps, step.isOfUsers)
    (unissued : ¬start.Reissues steps n) :
    (start.run steps).2.store.userNumbered n = start.store.userNumbered n ∨
      (start.run steps).2.store.userNumbered n = none := by
  induction steps generalizing start with
  | nil => exact .inl rfl
  | cons first rest ih =>
    rw [reissues_cons_iff, not_or] at unissued
    have later := ih (fun step mem => all step (List.mem_cons_of_mem first mem)) unissued.2
    rcases userNumbered_step (all first List.mem_cons_self) start n with
      same | gone | ⟨nobody, key, user, -, found⟩
    · rw [← same]
      exact later
    · rw [gone, or_self] at later
      exact .inr later
    · exact absurd ⟨nobody, by simp [found]⟩ unissued.1

/-! ### Who is greeted -/

/-- Whom the pages greet after some steps that follow a login: whoever has the number of the login
then, unless the browser has logged out. -/
def greeted (start : Shop) (key : Sessions.Key) (n : Int) (steps : List Step) : Option Text :=
  if hasLoggedOut ((start.history steps).filter (·.1.isOf key)) then none
  else ((start.run steps).2.store.userNumbered n).map User.email

/-- What a browser is shown after a login as a user and some further steps. -/
structure GreetingRules (start : Shop) (key : Sessions.Key) (user : User) (steps : List Step) :
    Prop where
  home : ∀ request : Request, request.AsksFor [.get, .head] "/" key →
    ((start.run steps).2.step (.request request)).answer = .response
      (request.delivered (.page 200 (Page.home (start.greeted key user.id steps))))
  dashboard : ∀ request : Request, request.AsksFor [.get, .head] "/dashboard" key →
    ((start.run steps).2.step (.request request)).answer = .response (request.delivered
      (match start.greeted key user.id steps with
        | some email => .page 200 (Page.home (some email))
        | none => .page 401 Page.unauthorized))
  /-- Nobody else is greeted unless the number is given again. -/
  nobody_else : ¬start.Reissues steps user.id →
    ∀ email, start.greeted key user.id steps = some email → email = user.email
  /-- Nobody at all is greeted once the row is gone, unless the number is given again. -/
  nobody_after : ¬start.Reissues steps user.id → ∀ before rest, steps = before ++ rest →
    (start.run before).2.store.userNumbered user.id = none →
      start.greeted key user.id steps = none
  /-- The number is only given again by a login of another browser that adds a user. -/
  registered : ∀ before step rest, steps = before ++ step :: rest →
    (start.run before).2.store.userNumbered user.id = none → ∀ holder,
      ((start.run before).2.step step).shop.store.userNumbered user.id = some holder →
        ∃ other, other ≠ key ∧ (start.run before).2.Registers step other holder

/-- What holds of the session and the row after a login holds of the pages after the steps that
follow. -/
theorem Holds.greetingRules {user : User} {steps : List Step} (h : start.Holds key (some user.id))
    (row : start.store.userNumbered user.id = some user) (all : ∀ step ∈ steps, step.isOfUsers)
    (foreign : ∀ entry ∈ (start.history steps).filter (·.1.isOf key), ∀ email,
      entry.1.login? entry.2 ≠ some (some email)) : start.GreetingRules key user steps := by
  have after := h.run all foreign
  have named : ((start.run steps).2.userNamed key).map User.email =
      start.greeted key user.id steps := by
    rw [after.userNamed, greeted]
    split <;> rfl
  have unless_gone (nobody : (start.run steps).2.store.userNumbered user.id = none) :
      start.greeted key user.id steps = none := by
    rw [greeted, nobody, Option.map_none, ite_self]
  refine ⟨fun request asks => ?_, fun request asks => ?_, fun unissued email shown => ?_,
    fun unissued before rest same nobody => ?_, fun before step rest same nobody holder found => ?_⟩
  · rw [← named]
    exact after.answer_of_home asks
  · rw [← named]
    exact after.answer_of_dashboard asks
  · rcases userNumbered_run all unissued with kept | gone
    · rw [greeted, kept, row] at shown
      split at shown
      · cases shown
      · exact (Option.some.inj shown).symm
    · rw [unless_gone gone] at shown
      cases shown
  · subst same
    refine unless_gone ?_
    rw [run_append]
    have later := userNumbered_run (fun step mem => all step (List.mem_append_right _ mem))
      fun again => unissued again.append
    rwa [nobody, or_self] at later
  · subst same
    have allowed : step.isOfUsers := all step (by simp)
    rcases userNumbered_step allowed (start.run before).2 user.id with
      kept | gone | ⟨-, other, user', registers, found'⟩
    · rw [kept, nobody] at found
      cases found
    · rw [gone] at found
      cases found
    · obtain rfl := Option.some.inj (found'.symm.trans found)
      refine ⟨other, ?_, registers⟩
      rintro rfl
      obtain ⟨⟨request, rfl, asks, -⟩, well, -⟩ := registers
      obtain ⟨target, visited⟩ := (Request.asksFor_iff .login rfl).1 asks
      -- A login of the browser itself that went well would be one of the steps that there are not.
      have own : (Step.request request).isOf other = true := by simp [Step.isOf, visited]
      have entry := mem_history start before (.request request) rest
      refine foreign _ (List.mem_filter.2 ⟨entry, own⟩) request.body.email ?_
      rw [Step.login?_request_eq visited well]
      rfl

/-- After a login that went well, and as long as its browser has not logged in anew, every run of
requests and deletions keeps to the rules for the user of the login's email. -/
theorem greetingRules_of_login {config : Config} {outage : Bool} {before later : List Step}
    {login : Request} (started : (Shop.start config outage).1 = .ok start)
    (all : ∀ step ∈ before ++ later, step.isOfUsers)
    (asks : login.AsksFor [.post] "/login" key)
    (well : ((start.run before).2.step (.request login)).answer.status? = some 200)
    (foreign :
      ∀ entry ∈ (((start.run before).2.step (.request login)).shop.history later).filter
        (·.1.isOf key), ∀ email, entry.1.login? entry.2 ≠ some (some email)) :
    ∃ user, user.email = login.body.email ∧
      user ∈ ((start.run before).2.step (.request login)).shop.store.users.getD [] ∧
      ((start.run before).2.step (.request login)).shop.GreetingRules key user later := by
  obtain ⟨target, visited⟩ := (Request.asksFor_iff .login rfl).1 asks
  have searchable : (start.run before).2.IsSearchable :=
    isKept_isSearchable.run (isOpened_of_start started).isSearchable fun step mem =>
      all step (List.mem_append_left later mem)
  have allowed : (Step.request login).isOfUsers := trivial
  have after := isKept_isSearchable.step searchable allowed
  have own : (Step.request login).isOf key = true := by simp [Step.isOf, visited]
  obtain ⟨user, mem, email, held⟩ := greets_of_login? own (Step.login?_request_eq visited well)
  refine ⟨user, email, mem, Holds.greetingRules ⟨after, held, fun n same => ?_⟩
    (Store.userNumbered_of_mem after.numbered mem)
    (fun step mem => all step (List.mem_append_right before mem)) foreign⟩
  obtain rfl := Option.mem_some.1 same
  exact after.numbered.users.le user.id (List.mem_map_of_mem mem)

/-- Another browser has logged in before the row of the first one goes, and a third logs in after
that. The number that is given to the third is a new one. -/
def otherNumbers : List Step :=
  [.request (.forLogin "b" "b@example.com"), .deleteRow .users 1,
    .request (.forLogin "c" "c@example.com")]

/-- The row of the first browser goes, and another one logs in. The number is given again. -/
def sameNumber : List Step := [.deleteRow .users 1, .request (.forLogin "b" "b@example.com")]

/-- The first browser after such steps is nobody or the other one. -/
theorem greetingRules_of_login_withUser :
    (Shop.start (Config.forTests {}) false).1 = .ok forTests ∧
      (Request.forLogin "a" "a@example.com").AsksFor [.post] "/login" (.usual "a") ∧
      (forTests.step (.request (.forLogin "a" "a@example.com"))).answer.status? = some 200 ∧
      ¬withUser.Reissues otherNumbers 1 ∧
      ((withUser.run otherNumbers).2.step (.request (.forPage "a" "/"))).answer =
        .response (.page 200 (Page.home none)) ∧
      withUser.Reissues sameNumber 1 ∧
      ((withUser.run sameNumber).2.step (.request (.forPage "a" "/"))).answer =
        .response (.page 200 (Page.home (some (Text.ofString "b@example.com")))) := by
  have started : (Shop.start (Config.forTests {}) false).1 = .ok forTests := rfl
  have asks : (Request.forLogin "a" "a@example.com").AsksFor [.post] "/login" (.usual "a") :=
    ⟨_, rfl, rfl, rfl, rfl, ⟨.post, by simp, rfl⟩, rfl⟩
  have home : (Request.forPage "a" "/").AsksFor [.get, .head] "/" (.usual "a") :=
    ⟨_, rfl, rfl, rfl, rfl, ⟨.get, by simp, rfl⟩, rfl⟩
  have well : (forTests.step (.request (.forLogin "a" "a@example.com"))).answer.status? =
      some 200 := by decide +kernel
  have only : ∀ user ∈ withUser.store.users.getD [], user.id = 1 := by decide +kernel
  have foreign (later : List Step) (others : ∀ step ∈ later, step.isOf (.usual "a") = false) :
      ∀ entry ∈ (withUser.history later).filter (·.1.isOf (.usual "a")), ∀ email,
        entry.1.login? entry.2 ≠ some (some email) := by
    rw [filter_history_eq_nil others withUser]
    exact List.forall_mem_nil _
  have unissued : ¬withUser.Reissues otherNumbers 1 := by decide +kernel
  have issued : withUser.Reissues sameNumber 1 := by decide +kernel
  have users : ∀ step ∈ [] ++ otherNumbers, step.isOfUsers := by
    simp [otherNumbers, Step.isOfUsers]
  have users' : ∀ step ∈ [] ++ sameNumber, step.isOfUsers := by simp [sameNumber, Step.isOfUsers]
  obtain ⟨user, -, mem, rules⟩ :=
    greetingRules_of_login started users asks well (foreign otherNumbers (by decide +kernel))
  obtain ⟨user', -, mem', rules'⟩ :=
    greetingRules_of_login started users' asks well (foreign sameNumber (by decide +kernel))
  have nobody : withUser.greeted (.usual "a") user.id otherNumbers = none :=
    rules.nobody_after (by rw [only user mem]; exact unissued) (otherNumbers.take 2)
      (otherNumbers.drop 2) rfl (by rw [only user mem]; decide +kernel)
  have somebody : withUser.greeted (.usual "a") user'.id sameNumber =
      some (Text.ofString "b@example.com") := by
    rw [only user' mem']
    decide +kernel
  refine ⟨started, asks, well, unissued, ?_, issued, ?_⟩
  · rw [← nobody]
    exact rules.home _ home
  · rw [← somebody]
    exact rules'.home _ home

/-- A browser may be greeted as somebody else than the user of its last login. -/
theorem not_always_own :
    ¬∀ (config : Config) (outage : Bool) (start : Shop) (before later : List Step)
      (login : Request) (key : Sessions.Key), (Shop.start config outage).1 = .ok start →
        (∀ step ∈ before ++ later, step.isOfUsers) → login.AsksFor [.post] "/login" key →
        ((start.run before).2.step (.request login)).answer.status? = some 200 →
        (∀ entry ∈ (((start.run before).2.step (.request login)).shop.history later).filter
          (·.1.isOf key), ∀ email, entry.1.login? entry.2 ≠ some (some email)) →
        ∀ (request : Request) (email : Text),
          request.AsksFor [.get] "/" key ∨ request.AsksFor [.get] "/dashboard" key →
          ((((start.run before).2.step (.request login)).shop.run later).2.step
              (.request request)).answer = .response (.page 200 (Page.home (some email))) →
            email = login.body.email := by
  intro always
  have started : (Shop.start (Config.forTests {}) false).1 = .ok forTests := rfl
  have asks : (Request.forLogin "a" "a@example.com").AsksFor [.post] "/login" (.usual "a") :=
    ⟨_, rfl, rfl, rfl, rfl, ⟨.post, by simp, rfl⟩, rfl⟩
  have home : (Request.forPage "a" "/").AsksFor [.get] "/" (.usual "a") :=
    ⟨_, rfl, rfl, rfl, rfl, ⟨.get, by simp, rfl⟩, rfl⟩
  have others : ∀ step ∈ sameNumber, step.isOf (.usual "a") = false := by decide +kernel
  have same := always _ _ _ [] sameNumber _ _ started (by simp [sameNumber, Step.isOfUsers]) asks
    (by decide +kernel) (by rw [filter_history_eq_nil others]; exact List.forall_mem_nil _)
    (.forPage "a" "/") (Text.ofString "b@example.com") (.inl home) rfl
  revert same
  decide +kernel

end Shop

end Storefront
