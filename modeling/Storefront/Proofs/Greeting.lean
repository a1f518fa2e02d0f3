import Storefront.Proofs.Numbered

/-!
# Who is greeted

A browser at a host is greeted as the user of its last login that went well, unless it has logged
out since. What other browsers do has no part in this, nor have logins and logouts that failed. A
session only holds the number of a row, so the argument is about rows: a login leaves the number of
the row with its email, rows stay as they are, and no two have the same number.

The greeting stands in one place of the home page, with the email escaped, and all around it is
fixed and speaks of nobody.

## Main definitions

* `Shop.history`, `Step.isOf` — the steps of a run with their answers, and those of one browser
* `lastLogin` — the email of the last login that went well, if no logout has followed
* `Page.Greets` — pages that greet the user of an email, or nobody
* `Shop.Tracks` — a session that holds the number of the user with an email, or nothing

## Main results

* `Page.greets_home` — whom the home page greets
* `Shop.Tracks.step`, `Shop.Tracks.run` — a session keeps up with the logins of its browser
* `Shop.answer_of_home_or_dashboard` — the home page and the dashboard after any run
-/

namespace Storefront

open Service

/-! ### Greetings -/

namespace Page

/-- What is said to the user of an email, or to nobody. -/
def greeting : Option Text → Text
  | some email =>
    Text.ofString "<p>Hello, " ++ email.escaped ++
      Text.ofString "!</p>\n  <p><a href=\"/logout\">Logout</a></p>"
  | none => Text.ofString "<p>You are not logged in</p>"

/-- A text that neither greets anybody nor says that there is nobody. -/
structure IsSilent (t : Text) : Prop where
  noGreeting : ¬Text.ofString "Hello" <:+: t
  noDenial : ¬Text.ofString "not logged in" <:+: t
  noLogout : ¬Text.ofString "/logout" <:+: t

/-- A page that greets the user of an email, or nobody, in one place and says nothing of it
elsewhere. -/
def Greets (email : Option Text) (page : Text) : Prop :=
  ∃ above below, page = above ++ greeting email ++ below ∧ IsSilent above ∧ IsSilent below

variable {email : Option Text} {above said below : List Text}

/-- Lines that greet, indented, among lines that do not. -/
theorem greets_lines (greets : lines said = Text.ofString "  " ++ greeting email)
    (someAbove : above ≠ []) (someSaid : said ≠ []) (someBelow : below ≠ [])
    (silentAbove : IsSilent (lines above ++ Text.ofString "\n  "))
    (silentBelow : IsSilent (('\n' : CodePoint) :: lines below)) :
    Greets email (lines (above ++ said ++ below)) := by
  refine ⟨_, _, ?_, silentAbove, silentBelow⟩
  have both : above ++ said ≠ [] := by simp [someAbove]
  have indent : Text.ofString "\n  " = ('\n' : CodePoint) :: Text.ofString "  " := by decide
  rw [lines_append both someBelow, lines_append someAbove someSaid, greets, indent]
  simp only [List.append_assoc, List.cons_append]

theorem greets_home (email : Option Text) : Greets email (home email) := by
  unfold home
  refine greets_lines ?greets ?above ?said ?below ?silentAbove ?silentBelow
  case greets =>
    cases email with
    | none => decide
    | some email => simp [lines, greeting, Text.ofString]
  case said => cases email <;> simp
  case above | below => simp [fixed]
  case silentAbove | silentBelow => constructor <;> decide +kernel

end Page

/-! ### The history of a browser -/

/-- What the status of a view's response says of who is logged in: the user of an email after a
login that went well, nobody after such a logout, and otherwise nothing. -/
def View.login? (view : View) (email : Text) (status : Nat) : Option (Option Text) :=
  match view, status with
  | .login, 200 => some (some email)
  | .logout, 200 => some none
  | _, _ => none

theorem View.login?_of_ne {status : Nat} (h : status ≠ 200) (view : View) (email : Text) :
    view.login? email status = none := by
  unfold login?
  split <;> simp_all

namespace Step

/-- The steps that are requests, outages or refused writes. -/
def isOfWeb : Step → Prop
  | .request _ | .setOutage _ | .setReadOnly _ => True
  | _ => False

/-- Whether a step is a request that a view answers for a session. -/
def isOf (key : Sessions.Key) : Step → Bool
  | .request sent => sent.visit?.any (·.key = key)
  | _ => false

/-- What a step with its answer says of who is logged in. -/
def login? : Step → Answer → Option (Option Text)
  | .request sent, .response response =>
    sent.visit?.bind fun visit => visit.view.login? sent.body.email response.status
  | _, _ => none

end Step

/-- The email of the last login that went well, unless a logout has followed; before both, an email
from before. -/
def lastLoginSince (email : Option Text) (history : List (Step × Answer)) : Option Text :=
  (history.reverse.findSome? fun entry => entry.1.login? entry.2).getD email

/-- The email of the last login that went well, unless a logout has followed. -/
def lastLogin (history : List (Step × Answer)) : Option Text := lastLoginSince none history

theorem lastLoginSince_cons (email : Option Text) (entry : Step × Answer)
    (history : List (Step × Answer)) :
    lastLoginSince email (entry :: history) =
      lastLoginSince ((entry.1.login? entry.2).getD email) history := by
  unfold lastLoginSince
  rw [List.reverse_cons, List.findSome?_append]
  cases history.reverse.findSome? (fun entry => entry.1.login? entry.2) with
  | none => cases h : entry.1.login? entry.2 <;> simp [h]
  | some login => rfl

namespace Shop

/-- The steps of a run with their answers. -/
def history (start : Shop) (steps : List Step) : List (Step × Answer) :=
  steps.zip ((start.run steps).1.map Prod.fst)

theorem history_cons (start : Shop) (first : Step) (rest : List Step) :
    start.history (first :: rest) =
      (first, (start.step first).answer) :: (start.step first).shop.history rest := rfl

/-! ### Sessions and rows -/

/-- A session that holds the number of the user with an email, or nothing where there is no
email. -/
def Greets (shop : Shop) (key : Sessions.Key) : Option Text → Prop
  | none => shop.sessions.get? key = none
  | some email => ∃ user ∈ shop.store.users.getD [], user.email = email ∧
      shop.sessions.get? key = some (.str (Text.ofNat user.id))

/-- A session that holds the number of the user with an email, or nothing, in a shop in which such a
number stands for one user. -/
structure Tracks (shop : Shop) (key : Sessions.Key) (email : Option Text) : Prop where
  numbered : shop.store.IsNumbered
  table : shop.store.users.isSome = true
  greets : shop.Greets key email

variable {start after changed : Shop} {key : Sessions.Key} {email : Option Text}

namespace Tracks

theorem of_alike (h : start.Tracks key email) (like : start.Alike after) :
    after.Tracks key email := by
  refine ⟨like.store ▸ h.numbered, like.store ▸ h.table, ?_⟩
  unfold Greets
  rw [like.sessions, like.store]
  exact h.greets

theorem userNamed (h : start.Tracks key email) : (start.userNamed key).map User.email = email := by
  cases email with
  | none =>
    rw [userNamed_of_get?_eq_none h.greets]
    rfl
  | some email =>
    obtain ⟨user, mem, rfl, held⟩ := h.greets
    rw [userNamed_of_mem h.numbered mem held]
    rfl

theorem canRead (h : start.Tracks key email) : start.CanRead key := by
  intro id held
  cases email with
  | none =>
    have empty : start.sessions.get? key = none := h.greets
    rw [empty] at held
    cases held
  | some email =>
    obtain ⟨user, mem, rfl, held'⟩ := h.greets
    obtain rfl := Option.some.inj (held'.symm.trans held)
    have le := h.numbered.users.le user.id (List.mem_map_of_mem mem)
    exact ⟨user.id, userNumber_ofNat le, Cell.fits_ofNat le⟩

/-- The home page greets the user whose number the session holds. -/
theorem exists_gives_homePage (h : start.Tracks key email) (outage : start.outage = false) :
    ∃ after, (homePage key).Gives start (.page 200 (Page.home email)) after := by
  rw [← h.userNamed]
  exact Shop.exists_gives_homePage outage h.table h.canRead

/-- A session that is not touched keeps up with its browser while no row goes away. -/
theorem of_subset (h : start.Tracks key email) (numbered : changed.store.IsNumbered)
    (table : changed.store.users.isSome = true)
    (rows : ∀ user ∈ start.store.users.getD [], user ∈ changed.store.users.getD [])
    (session : changed.sessions.get? key = start.sessions.get? key) :
    changed.Tracks key email := by
  refine ⟨numbered, table, ?_⟩
  have greets := h.greets
  unfold Greets at greets ⊢
  rw [session]
  cases email with
  | none => exact greets
  | some email =>
    obtain ⟨user, mem, same, held⟩ := greets
    exact ⟨user, rows user mem, same, held⟩

/-- A new user stands behind the others. -/
theorem mem_putUser {store : Store} {name : Json} {user other : User}
    (isNew : store.IsNewUser name user) :
    other ∈ (store.putUser user).users.getD [] ↔ other ∈ store.users.getD [] ∨ other = user := by
  obtain ⟨users, table, -⟩ := isNew.users
  simp [table]

/-- A view leaves the session of its browser as its response says. -/
theorem serves_own {body : Body} {v : View} {response : Response} (h : start.Tracks key email)
    (serves : start.Serves key body v response changed) :
    changed.Tracks key ((v.login? body.email response.status).getD email) := by
  cases serves with
  | refused isProtected nobody =>
    -- A refusal comes of a view for users, and none of these is a login or a logout.
    cases v with
    | dashboard => exact h
    | addProduct => exact h
    | productForm => exact h
    | _ => cases isProtected
  | @loggedIn user given same known =>
    obtain ⟨users, table, mem⟩ := known
    refine ⟨h.numbered, h.table, user, ?_, same, ?_⟩
    · simpa [table] using mem
    · rw [Sessions.get?_set_self (by simp)]
  | @registered user given same isNew =>
    refine ⟨h.numbered.putUser isNew, ?_, user, ?_, same, ?_⟩
    · simpa using h.table
    · exact (mem_putUser isNew).2 (.inr rfl)
    · rw [Sessions.get?_set_self (by simp)]
  | loggedOut => exact ⟨h.numbered, h.table, Sessions.get?_clear_self⟩
  | added named isNew judged => exact ⟨h.numbered.putProduct isNew, h.table, h.greets⟩
  | _ => exact h

/-- A view leaves the sessions of other browsers alone. -/
theorem serves_other {other : Sessions.Key} {body : Body} {v : View} {response : Response}
    (h : start.Tracks key email) (differs : key ≠ other)
    (serves : start.Serves other body v response changed) : changed.Tracks key email := by
  cases serves with
  | loggedIn given same known =>
    refine h.of_subset h.numbered h.table (fun _ mem => mem) ?_
    rw [Sessions.get?_set_of_ne differs]
  | registered given same isNew =>
    refine h.of_subset (h.numbered.putUser isNew) ?_ ?_ ?_
    · simpa using h.table
    · exact fun user mem => (mem_putUser isNew).2 (.inl mem)
    · rw [Sessions.get?_set_of_ne differs]
  | loggedOut =>
    exact h.of_subset h.numbered h.table (fun _ mem => mem) (Sessions.get?_clear_of_ne differs)
  | added named isNew judged => exact ⟨h.numbered.putProduct isNew, h.table, h.greets⟩
  | _ => exact h

/-- A request leaves a session as it is or, to its own browser, as the answer says. -/
theorem handles {request : Request} {answer : Answer} (h : start.Tracks key email)
    (handles : start.Handles request answer changed) :
    changed.Tracks key
      (if (Step.request request).isOf key then ((Step.request request).login? answer).getD email
        else email) := by
  cases handles with
  | unsent unvisited =>
    simp only [Step.login?, Option.getD_none, ite_self]
    exact h
  | unvisited unvisited known =>
    simp only [Step.isOf, unvisited, Option.any_none, Bool.false_eq_true, if_false]
    exact h
  | @served visit response _ visited serves =>
    -- Browsers have sessions of their own, so only the session's own view can touch it.
    by_cases own : visit.key = key
    · rw [own] at serves
      simpa [Step.isOf, Step.login?, visited, own] using h.serves_own serves
    · have differs : key ≠ visit.key := Ne.symm own
      simpa [Step.isOf, visited, own] using h.serves_other differs serves
  | unavailable visited =>
    simp only [Step.login?, visited, Request.status_delivered, Response.status_page,
      Option.bind_some, View.login?_of_ne (show 503 ≠ 200 by decide), Option.getD_none, ite_self]
    exact h
  | broken visited =>
    simp only [Step.login?, visited, Request.status_delivered, Response.status_page,
      Option.bind_some, View.login?_of_ne (show 500 ≠ 200 by decide), Option.getD_none, ite_self]
    exact h
  | failed visited =>
    simp only [Step.login?, Option.getD_none, ite_self]
    exact h

theorem step {step : Step} (h : start.Tracks key email) (allowed : step.isOfWeb) :
    (start.step step).shop.Tracks key
      (if step.isOf key then (step.login? (start.step step).answer).getD email else email) := by
  cases step with
  | request request =>
    obtain ⟨changed, handles, like⟩ := start.exists_handles request
    exact (h.handles handles).of_alike like
  | setOutage on =>
    -- An outage hides the rows and the sessions, but takes none away.
    obtain ⟨changed, moves, like⟩ := start.exists_moves (.setOutage on)
    cases moves with
    | kept => exact h.of_alike like
    | outageSet =>
      have tracks : Tracks { start with outage := on } key email := ⟨h.numbered, h.table, h.greets⟩
      exact tracks.of_alike like
  | setReadOnly on =>
    obtain ⟨changed, moves, like⟩ := start.exists_moves (.setReadOnly on)
    cases moves with
    | kept => exact h.of_alike like
    | readOnlySet =>
      have numbered : Store.IsNumbered { start.store with readOnly := on } :=
        ⟨h.numbered.users, h.numbered.products⟩
      have tracks : Tracks { start with store := { start.store with readOnly := on } } key email :=
        ⟨numbered, h.table, h.greets⟩
      exact tracks.of_alike like
  | _ => exact allowed.elim

/-- A session keeps up with its browser over a run, by induction on the steps; each step that is not
of the browser is left out of its history. -/
theorem run {steps : List Step} (h : start.Tracks key email)
    (all : ∀ step ∈ steps, step.isOfWeb) :
    (start.run steps).2.Tracks key
      (lastLoginSince email ((start.history steps).filter (·.1.isOf key))) := by
  induction steps generalizing start email with
  | nil => exact h
  | cons first rest ih =>
    have next := ih (h.step (all first List.mem_cons_self))
      fun step mem => all step (List.mem_cons_of_mem first mem)
    rw [history_cons, List.filter_cons]
    -- The first step stands in the history of the browser if it is of the browser.
    split at next
    next own =>
      rw [if_pos own, lastLoginSince_cons]
      exact next
    next other =>
      rw [if_neg other]
      exact next

end Tracks

/-- A shop that has just been opened knows nobody. -/
theorem IsOpened.tracks {config : Config} (h : start.IsOpened config) (key : Sessions.Key) :
    start.Tracks key none := by
  refine ⟨h.store ▸ .empty, ?_, ?_⟩
  · rw [h.store]
    rfl
  · rw [Greets, h.sessions]
    rfl

/-- After any run of requests, outages and refused writes that ends with a database that can be
reached, the home page and the dashboard of a browser greet the user of its last login that went
well, if no logout has followed. Otherwise the home page greets nobody and the dashboard is
refused. -/
theorem answer_of_home_or_dashboard {config : Config} {outage : Bool} {steps : List Step}
    (started : (Shop.start config outage).1 = .ok start) (all : ∀ step ∈ steps, step.isOfWeb)
    (reachable : (start.run steps).2.outage = false) (request : Request) (key : Sessions.Key) :
    let answer := ((start.run steps).2.step (.request request)).answer
    let email := lastLogin ((start.history steps).filter (·.1.isOf key))
    Page.Greets email (Page.home email) ∧
      (request.AsksFor [.get, .head] "/" key →
        answer = .response (request.delivered (.page 200 (Page.home email)))) ∧
      (request.AsksFor [.get, .head] "/dashboard" key →
        answer = .response (request.delivered
          (match email with
            | some email => .page 200 (Page.home (some email))
            | none => .page 401 Page.unauthorized))) := by
  intro answer email
  have tracks : (start.run steps).2.Tracks key email :=
    ((isOpened_of_start started).tracks key).run all
  refine ⟨Page.greets_home email, ?_, ?_⟩
  · intro home
    obtain ⟨target, visited⟩ := (Request.asksFor_iff .home rfl).1 home
    obtain ⟨after, shown⟩ := tracks.exists_gives_homePage reachable
    exact step_of_gives_view visited shown
  · intro dashboard
    obtain ⟨target, visited⟩ := (Request.asksFor_iff .dashboard rfl).1 dashboard
    have named := tracks.userNamed
    cases known : (start.run steps).2.userNamed key with
    | none =>
      have nobody : email = none := by rw [← named, known]; rfl
      obtain ⟨after, refused⟩ := exists_gives_forUser_of_none reachable tracks.table tracks.canRead
        known (homePage key)
      rw [nobody]
      exact step_of_gives_view visited refused
    | some user =>
      -- The page looks the user up again, in a shop that the first look-up has left as it was.
      have greeted : email = some user.email := by rw [← named, known]; rfl
      have shows (mid : Shop) (like : (start.run steps).2.Alike mid) :=
        (tracks.of_alike like).exists_gives_homePage (like.outage.trans reachable)
      obtain ⟨after, shown⟩ :=
        exists_gives_forUser_of_some reachable tracks.table tracks.canRead known shows
      rw [greeted] at shown ⊢
      exact step_of_gives_view visited shown

/-- Two browsers, one of which logs in again as somebody else; the other is logged out. -/
def twoBrowsers : List Step :=
  [.request (.forLogin "a" " a@example.com "), .request (.forLogin "b" "b@example.com"),
    .setOutage true, .request (.forLogin "b" "c@example.com"), .setOutage false,
    .request (.forLogin "a" "c@example.com"), .setReadOnly true, .request (.forPage "b" "/logout"),
    .request (.forLogin "a" "new@example.com")]

/-- The pages of the two browsers. -/
theorem answer_of_home_or_dashboard_of_two_browsers :
    (Shop.start (Config.forTests {}) false).1 = .ok forTests ∧
      (∀ step ∈ twoBrowsers, step.isOfWeb) ∧ (forTests.run twoBrowsers).2.outage = false ∧
      (Request.forPage "a" "/").AsksFor [.get, .head] "/" (.usual "a") ∧
      Page.Greets (some (Text.ofString "c@example.com"))
        (Page.home (some (Text.ofString "c@example.com"))) ∧
      ((forTests.run twoBrowsers).2.step (.request (.forPage "a" "/"))).answer =
        .response (.page 200 (Page.home (some (Text.ofString "c@example.com")))) ∧
      (Request.forPage "b" "/dashboard").AsksFor [.get, .head] "/dashboard" (.usual "b") ∧
      ((forTests.run twoBrowsers).2.step (.request (.forPage "b" "/dashboard"))).answer =
        .response (.page 401 Page.unauthorized) := by
  have all : ∀ step ∈ twoBrowsers, step.isOfWeb := by simp [twoBrowsers, Step.isOfWeb]
  have started : (Shop.start (Config.forTests {}) false).1 = .ok forTests := rfl
  have reachable : (forTests.run twoBrowsers).2.outage = false := by decide +kernel
  have home : (Request.forPage "a" "/").AsksFor [.get, .head] "/" (.usual "a") :=
    ⟨_, rfl, rfl, rfl, rfl, ⟨.get, by simp, rfl⟩, rfl⟩
  have dashboard :
      (Request.forPage "b" "/dashboard").AsksFor [.get, .head] "/dashboard" (.usual "b") :=
    ⟨_, rfl, rfl, rfl, rfl, ⟨.get, by simp, rfl⟩, rfl⟩
  have emailA : lastLogin ((forTests.history twoBrowsers).filter (·.1.isOf (.usual "a"))) =
      some (Text.ofString "c@example.com") := by decide +kernel
  have emailB :
      lastLogin ((forTests.history twoBrowsers).filter (·.1.isOf (.usual "b"))) = none := by
    decide +kernel
  have answersA := answer_of_home_or_dashboard started all reachable (.forPage "a" "/") (.usual "a")
  have answersB :=
    answer_of_home_or_dashboard started all reachable (.forPage "b" "/dashboard") (.usual "b")
  rw [emailA] at answersA
  rw [emailB] at answersB
  exact ⟨started, all, reachable, home, answersA.1, answersA.2.1 home, dashboard,
    answersB.2.2 dashboard⟩

end Shop

end Storefront
