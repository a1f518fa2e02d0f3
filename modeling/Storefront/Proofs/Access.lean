import Storefront.Proofs.Numbered

/-!
# Who may do what

Some pages are for users only, and whoever is none is told so by a status that no other request
gets. A request adds a row at most, and the answer tells which; it takes no row away, and it touches
no session but that of its own browser, and that one only by a login or a logout that goes well.

## Main definitions

* `Shop.IsAuthenticated` — sessions that hold the number of a user
* `Request.IsForUsers` — requests that are answered to users only
* `Shop.HoldsNumbers` — sessions that hold nothing but numbers that the shop itself has written
* `Shop.AccessRules` — what a request may do

## Main results

* `Shop.isKept_holdsNumbers` — no step of the shop itself writes anything else into a session
* `Shop.userNamed_ne_none_iff` — the look-up finds a user for just those sessions
* `Shop.accessRules_of_isReachable` — every request keeps to the rules
-/

namespace Storefront

open Service

/-- The status of an answer that is a response. -/
def Answer.status? : Answer → Option Nat
  | .response shown => some shown.status
  | _ => none

/-- The steps that write nothing from outside into a session. -/
def Step.leavesSessions : Step → Prop
  | .setUserNumber .. => False
  | _ => True

/-- Requests that are for users only: for the dashboard, for the form, and with a product. -/
def Request.IsForUsers (request : Request) (key : Sessions.Key) : Prop :=
  request.AsksFor [.get, .head] "/dashboard" key ∨
    request.AsksFor [.get, .head] "/products/create" key ∨ request.AsksFor [.post] "/products" key

/-- The requests for users only are those that are handed to the views for users. -/
theorem Request.isForUsers_iff {request : Request} {key : Sessions.Key} :
    request.IsForUsers key ↔
      ∃ target view, request.visit? = some { target, key, view } ∧ view.isProtected = true := by
  constructor
  · rintro (asks | asks | asks)
    · obtain ⟨target, visited⟩ := (asksFor_iff .dashboard rfl).1 asks
      exact ⟨target, .dashboard, visited, rfl⟩
    · obtain ⟨target, visited⟩ := (asksFor_iff .productForm rfl).1 asks
      exact ⟨target, .productForm, visited, rfl⟩
    · obtain ⟨target, visited⟩ := (asksFor_iff .addProduct rfl).1 asks
      exact ⟨target, .addProduct, visited, rfl⟩
  · rintro ⟨target, view, visited, isProtected⟩
    cases view with
    | dashboard => exact .inl (asksFor_of_visited visited rfl)
    | productForm => exact .inr (.inl (asksFor_of_visited visited rfl))
    | addProduct => exact .inr (.inr (asksFor_of_visited visited rfl))
    | _ => cases isProtected

namespace Shop

variable {shop start changed : Shop} {key : Sessions.Key} {request : Request} {answer : Answer}

/-- A session that holds the number of a user who has a row. -/
def IsAuthenticated (shop : Shop) (key : Sessions.Key) : Prop :=
  ∃ user ∈ shop.store.users.getD [],
    shop.sessions.get? key = some (.str (Text.ofNat user.id))

/-! ### What sessions hold -/

/-- Sessions that hold nothing but numerals, of numbers that rows can have. -/
def HoldsNumbers (shop : Shop) : Prop :=
  ∀ key id, shop.sessions.get? key = some id → ∃ n : Nat, n ≤ Store.maxId ∧ id = .str (Text.ofNat n)

theorem HoldsNumbers.canRead (h : shop.HoldsNumbers) (key : Sessions.Key) : shop.CanRead key := by
  intro id held
  obtain ⟨n, le, rfl⟩ := h key id held
  exact ⟨n, userNumber_ofNat le, Cell.fits_ofNat le⟩

/-- A login leaves a number in its own session. -/
theorem HoldsNumbers.set (h : start.HoldsNumbers) {n : Nat} (le : n ≤ Store.maxId)
    (sessions : changed.sessions = start.sessions.set key (.str (Text.ofNat n))) :
    changed.HoldsNumbers := by
  intro other id held
  rw [sessions] at held
  by_cases same : other = key
  · rw [same, Sessions.get?_set_self (by simp)] at held
    exact ⟨n, le, (Option.some.inj held).symm⟩
  · rw [Sessions.get?_set_of_ne same] at held
    exact h other id held

theorem HoldsNumbers.clear (h : start.HoldsNumbers)
    (sessions : changed.sessions = start.sessions.clear key) : changed.HoldsNumbers := by
  intro other id held
  rw [sessions] at held
  by_cases same : other = key
  · rw [same, Sessions.get?_clear_self] at held
    cases held
  · rw [Sessions.get?_clear_of_ne same] at held
    exact h other id held

theorem Serves.holdsNumbers {body : Body} {v : View} {response : Response}
    (numbered : start.store.IsNumbered) (holds : start.HoldsNumbers)
    (h : start.Serves key body v response changed) : changed.HoldsNumbers := by
  cases h with
  | @loggedIn user given email known =>
    obtain ⟨users, table, mem⟩ := known
    have le : user.id ≤ Store.maxId := by
      refine numbered.users.le user.id (List.mem_map_of_mem ?_)
      simpa [table] using mem
    exact holds.set le rfl
  | registered given email isNew => exact holds.set isNew.id_le rfl
  | loggedOut => exact holds.clear rfl
  | _ => exact holds

/-- The shop itself writes nothing but numbers of rows into sessions. -/
theorem isKept_holdsNumbers :
    IsKept Step.leavesSessions fun shop => shop.store.IsNumbered ∧ shop.HoldsNumbers where
  alike a b like := by
    rintro ⟨numbered, holds⟩
    refine ⟨like.store ▸ numbered, ?_⟩
    unfold HoldsNumbers
    rw [like.sessions]
    exact holds
  moves start step changed allowed := by
    rintro ⟨numbered, holds⟩ moves
    refine ⟨isKept_isNumbered.moves trivial numbered moves, ?_⟩
    cases moves with
    | handled handles =>
      cases handles with
      | served visited serves => exact serves.holdsNumbers numbered holds
      | _ => exact holds
    | userNumberSet => exact allowed.elim
    | _ => exact holds

/-- The look-up finds a user for just the sessions that hold the number of one. -/
theorem userNamed_ne_none_iff (numbered : shop.store.IsNumbered) (holds : shop.HoldsNumbers) :
    shop.userNamed key ≠ none ↔ shop.IsAuthenticated key := by
  constructor
  · intro named
    obtain ⟨user, named⟩ := Option.ne_none_iff_exists'.1 named
    simp only [userNamed, Option.bind_eq_bind, Option.bind_eq_some_iff] at named
    obtain ⟨id, held, number, read, found⟩ := named
    -- The numeral in the session is read as the number that it was written for.
    obtain ⟨n, le, rfl⟩ := holds key id held
    rw [userNumber_ofNat le] at read
    obtain rfl := Option.some.inj read
    have same : user.id = n := Int.ofNat.inj (by simpa using List.find?_some found)
    exact ⟨user, List.mem_of_find?_eq_some found, same ▸ held⟩
  · rintro ⟨user, mem, held⟩
    simp [userNamed_of_mem numbered mem held]

/-! ### What a request may do -/

/-- What a request may do to a shop, by its answer: the shop after it, and who has sent it. -/
structure AccessRules (shop : Shop) (request : Request) (answer : Answer) (after : Shop) :
    Prop where
  /-- Whoever is not authenticated is told so by the pages for users, and nobody else is. -/
  refused_iff : answer.status? = some 401 ↔
    ∃ key, request.IsForUsers key ∧ ¬shop.IsAuthenticated key
  /-- A product that was created is one row, sent by a user. -/
  product_created : answer.status? = some 201 →
    ∃ key products product, request.AsksFor [.post] "/products" key ∧ shop.IsAuthenticated key ∧
      shop.store.products = some products ∧ after.store.products = some (products ++ [product])
  /-- No product is added without saying so. -/
  products_kept : answer.status? ≠ some 201 → after.store.products = shop.store.products
  /-- A user is only added by a login with an email that no user has, and then one is. -/
  users_added : after.store.users ≠ shop.store.users →
    ∃ key users user, request.AsksFor [.post] "/login" key ∧ request.body.email ≠ [] ∧
      shop.store.users = some users ∧ (∀ other ∈ users, other.email ≠ request.body.email) ∧
      user.email = request.body.email ∧ after.store.users = some (users ++ [user])
  /-- A login that goes well with an email that no user has does add one. -/
  login_adds : ∀ key, request.AsksFor [.post] "/login" key → answer.status? = some 200 →
    (∀ other ∈ shop.store.users.getD [], other.email ≠ request.body.email) →
      after.store.users ≠ shop.store.users
  /-- Rows stay where they are. -/
  rows_kept : shop.store.users.getD [] <+: after.store.users.getD [] ∧
    shop.store.products.getD [] <+: after.store.products.getD []
  /-- A session is changed only by a login or a logout of its own that goes well. -/
  sessions_kept : ∀ key, after.sessions.get? key ≠ shop.sessions.get? key →
    (request.AsksFor [.post] "/login" key ∨ request.AsksFor [.get, .head] "/logout" key) ∧
      answer.status? = some 200

/-! ### What views do, by their responses -/

section Serves

variable {body : Body} {v : View} {response : Response}

/-- Only the views for users refuse anybody, and only who is none. -/
theorem Serves.refused_of_status (h : start.Serves key body v response changed)
    (status : response.status = 401) : v.isProtected = true ∧ start.userNamed key = none := by
  cases h with
  | refused isProtected nobody => exact ⟨isProtected, nobody⟩
  | _ => simp at status

/-- A product is added for a user, and the response says so. -/
theorem Serves.products (h : start.Serves key body v response changed) :
    (response.status = 201 ∧ v = .addProduct ∧ start.userNamed key ≠ none ∧
        ∃ products product, start.store.products = some products ∧
          changed.store.products = some (products ++ [product])) ∨
      response.status ≠ 201 ∧ changed.store.products = start.store.products := by
  cases h with
  | @added user product named isNew judged =>
    obtain ⟨products, table, -⟩ := isNew.products
    refine .inl ⟨rfl, rfl, by simp [named], products, product, table, ?_⟩
    rw [Store.products_putProduct, table, Option.map_some]
  | _ => exact .inr ⟨by simp, rfl⟩

/-- A user is added by a login with an email that no user has. -/
theorem Serves.users (h : start.Serves key body v response changed) :
    (v = .login ∧ body.email ≠ [] ∧ ∃ users user, start.store.users = some users ∧
        (∀ other ∈ users, other.email ≠ body.email) ∧ user.email = body.email ∧
        changed.store.users = some (users ++ [user])) ∨
      changed.store.users = start.store.users ∧
        (v = .login → response.status = 200 →
          ∃ other ∈ start.store.users.getD [], other.email = body.email) := by
  cases h with
  | @registered user given email isNew =>
    obtain ⟨users, table, -, fresh⟩ := isNew.users
    refine .inl ⟨rfl, given, users, user, table, email ▸ fresh, email, ?_⟩
    rw [Store.users_putUser, table, Option.map_some]
  | @loggedIn user given email known =>
    obtain ⟨users, table, mem⟩ := known
    refine .inr ⟨rfl, fun _ _ => ⟨user, ?_, email⟩⟩
    simpa [table] using mem
  | emailMissing missing => exact .inr ⟨rfl, fun _ status => by simp at status⟩
  | refused isProtected nobody =>
    refine .inr ⟨rfl, ?_⟩
    rintro rfl
    cases isProtected
  | _ => exact .inr ⟨rfl, nofun⟩

/-- A session is changed by a login or a logout of its own. -/
theorem Serves.sessions {other : Sessions.Key} (h : start.Serves key body v response changed)
    (differs : changed.sessions.get? other ≠ start.sessions.get? other) :
    other = key ∧ (v = .login ∨ v = .logout) ∧ response.status = 200 := by
  have own (others : other ≠ key → changed.sessions.get? other = start.sessions.get? other) :
      other = key := by
    by_cases same : other = key
    · exact same
    · exact absurd (others same) differs
  cases h with
  | loggedIn => exact ⟨own fun ne => by rw [Sessions.get?_set_of_ne ne], .inl rfl, rfl⟩
  | registered => exact ⟨own fun ne => by rw [Sessions.get?_set_of_ne ne], .inl rfl, rfl⟩
  | loggedOut => exact ⟨own fun ne => by rw [Sessions.get?_clear_of_ne ne], .inr rfl, rfl⟩
  | _ => exact absurd rfl differs

end Serves

/-! ### What requests do, by their answers -/

/-- A request does what its view does, or nothing; then its status is none of those that speak of a
refusal or a product, or, from a view, of success. -/
theorem Handles.serves_or_kept (h : start.Handles request answer changed) :
    (∃ visit response, request.visit? = some visit ∧ answer.status? = some response.status ∧
        start.Serves visit.key request.body visit.view response changed) ∨
      changed = start ∧ answer.status? ≠ some 401 ∧ answer.status? ≠ some 201 ∧
        (answer.status? = some 200 → request.visit? = none) := by
  cases h with
  | served visited serves => exact .inl ⟨_, _, visited, by simp [Answer.status?], serves⟩
  | unsent unvisited => exact .inr ⟨rfl, nofun, nofun, nofun⟩
  | @unvisited response unvisited known =>
    have other (n : Nat) (out : n ∉ unvisitedStatuses) : some response.status ≠ some n :=
      fun status => out (Option.some.inj status ▸ known)
    exact .inr ⟨rfl, other 401 (by decide), other 201 (by decide), fun _ => unvisited⟩
  | unavailable visited =>
    exact .inr ⟨rfl, by simp [Answer.status?], by simp [Answer.status?], by simp [Answer.status?]⟩
  | broken visited =>
    exact .inr ⟨rfl, by simp [Answer.status?], by simp [Answer.status?], by simp [Answer.status?]⟩
  | failed visited => exact .inr ⟨rfl, nofun, nofun, nofun⟩

/-- The rules say nothing of what the connection remembers. -/
theorem AccessRules.of_alike {after : Shop} (h : AccessRules shop request answer changed)
    (like : changed.Alike after) : AccessRules shop request answer after where
  refused_iff := h.refused_iff
  product_created := like.store ▸ h.product_created
  products_kept := like.store ▸ h.products_kept
  users_added := like.store ▸ h.users_added
  login_adds := like.store ▸ h.login_adds
  rows_kept := like.store ▸ h.rows_kept
  sessions_kept := like.sessions ▸ h.sessions_kept

/-- Whoever is nobody is refused what is for users only, if the session can be read. -/
theorem status_of_isForUsers (outage : shop.outage = false)
    (table : shop.store.users.isSome = true) (readable : shop.CanRead key)
    (nobody : shop.userNamed key = none) (asks : request.IsForUsers key) :
    (shop.step (.request request)).answer.status? = some 401 := by
  obtain ⟨target, v, visited, isProtected⟩ := Request.isForUsers_iff.1 asks
  have refuses (work : Service Response) :=
    exists_gives_forUser_of_none outage table readable nobody work
  have shown : ∃ after, (view v key request.body).Gives shop (.page 401 Page.unauthorized)
      after := by
    cases v with
    | dashboard => exact refuses _
    | productForm => exact refuses _
    | addProduct => exact refuses _
    | _ => cases isProtected
  obtain ⟨after, shown⟩ := shown
  rw [step_of_gives_view visited shown]
  simp [Answer.status?]

section Rules

variable {visit : Visit} {response : Response}
variable (refuses : ∀ key, request.IsForUsers key → ¬start.IsAuthenticated key →
  answer.status? = some 401)

include refuses

/-- A view that has been asked for keeps to the rules. -/
theorem Serves.accessRules (numbered : start.store.IsNumbered) (holds : start.HoldsNumbers)
    (visited : request.visit? = some visit) (status : answer.status? = some response.status)
    (serves : start.Serves visit.key request.body visit.view response changed) :
    AccessRules start request answer changed where
  refused_iff := by
    refine ⟨fun refused => ?_, fun ⟨key, asks, unauthenticated⟩ => refuses key asks unauthenticated⟩
    obtain ⟨isProtected, nobody⟩ :=
      serves.refused_of_status (Option.some.inj (status.symm.trans refused))
    have asks : request.IsForUsers visit.key :=
      Request.isForUsers_iff.2 ⟨visit.target, visit.view, visited, isProtected⟩
    refine ⟨visit.key, asks, fun authenticated => ?_⟩
    exact (userNamed_ne_none_iff numbered holds).2 authenticated nobody
  product_created created := by
    rcases serves.products with ⟨-, adds, named, products, product, rows⟩ | ⟨uncreated, -⟩
    · exact ⟨visit.key, products, product, Request.asksFor_of_visited visited (adds ▸ rfl),
        (userNamed_ne_none_iff numbered holds).1 named, rows⟩
    · exact absurd (Option.some.inj (status.symm.trans created)) uncreated
  products_kept uncreated := by
    rcases serves.products with ⟨created, -⟩ | ⟨-, kept⟩
    · exact absurd (status.trans (congrArg some created)) uncreated
    · exact kept
  users_added differs := by
    rcases serves.users with ⟨login, given, users, user, rows⟩ | ⟨kept, -⟩
    · exact ⟨visit.key, users, user, Request.asksFor_of_visited visited (login ▸ rfl), given, rows⟩
    · exact absurd kept differs
  login_adds key asks well fresh := by
    obtain ⟨target, asked⟩ := (Request.asksFor_iff .login rfl).1 asks
    -- The login that is spoken of is the one that the view has served.
    obtain rfl := Option.some.inj (visited.symm.trans asked)
    rcases serves.users with ⟨-, -, users, user, table, -, -, rows⟩ | ⟨-, known⟩
    · rw [rows, table]
      simp
    · obtain ⟨other, mem, same⟩ := known rfl (Option.some.inj (status.symm.trans well))
      exact absurd same (fresh other mem)
  rows_kept := by
    constructor
    · rcases serves.users with ⟨-, -, users, user, table, -, -, rows⟩ | ⟨kept, -⟩
      · rw [rows, table, Option.getD_some, Option.getD_some]
        exact List.prefix_append users [user]
      · simp [kept]
    · rcases serves.products with ⟨-, -, -, products, product, table, rows⟩ | ⟨-, kept⟩
      · rw [rows, table, Option.getD_some, Option.getD_some]
        exact List.prefix_append products [product]
      · simp [kept]
  sessions_kept key differs := by
    obtain ⟨rfl, login | logout, well⟩ := serves.sessions differs
    · exact ⟨.inl (Request.asksFor_of_visited visited (login ▸ rfl)), well ▸ status⟩
    · exact ⟨.inr (Request.asksFor_of_visited visited (logout ▸ rfl)), well ▸ status⟩

/-- A request that has changed nothing keeps to the rules if its answer claims nothing. -/
theorem accessRules_of_kept (no401 : answer.status? ≠ some 401) (no201 : answer.status? ≠ some 201)
    (no200 : answer.status? = some 200 → request.visit? = none) :
    AccessRules start request answer start where
  refused_iff :=
    ⟨fun refused => absurd refused no401, fun ⟨key, asks, nobody⟩ => refuses key asks nobody⟩
  product_created created := absurd created no201
  products_kept _ := rfl
  users_added differs := absurd rfl differs
  login_adds key asks well := by
    obtain ⟨target, visited⟩ := (Request.asksFor_iff .login rfl).1 asks
    rw [no200 well] at visited
    cases visited
  rows_kept := ⟨List.prefix_rfl, List.prefix_rfl⟩
  sessions_kept _ differs := absurd rfl differs

/-- What a request changes keeps to the rules, if it refuses whom it should. -/
theorem Handles.accessRules (numbered : start.store.IsNumbered) (holds : start.HoldsNumbers)
    (h : start.Handles request answer changed) : AccessRules start request answer changed := by
  rcases h.serves_or_kept with ⟨visit, response, visited, status, serves⟩ | ⟨rfl, none⟩
  · exact serves.accessRules refuses numbered holds visited status
  · exact accessRules_of_kept refuses none.1 none.2.1 none.2.2

end Rules

/-- While the database can be reached and has its users, every request keeps to the rules, as long
as nothing has been written into a session from outside. -/
theorem accessRules_of_isReachable {config : Config}
    (reachable : shop.IsReachable Step.leavesSessions config) (outage : shop.outage = false)
    (table : shop.store.users.isSome = true) (request : Request) :
    AccessRules shop request (shop.step (.request request)).answer
      (shop.step (.request request)).shop := by
  have opened (start : Shop) (opened : start.IsOpened config) :
      start.store.IsNumbered ∧ start.HoldsNumbers := by
    refine ⟨opened.store ▸ .empty, fun key id held => ?_⟩
    rw [opened.sessions] at held
    cases held
  obtain ⟨numbered, holds⟩ := isKept_holdsNumbers.of_isReachable opened reachable
  obtain ⟨changed, handles, like⟩ := shop.exists_handles request
  have refuses (key : Sessions.Key) (asks : request.IsForUsers key)
      (unauthenticated : ¬shop.IsAuthenticated key) :
      (shop.step (.request request)).answer.status? = some 401 := by
    have nobody : shop.userNamed key = none := by
      cases known : shop.userNamed key with
      | none => rfl
      | some user =>
        have named : shop.userNamed key ≠ none := by simp [known]
        exact absurd ((userNamed_ne_none_iff numbered holds).1 named) unauthenticated
    exact status_of_isForUsers outage table (holds.canRead key) nobody asks
  exact (handles.accessRules refuses numbered holds).of_alike like

/-- A shop in which somebody is logged in whose row has been deleted. -/
def afterDeletion : Shop :=
  (forTests.run [.request (.forLogin "a" "a@example.com"), .request (.forLogin "b" "b@example.com"),
    .deleteRow .users 1]).2

/-- A product that is sent by whoever was logged in there before the deletion. -/
theorem accessRules_of_isReachable_afterDeletion :
    afterDeletion.IsReachable Step.leavesSessions (Config.forTests {}) ∧
      afterDeletion.outage = false ∧ afterDeletion.store.users.isSome = true ∧
      afterDeletion.sessions.get? (.usual "a") = some (.str (Text.ofNat 1)) ∧
      (afterDeletion.step (.request (.ofForm "a" "/products" []))).answer.status? = some 401 := by
  have reachable : afterDeletion.IsReachable Step.leavesSessions (Config.forTests {}) :=
    ⟨false, forTests, _, rfl, by simp [Step.leavesSessions], rfl⟩
  have asks : (Request.ofForm "a" "/products" []).AsksFor [.post] "/products" (.usual "a") :=
    ⟨_, rfl, rfl, rfl, rfl, ⟨.post, by simp, rfl⟩, rfl⟩
  have held : afterDeletion.sessions.get? (.usual "a") = some (.str (Text.ofNat 1)) := rfl
  have unauthenticated : ¬afterDeletion.IsAuthenticated (.usual "a") := by
    rintro ⟨user, mem, same⟩
    have number : Text.ofNat 1 = Text.ofNat user.id := by
      rw [held] at same
      exact Json.str.inj (Option.some.inj same)
    have others : ∀ user ∈ afterDeletion.store.users.getD [],
        Text.ofNat 1 ≠ Text.ofNat user.id := by
      decide +kernel
    exact others user mem number
  have rules := accessRules_of_isReachable reachable rfl rfl (.ofForm "a" "/products" [])
  exact ⟨reachable, rfl, rfl, held, rules.refused_iff.2 ⟨_, .inr (.inr asks), unauthenticated⟩⟩

end Shop

end Storefront
