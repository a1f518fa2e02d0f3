import Storefront.Web.Visit
import Storefront.Proofs.Accounts
import Storefront.Proofs.Catalogue

/-!
# What views do

A view that ends well has given one of a few responses, each of which goes with what it has changed:
nothing, a session, or a session and a row, or a row. A view that fails has changed nothing.

## Main definitions

* `Body.email` — the email that a login is for
* `View.isProtected` — the views that are for users only
* `Shop.Serves` — the response of a view with what has been changed

## Main results

* `Shop.exists_serves_of_gives` — a view that ends well does no more than `Shop.Serves` says
* `Shop.isAtomic_view` — a view that fails has changed nothing
-/

namespace Storefront

open Service

/-- The email that a login is for. -/
def Body.email (body : Body) : Text :=
  ((body.pairs.lookup (Text.ofString "email")).getD []).strip

/-- Whether a view is for users only. -/
def View.isProtected : View → Bool
  | .dashboard | .addProduct | .productForm => true
  | _ => false

namespace Shop

@[simp] theorem status_complaintResponse (report : Product.Report) :
    (complaintResponse report).status = 422 := rfl

@[simp] theorem status_createdResponse (product : Product) :
    (createdResponse product).status = 201 := rfl

/-- The response of a view that ends well, and the shop as the view has changed it. -/
inductive Serves (start : Shop) (key : Sessions.Key) (body : Body) : View → Response → Shop → Prop
  | home :
    Serves start key body .home (.page 200 (Page.home ((start.userNamed key).map User.email))) start
  | refused {view : View} (isProtected : view.isProtected = true)
      (nobody : start.userNamed key = none) :
    Serves start key body view (.page 401 Page.unauthorized) start
  | dashboard {user : User} (named : start.userNamed key = some user) :
    Serves start key body .dashboard (.page 200 (Page.home (some user.email))) start
  | loginForm : Serves start key body .loginForm (.page 200 (Page.login none)) start
  | emailMissing (missing : body.email = []) :
    Serves start key body .login
      (.page 422 (Page.login (some (Text.ofString "Missing email")))) start
  | loggedIn {user : User} (given : body.email ≠ []) (email : user.email = body.email)
      (known : ∃ users, start.store.users = some users ∧ user ∈ users) :
    Serves start key body .login (.page 200 (Page.loggedIn user.email))
      { start with sessions := start.sessions.set key (.str (Text.ofNat user.id)) }
  | registered {user : User} (given : body.email ≠ []) (email : user.email = body.email)
      (isNew : start.store.IsNewUser start.config.defaultUserName user) :
    Serves start key body .login (.page 200 (Page.loggedIn user.email))
      { start with
        store := start.store.putUser user
        sessions := start.sessions.set key (.str (Text.ofNat user.id)) }
  | loggedOut :
    Serves start key body .logout (.page 200 Page.loggedOut)
      { start with sessions := start.sessions.clear key }
  | complained {user : User} {report : Product.Report} (named : start.userNamed key = some user)
      (unclean : report.complaints ≠ []) :
    Serves start key body .addProduct (complaintResponse report) start
  | added {user : User} {product : Product} (named : start.userNamed key = some user)
      (isNew : start.store.IsNewProduct product)
      (judged : Store.Entry.IsJudged start.limits ⟨some product.title, product.sku,
        product.description, some product.price, some product.stock, product.isActive⟩) :
    Serves start key body .addProduct (createdResponse product)
      { start with store := start.store.putProduct product }
  | productShown {id : Nat} {product : Product}
      (found : ∃ products, start.store.products = some products ∧
        products.find? (fun product => (product.id : Int) = id) = some product) :
    Serves start key body (.product id) (.json 200 product.summary.json) start
  | productMissing {id : Nat}
      (missing : ∃ products, start.store.products = some products ∧
        products.find? (fun product => (product.id : Int) = id) = none) :
    Serves start key body (.product id)
      (.json 404 (.obj [(Text.ofString "message", .str (Text.ofString "Product not found"))])) start
  | productForm {user : User} (named : start.userNamed key = some user) :
    Serves start key body .productForm
      (.page 200 (Page.productForm start.limits.title.shown start.limits.sku.shown)) start
  | file : Serves start key body .file (.page 404 Page.notFound) start

variable {start after : Shop} {key : Sessions.Key} {body : Body} {response : Response}

/-! ### Pages -/

theorem isQuiet_page (key : Sessions.Key) (status : Nat) (body : Text) :
    (page key status body).IsQuiet :=
  (isQuiet_currentUser key).bind fun _ => isQuiet_pure _

theorem gives_page {status : Nat} {text : Text}
    (h : (page key status text).Gives start response after) :
    response = .page status text ∧ start.Alike after := by
  obtain ⟨_, mid, asked, returned⟩ := gives_bind_iff.1 h
  obtain ⟨rfl, rfl⟩ := gives_pure_iff.1 returned
  exact ⟨rfl, (isQuiet_currentUser key).alike_of_gives asked⟩

theorem isQuiet_homePage (key : Sessions.Key) : (homePage key).IsQuiet :=
  (isQuiet_currentUser key).bind fun _ => isQuiet_pure _

theorem gives_homePage (h : (homePage key).Gives start response after) :
    response = .page 200 (Page.home ((start.userNamed key).map User.email)) ∧
      start.Alike after := by
  obtain ⟨found, mid, asked, returned⟩ := gives_bind_iff.1 h
  obtain ⟨rfl, rfl⟩ := gives_pure_iff.1 returned
  exact ⟨gives_currentUser asked ▸ rfl, (isQuiet_currentUser key).alike_of_gives asked⟩

/-- A page is shown wherever the session can be read. -/
theorem exists_gives_page (outage : start.outage = false)
    (table : start.store.users.isSome = true) (readable : start.CanRead key) (status : Nat)
    (text : Text) : ∃ after, (page key status text).Gives start (.page status text) after := by
  obtain ⟨after, asked⟩ := exists_gives_currentUser outage table readable
  exact ⟨after, gives_bind_iff.2 ⟨_, after, asked, gives_pure_iff.2 ⟨rfl, rfl⟩⟩⟩

theorem exists_gives_homePage (outage : start.outage = false)
    (table : start.store.users.isSome = true) (readable : start.CanRead key) :
    ∃ after, (homePage key).Gives start
      (.page 200 (Page.home ((start.userNamed key).map User.email))) after := by
  obtain ⟨after, asked⟩ := exists_gives_currentUser outage table readable
  exact ⟨after, gives_bind_iff.2 ⟨_, after, asked, gives_pure_iff.2 ⟨rfl, rfl⟩⟩⟩

theorem isQuiet_productForm (key : Sessions.Key) : (productForm key).IsQuiet :=
  isQuiet_shop.bind fun _ => (isQuiet_page _ _ _).bind fun _ =>
    (isQuiet_ofFault _).bind fun _ => isQuiet_pure _

theorem gives_productForm (h : (productForm key).Gives start response after) :
    response = .page 200 (Page.productForm start.limits.title.shown start.limits.sku.shown) ∧
      start.Alike after := by
  have like := (isQuiet_productForm key).alike_of_gives h
  obtain ⟨shown, _, paged, rest⟩ := gives_bind_iff.1 (gives_shop_bind_iff.1 h)
  obtain ⟨_, -, returned⟩ := gives_ofFault_bind_iff.1 rest
  exact ⟨(gives_pure_iff.1 returned).1.trans (gives_page paged).1, like⟩

/-! ### What is for users only -/

/-- The user is looked up first, and without one there is only the page that says so. -/
theorem gives_forUser {work : Service Response}
    (h : (forUser key work).Gives start response after) :
    (start.userNamed key = none ∧ response = .page 401 Page.unauthorized ∧ start.Alike after) ∨
      ∃ user mid, start.userNamed key = some user ∧ start.Alike mid ∧
        work.Gives mid response after := by
  obtain ⟨found, mid, asked, rest⟩ := gives_bind_iff.1 h
  have named := gives_currentUser asked
  have like := (isQuiet_currentUser key).alike_of_gives asked
  cases found with
  | none =>
    obtain ⟨rfl, like'⟩ := gives_page rest
    exact .inl ⟨named.symm, rfl, like.trans like'⟩
  | some user => exact .inr ⟨user, mid, named.symm, like, rest⟩

/-- Whoever is not logged in is told so wherever the session can be read. -/
theorem exists_gives_forUser_of_none (outage : start.outage = false)
    (table : start.store.users.isSome = true) (readable : start.CanRead key)
    (nobody : start.userNamed key = none) (work : Service Response) :
    ∃ after, (forUser key work).Gives start (.page 401 Page.unauthorized) after := by
  obtain ⟨mid, asked⟩ := exists_gives_currentUser outage table readable
  have like := (isQuiet_currentUser key).alike_of_gives asked
  -- The page looks the user up once more, in a shop where that goes as well as before.
  obtain ⟨after, shown⟩ := exists_gives_page (like.outage.trans outage) (like.store ▸ table)
    (like.canRead readable) 401 Page.unauthorized
  rw [nobody] at asked
  exact ⟨after, gives_bind_iff.2 ⟨none, mid, asked, shown⟩⟩

/-- For a user the work is done, in a shop like the one before. -/
theorem exists_gives_forUser_of_some (outage : start.outage = false)
    (table : start.store.users.isSome = true) (readable : start.CanRead key) {user : User}
    (named : start.userNamed key = some user) {work : Service Response}
    (done : ∀ mid, start.Alike mid → ∃ after, work.Gives mid response after) :
    ∃ after, (forUser key work).Gives start response after := by
  obtain ⟨mid, asked⟩ := exists_gives_currentUser outage table readable
  obtain ⟨after, worked⟩ := done mid ((isQuiet_currentUser key).alike_of_gives asked)
  rw [named] at asked
  exact ⟨after, gives_bind_iff.2 ⟨some user, mid, asked, worked⟩⟩

theorem isAtomic_forUser {work : Service Response} (h : work.IsAtomic) :
    (forUser key work).IsAtomic := by
  refine .bind_of_isQuiet (isQuiet_currentUser key) fun found => ?_
  cases found with
  | none => exact (isQuiet_page _ _ _).isAtomic
  | some user => exact h

/-! ### The views -/

/-- A login without an email is a page like others. -/
theorem logIn_of_isEmpty (empty : body.email.isEmpty = true) :
    logIn key body = page key 422 (Page.login (some (Text.ofString "Missing email"))) := by
  unfold logIn
  dsimp only
  rw [← Body.email, empty, if_pos rfl]

/-- A login with an email asks for its user and writes the number of that user into the session. -/
theorem logIn_of_not_isEmpty (given : body.email.isEmpty = false) :
    logIn key body = do
      let user ← userFor body.email
      Service.change fun shop =>
        { shop with sessions := shop.sessions.set key (.str (Text.ofNat user.id)) }
      Service.record (userRecord "User " user " logged in")
      return .page 200 (Page.loggedIn user.email) := by
  unfold logIn
  dsimp only
  rw [← Body.email, given, if_neg Bool.false_ne_true]

/-- A login with an email has been given the user of the email, whose number its session holds
then. -/
theorem gives_logIn_iff (given : body.email.isEmpty = false) :
    (logIn key body).Gives start response after ↔
      ∃ user mid, (userFor body.email).Gives start user mid ∧
        response = .page 200 (Page.loggedIn user.email) ∧
        after = { mid with sessions := mid.sessions.set key (.str (Text.ofNat user.id)) } := by
  rw [logIn_of_not_isEmpty given, gives_bind_iff]
  simp only [gives_change_bind_iff, gives_record_bind_iff, gives_pure_iff]

theorem serves_of_gives_logIn (h : (logIn key body).Gives start response after) :
    ∃ changed, start.Serves key body .login response changed ∧ changed.Alike after := by
  cases empty : body.email.isEmpty with
  | true =>
    rw [logIn_of_isEmpty empty] at h
    obtain ⟨rfl, like⟩ := gives_page h
    exact ⟨start, .emailMissing (List.isEmpty_iff.1 empty), like⟩
  | false =>
    have given : body.email ≠ [] := List.isEmpty_eq_false_iff.1 empty
    obtain ⟨user, mid, found, rfl, rfl⟩ := (gives_logIn_iff empty).1 h
    -- The session is set on top of whatever the look-up has changed.
    obtain ⟨email, -, ⟨known, like⟩ | ⟨isNew, like⟩⟩ := gives_userFor found
    · exact ⟨_, .loggedIn given email known, like.mapSessions (·.set key _)⟩
    · exact ⟨_, .registered given email isNew, like.mapSessions (·.set key _)⟩

theorem isAtomic_logIn (key : Sessions.Key) (body : Body) : (logIn key body).IsAtomic := by
  unfold logIn
  dsimp only
  split
  · exact (isQuiet_page _ _ _).isAtomic
  · -- Once the user is there, nothing can go wrong any more.
    refine (isAtomic_userFor _).bind_of_cannotFail fun user start failure after => ?_
    simp [fails_bind_iff]

theorem serves_of_gives_logOut (h : (logOut key).Gives start response after) :
    ∃ changed, start.Serves key body .logout response changed ∧ changed.Alike after := by
  obtain ⟨found, mid, asked, rest⟩ := gives_bind_iff.1 h
  have like := (isQuiet_currentUser key).alike_of_gives asked
  -- Only the log tells whether anybody was logged in.
  have cleared : response = .page 200 Page.loggedOut ∧
      after = { mid with sessions := mid.sessions.clear key } := by
    cases found <;> simpa [gives_bind_iff, gives_map_iff, and_comm] using rest
  obtain ⟨rfl, rfl⟩ := cleared
  exact ⟨_, .loggedOut, like.mapSessions _⟩

theorem isAtomic_logOut (key : Sessions.Key) : (logOut key).IsAtomic := by
  refine (isQuiet_currentUser key).isAtomic.bind_of_cannotFail fun found start failure after => ?_
  cases found <;> simp [fails_bind_iff]

theorem serves_of_gives_submitProduct {mid : Shop} {user : User}
    (named : start.userNamed key = some user) (like : start.Alike mid)
    (h : (submitProduct body.fields).Gives mid response after) :
    ∃ changed, start.Serves key body .addProduct response changed ∧ changed.Alike after := by
  obtain ⟨report, last, judged, rest⟩ := gives_bind_iff.1 h
  have like' := (isQuiet_judge _).alike_of_gives judged
  split at rest
  next clean =>
    have sound := isJudged_of_judge judged (List.isEmpty_iff.1 clean)
    obtain ⟨product, done, added, returned⟩ := gives_bind_iff.1 rest
    obtain ⟨rfl, rfl⟩ := gives_pure_iff.1 returned
    obtain ⟨-, isNew, ⟨price, isActive, -, entry⟩, changed⟩ := gives_addProduct added
    have entered := Store.Entry.isJudged_of_entry sound entry
    -- The shop in which the row is added is like the first one, limits and rows included.
    have all := like.trans like'
    rw [limits, like.config] at entered
    rw [all.store] at isNew
    exact ⟨_, .added named isNew entered, (all.mapStore (·.putProduct product)).trans changed⟩
  next unclean =>
    obtain ⟨rfl, rfl⟩ := gives_pure_iff.1 rest
    exact ⟨start, .complained named fun clean => unclean (List.isEmpty_iff.2 clean),
      like.trans like'⟩

theorem isAtomic_submitProduct (fields : Json.Members) : (submitProduct fields).IsAtomic := by
  refine .bind_of_isQuiet (isQuiet_judge _) fun report => ?_
  split
  · refine (isAtomic_addProduct _).bind_of_cannotFail fun product start failure after => ?_
    simp
  · exact (isQuiet_pure _).isAtomic

/-- A body that can be read comes to what its fields come to. -/
theorem submitBody_of_readable (readable : body.checkDepth start.config.maxDepth = .ok ()) :
    submitBody body start = submitProduct body.fields start := by
  rw [submitBody, shop_bind, readable]
  rfl

theorem gives_submitBody_iff :
    (submitBody body).Gives start response after ↔
      body.checkDepth start.config.maxDepth = .ok () ∧
        (submitProduct body.fields).Gives start response after := by
  rw [submitBody, gives_shop_bind_iff, gives_ofFault_bind_iff]
  constructor
  · rintro ⟨_, readable, done⟩
    exact ⟨readable, done⟩
  · rintro ⟨readable, done⟩
    exact ⟨(), readable, done⟩

theorem isAtomic_submitBody (body : Body) : (submitBody body).IsAtomic :=
  .bind_of_isQuiet isQuiet_shop fun _ =>
    .bind_of_isQuiet (isQuiet_ofFault _) fun _ => isAtomic_submitProduct _

theorem serves_of_gives_showProduct {id : Nat} (h : (showProduct id).Gives start response after) :
    ∃ changed, start.Serves key body (.product id) response changed ∧ changed.Alike after := by
  obtain ⟨found, mid, asked, returned⟩ := gives_bind_iff.1 h
  have like := (isQuiet_findProduct _).alike_of_gives asked
  have rows := (gives_findProduct asked).2
  cases found with
  | some product =>
    obtain ⟨rfl, rfl⟩ := gives_pure_iff.1 returned
    exact ⟨start, .productShown rows, like⟩
  | none =>
    obtain ⟨rfl, rfl⟩ := gives_pure_iff.1 returned
    exact ⟨start, .productMissing rows, like⟩

theorem isQuiet_showProduct (id : Nat) : (showProduct id).IsQuiet :=
  (isQuiet_findProduct _).bind fun found => by
    cases found <;> exact isQuiet_pure _

/-- A view that ends well has given one of its responses and changed what goes with it. -/
theorem exists_serves_of_gives {v : View} (h : (view v key body).Gives start response after) :
    ∃ changed, start.Serves key body v response changed ∧ changed.Alike after := by
  -- The views for users differ only in what is done for a user.
  have refuses (isProtected : v.isProtected = true) (nobody : start.userNamed key = none)
      (response_eq : response = .page 401 Page.unauthorized) (like : start.Alike after) :
      ∃ changed, start.Serves key body v response changed ∧ changed.Alike after :=
    ⟨start, response_eq ▸ .refused isProtected nobody, like⟩
  cases v with
  | home =>
    obtain ⟨rfl, like⟩ := gives_homePage h
    exact ⟨start, .home, like⟩
  | dashboard =>
    rcases gives_forUser h with ⟨nobody, refused, like⟩ | ⟨user, mid, named, like, shown⟩
    · exact refuses rfl nobody refused like
    · obtain ⟨rfl, like'⟩ := gives_homePage shown
      rw [like.userNamed_eq, named]
      exact ⟨start, .dashboard named, like.trans like'⟩
  | loginForm =>
    obtain ⟨rfl, like⟩ := gives_page h
    exact ⟨start, .loginForm, like⟩
  | login => exact serves_of_gives_logIn h
  | logout => exact serves_of_gives_logOut h
  | addProduct =>
    rcases gives_forUser h with ⟨nobody, refused, like⟩ | ⟨user, mid, named, like, done⟩
    · exact refuses rfl nobody refused like
    · exact serves_of_gives_submitProduct named like (gives_submitBody_iff.1 done).2
  | product id => exact serves_of_gives_showProduct h
  | productForm =>
    rcases gives_forUser h with ⟨nobody, refused, like⟩ | ⟨user, mid, named, like, shown⟩
    · exact refuses rfl nobody refused like
    · obtain ⟨rfl, like'⟩ := gives_productForm shown
      rw [limits, like.config]
      exact ⟨start, .productForm named, like.trans like'⟩
  | file =>
    obtain ⟨rfl, rfl⟩ := gives_pure_iff.1 h
    exact ⟨_, .file, .refl _⟩

/-- A view that fails has changed nothing. -/
theorem isAtomic_view (v : View) (key : Sessions.Key) (body : Body) :
    (view v key body).IsAtomic := by
  cases v with
  | home => exact (isQuiet_homePage key).isAtomic
  | dashboard => exact isAtomic_forUser (isQuiet_homePage key).isAtomic
  | loginForm => exact (isQuiet_page _ _ _).isAtomic
  | login => exact isAtomic_logIn key body
  | logout => exact isAtomic_logOut key
  | addProduct => exact isAtomic_forUser (isAtomic_submitBody body)
  | product id => exact (isQuiet_showProduct id).isAtomic
  | productForm => exact isAtomic_forUser (isQuiet_productForm key).isAtomic
  | file => exact (isQuiet_pure _).isAtomic

end Shop

end Storefront
