import Storefront.Proofs.Access
import Storefront.Proofs.Failures
import Storefront.Proofs.News
import Storefront.Proofs.Recording

/-!
# What requests tell

Rows come into a table and numbers into a session by three views alone. Each of them records what it
has done once nothing can go wrong any more, so what a request has told is what has happened in it:
the row that was added, the number that a login has left in the session, or the number of the user
whom a logout has taken out of it.

## Main definitions

* `Store.GainsProduct`, `Store.GainsUser` — tables with a row that was not there before
* `News.HasHappened` — what a step has done where the log tells of it
* `Shop.Tells` — what a view may have changed, with what it tells
* `Shop.IsTruthful` — steps that tell what has happened in them, and nothing else

## Main results

* `News.hasHappened_iff_of_isNewProduct`, `News.hasHappened_iff_of_isNewUser` — all that has
  happened where a new row is put
* `Shop.exists_tells_of_gives` — a view tells what it has done
* `Shop.Tells.mem_iff` — what it tells has happened, and nothing else has
* `Shop.isTruthful_request` — so it is with every request
-/

namespace Storefront

open Service

namespace Store

variable {store before after : Store} {id : Nat} {title : Text}

/-- A row with a number and a title is among the products that were without that number. -/
def GainsProduct (before after : Store) (id : Nat) (title : Text) : Prop :=
  (∀ product ∈ before.products.getD [], product.id ≠ id) ∧
    ∃ product ∈ after.products.getD [], product.id = id ∧ product.title = title

/-- A row with a number is among the users that were without that number. -/
def GainsUser (before after : Store) (id : Nat) : Prop :=
  (∀ user ∈ before.users.getD [], user.id ≠ id) ∧ ∃ user ∈ after.users.getD [], user.id = id

theorem not_gainsProduct_of_subset
    (kept : after.products.getD [] ⊆ before.products.getD []) :
    ¬before.GainsProduct after id title := by
  rintro ⟨fresh, product, mem, same, -⟩
  exact fresh product (kept mem) same

theorem not_gainsUser_of_subset (kept : after.users.getD [] ⊆ before.users.getD []) :
    ¬before.GainsUser after id := by
  rintro ⟨fresh, user, mem, same⟩
  exact fresh user (kept mem) same

/-- Of the rows with a number that no other row has, the next number leaves the new row alone. -/
theorem gained_iff {α : Type} {idOf : α → Nat} {rows : List α} {row : α} {P : α → Prop}
    (next : idOf row = nextId (rows.map idOf)) :
    ((∀ other ∈ rows, idOf other ≠ id) ∧ ∃ other ∈ rows ++ [row], idOf other = id ∧ P other) ↔
      idOf row = id ∧ P row := by
  constructor
  · rintro ⟨fresh, other, mem, rfl, holds⟩
    rcases List.mem_append.1 mem with old | same
    · exact absurd rfl (fresh other old)
    · exact List.mem_singleton.1 same ▸ ⟨rfl, holds⟩
  · rintro ⟨rfl, holds⟩
    refine ⟨fun other mem same => ?_, row, by simp, rfl, holds⟩
    have less : idOf other < nextId (rows.map idOf) := lt_nextId (List.mem_map_of_mem mem)
    rw [← next, same] at less
    exact Nat.lt_irrefl _ less

/-- A new product is the one that is gained. -/
theorem IsNewProduct.gains_iff {product : Product} (isNew : store.IsNewProduct product) :
    store.GainsProduct (store.putProduct product) id title ↔
      product.id = id ∧ product.title = title := by
  obtain ⟨products, table, next, -⟩ := isNew.products
  unfold GainsProduct
  rw [products_putProduct, table]
  exact gained_iff (P := fun product => product.title = title) next

theorem IsNewUser.gains_iff {name : Json} {user : User} (isNew : store.IsNewUser name user) :
    store.GainsUser (store.putUser user) id ↔ user.id = id := by
  obtain ⟨users, table, next, -⟩ := isNew.users
  unfold GainsUser
  rw [users_putUser, table]
  simpa using gained_iff (P := fun _ => True) next

end Store

/-! ### What has happened -/

/-- What a step has done, by its answer and the shop after it. A login leaves its number in the
session, and a logout, by whatever method, takes the number of a user out of it. -/
def News.HasHappened (start : Shop) (step : Step) (answer : Answer) (after : Shop) : News → Prop
  | .productCreated id title => start.store.GainsProduct after.store id title
  | .userCreated id => start.store.GainsUser after.store id
  | .loggedIn id => ∃ request key, step = .request request ∧
      request.AsksFor [.post] "/login" key ∧ answer.status? = some 200 ∧
      after.sessions.get? key = some (.str (Text.ofNat id))
  | .loggedOut id => ∃ request target, step = .request request ∧ request.read = .ok target ∧
      target.path = Text.ofString "/logout" ∧ answer.status? = some 200 ∧
      (start.userNamed (Shop.sessionKey request target)).map User.id = some id ∧
      after.sessions.get? (Shop.sessionKey request target) = none

namespace News

variable {start after changed : Shop} {step : Step} {answer : Answer} {news : News}

/-- Nothing of it depends on what the connection remembers. -/
theorem hasHappened_of_alike (like : changed.Alike after) :
    news.HasHappened start step answer after ↔ news.HasHappened start step answer changed := by
  cases news <;> simp only [HasHappened, like.store, like.sessions]

/-- Nobody has logged in where no login has gone well. -/
theorem not_hasHappened_loggedIn {id : Nat}
    (quiet : ∀ request key, step = .request request → request.AsksFor [.post] "/login" key →
      answer.status? ≠ some 200) :
    ¬(News.loggedIn id).HasHappened start step answer after := by
  rintro ⟨request, key, is, asks, status, -⟩
  exact quiet request key is asks status

/-- Nobody has logged out where no request has changed a session. -/
theorem not_hasHappened_loggedOut {id : Nat}
    (kept : ∀ request, step = .request request → after.sessions = start.sessions) :
    ¬(News.loggedOut id).HasHappened start step answer after := by
  rintro ⟨request, target, is, -, -, -, named, cleared⟩
  rw [kept request is] at cleared
  rw [Shop.userNamed_of_get?_eq_none cleared] at named
  cases named

/-- Nothing has happened where no row is added, no session is changed and no login has gone well. -/
theorem not_hasHappened (products : after.store.products.getD [] ⊆ start.store.products.getD [])
    (users : after.store.users.getD [] ⊆ start.store.users.getD [])
    (kept : ∀ request, step = .request request → after.sessions = start.sessions)
    (quiet : ∀ request key, step = .request request → request.AsksFor [.post] "/login" key →
      answer.status? ≠ some 200) :
    ¬news.HasHappened start step answer after := by
  cases news with
  | productCreated id title => exact Store.not_gainsProduct_of_subset products
  | userCreated id => exact Store.not_gainsUser_of_subset users
  | loggedIn id => exact not_hasHappened_loggedIn quiet
  | loggedOut id => exact not_hasHappened_loggedOut kept

/-- Where a new product is put, and nothing is done about sessions, it is the one thing that has
happened. -/
theorem hasHappened_iff_of_isNewProduct {product : Product}
    (isNew : start.store.IsNewProduct product)
    (store : after.store = start.store.putProduct product)
    (kept : ∀ request, step = .request request → after.sessions = start.sessions)
    (quiet : ∀ request key, step = .request request → request.AsksFor [.post] "/login" key →
      answer.status? ≠ some 200) :
    news.HasHappened start step answer after ↔
      news = .productCreated product.id product.title := by
  cases news with
  | productCreated id title =>
    rw [HasHappened, store, isNew.gains_iff]
    simp [eq_comm]
  | userCreated id =>
    rw [HasHappened, store]
    exact iff_of_false (Store.not_gainsUser_of_subset fun _ mem => mem) (by simp)
  | loggedIn id => exact iff_of_false (not_hasHappened_loggedIn quiet) (by simp)
  | loggedOut id => exact iff_of_false (not_hasHappened_loggedOut kept) (by simp)

/-- So it is with a new user. -/
theorem hasHappened_iff_of_isNewUser {name : Json} {user : User}
    (isNew : start.store.IsNewUser name user)
    (store : after.store = start.store.putUser user)
    (kept : ∀ request, step = .request request → after.sessions = start.sessions)
    (quiet : ∀ request key, step = .request request → request.AsksFor [.post] "/login" key →
      answer.status? ≠ some 200) :
    news.HasHappened start step answer after ↔ news = .userCreated user.id := by
  cases news with
  | productCreated id title =>
    rw [HasHappened, store]
    exact iff_of_false (Store.not_gainsProduct_of_subset fun _ mem => mem) (by simp)
  | userCreated id =>
    rw [HasHappened, store, isNew.gains_iff]
    simp [eq_comm]
  | loggedIn id => exact iff_of_false (not_hasHappened_loggedIn quiet) (by simp)
  | loggedOut id => exact iff_of_false (not_hasHappened_loggedOut kept) (by simp)

/-- A request is for no other session than its own, whatever it may be for. -/
theorem hasHappened_loggedOut_iff {request : Request} {visit : Visit} {id : Nat}
    (visited : request.visit? = some visit) :
    (News.loggedOut id).HasHappened start (.request request) answer after ↔
      visit.target.path = Text.ofString "/logout" ∧ answer.status? = some 200 ∧
        (start.userNamed visit.key).map User.id = some id ∧
        after.sessions.get? visit.key = none := by
  obtain ⟨read, -, key, -⟩ := Request.visit?_eq_some_iff.1 visited
  rw [key]
  constructor
  · rintro ⟨request', target, is, read', rest⟩
    obtain rfl := Step.request.inj is
    obtain rfl := Except.ok.inj (read.symm.trans read')
    exact rest
  · intro rest
    exact ⟨request, visit.target, rfl, read, rest⟩

theorem hasHappened_loggedIn_iff {request : Request} {visit : Visit} {id : Nat}
    (visited : request.visit? = some visit) :
    (News.loggedIn id).HasHappened start (.request request) answer after ↔
      visit.view = .login ∧ answer.status? = some 200 ∧
        after.sessions.get? visit.key = some (.str (Text.ofNat id)) := by
  constructor
  · rintro ⟨request', key, is, asks, rest⟩
    obtain rfl := Step.request.inj is
    obtain ⟨target, visited'⟩ := (Request.asksFor_iff .login rfl).1 asks
    obtain rfl := Option.some.inj (visited.symm.trans visited')
    exact ⟨rfl, rest⟩
  · rintro ⟨login, rest⟩
    exact ⟨request, visit.key, rfl, Request.asksFor_of_visited visited (by rw [login]; rfl), rest⟩

end News

namespace Shop

variable {start after changed : Shop} {step : Step} {key : Sessions.Key} {body : Body}
variable {response : Response} {news : List News} {request : Request} {visit : Visit}

theorem created_eq_record (user : User) :
    userRecord "Created user " user "" = (News.userCreated user.id).record := by
  simp [userRecord, News.record, News.message, News.source, Text.ofString]

/-! ### Views -/

/-- What a view may have changed, with what it has told. -/
inductive Tells (start : Shop) (key : Sessions.Key) : View → Response → Shop → List News → Prop
  | nothing {v : View} {response : Response} (calm : v = .login → response.status ≠ 200) :
    Tells start key v response start []
  | loggedIn {user : User} {response : Response} (status : response.status = 200) :
    Tells start key .login response
      { start with sessions := start.sessions.set key (.str (Text.ofNat user.id)) }
      [.loggedIn user.id]
  | registered {user : User} {response : Response} (status : response.status = 200)
      (isNew : start.store.IsNewUser start.config.defaultUserName user) :
    Tells start key .login response
      { start with
        store := start.store.putUser user
        sessions := start.sessions.set key (.str (Text.ofNat user.id)) }
      [.userCreated user.id, .loggedIn user.id]
  | loggedOut {response : Response} (status : response.status = 200) :
    Tells start key .logout response { start with sessions := start.sessions.clear key }
      ((start.userNamed key).map fun user => .loggedOut user.id).toList
  | added {product : Product} {response : Response} (isNew : start.store.IsNewProduct product) :
    Tells start key .addProduct response { start with store := start.store.putProduct product }
      [.productCreated product.id product.title]

theorem tells_of_gives_logIn (h : (logIn key body).Gives start response after) :
    ∃ changed news, start.Tells key .login response changed news ∧ changed.Alike after ∧
      (logIn key body start).log = news.map News.record := by
  unfold logIn at h ⊢
  dsimp only at h ⊢
  split at h
  next empty =>
    rw [if_pos empty]
    obtain ⟨rfl, like⟩ := gives_page h
    exact ⟨start, [], .nothing fun _ => by simp, like, isSilent_page _ _ _ start⟩
  next nonempty =>
    rw [if_neg nonempty]
    obtain ⟨user, mid, found, rest⟩ := gives_bind_iff.1 h
    have returned := gives_record_bind_iff.1 (gives_change_bind_iff.1 rest)
    obtain ⟨rfl, rfl⟩ := gives_pure_iff.1 returned
    rw [log_bind_of_gives found]
    rcases log_of_gives_userFor found with ⟨like, log⟩ | ⟨isNew, like, log⟩
    · rw [log]
      exact ⟨_, _, .loggedIn rfl, like.mapSessions (·.set key _), rfl⟩
    · rw [log]
      refine ⟨_, _, .registered rfl isNew, like.mapSessions (·.set key _), ?_⟩
      rw [created_eq_record]
      rfl

theorem tells_of_gives_logOut (h : (logOut key).Gives start response after) :
    ∃ changed news, start.Tells key .logout response changed news ∧ changed.Alike after ∧
      (logOut key start).log = news.map News.record := by
  obtain ⟨found, mid, asked, rest⟩ := gives_bind_iff.1 h
  have like := (isQuiet_currentUser key).alike_of_gives asked
  have named := gives_currentUser asked
  have log : (logOut key start).log = _ :=
    (log_bind_of_gives asked).trans (congrArg (· ++ _) (isSilent_currentUser key start))
  -- Whether anybody was logged in decides on the record alone.
  have cleared : response = .page 200 Page.loggedOut ∧
      after = { mid with sessions := mid.sessions.clear key } := by
    cases found <;> simpa [gives_bind_iff, gives_map_iff, and_comm] using rest
  obtain ⟨rfl, rfl⟩ := cleared
  refine ⟨_, _, .loggedOut rfl, like.mapSessions _, ?_⟩
  rw [log, ← named]
  cases found <;> rfl

theorem tells_of_gives_submitProduct {mid : Shop} {fields : Json.Members} (like : start.Alike mid)
    (h : (submitProduct fields).Gives mid response after) :
    ∃ changed news, start.Tells key .addProduct response changed news ∧ changed.Alike after ∧
      (submitProduct fields mid).log = news.map News.record := by
  obtain ⟨report, last, judged, rest⟩ := gives_bind_iff.1 h
  have like' := like.trans ((isQuiet_judge _).alike_of_gives judged)
  have log : (submitProduct fields mid).log = _ :=
    (log_bind_of_gives judged).trans (congrArg (· ++ _) (isSilent_judge _ mid))
  rw [log]
  split at rest
  next clean =>
    rw [if_pos clean]
    obtain ⟨product, done, added, returned⟩ := gives_bind_iff.1 rest
    obtain ⟨rfl, rfl⟩ := gives_pure_iff.1 returned
    obtain ⟨-, isNew, -, changed⟩ := gives_addProduct added
    rw [like'.store] at isNew
    rw [log_bind_of_gives added, log_of_gives_addProduct added]
    exact ⟨_, _, .added isNew, (like'.mapStore (·.putProduct product)).trans changed, rfl⟩
  next unclean =>
    rw [if_neg unclean]
    obtain ⟨rfl, rfl⟩ := gives_pure_iff.1 rest
    exact ⟨start, [], .nothing nofun, like', rfl⟩

theorem tells_of_gives_addProduct (h : (view .addProduct key body).Gives start response after) :
    ∃ changed news, start.Tells key .addProduct response changed news ∧ changed.Alike after ∧
      (view .addProduct key body start).log = news.map News.record := by
  obtain ⟨found, mid, asked, rest⟩ := gives_bind_iff.1 h
  have like := (isQuiet_currentUser key).alike_of_gives asked
  have log : (view .addProduct key body start).log = _ :=
    (log_bind_of_gives asked).trans (congrArg (· ++ _) (isSilent_currentUser key start))
  rw [log]
  cases found with
  | none =>
    obtain ⟨rfl, like'⟩ := gives_page rest
    exact ⟨start, [], .nothing nofun, like.trans like', isSilent_page _ _ _ mid⟩
  | some user =>
    obtain ⟨readable, done⟩ := gives_submitBody_iff.1 rest
    change ∃ changed news, _ ∧ _ ∧ (submitBody body mid).log = _
    rw [submitBody_of_readable readable]
    exact tells_of_gives_submitProduct like done

/-- A view that ends well has told what it has done. -/
theorem exists_tells_of_gives {v : View} (h : (view v key body).Gives start response after) :
    ∃ changed news, start.Tells key v response changed news ∧ changed.Alike after ∧
      (view v key body start).log = news.map News.record := by
  cases recorded : v.isRecorded with
  | false =>
    obtain ⟨changed, serves, like⟩ := exists_serves_of_gives h
    have kept : changed = start := by cases serves <;> first | rfl | cases recorded
    refine ⟨start, [], .nothing ?_, kept ▸ like, isSilent_view recorded key body start⟩
    rintro rfl
    cases recorded
  | true =>
    cases v with
    | login => exact tells_of_gives_logIn h
    | logout => exact tells_of_gives_logOut h
    | addProduct => exact tells_of_gives_addProduct h
    | _ => cases recorded

/-! ### Requests -/

/-- A step that tells all that has happened in it, everything once, and nothing else. -/
def IsTruthful (start : Shop) (step : Step) : Prop :=
  ∃ news : List News, news.Nodup ∧ Log.Reports (step.service start).log news ∧
    ∀ one, one ∈ news ↔
      one.HasHappened start step (start.step step).answer (start.step step).shop

section LogIn

variable {target : Target} {answer : Answer} {n id : Nat}
variable (visited : request.visit? = some { target, key, view := .login })
variable (set : changed.sessions = start.sessions.set key (.str (Text.ofNat n)))
include visited set

/-- After a login that has gone well the session holds one number and no other. -/
theorem hasHappened_loggedIn_of_set (status : answer.status? = some 200) :
    (News.loggedIn id).HasHappened start (.request request) answer changed ↔ n = id := by
  rw [News.hasHappened_loggedIn_iff visited, set, Sessions.get?_set_self (by simp)]
  constructor
  · rintro ⟨-, -, same⟩
    exact Text.ofNat_injective (Json.str.inj (Option.some.inj same))
  · rintro rfl
    exact ⟨rfl, status, rfl⟩

theorem not_hasHappened_loggedOut_of_set :
    ¬(News.loggedOut id).HasHappened start (.request request) answer changed := by
  rw [News.hasHappened_loggedOut_iff visited, set, Sessions.get?_set_self (by simp)]
  rintro ⟨-, -, -, empty⟩
  cases empty

end LogIn

/-- A view tells just what has happened. -/
theorem Tells.mem_iff {target : Target} {v : View}
    (visited : request.visit? = some { target, key, view := v })
    (h : start.Tells key v response changed news) (one : News) :
    one ∈ news ↔ one.HasHappened start (.request request)
      (.response (request.delivered response)) changed := by
  have told (ok : response.status = 200) :
      (Answer.response (request.delivered response)).status? = some 200 := by
    simp [Answer.status?, ok]
  have isView {request' : Request} {key' : Sessions.Key}
      (is : Step.request request = .request request')
      (asks : request'.AsksFor [.post] "/login" key') : v = .login := by
    obtain rfl := Step.request.inj is
    obtain ⟨target', visited'⟩ := (Request.asksFor_iff .login rfl).1 asks
    exact congrArg Visit.view (Option.some.inj (visited.symm.trans visited'))
  cases h with
  | nothing calm =>
    refine iff_of_false (by simp) (News.not_hasHappened (fun _ mem => mem) (fun _ mem => mem)
      (fun _ _ => rfl) fun request' key' is asks status => calm (isView is asks) ?_)
    simpa [Answer.status?] using status
  | @loggedIn user response status =>
    cases one with
    | productCreated id title =>
      exact iff_of_false (by simp) (Store.not_gainsProduct_of_subset fun _ mem => mem)
    | userCreated id =>
      exact iff_of_false (by simp) (Store.not_gainsUser_of_subset fun _ mem => mem)
    | loggedIn id =>
      refine Iff.trans ?_ (Iff.symm (hasHappened_loggedIn_of_set visited rfl (told status)))
      simp [eq_comm]
    | loggedOut id => exact iff_of_false (by simp) (not_hasHappened_loggedOut_of_set visited rfl)
  | @registered user response status isNew =>
    cases one with
    | productCreated id title =>
      exact iff_of_false (by simp) (Store.not_gainsProduct_of_subset fun _ mem => mem)
    | userCreated id =>
      change _ ↔ start.store.GainsUser (start.store.putUser user) id
      rw [isNew.gains_iff]
      simp [eq_comm]
    | loggedIn id =>
      refine Iff.trans ?_ (Iff.symm (hasHappened_loggedIn_of_set visited rfl (told status)))
      simp [eq_comm]
    | loggedOut id => exact iff_of_false (by simp) (not_hasHappened_loggedOut_of_set visited rfl)
  | loggedOut status =>
    have path : target.path = Text.ofString "/logout" := by
      obtain ⟨_, read, -, -, path, -⟩ := Request.asksFor_of_visited visited rfl
      obtain ⟨read', -⟩ := Request.visit?_eq_some_iff.1 visited
      obtain rfl := Except.ok.inj (read'.symm.trans read)
      exact path
    cases one with
    | productCreated id title =>
      refine iff_of_false ?_ (Store.not_gainsProduct_of_subset fun _ mem => mem)
      simp [Option.mem_toList]
    | userCreated id =>
      refine iff_of_false ?_ (Store.not_gainsUser_of_subset fun _ mem => mem)
      simp [Option.mem_toList]
    | loggedIn id =>
      refine iff_of_false (by simp) (News.not_hasHappened_loggedIn fun _ _ is asks _ => ?_)
      cases isView is asks
    | loggedOut id =>
      rw [News.hasHappened_loggedOut_iff visited]
      simp [path, told status, Sessions.get?_clear_self]
  | @added product response isNew =>
    refine List.mem_singleton.trans (Iff.symm ?_)
    apply News.hasHappened_iff_of_isNewProduct isNew rfl
    · exact fun _ _ => rfl
    · intro request' key' is asks
      cases isView is asks

theorem Tells.nodup {v : View} (h : start.Tells key v response changed news) : news.Nodup := by
  cases h with
  | loggedOut status => cases start.userNamed key <;> simp
  | _ => simp

/-- The page for an unreachable database tells nothing of rows or sessions. -/
theorem reports_answerFailure (key : Sessions.Key) (failure : Failure) (start : Shop) :
    Log.Reports (answerFailure key failure start).log [] := by
  cases failure with
  | unreachable message cause =>
    have recorded := @gives_record_iff start start (unreachableRecord (.unreachable message cause)) ()
    have log : (answerFailure key (.unreachable message cause) start).log = _ :=
      (log_bind_of_gives (recorded.2 rfl)).trans (congrArg (_ ++ ·) (isSilent_page _ _ _ _))
    rw [log]
    refine Log.reports_of_head? fun record mem => ?_
    obtain rfl := List.mem_singleton.1 mem
    exact ⟨'D', rfl, by decide, by decide⟩
  | fault fault => exact Log.reports_nil

theorem reports_settle (request : Request) (target : Target) (failure : Failure) (start : Shop) :
    Log.Reports (settle request target failure start).log [] := by
  cases tested : start.config.isTesting with
  | true =>
    rw [settle_of_isTesting tested]
    exact Log.reports_nil
  | false =>
    rw [settle_of_not_isTesting tested]
    refine Log.reports_of_head? fun record mem => ?_
    obtain rfl := List.mem_singleton.1 mem
    exact ⟨'E', rfl, by decide, by decide⟩

theorem log_service_request (visited : request.visit? = some visit) (start : Shop) :
    ((Step.request request).service start).log = (settled request visit start).log := by
  rw [Step.service_request, log_map, respond_of_visited visited, log_map]

/-- What becomes of a view that has failed tells nothing of rows or sessions. -/
theorem reports_of_fails_view {failure : Failure} (visited : request.visit? = some visit)
    (raised : (view visit.view visit.key request.body).Fails start failure after) :
    Log.Reports ((Step.request request).service start).log [] := by
  let viewed := (view visit.view visit.key request.body).recover (answerFailure visit.key)
  have first : Log.Reports (viewed start).log [] := by
    rw [log_recover_of_fails raised, failsSilently_view _ _ _ raised]
    exact reports_answerFailure _ _ _
  rw [log_service_request visited]
  rcases gives_or_fails viewed start with ⟨response, mid, ends⟩ | ⟨failure', mid, ends⟩
  · have same : settled request visit start = viewed start := recover_of_ok ends.1 _
    rw [same]
    exact first
  · have log : (settled request visit start).log = _ := log_recover_of_fails ends
    rw [log]
    exact first.append (reports_settle _ _ _ _)

/-- A request whose view has failed changes nothing and is not answered as one that went well. -/
theorem step_of_fails_view {failure : Failure} (visited : request.visit? = some visit)
    (raised : (view visit.view visit.key request.body).Fails start failure after) :
    start.Alike (start.step (.request request)).shop ∧
      (start.step (.request request)).answer.status? ≠ some 200 := by
  rcases gives_or_fails (settled request visit) start with
    ⟨response, last, ends⟩ | ⟨failure', last, ends⟩
  · obtain ⟨answered, shop⟩ := step_of_gives_settled visited ends
    rw [answered, shop]
    rcases gives_settled ends with shown | ⟨like, rfl | rfl⟩
    · cases raised.1.symm.trans shown.1
    · exact ⟨like, by simp [Answer.status?]⟩
    · exact ⟨like, by simp [Answer.status?]⟩
  · obtain ⟨answered, shop⟩ := step_of_fails_settled visited ends
    rw [answered, shop]
    refine ⟨isAtomic_settled _ _ ends, fun status => ?_⟩
    cases status

/-- A request that no view is asked for changes nothing and is reported by nothing. -/
theorem isTruthful_of_unvisited (start : Shop) (visited : request.visit? = none) :
    start.IsTruthful (.request request) := by
  -- Only a request that is handed to the view for logins is one.
  have noLogin (key : Sessions.Key) : ¬request.AsksFor [.post] "/login" key := by
    intro asks
    obtain ⟨target, visited'⟩ := (Request.asksFor_iff .login rfl).1 asks
    rw [visited] at visited'
    cases visited'
  have quiet : ((Step.request request).service start).log = [] ∧
      (start.step (.request request)).shop = start := by
    unfold Shop.step
    rw [Step.service_request]
    rcases respond_of_unvisited visited with ⟨fault, same⟩ | ⟨response, -, same⟩
    · rw [same]
      exact ⟨rfl, rfl⟩
    · rw [same]
      exact ⟨rfl, rfl⟩
  refine ⟨[], List.nodup_nil, by rw [quiet.1]; exact Log.reports_nil, fun one => ?_⟩
  refine iff_of_false (by simp) (News.not_hasHappened ?_ ?_ ?_ fun request' key is asks _ => ?_)
  · rw [quiet.2]
    exact fun _ mem => mem
  · rw [quiet.2]
    exact fun _ mem => mem
  · rw [quiet.2]
    exact fun _ _ => rfl
  · obtain rfl := Step.request.inj is
    exact noLogin key asks

/-- A view that gives a response reports what it has done. -/
theorem isTruthful_of_gives_view {visit : Visit} {after : Shop}
    (visited : request.visit? = some visit)
    (ends : (view visit.view visit.key request.body).Gives start response after) :
    start.IsTruthful (.request request) := by
  have served : (settled request visit).Gives start response after :=
    gives_recover_iff.2 (.inl (gives_recover_iff.2 (.inl ends)))
  obtain ⟨changed, news, tells, like, log⟩ := exists_tells_of_gives ends
  obtain ⟨answered, shop⟩ := step_of_gives_settled visited served
  have viewed := recover_of_ok ends.1 (answerFailure visit.key)
  have same : settled request visit start = view visit.view visit.key request.body start := by
    unfold settled
    rw [recover_of_ok (viewed ▸ ends.1), viewed]
  refine ⟨news, tells.nodup, ?_, fun one => ?_⟩
  · rw [log_service_request visited, same, log]
    exact Log.reports_map_record news
  · rw [answered, shop, News.hasHappened_of_alike like]
    exact tells.mem_iff visited one

/-- A view that fails has done nothing, and nothing is reported. -/
theorem isTruthful_of_fails_view {visit : Visit} {failure : Failure} {after : Shop}
    (visited : request.visit? = some visit)
    (ends : (view visit.view visit.key request.body).Fails start failure after) :
    start.IsTruthful (.request request) := by
  obtain ⟨like, status⟩ := step_of_fails_view visited ends
  refine ⟨[], List.nodup_nil, reports_of_fails_view visited ends, fun one => ?_⟩
  rw [News.hasHappened_of_alike like]
  exact iff_of_false (by simp) (News.not_hasHappened (fun _ mem => mem) (fun _ mem => mem)
    (fun _ _ => rfl) fun _ _ _ _ => status)

/-- Whatever comes of a request, it reports just what has happened. -/
theorem isTruthful_request (start : Shop) (request : Request) :
    start.IsTruthful (.request request) := by
  cases visited : request.visit? with
  | none => exact isTruthful_of_unvisited start visited
  | some visit =>
    rcases gives_or_fails (view visit.view visit.key request.body) start with
      ⟨response, after, ends⟩ | ⟨failure, after, ends⟩
    · exact isTruthful_of_gives_view visited ends
    · exact isTruthful_of_fails_view visited ends

end Shop

end Storefront
