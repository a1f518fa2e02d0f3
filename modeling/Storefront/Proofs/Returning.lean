import Mathlib.Data.List.Nodup
import Storefront.Proofs.Access
import Storefront.Proofs.Failures
import Storefront.Proofs.Greeting

/-!
# Users who come back

The first time that an email is given a user is made for it, and from then on it stands for that
user, whoever gives it and wherever. The table keeps no email twice, so there is one row to be found
as long as nobody takes that row away. To find it nothing is written, so it does not matter whether
writes are refused by then.

## Main definitions

* `Store.HasDistinctEmails` — stores without two users who have the same email
* `Store.Enters` — what the tables are like after the user of an email was given
* `Step.removes` — steps that take the row of a user away, unless they fail
* `Shop.Recalls` — shops in which the email of a user stands for that user
* `Shop.Enrolls`, `Shop.EnrollsOnce` — emails that are given a user who stays the same

## Main results

* `Shop.hasDistinctEmails_of_isReachable` — no two users ever have the same email
* `Shop.mem_users_step`, `Shop.mem_users_run` — a row stays until it is taken away
* `Shop.recalls_of_mem` — the email of a user who is there stands for that user
* `Shop.enrollsOnce_of_isReachable` — an email that was given a user stands for that user since
-/

namespace Storefront

open Service

/-! ### Different emails -/

/-- The rows with the key of a row are that row alone where no two have the same key. -/
theorem filter_eq_singleton {α β : Type} [DecidableEq β] {key : α → β} {rows : List α} {row : α}
    (nodup : (rows.map key).Nodup) (mem : row ∈ rows) :
    rows.filter (fun other => key other = key row) = [row] := by
  induction rows with
  | nil => cases mem
  | cons first rest ih =>
    rw [List.map_cons, List.nodup_cons] at nodup
    rcases List.mem_cons.1 mem with rfl | later
    · have others : rest.filter (fun other => key other = key row) = [] := by
        refine List.filter_eq_nil_iff.2 fun other among same => nodup.1 ?_
        exact List.mem_map.2 ⟨other, among, of_decide_eq_true same⟩
      rw [List.filter_cons_of_pos (by simp), others]
    · have differs : key first ≠ key row := fun same =>
        nodup.1 (List.mem_map.2 ⟨row, later, same.symm⟩)
      rw [List.filter_cons_of_neg (by simpa using differs)]
      exact ih nodup.2 later

namespace Store

variable {store : Store} {user other : User}

/-- Where there is a user there is a table. -/
theorem exists_of_mem_users (mem : user ∈ store.users.getD []) :
    ∃ users, store.users = some users ∧ user ∈ users := by
  cases table : store.users with
  | none => simp [table] at mem
  | some users => exact ⟨users, rfl, by simpa [table] using mem⟩

/-- A store without two users who have the same email. -/
def HasDistinctEmails (store : Store) : Prop :=
  ((store.users.getD []).map User.email).Nodup

theorem HasDistinctEmails.putUser {name : Json} (distinct : store.HasDistinctEmails)
    (isNew : store.IsNewUser name user) : (store.putUser user).HasDistinctEmails := by
  obtain ⟨users, table, -, fresh⟩ := isNew.users
  unfold HasDistinctEmails at distinct ⊢
  rw [table, Option.getD_some] at distinct
  rw [users_putUser, table, Option.map_some, Option.getD_some, List.map_append]
  refine nodup_concat distinct fun mem => ?_
  obtain ⟨other, among, same⟩ := List.mem_map.1 mem
  exact fresh other among same

theorem HasDistinctEmails.filter_email (distinct : store.HasDistinctEmails)
    (mem : user ∈ store.users.getD []) :
    (store.users.getD []).filter (fun other => other.email = user.email) = [user] :=
  filter_eq_singleton distinct mem

theorem HasDistinctEmails.eq_of_email (distinct : store.HasDistinctEmails)
    (mem : user ∈ store.users.getD []) (mem' : other ∈ store.users.getD [])
    (same : other.email = user.email) : other = user :=
  List.inj_on_of_nodup_map distinct mem' mem same

/-- Nobody who is there is new. -/
theorem IsNewUser.email_ne {name : Json} (isNew : store.IsNewUser name other)
    (mem : user ∈ store.users.getD []) : user.email ≠ other.email := by
  obtain ⟨users, table, -, fresh⟩ := isNew.users
  rw [table] at mem
  exact fresh user mem

/-- The tables after the user of an email was given: there is one row with the email and one with
its number, which is the user's, and it was there before or is a new one behind the others. -/
structure Enters (before after : Store) (name : Json) (email : Text) (user : User) : Prop where
  named : user.email = email
  withEmail : (after.users.getD []).filter (fun other => other.email = email) = [user]
  withNumber : (after.users.getD []).filter (fun other => other.id = user.id) = [user]
  kept_or_added : after = before ∨ before.IsNewUser name user ∧ after = before.putUser user

end Store

namespace Shop

variable {start changed after shop : Shop} {step : Step} {user : User} {config : Config}

/-- A view leaves the users as they are, or it adds a new one. -/
theorem Serves.users_eq_or_isNewUser {key : Sessions.Key} {body : Body} {v : View}
    {response : Response} (serves : start.Serves key body v response changed) :
    changed.store.users = start.store.users ∨
      ∃ user, start.store.IsNewUser start.config.defaultUserName user ∧
        changed.store = start.store.putUser user := by
  cases serves with
  | registered given email isNew => exact .inr ⟨_, isNew, rfl⟩
  | _ => exact .inl rfl

/-- After a step there are no users who were not there before, or there is a new one behind
them. -/
theorem Moves.sublist_or_isNewUser (moves : start.Moves step changed) :
    (changed.store.users.getD []).Sublist (start.store.users.getD []) ∨
      ∃ user, start.store.IsNewUser start.config.defaultUserName user ∧
        changed.store = start.store.putUser user := by
  cases step with
  | request request =>
    cases moves with
    | kept => exact .inl (.refl _)
    | handled handles =>
      rcases handles.serves_or_kept with ⟨visit, response, -, -, serves⟩ | ⟨rfl, -⟩
      · refine serves.users_eq_or_isNewUser.imp (fun same => ?_) id
        exact same ▸ .refl _
      · exact .inl (.refl _)
  | userFor email =>
    cases moves with
    | kept => exact .inl (.refl _)
    | userAdded added isNew => exact .inr ⟨_, isNew, rfl⟩
  | _ => exact .inl (moves.users_sublist nofun nofun)

/-- No step gives an email to two users. -/
theorem isKept_hasDistinctEmails :
    IsKept (fun _ => True) fun shop => shop.store.HasDistinctEmails where
  alike a b like distinct := like.store ▸ distinct
  moves start step changed _ distinct moves := by
    rcases moves.sublist_or_isNewUser with fewer | ⟨user, isNew, added⟩
    · exact (fewer.map _).nodup distinct
    · rw [added]
      exact distinct.putUser isNew

theorem hasDistinctEmails_of_isReachable (reachable : shop.IsReachable (fun _ => True) config) :
    shop.store.HasDistinctEmails := by
  refine isKept_hasDistinctEmails.of_isReachable (fun start opened => ?_) reachable
  rw [opened.store]
  exact List.nodup_nil

end Shop

/-! ### Rows that stay -/

instance : DecidablePred Answer.IsFailure
  | .failed _ => isTrue trivial
  | .response sent => inferInstanceAs (Decidable (400 ≤ sent.status))
  | .done | .confirmed | .count _ | .report _ | .product _ | .user _ | .rows _ _ => isFalse id

/-- Whether a step takes the row of a user away if it ends well. -/
def Step.removes (user : User) : Step → Bool
  | .dropTable .users => true
  | .deleteRow .users id => id = user.id
  | _ => false

theorem Step.isAtomic_service_of_removes {step : Step} {user : User}
    (removes : step.removes user = true) : step.service.IsAtomic := by
  cases step with
  | dropTable table => exact (isAtomic_onStore _).map _
  | deleteRow table id => exact (isAtomic_perform _).map _
  | _ => cases removes

namespace Shop

variable {start changed after shop : Shop} {step : Step} {user other : User} {email : Text}
variable {request : Request} {key : Sessions.Key} {config : Config}

/-- A row of the users stays over a step that takes no such row away. -/
theorem Moves.mem_users (moves : start.Moves step changed) (mem : user ∈ start.store.users.getD [])
    (spares : step.removes user = false) : user ∈ changed.store.users.getD [] := by
  cases moves with
  | handled handles =>
    rcases handles.serves_or_kept with ⟨visit, response, -, -, serves⟩ | ⟨rfl, -⟩
    · rcases serves.users_eq_or_isNewUser with same | ⟨new, isNew, added⟩
      · rw [same]
        exact mem
      · rw [added]
        exact (Tracks.mem_putUser isNew).2 (.inl mem)
    · exact mem
  | @tableDropped table store dropped =>
    cases table with
    | users => cases spares
    | products =>
      rw [Store.drop_eq_ok dropped]
      exact mem
  | @rowDeleted table id =>
    cases table with
    | users =>
      obtain ⟨users, table, among⟩ := Store.exists_of_mem_users mem
      have differs : (user.id : Int) ≠ id := fun same => by simp [Step.removes, same] at spares
      simpa [Store.removeRow, table] using Store.mem_without.2 ⟨among, differs⟩
    | products => exact mem
  | tablesMade made =>
    rw [(Store.makeTables_eq_ok made).1]
    exact mem
  | userAdded added isNew => exact (Tracks.mem_putUser isNew).2 (.inl mem)
  | _ => exact mem

/-- It stays over any step, unless that is one which takes it away and does not fail. -/
theorem mem_users_step (mem : user ∈ start.store.users.getD [])
    (vain : step.removes user = true → (start.step step).answer.IsFailure) :
    user ∈ (start.step step).shop.store.users.getD [] := by
  cases removes : step.removes user with
  | false =>
    obtain ⟨changed, moves, like⟩ := start.exists_moves step
    rw [like.store]
    exact moves.mem_users mem removes
  | true =>
    -- Such a step is atomic: one that has failed has left the row where it was.
    have failed := vain removes
    have noRequest : ∀ request, step ≠ .request request := by
      rintro request rfl
      cases removes
    rcases gives_or_fails step.service start with ⟨answer, after, ends⟩ | ⟨failure, after, ends⟩
    · rw [(step_of_gives ends).1] at failed
      exact absurd failed (not_isFailure_of_gives noRequest ends)
    · rw [(step_of_fails ends).2, (Step.isAtomic_service_of_removes removes ends).store]
      exact mem

/-- So it does over a run, by induction on the steps. -/
theorem mem_users_run {steps : List Step} (mem : user ∈ start.store.users.getD [])
    (vain : ∀ entry ∈ start.history steps, entry.1.removes user = true → entry.2.IsFailure) :
    user ∈ (start.run steps).2.store.users.getD [] := by
  induction steps generalizing start with
  | nil => exact mem
  | cons first rest ih =>
    rw [history_cons, List.forall_mem_cons] at vain
    exact ih (mem_users_step mem vain.1) vain.2

/-! ### Emails that are known -/

/-- The user of an email is the one who has it, and is found without a write. -/
theorem eq_of_gives_userFor (distinct : start.store.HasDistinctEmails)
    (mem : user ∈ start.store.users.getD [])
    (found : (userFor user.email).Gives start other after) :
    other = user ∧ start.Alike after := by
  obtain ⟨same, -, ⟨⟨users, table, among⟩, like⟩ | ⟨isNew, -⟩⟩ := gives_userFor found
  · refine ⟨distinct.eq_of_email mem ?_ same, like⟩
    rw [table]
    exact among
  · exact absurd same.symm (isNew.email_ne mem)

/-- An email for which a user was given can be written. -/
theorem checkWritten_of_gives_userFor (found : (userFor email).Gives start user after) :
    email.checkWritten = .ok () := by
  obtain ⟨_, _, first, -⟩ := gives_bind_iff.1 found
  obtain ⟨_, _, asked, -⟩ := gives_bind_iff.1 (gives_guarded_iff.1 first)
  obtain ⟨-, _, _, written, -⟩ := gives_call asked
  exact written

/-- A user who is there is found wherever the database can be reached, whether or not it takes
writes. -/
theorem exists_gives_userFor (distinct : start.store.HasDistinctEmails)
    (mem : user ∈ start.store.users.getD []) (written : user.email.checkWritten = .ok ())
    (outage : start.outage = false) : ∃ after, (userFor user.email).Gives start user after := by
  obtain ⟨users, table, -⟩ := Store.exists_of_mem_users mem
  have has : start.store.has .users = true := by simp [Store.has, table]
  have known : users.find? (fun other => other.email = user.email) = some user := by
    have only := distinct.filter_email mem
    rw [table, Option.getD_some] at only
    rw [← List.head?_filter, only]
    rfl
  have effect : (Store.userByEmail user.email).effect () start.store =
      .ok (some user, start.store) :=
    Store.effect_userByEmail.2 ⟨⟨users, table, known⟩, rfl⟩
  obtain ⟨after, asked, -⟩ :=
    exists_gives_call (Store.userByEmail user.email) outage has written effect
  have found : (findOrAddUser user.email).Gives start (user, false) after :=
    gives_bind_iff.2 ⟨some user, after, asked, gives_pure_iff.2 ⟨rfl, rfl⟩⟩
  exact ⟨after, gives_bind_iff.2
    ⟨(user, false), after, gives_guarded_iff.2 found, gives_pure_iff.2 ⟨rfl, rfl⟩⟩⟩

/-- A login that went well has been given the user of its email, and its session holds their number
since. -/
theorem exists_gives_userFor_of_login (asks : request.AsksFor [.post] "/login" key)
    (well : (start.step (.request request)).answer.status? = some 200) :
    ∃ user mid, (userFor request.body.email).Gives start user mid ∧
      (start.step (.request request)).shop =
        { mid with sessions := mid.sessions.set key (.str (Text.ofNat user.id)) } := by
  obtain ⟨target, visited⟩ := (Request.asksFor_iff .login rfl).1 asks
  rcases gives_or_fails (respond request) start with
    ⟨response, after, ends⟩ | ⟨failure, after, ends⟩
  · obtain ⟨answer, shop⟩ := step_of_gives_respond ends
    rw [answer] at well
    rw [shop]
    rw [respond_of_visited visited] at ends
    obtain ⟨shown, settles, rfl⟩ := gives_map_iff.1 ends
    have status : shown.status = 200 := by simpa [Answer.status?] using well
    rcases gives_settled settles with gives | ⟨-, rfl | rfl⟩
    · change (logIn key request.body).Gives start shown after at gives
      cases empty : request.body.email.isEmpty with
      | true =>
        rw [logIn_of_isEmpty empty] at gives
        rw [(gives_page gives).1] at status
        cases status
      | false =>
        obtain ⟨user, mid, found, -, last⟩ := (gives_logIn_iff empty).1 gives
        exact ⟨user, mid, found, last⟩
    · cases status
    · cases status
  · rw [(step_of_fails_respond ends).1] at well
    cases well

/-- A login with an email whose user is given goes well. -/
theorem answer_of_login (asks : request.AsksFor [.post] "/login" key)
    (given : request.body.email ≠ [])
    (found : (userFor request.body.email).Gives start user after) :
    (start.step (.request request)).answer = .response (.page 200 (Page.loggedIn user.email)) := by
  obtain ⟨target, visited⟩ := (Request.asksFor_iff .login rfl).1 asks
  have nonempty : request.body.email.isEmpty = false := List.isEmpty_eq_false_iff.2 given
  have shown : (logIn key request.body).Gives start (.page 200 (Page.loggedIn user.email))
      { after with sessions := after.sessions.set key (.str (Text.ofNat user.id)) } :=
    (gives_logIn_iff nonempty).2 ⟨user, after, found, rfl, rfl⟩
  rw [step_of_gives_view visited shown, Request.delivered_of_post asks]

/-! ### Emails from then on -/

/-- The email of a user stands for that user: whoever gives it and is given a user is given this
one, and the tables stay as they are. Nothing but an outage is in the way of that. -/
structure Recalls (shop : Shop) (user : User) : Prop where
  call : ∀ other, (shop.step (.userFor user.email)).answer = .user other →
    other = user ∧ (shop.step (.userFor user.email)).shop.store = shop.store
  login : ∀ (request : Request) (key : Sessions.Key), request.AsksFor [.post] "/login" key →
    request.body.email = user.email →
      (shop.step (.request request)).answer.status? = some 200 →
        (shop.step (.request request)).shop.sessions.get? key =
            some (.str (Text.ofNat user.id)) ∧
          (shop.step (.request request)).shop.store = shop.store
  answer_of_call : shop.outage = false →
    (shop.step (.userFor user.email)).answer = .user user
  answer_of_login : shop.outage = false → ∀ (request : Request) (key : Sessions.Key),
    request.AsksFor [.post] "/login" key → request.body.email = user.email → user.email ≠ [] →
      (shop.step (.request request)).answer = .response (.page 200 (Page.loggedIn user.email))

theorem gives_userFor_of_call (answered : (start.step (.userFor email)).answer = .user user) :
    (userFor email).Gives start user (start.step (.userFor email)).shop := by
  rcases gives_or_fails (Step.userFor email).service start with
    ⟨answer, after, ends⟩ | ⟨failure, after, ends⟩
  · obtain ⟨same, shop⟩ := step_of_gives ends
    obtain ⟨found, gives, rfl⟩ := gives_map_iff.1 ends
    rw [answered] at same
    cases same
    rw [shop]
    exact gives
  · rw [(step_of_fails ends).1] at answered
    cases answered

/-- The email of a user who is there stands for that user. -/
theorem recalls_of_mem (distinct : shop.store.HasDistinctEmails)
    (mem : user ∈ shop.store.users.getD []) (written : user.email.checkWritten = .ok ()) :
    shop.Recalls user where
  call other answered := by
    obtain ⟨same, like⟩ := eq_of_gives_userFor distinct mem (gives_userFor_of_call answered)
    exact ⟨same, like.store⟩
  login request key asks sent well := by
    obtain ⟨other, mid, found, shop⟩ := exists_gives_userFor_of_login asks well
    rw [sent] at found
    obtain ⟨rfl, like⟩ := eq_of_gives_userFor distinct mem found
    rw [shop]
    refine ⟨?_, like.store⟩
    rw [Sessions.get?_set_self (by simp)]
  answer_of_call outage := by
    obtain ⟨after, found⟩ := exists_gives_userFor distinct mem written outage
    exact (step_of_gives (gives_map_iff.2 ⟨user, found, rfl⟩)).1
  answer_of_login outage request key asks sent given := by
    obtain ⟨after, found⟩ := exists_gives_userFor distinct mem written outage
    rw [← sent] at found given
    rw [Shop.answer_of_login asks given found]

/-- The user of an email was given. There is one row for it then, and it stands for this user in
every run that does not take the row away. -/
structure Enrolls (start after : Shop) (email : Text) (user : User) : Prop where
  enters : start.store.Enters after.store start.config.defaultUserName email user
  recalls : ∀ later : List Step,
    (∀ entry ∈ after.history later, entry.1.removes user = true → entry.2.IsFailure) →
      (after.run later).2.Recalls user

theorem enrolls_of_gives {mid : Shop} (distinct : start.store.HasDistinctEmails)
    (numbered : start.store.IsNumbered) (found : (userFor email).Gives start user mid)
    (same : after.store = mid.store) : start.Enrolls after email user := by
  obtain ⟨named, -, cases⟩ := gives_userFor found
  -- Found or made, the row is there now, and later runs start from that.
  have kept_or_added : after.store = start.store ∧ user ∈ start.store.users.getD [] ∨
      start.store.IsNewUser start.config.defaultUserName user ∧
        after.store = start.store.putUser user := by
    refine cases.imp ?_ fun ⟨isNew, like⟩ => ⟨isNew, same.trans like.store⟩
    rintro ⟨⟨users, table, among⟩, like⟩
    exact ⟨same.trans like.store, by simpa [table] using among⟩
  have there : user ∈ after.store.users.getD [] ∧ after.store.HasDistinctEmails ∧
      after.store.IsNumbered := by
    rcases kept_or_added with ⟨kept, mem⟩ | ⟨isNew, added⟩
    · rw [kept]
      exact ⟨mem, distinct, numbered⟩
    · rw [added]
      exact ⟨(Tracks.mem_putUser isNew).2 (.inr rfl), distinct.putUser isNew,
        numbered.putUser isNew⟩
  obtain ⟨mem, distinct', numbered'⟩ := there
  have withNumber := filter_eq_singleton numbered'.users.nodup mem
  refine ⟨⟨named, ?_, withNumber, kept_or_added.imp_left And.left⟩, fun later vain => ?_⟩
  · rw [← named]
    exact distinct'.filter_email mem
  · refine recalls_of_mem ?_ (mem_users_run mem vain) ?_
    · exact isKept_hasDistinctEmails.run distinct' fun _ _ => trivial
    · rw [named]
      exact checkWritten_of_gives_userFor found

/-- A shop that gives an email one user, by a direct call or by a login. -/
structure EnrollsOnce (shop : Shop) (email : Text) : Prop where
  call : ∀ user, (shop.step (.userFor email)).answer = .user user →
    shop.Enrolls (shop.step (.userFor email)).shop email user
  login : ∀ (request : Request) (key : Sessions.Key), request.AsksFor [.post] "/login" key →
    request.body.email = email → (shop.step (.request request)).answer.status? = some 200 →
      ∃ user, (shop.step (.request request)).shop.sessions.get? key =
          some (.str (Text.ofNat user.id)) ∧
        shop.Enrolls (shop.step (.request request)).shop email user

/-- In every shop that can be reached an email has one user, who stays the same. -/
theorem enrollsOnce_of_isReachable (reachable : shop.IsReachable (fun _ => True) config)
    (email : Text) : shop.EnrollsOnce email := by
  have distinct := hasDistinctEmails_of_isReachable reachable
  have numbered : shop.store.IsNumbered :=
    isKept_isNumbered.of_isReachable (fun _ opened => opened.store ▸ .empty) reachable
  constructor
  · intro user answered
    exact enrolls_of_gives distinct numbered (gives_userFor_of_call answered) rfl
  · intro request key asks sent well
    obtain ⟨user, mid, found, shop⟩ := exists_gives_userFor_of_login asks well
    rw [sent] at found
    refine ⟨user, ?_, enrolls_of_gives distinct numbered found ?_⟩
    · rw [shop, Sessions.get?_set_self (by simp)]
    · rw [shop]

/-- The user who is made for the first email that is given. -/
def firstUser : User where
  id := 1
  name := Text.ofString "Demo User"
  email := Text.ofString "a@example.com"

/-- Steps that would take the row of the first user away if writes were not refused, and one that
takes away the row of another. -/
def sparingFirst : List Step :=
  [.request (.forLogin "b" "A@example.com"), .setReadOnly true, .deleteRow .users 1,
    .dropTable .users, .setReadOnly false, .deleteRow .users 2, .setReadOnly true]

/-- The first user is found again by their email while writes are refused. -/
theorem enrollsOnce_of_isReachable_firstUser :
    forTests.IsReachable (fun _ => True) (Config.forTests {}) ∧
      (forTests.step (.userFor firstUser.email)).answer = .user firstUser ∧
      let shop := ((forTests.step (.userFor firstUser.email)).shop.run sparingFirst).2
      shop.store.readOnly = true ∧ (shop.step (.userFor firstUser.email)).answer = .user firstUser ∧
        (Request.forLogin "b" " a@example.com ").AsksFor [.post] "/login" (.usual "b") ∧
        (shop.step (.request (.forLogin "b" " a@example.com "))).answer =
          .response (.page 200 (Page.loggedIn firstUser.email)) ∧
        (shop.step (.request (.forLogin "b" " a@example.com "))).shop.sessions.get? (.usual "b") =
          some (.str (Text.ofNat 1)) := by
  have reachable : forTests.IsReachable (fun _ => True) (Config.forTests {}) :=
    ⟨false, forTests, [], rfl, nofun, rfl⟩
  have answered : (forTests.step (.userFor firstUser.email)).answer = .user firstUser := rfl
  have recalls :=
    ((enrollsOnce_of_isReachable reachable firstUser.email).call _ answered).recalls sparingFirst
      (by decide +kernel)
  have asks : (Request.forLogin "b" " a@example.com ").AsksFor [.post] "/login" (.usual "b") :=
    ⟨_, rfl, rfl, rfl, rfl, ⟨.post, by simp, rfl⟩, rfl⟩
  have sent : (Request.forLogin "b" " a@example.com ").body.email = firstUser.email := by decide
  have login := recalls.answer_of_login rfl _ _ asks sent (by decide)
  have well := congrArg Answer.status? login
  exact ⟨reachable, answered, by decide +kernel, recalls.answer_of_call rfl, asks, login,
    (recalls.login _ _ asks sent well).1⟩

end Shop

end Storefront
