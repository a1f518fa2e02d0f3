import Storefront.Proofs.Frame
import Storefront.Proofs.Numeral

/-!
# The services for users

Whom a session names depends on the session and the rows of the users, and finding it out changes
nothing. The user of an email is either found or added; in the second case the store is as it was
with that one row behind the others, and if the service fails it has added nothing.

## Main definitions

* `Shop.userNamed` — the user whom a session names
* `Store.IsNewUser` — a row that can be added for a new user

## Main results

* `Shop.gives_currentUser`, `Shop.exists_gives_currentUser` — the user whom a session names is found
* `Shop.gives_userFor` — what has happened when an email's user was given
* `Shop.isAtomic_userFor` — an email's user is added or nothing is
-/

namespace Storefront

open Service

namespace Shop

variable {shop start after : Shop} {key : Sessions.Key} {email : Text} {user : User}

/-- The user whom a session names, if there is one. -/
def userNamed (shop : Shop) (key : Sessions.Key) : Option User := do
  let id ← shop.sessions.get? key
  let number ← (userNumber id).toOption
  (shop.store.users.getD []).find? fun user => (user.id : Int) = number

theorem userNamed_of_get?_eq_none (h : shop.sessions.get? key = none) :
    shop.userNamed key = none := by
  simp [userNamed, h]

theorem Alike.userNamed_eq (h : start.Alike after) (key : Sessions.Key) :
    after.userNamed key = start.userNamed key := by
  rw [userNamed, userNamed, h.sessions, h.store]

/-! ### The user whom a session names -/

/-- The user whose number a session's value stands for, as the store is asked for them. -/
def loadUser (id : Json) : Service (Option User) := Service.guarded do
  let number ← Service.ofFault (userNumber id)
  Service.call (Store.userById number)

theorem currentUser_of_get?_eq_none (h : start.sessions.get? key = none) :
    currentUser key start = { result := .ok none, shop := start } := by
  rw [currentUser, shop_bind, h]
  rfl

theorem currentUser_of_get?_eq_some {id : Json} (h : start.sessions.get? key = some id) :
    currentUser key start = loadUser id start := by
  rw [currentUser, shop_bind, h]
  rfl

theorem isQuiet_loadUser (id : Json) : (loadUser id).IsQuiet :=
  ((isQuiet_ofFault _).bind fun _ => isQuiet_query).guarded

theorem isQuiet_currentUser (key : Sessions.Key) : (currentUser key).IsQuiet := by
  intro start
  cases h : start.sessions.get? key with
  | none => rw [currentUser_of_get?_eq_none h]; exact .refl start
  | some id => rw [currentUser_of_get?_eq_some h]; exact isQuiet_loadUser id start

theorem gives_loadUser {id : Json} {found : Option User}
    (h : (loadUser id).Gives start found after) :
    ∃ number users, userNumber id = .ok number ∧ start.store.users = some users ∧
      users.find? (fun user => (user.id : Int) = number) = found := by
  obtain ⟨number, read, called⟩ := gives_ofFault_bind_iff.1 (gives_guarded_iff.1 h)
  obtain ⟨-, values, store, -, effect, -⟩ := gives_call called
  obtain ⟨⟨users, table, found_eq⟩, -⟩ := Store.effect_userById.1 effect
  exact ⟨number, users, read, table, found_eq⟩

theorem exists_gives_loadUser {id : Json} {number : Int} {users : List User}
    (outage : start.outage = false) (table : start.store.users = some users)
    (read : userNumber id = .ok number) (fits : Cell.fits number = true) :
    ∃ after,
      (loadUser id).Gives start (users.find? fun user => (user.id : Int) = number) after := by
  have has : start.store.has .users = true := by simp [Store.has, table]
  have taken : (Store.userById number).values = .ok () := if_pos fits
  have effect : (Store.userById number).effect () start.store =
      .ok (users.find? (fun user => (user.id : Int) = number), start.store) :=
    Store.effect_userById.2 ⟨⟨users, table, rfl⟩, rfl⟩
  obtain ⟨after, called, -⟩ := exists_gives_call (Store.userById number) outage has taken effect
  exact ⟨after, gives_guarded_iff.2 (gives_ofFault_bind_iff.2 ⟨number, read, called⟩)⟩

/-- The user who is found is the one whom the session names. -/
theorem gives_currentUser {found : Option User} (h : (currentUser key).Gives start found after) :
    found = start.userNamed key := by
  unfold Service.Gives at h
  cases named : start.sessions.get? key with
  | none =>
    rw [currentUser_of_get?_eq_none named] at h
    rw [userNamed_of_get?_eq_none named]
    exact (Except.ok.inj h.1).symm
  | some id =>
    rw [currentUser_of_get?_eq_some named] at h
    obtain ⟨number, users, read, table, rfl⟩ := gives_loadUser h
    simp [userNamed, named, read, Except.toOption, table]

/-- A session can be read when it is empty or holds a number that rows can be searched for. -/
def CanRead (shop : Shop) (key : Sessions.Key) : Prop :=
  ∀ id, shop.sessions.get? key = some id →
    ∃ number, userNumber id = .ok number ∧ Cell.fits number = true

theorem Alike.canRead (h : start.Alike after) (readable : start.CanRead key) :
    after.CanRead key := by
  intro id held
  exact readable id (h.sessions ▸ held)

/-- While the database can be reached and has its users, the user whom a readable session names is
found. -/
theorem exists_gives_currentUser (outage : start.outage = false)
    (table : start.store.users.isSome = true) (readable : start.CanRead key) :
    ∃ after, (currentUser key).Gives start (start.userNamed key) after := by
  obtain ⟨users, table⟩ := Option.isSome_iff_exists.1 table
  -- It is enough that somebody or nobody is found, since that is whom the session names.
  have ends : ∃ found after, (currentUser key).Gives start found after := by
    unfold Service.Gives
    cases named : start.sessions.get? key with
    | none => exact ⟨none, start, by simp [currentUser_of_get?_eq_none named]⟩
    | some id =>
      obtain ⟨number, read, fits⟩ := readable id named
      obtain ⟨after, loaded⟩ := exists_gives_loadUser outage table read fits
      exact ⟨_, after, by rw [currentUser_of_get?_eq_some named]; exact loaded⟩
  obtain ⟨found, after, ends⟩ := ends
  exact ⟨after, gives_currentUser ends ▸ ends⟩

end Shop

/-! ### The user of an email -/

/-- A value that a column of texts keeps as a text. -/
def Json.IsKeptAs (value : Json) (t : Text) : Prop :=
  ∃ cell, Cell.ofJson 1 value = .ok cell ∧ cell.inTexts = some t

/-- A row that can be put behind the others for a new user, under the name that new users have. -/
structure Store.IsNewUser (store : Store) (name : Json) (user : User) : Prop where
  writable : store.readOnly = false
  users : ∃ users, store.users = some users ∧ user.id = nextId (users.map User.id) ∧
    ∀ other ∈ users, other.email ≠ user.email
  id_le : user.id ≤ maxId
  name : name.IsKeptAs user.name

namespace Shop

variable {start after : Shop} {email : Text} {user : User}

/-- What has happened when the user of an email was given: nothing, or they were added. -/
theorem gives_findOrAddUser {isNew : Bool}
    (h : (findOrAddUser email).Gives start (user, isNew) after) :
    user.email = email ∧ start.outage = false ∧
      if isNew then
        start.store.IsNewUser start.config.defaultUserName user ∧
          Shop.Alike { start with store := start.store.putUser user } after
      else (∃ users, start.store.users = some users ∧ user ∈ users) ∧ start.Alike after := by
  obtain ⟨found, mid, asked, ends⟩ := gives_bind_iff.1 h
  obtain ⟨outage, _, store, -, effect, like⟩ := gives_call asked
  obtain ⟨⟨users, table, found_eq⟩, rfl⟩ := Store.effect_userByEmail.1 effect
  cases found with
  | some known =>
    obtain ⟨same, rfl⟩ := gives_pure_iff.1 ends
    obtain ⟨rfl, rfl⟩ := Prod.mk.inj same
    have email_eq : user.email = email := by simpa using List.find?_some found_eq
    exact ⟨email_eq, outage, ⟨users, table, List.mem_of_find?_eq_some found_eq⟩, like⟩
  | none =>
    -- The row is added to the shop that the query has left, which is like the one before it.
    obtain ⟨added, last, called, returned⟩ := gives_bind_iff.1 (gives_shop_bind_iff.1 ends)
    obtain ⟨same, rfl⟩ := gives_pure_iff.1 returned
    obtain ⟨rfl, rfl⟩ := Prod.mk.inj same
    rw [like.config] at called
    obtain ⟨-, kept, store, taken, effect, like'⟩ := gives_call called
    obtain ⟨users, table, writable, id, le, rfl, email_eq, fresh, rfl⟩ :=
      Store.effect_addUser.1 effect
    rw [like.store] at table writable
    exact ⟨email_eq, outage, ⟨writable, ⟨users, table, id, email_eq ▸ fresh⟩, le,
      (Store.values_addUser.1 taken).2⟩, (like.mapStore (·.putUser user)).trans like'⟩

theorem isAtomic_findOrAddUser (email : Text) : (findOrAddUser email).IsAtomic := by
  refine .bind_of_isQuiet isQuiet_query fun found => ?_
  cases found with
  | some user => exact (isQuiet_pure _).isAtomic
  | none =>
    refine .bind_of_isQuiet isQuiet_shop fun shop => ?_
    exact (isAtomic_call _).bind_of_cannotFail fun _ _ _ _ => by simp

/-- What has happened when the user of an email was given: nothing, or they were added. -/
theorem gives_userFor (h : (userFor email).Gives start user after) :
    user.email = email ∧ start.outage = false ∧
      ((∃ users, start.store.users = some users ∧ user ∈ users) ∧ start.Alike after ∨
        start.store.IsNewUser start.config.defaultUserName user ∧
          Shop.Alike { start with store := start.store.putUser user } after) := by
  obtain ⟨⟨found, isNew⟩, mid, first, ends⟩ := gives_bind_iff.1 h
  have spec := gives_findOrAddUser (gives_guarded_iff.1 first)
  cases isNew with
  | false =>
    obtain ⟨rfl, rfl⟩ := gives_pure_iff.1 ends
    exact ⟨spec.1, spec.2.1, .inl spec.2.2⟩
  | true =>
    have returned := gives_record_bind_iff.1 (gives_change_bind_iff.1 ends)
    obtain ⟨rfl, rfl⟩ := gives_pure_iff.1 returned
    exact ⟨spec.1, spec.2.1, .inr ⟨spec.2.2.1, spec.2.2.2.trans (alike_remember _ _)⟩⟩

/-- An email's user is added or nothing is. -/
theorem isAtomic_userFor (email : Text) : (userFor email).IsAtomic := by
  refine (isAtomic_findOrAddUser email).guarded.bind_of_cannotFail ?_
  rintro ⟨user, isNew⟩ start failure after
  cases isNew <;> simp [fails_bind_iff]

end Shop

end Storefront
