import Storefront.Json.Basic

/-!
# Sessions

A browser keeps a session for each host, and shows it to no other. A session may hold the number of
a user; nothing says that there is, or ever was, a user with that number.

## Main definitions

* `Sessions.Key` — whose session it is
* `Sessions` — the user numbers that sessions hold
* `Sessions.get?`, `Sessions.set`, `Sessions.clear` — one session among them

## Main results

* `Sessions.get?_set_self`, `Sessions.get?_set_of_ne` — a session is nobody else's
-/

namespace Storefront

/-- Whose session it is: that of a browser at a host. -/
structure Sessions.Key where
  client : Text
  host : Text
  deriving DecidableEq

/-- The user numbers that sessions hold. -/
abbrev Sessions := List (Sessions.Key × Json)

namespace Sessions

/-- The user number that a session holds. -/
def get? (sessions : Sessions) (key : Key) : Option Json := sessions.lookup key

/-- A session without a user. -/
def clear (sessions : Sessions) (key : Key) : Sessions :=
  sessions.filter fun entry => entry.1 ≠ key

/-- A session with a user number; null is none. -/
def set (sessions : Sessions) (key : Key) : Json → Sessions
  | .null => clear sessions key
  | id => (key, id) :: clear sessions key

variable {sessions : Sessions} {key other : Key} {id : Json}

@[simp] theorem get?_clear_self : (sessions.clear key).get? key = none := by
  rw [get?, clear, List.lookup_eq_none_iff]
  intro entry h
  have differs : entry.1 ≠ key := by simpa using (List.mem_filter.1 h).2
  simpa using differs.symm

theorem get?_clear_of_ne (h : other ≠ key) :
    (sessions.clear key).get? other = sessions.get? other := by
  induction sessions with
  | nil => rfl
  | cons entry rest ih =>
    obtain ⟨name, value⟩ := entry
    simp only [clear, get?] at ih ⊢
    by_cases hn : name = key
    · have differs : (other == name) = false := by simp [hn, h]
      rw [List.filter_cons_of_neg (by simp [hn]), List.lookup_cons, differs, ih]
    · rw [List.filter_cons_of_pos (by simp [hn]), List.lookup_cons, List.lookup_cons, ih]

theorem set_of_ne_null (h : id ≠ .null) :
    sessions.set key id = (key, id) :: sessions.clear key := by
  cases id <;> simp_all [set]

theorem get?_set_self (h : id ≠ .null) : (sessions.set key id).get? key = some id := by
  simp [set_of_ne_null h, get?]

theorem get?_set_of_ne (h : other ≠ key) :
    (sessions.set key id).get? other = sessions.get? other := by
  by_cases hid : id = .null
  · subst hid
    exact get?_clear_of_ne h
  · have differs : (other == key) = false := by simpa using h
    rw [set_of_ne_null hid, get?, List.lookup_cons, differs]
    exact get?_clear_of_ne h

end Sessions

end Storefront
