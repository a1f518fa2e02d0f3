import Storefront.Product.Basic

/-!
# The store

Two tables, users and products, each of which may be missing. A new row gets the number after the
greatest one in its table, so the number of a deleted last row is given again. Numbers fit into 64
bits with a sign, and once the greatest of them is taken the table takes no more rows.

## Main definitions

* `Store` — the tables, and whether they may be written
* `Store.rows` — the rows of a table, which must exist
* `Store.drop`, `Store.makeTables`, `Store.dump` — dealings with whole tables
* `Store.newId`, `Store.without` — the number of a new row, and the rows without one

## Main results

* `Store.lt_nextId`, `Store.newId_eq_ok_iff` — a new row has a number that no row of its table has,
  and one that fits
-/

namespace Storefront

/-- The tables of the shop. A missing table is not an empty one. -/
structure Store where
  users : Option (List User) := none
  products : Option (List Product) := none
  readOnly : Bool := false

namespace Store

/-- Whether a table exists. -/
def has (store : Store) : Table → Bool
  | .users => store.users.isSome
  | .products => store.products.isSome

/-- The rows of a table, if it exists. -/
def rows {α : Type} (table : Table) : Option (List α) → Except Fault (List α)
  | some rows => .ok rows
  | none => .error (.noTable table)

/-- Whether the store takes writes. -/
def checkWritable (store : Store) : Except Fault Unit :=
  if store.readOnly then .error .readOnly else .ok ()

/-- The number of the next row. -/
def nextId (ids : List Nat) : Nat := ids.foldl max 0 + 1

/-- The greatest number that a row can have. -/
def maxId : Nat := 9223372036854775807

/-- The number of a new row, if there is one left for it. -/
def newId (ids : List Nat) : Except Fault Nat :=
  if nextId ids ≤ maxId then .ok (nextId ids) else .error .full

theorem le_foldl_max (ids : List Nat) (start : Nat) : start ≤ ids.foldl max start := by
  induction ids generalizing start with
  | nil => exact Nat.le_refl _
  | cons id rest ih => exact Nat.le_trans (Nat.le_max_left ..) (ih _)

/-- The number of the next row is greater than that of every row. -/
theorem lt_nextId {ids : List Nat} {id : Nat} (h : id ∈ ids) : id < nextId ids := by
  have bounded (start : Nat) : id ≤ ids.foldl max start := by
    induction ids generalizing start with
    | nil => cases h
    | cons first rest ih =>
      cases h with
      | head => exact Nat.le_trans (Nat.le_max_right ..) (le_foldl_max ..)
      | tail _ h => exact ih h _
  exact Nat.lt_succ_of_le (bounded 0)

theorem newId_eq_ok_iff {ids : List Nat} {id : Nat} :
    newId ids = .ok id ↔ id = nextId ids ∧ id ≤ maxId := by
  unfold newId
  constructor
  · intro h
    split at h
    · next le => exact ⟨(Except.ok.inj h).symm, Except.ok.inj h ▸ le⟩
    · cases h
  · rintro ⟨rfl, le⟩
    exact if_pos le

/-- The rows of a table without the one with a number, and how many there were of it. -/
def without {α : Type} (idOf : α → Nat) (id : Int) (rows : List α) : Nat × List α :=
  let kept := rows.filter fun row => (idOf row : Int) ≠ id
  (rows.length - kept.length, kept)

theorem mem_without {α : Type} {idOf : α → Nat} {id : Int} {rows : List α} {row : α} :
    row ∈ (without idOf id rows).2 ↔ row ∈ rows ∧ (idOf row : Int) ≠ id := by
  simp [without]

/-- A table dropped with its rows. -/
def drop (store : Store) (table : Table) : Except Fault Store :=
  match table with
  | .users => do
    let _ ← rows .users store.users
    store.checkWritable
    return { store with users := none }
  | .products => do
    let _ ← rows .products store.products
    store.checkWritable
    return { store with products := none }

/-- The missing tables made; where none is missing nothing is written. -/
def makeTables (store : Store) : Except Fault Store :=
  match store.users, store.products with
  | some _, some _ => .ok store
  | _, _ => do
    store.checkWritable
    return { store with
      users := some (store.users.getD [])
      products := some (store.products.getD []) }

/-- All rows, users first. -/
def dump (store : Store) : Except Fault (List User × List Product) := do
  let users ← rows .users store.users
  let products ← rows .products store.products
  return (users, products)

end Store

end Storefront
