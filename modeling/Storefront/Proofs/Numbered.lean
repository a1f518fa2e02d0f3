import Storefront.Proofs.Reachable

/-!
# Numbers of rows

However rows come into a table, two of them never have the same number there, and every number fits.
A session holds nothing but such a number, so a session stands for one row at most.

## Main definitions

* `Store.AreNumbers` — numbers that the rows of a table can have
* `Store.IsNumbered` — tables whose rows have such numbers

## Main results

* `Shop.isKept_isNumbered` — every step leaves the rows with such numbers
* `Shop.userNamed_of_mem` — a session that holds the number of a user names that user
-/

namespace Storefront

/-- Numbers that all differ and all fit. -/
structure Store.AreNumbers (ids : List Nat) : Prop where
  nodup : ids.Nodup
  le : ∀ id ∈ ids, id ≤ Store.maxId

/-- Tables whose rows have numbers that differ and fit. -/
structure Store.IsNumbered (store : Store) : Prop where
  users : AreNumbers ((store.users.getD []).map User.id)
  products : AreNumbers ((store.products.getD []).map Product.id)

/-- Something new behind a list without repetitions. -/
theorem nodup_concat {α : Type} {all : List α} {a : α} (nodup : all.Nodup) (fresh : a ∉ all) :
    (all ++ [a]).Nodup := by
  have differs : ∀ b ∈ all, b ≠ a := fun b mem same => fresh (same ▸ mem)
  simpa [List.nodup_append, nodup] using differs

namespace Store

variable {store after : Store}

namespace AreNumbers

variable {ids : List Nat}

theorem nil : AreNumbers [] := ⟨List.nodup_nil, nofun⟩

theorem sublist {kept : List Nat} (h : AreNumbers ids) (sub : kept.Sublist ids) :
    AreNumbers kept where
  nodup := sub.nodup h.nodup
  le id mem := h.le id (sub.subset mem)

/-- The number of the next row is greater than all others. -/
theorem concat {id : Nat} (h : AreNumbers ids) (next : id = nextId ids) (le : id ≤ maxId) :
    AreNumbers (ids ++ [id]) where
  nodup := by
    refine nodup_concat h.nodup fun mem => ?_
    have less := lt_nextId mem
    rw [← next] at less
    exact Nat.lt_irrefl id less
  le other mem := by
    rcases List.mem_append.1 mem with old | same
    · exact h.le other old
    · exact List.mem_singleton.1 same ▸ le

/-- A row is found by its number. -/
theorem find? {α : Type} {idOf : α → Nat} {rows : List α} (h : AreNumbers (rows.map idOf)) {row : α}
    (mem : row ∈ rows) : rows.find? (fun other => (idOf other : Int) = idOf row) = some row := by
  have nodup := h.nodup
  clear h
  -- By induction on the rows: no row in front of the one that is looked for has its number.
  induction rows with
  | nil => cases mem
  | cons first rest ih =>
    rw [List.map_cons, List.nodup_cons] at nodup
    by_cases same : idOf first = idOf row
    · rcases List.mem_cons.1 mem with rfl | later
      · simp
      · exact absurd (List.mem_map.2 ⟨row, later, same.symm⟩) nodup.1
    · rcases List.mem_cons.1 mem with rfl | later
      · exact absurd rfl same
      · have differs : ¬((idOf first : Int) = idOf row) := fun eq => same (Int.ofNat.inj eq)
        rw [List.find?_cons_of_neg (by simpa using differs)]
        exact ih later nodup.2

end AreNumbers

namespace IsNumbered

theorem empty : IsNumbered { users := some [], products := some [] } := ⟨.nil, .nil⟩

theorem putUser {name : Json} {user : User} (h : store.IsNumbered)
    (isNew : store.IsNewUser name user) : (store.putUser user).IsNumbered := by
  obtain ⟨users, table, next, -⟩ := isNew.users
  refine ⟨?_, h.products⟩
  have old := h.users
  rw [table] at old
  simpa [table] using old.concat next isNew.id_le

theorem putProduct {product : Product} (h : store.IsNumbered)
    (isNew : store.IsNewProduct product) : (store.putProduct product).IsNumbered := by
  obtain ⟨products, table, next, -⟩ := isNew.products
  refine ⟨h.users, ?_⟩
  have old := h.products
  rw [table] at old
  simpa [table] using old.concat next isNew.id_le

theorem removeRow (h : store.IsNumbered) (table : Table) (id : Int) :
    (store.removeRow table id).IsNumbered := by
  cases table with
  | users =>
    refine ⟨h.users.sublist ?_, h.products⟩
    cases users : store.users with
    | none => simp [Store.removeRow, users]
    | some users' =>
      simp only [Store.removeRow, users, Option.map_some, Option.getD_some]
      exact List.filter_sublist.map User.id
  | products =>
    refine ⟨h.users, h.products.sublist ?_⟩
    cases products : store.products with
    | none => simp [Store.removeRow, products]
    | some products' =>
      simp only [Store.removeRow, products, Option.map_some, Option.getD_some]
      exact List.filter_sublist.map Product.id

theorem drop (h : store.IsNumbered) {table : Table} (dropped : store.drop table = .ok after) :
    after.IsNumbered := by
  rw [drop_eq_ok dropped]
  cases table with
  | users => exact ⟨.nil, h.products⟩
  | products => exact ⟨h.users, .nil⟩

theorem makeTables (h : store.IsNumbered) (made : store.makeTables = .ok after) :
    after.IsNumbered := by
  obtain ⟨users, products, -⟩ := makeTables_eq_ok made
  constructor
  · rw [users]
    exact h.users
  · rw [products]
    exact h.products

/-- A user is found by their number. -/
theorem find?_id (h : store.IsNumbered) {user : User} (mem : user ∈ store.users.getD []) :
    (store.users.getD []).find? (fun other => (other.id : Int) = user.id) = some user :=
  h.users.find? mem

end IsNumbered

end Store

namespace Shop

variable {shop start changed : Shop}

/-- A session that holds the number of a user names that user. -/
theorem userNamed_of_mem {key : Sessions.Key} {user : User} (numbered : shop.store.IsNumbered)
    (mem : user ∈ shop.store.users.getD [])
    (held : shop.sessions.get? key = some (.str (Text.ofNat user.id))) :
    shop.userNamed key = some user := by
  have le := numbered.users.le user.id (List.mem_map_of_mem mem)
  simpa [userNamed, held, userNumber_ofNat le, Except.toOption] using numbered.find?_id mem

theorem Serves.isNumbered {key : Sessions.Key} {body : Body} {v : View} {response : Response}
    (numbered : start.store.IsNumbered) (h : start.Serves key body v response changed) :
    changed.store.IsNumbered := by
  cases h with
  | registered given email isNew => exact numbered.putUser isNew
  | added named isNew judged => exact numbered.putProduct isNew
  | _ => exact numbered

theorem Handles.isNumbered {request : Request} {answer : Answer}
    (numbered : start.store.IsNumbered) (h : start.Handles request answer changed) :
    changed.store.IsNumbered := by
  cases h with
  | served visited serves => exact serves.isNumbered numbered
  | _ => exact numbered

/-- No step gives a row the number of another. -/
theorem isKept_isNumbered : IsKept (fun _ => True) fun shop => shop.store.IsNumbered where
  alike a b like numbered := like.store ▸ numbered
  moves start step changed _ numbered moves := by
    cases moves with
    | handled handles => exact handles.isNumbered numbered
    | readOnlySet => exact ⟨numbered.users, numbered.products⟩
    | tableDropped dropped => exact numbered.drop dropped
    | rowDeleted => exact numbered.removeRow _ _
    | tablesMade made => exact numbered.makeTables made
    | productAdded isNew => exact numbered.putProduct isNew
    | userAdded added isNew => exact numbered.putUser isNew
    | _ => exact numbered

end Shop

end Storefront
