import Storefront.Proofs.Numbered

/-!
# What the rows have in common

Rows are only added through the services, and requests add what was judged. So as long as all rows
come from requests, every row has the form that the judgement promises, and no two rows of a table
have the same email or SKU. Outages, refused writes, deletions and dropped tables cannot
change that.

## Main definitions

* `User.IsSound`, `Product.IsSound` — what is promised of one row
* `Store.IsSound` — what is promised of the tables
* `Step.addsByRequest` — the steps that add no row but through a request

## Main results

* `Shop.isKept_isSound` — no such step makes a row or a pair of rows unsound
* `Shop.isSound_of_isReachable` — the rows of every shop that such steps lead to are sound
-/

namespace Storefront

/-- What is promised of a user. -/
structure User.IsSound (config : Config) (user : User) : Prop where
  email : user.email.IsTrimmed
  name : config.defaultUserName.IsKeptAs user.name

/-- What is promised of a product. Whether it is active is a truth value in any case. -/
structure Product.IsSound (config : Config) (product : Product) : Prop where
  title : product.title.IsTrimmed ∧ IsWithin config.titleMax product.title
  sku : ∀ sku, product.sku = some sku → sku.IsTrimmed ∧ IsWithin config.skuMax sku
  description : ∀ description, product.description = some description → description.IsTrimmed
  stock : ∃ n : Int, product.stock = .whole n ∧ 0 ≤ n ∧ n ≤ Cell.maxInteger

/-- What is promised of the users. -/
structure User.AreSound (config : Config) (users : List User) : Prop where
  each : ∀ user ∈ users, user.IsSound config
  emails : (users.map User.email).Nodup

/-- What is promised of the products; those without a SKU share nothing. -/
structure Product.AreSound (config : Config) (products : List Product) : Prop where
  each : ∀ product ∈ products, product.IsSound config
  skus : (products.filterMap Product.sku).Nodup

/-- What is promised of the tables that there are. -/
structure Store.IsSound (config : Config) (store : Store) : Prop where
  users : ∀ users, store.users = some users → User.AreSound config users
  products : ∀ products, store.products = some products → Product.AreSound config products

namespace User.AreSound

variable {config : Config} {users : List User} {user : User}

theorem nil (config : Config) : AreSound config [] := ⟨by simp, by simp⟩

theorem filter (sound : AreSound config users) (p : User → Bool) :
    AreSound config (users.filter p) where
  each user mem := sound.each user (List.mem_filter.1 mem).1
  emails := (List.filter_sublist.map _).nodup sound.emails

theorem concat (sound : AreSound config users) (new : user.IsSound config)
    (email : ∀ other ∈ users, other.email ≠ user.email) : AreSound config (users ++ [user]) where
  each other mem := by
    rcases List.mem_append.1 mem with old | same
    · exact sound.each other old
    · exact List.mem_singleton.1 same ▸ new
  emails := by
    rw [List.map_append, List.map_singleton]
    refine nodup_concat sound.emails fun mem => ?_
    obtain ⟨other, old, same⟩ := List.mem_map.1 mem
    exact email other old same

end User.AreSound

/-- SKUs still differ behind a product whose SKU no other one has. -/
theorem Product.nodup_skus_concat {products : List Product} {product : Product}
    (nodup : (products.filterMap Product.sku).Nodup)
    (fresh : ∀ other ∈ products, product.sku = none ∨ other.sku ≠ product.sku) :
    ((products ++ [product]).filterMap Product.sku).Nodup := by
  rw [List.filterMap_append]
  cases has : product.sku with
  | none =>
    -- A product without a SKU adds nothing to the list.
    simpa [has] using nodup
  | some own =>
    have single : [product].filterMap Product.sku = [own] := by simp [has]
    rw [single]
    refine nodup_concat nodup fun mem => ?_
    obtain ⟨other, old, same⟩ := List.mem_filterMap.1 mem
    rcases fresh other old with none | differs
    · simp [has] at none
    · exact differs (same.trans has.symm)

namespace Product.AreSound

variable {config : Config} {products : List Product} {product : Product}

theorem nil (config : Config) : AreSound config [] := ⟨by simp, by simp⟩

theorem filter (sound : AreSound config products) (p : Product → Bool) :
    AreSound config (products.filter p) where
  each product mem := sound.each product (List.mem_filter.1 mem).1
  skus := (List.filter_sublist.filterMap _).nodup sound.skus

theorem concat (sound : AreSound config products) (new : product.IsSound config)
    (sku : ∀ other ∈ products, product.sku = none ∨ other.sku ≠ product.sku) :
    AreSound config (products ++ [product]) where
  each other mem := by
    rcases List.mem_append.1 mem with old | same
    · exact sound.each other old
    · exact List.mem_singleton.1 same ▸ new
  skus := nodup_skus_concat sound.skus sku

end Product.AreSound

namespace Store.IsSound

variable {config : Config} {store after : Store}

/-- Tables that are empty are sound. -/
theorem empty (config : Config) : IsSound config { users := some [], products := some [] } where
  users _ h := Option.some.inj h ▸ .nil config
  products _ h := Option.some.inj h ▸ .nil config

theorem putUser {user : User} (sound : store.IsSound config)
    (isNew : store.IsNewUser config.defaultUserName user) (email : user.email.IsTrimmed) :
    (store.putUser user).IsSound config where
  users users h := by
    obtain ⟨old, table, -, fresh⟩ := isNew.users
    rw [users_putUser, table] at h
    obtain rfl := Option.some.inj h
    exact (sound.users old table).concat ⟨email, isNew.name⟩ fresh
  products products h := sound.products products h

theorem putProduct {product : Product} (sound : store.IsSound config)
    (isNew : store.IsNewProduct product) (new : product.IsSound config) :
    (store.putProduct product).IsSound config where
  users users h := sound.users users h
  products products h := by
    obtain ⟨old, table, -, fresh⟩ := isNew.products
    rw [products_putProduct, table] at h
    obtain rfl := Option.some.inj h
    exact (sound.products old table).concat new fresh

theorem removeRow (sound : store.IsSound config) (table : Table) (id : Int) :
    (store.removeRow table id).IsSound config := by
  cases table with
  | users =>
    refine ⟨fun users h => ?_, sound.products⟩
    obtain ⟨old, table, rfl⟩ := Option.map_eq_some_iff.1 h
    exact (sound.users old table).filter _
  | products =>
    refine ⟨sound.users, fun products h => ?_⟩
    obtain ⟨old, table, rfl⟩ := Option.map_eq_some_iff.1 h
    exact (sound.products old table).filter _

theorem drop (sound : store.IsSound config) {table : Table} (h : store.drop table = .ok after) :
    after.IsSound config := by
  rw [drop_eq_ok h]
  cases table with
  | users => exact ⟨nofun, sound.products⟩
  | products => exact ⟨sound.users, nofun⟩

theorem makeTables (sound : store.IsSound config) (h : store.makeTables = .ok after) :
    after.IsSound config := by
  obtain ⟨users, products, -⟩ := makeTables_eq_ok h
  constructor
  -- A table that was missing is empty now, and the other one has the rows that it had.
  · intro all table
    obtain rfl := Option.some.inj (users.symm.trans table)
    cases old : store.users with
    | none => exact .nil config
    | some old' => exact sound.users old' old
  · intro all table
    obtain rfl := Option.some.inj (products.symm.trans table)
    cases old : store.products with
    | none => exact .nil config
    | some old' => exact sound.products old' old

end Store.IsSound

/-- The steps that add no row to a table but through a request. -/
def Step.addsByRequest : Step → Prop
  | .addProduct _ | .userFor _ => False
  | _ => True

namespace Shop

variable {start changed : Shop} {config : Config}

/-- A product that its columns keep after a judgement without complaints is sound. -/
theorem isSound_of_isJudged {product : Product}
    (judged : Store.Entry.IsJudged start.limits ⟨some product.title, product.sku,
      product.description, some product.price, some product.stock, product.isActive⟩) :
    product.IsSound start.config where
  title := judged.title _ rfl
  sku := judged.sku
  description := judged.description
  stock := by
    obtain ⟨n, kept, nonneg, below⟩ := judged.stock
    exact ⟨n, Option.some.inj kept, nonneg, by omega⟩

/-- What a view changes leaves the rows sound. -/
theorem Serves.isSound {key : Sessions.Key} {body : Body} {v : View} {response : Response}
    (sound : start.store.IsSound start.config) (h : start.Serves key body v response changed) :
    changed.config = start.config ∧ changed.store.IsSound start.config := by
  cases h with
  | registered given email isNew =>
    -- The email of a login has been stripped, and a blank one is refused.
    refine ⟨rfl, sound.putUser isNew ?_⟩
    rw [email]
    exact Text.isTrimmed_strip given
  | added named isNew judged => exact ⟨rfl, sound.putProduct isNew (isSound_of_isJudged judged)⟩
  | _ => exact ⟨rfl, sound⟩

/-- What a request changes leaves the rows sound. -/
theorem Handles.isSound {request : Request} {answer : Answer}
    (sound : start.store.IsSound start.config) (h : start.Handles request answer changed) :
    changed.config = start.config ∧ changed.store.IsSound start.config := by
  cases h with
  | served visited serves => exact serves.isSound sound
  | _ => exact ⟨rfl, sound⟩

/-- Rows stay sound as long as they are added by requests. -/
theorem isKept_isSound (config : Config) :
    IsKept Step.addsByRequest fun shop => shop.config = config ∧ shop.store.IsSound config where
  alike a b like := by
    rintro ⟨rfl, sound⟩
    exact ⟨like.config, like.store ▸ sound⟩
  moves start step changed allowed := by
    rintro ⟨rfl, sound⟩ moves
    cases moves with
    | handled handles => exact handles.isSound sound
    | readOnlySet => exact ⟨rfl, sound.users, sound.products⟩
    | tableDropped dropped => exact ⟨rfl, sound.drop dropped⟩
    | rowDeleted => exact ⟨rfl, sound.removeRow _ _⟩
    | tablesMade made => exact ⟨rfl, sound.makeTables made⟩
    | productAdded isNew => exact allowed.elim
    | userAdded added isNew => exact allowed.elim
    | _ => exact ⟨rfl, sound⟩

/-- Whatever happens to a shop from its opening on, its rows are sound if requests have added
them, and no two have the same number. -/
theorem isSound_of_isReachable {shop : Shop}
    (reachable : shop.IsReachable Step.addsByRequest config) :
    shop.store.IsSound config ∧ shop.store.IsNumbered := by
  have opened (start : Shop) (opened : start.IsOpened config) :
      start.config = config ∧ start.store.IsSound config :=
    ⟨opened.config, opened.store ▸ .empty config⟩
  constructor
  · exact ((isKept_isSound config).of_isReachable opened reachable).2
  · exact isKept_isNumbered.of_isReachable (fun start opened => opened.store ▸ .empty)
      (reachable.mono fun _ _ => trivial)

/-- A shop with a product, after a login was refused and the user who sent the product was
deleted. -/
def withProduct : Shop :=
  (forTests.run [.request (.forLogin "a" " a@example.com "),
    .request (.ofForm "a" "/products" [("title", " Lamp "), ("sku", "L-1"), ("price", "9.99")]),
    .setReadOnly true, .request (.forLogin "b" "b@example.com"), .setReadOnly false,
    .deleteRow .users 1]).2

/-- The product is there, and the rows are sound. -/
theorem isSound_of_isReachable_withProduct :
    withProduct.IsReachable Step.addsByRequest (Config.forTests {}) ∧
      (withProduct.store.products.getD []).map Product.title = [Text.ofString "Lamp"] ∧
      withProduct.store.IsSound (Config.forTests {}) ∧ withProduct.store.IsNumbered := by
  have reachable : withProduct.IsReachable Step.addsByRequest (Config.forTests {}) :=
    ⟨false, forTests, _, rfl, by simp [Step.addsByRequest], rfl⟩
  exact ⟨reachable, by decide +kernel, isSound_of_isReachable reachable⟩

end Shop

end Storefront
