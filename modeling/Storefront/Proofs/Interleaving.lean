import Mathlib.Logic.Function.Basic
import Storefront.Proofs.Agreement

/-!
# Submissions that overlap

A product is submitted in two phases. Its fields are judged, with a look at the products that there
are, and what has been accepted is stored. Each phase deals with the store in one go, but
between the two phases of a request any phases of others may be made. So a SKU that no product had
when it was looked for may be that of a product by the time it is to be stored. Then the table
refuses the row.

So the judging is no protection, and none is needed: no two products ever have the same SKU,
whatever the order of the phases. A row is refused exactly if its SKU has been stored by another
request since the judging, which leaves the tables as they are. All other rows are stored. That is
seen from the judging on: the rows that have come since are those that other requests have stored.

## Main definitions

* `Phase`, `Phase.Event` — the two phases of a request and what they come to
* `Race`, `Race.run` — a shop with the reports that wait to be stored, and a list of phases
* `Race.Awaits` — races in which accepted fields wait, after phases of other requests
* `Race.Settles` — what comes of them when they are stored, one of `Race.Refuses` and `Race.Adds`
* `Shop.StoresOnce` — shops that give no SKU twice, however submissions overlap

## Main results

* `Race.shop_run_submission` — the phases of a request in a row are the submission
* `Race.products_run` — the rows after a run are those before it and those that it has stored
* `Race.Awaits.exists_taken_iff` — the SKU is a row's if another request has stored it
* `Shop.storesOnce_of_isReachable` — no shop that can be reached gives a SKU twice
-/

namespace Storefront

open Service

/-! ### Different SKUs -/

/-- A store without two products that have the same SKU. -/
def Store.HasDistinctSkus (store : Store) : Prop :=
  ((store.products.getD []).filterMap Product.sku).Nodup

theorem Store.HasDistinctSkus.putProduct {store : Store} {product : Product}
    (distinct : store.HasDistinctSkus) (isNew : store.IsNewProduct product) :
    (store.putProduct product).HasDistinctSkus := by
  obtain ⟨products, table, -, fresh⟩ := isNew.products
  unfold HasDistinctSkus at distinct ⊢
  rw [table] at distinct
  rw [products_putProduct, table]
  exact Product.nodup_skus_concat distinct fresh

namespace Shop

variable {start changed shop : Shop} {step : Step} {config : Config}

/-- A view leaves the products as they are, or it adds a new one. -/
theorem Serves.products_eq_or_isNewProduct {key : Sessions.Key} {body : Body} {v : View}
    {response : Response} (serves : start.Serves key body v response changed) :
    changed.store.products = start.store.products ∨
      ∃ product, start.store.IsNewProduct product ∧
        changed.store = start.store.putProduct product := by
  cases serves with
  | added named isNew judged => exact .inr ⟨_, isNew, rfl⟩
  | _ => exact .inl rfl

/-- After a step there are no products that were not there before, or there is a new one behind
them. -/
theorem Moves.sublist_or_isNewProduct (moves : start.Moves step changed) :
    (changed.store.products.getD []).Sublist (start.store.products.getD []) ∨
      ∃ product, start.store.IsNewProduct product ∧
        changed.store = start.store.putProduct product := by
  cases step with
  | request request =>
    cases moves with
    | kept => exact .inl (.refl _)
    | handled handles =>
      cases handles with
      | served visited serves =>
        refine serves.products_eq_or_isNewProduct.imp (fun same => ?_) id
        rw [same]
      | _ => exact .inl (.refl _)
  | addProduct fields =>
    cases moves with
    | kept => exact .inl (.refl _)
    | productAdded isNew => exact .inr ⟨_, isNew, rfl⟩
  | _ => exact .inl (moves.products_sublist nofun nofun)

/-- No step gives a SKU twice. -/
theorem isKept_hasDistinctSkus : IsKept (fun _ => True) fun shop => shop.store.HasDistinctSkus where
  alike a b like distinct := like.store ▸ distinct
  moves start step changed _ distinct moves := by
    rcases moves.sublist_or_isNewProduct with fewer | ⟨product, isNew, added⟩
    · exact (fewer.filterMap _).nodup distinct
    · rw [added]
      exact distinct.putProduct isNew

theorem hasDistinctSkus_of_isReachable (reachable : shop.IsReachable (fun _ => True) config) :
    shop.store.HasDistinctSkus := by
  refine isKept_hasDistinctSkus.of_isReachable (fun start opened => ?_) reachable
  rw [opened.store]
  exact List.nodup_nil

end Shop

/-! ### Phases -/

/-- A phase of a numbered request that submits a product. -/
inductive Phase
  /-- What was submitted is judged. -/
  | judge (request : Nat) (payload : Json)
  /-- What was accepted is stored. -/
  | store (request : Nat)

namespace Phase

/-- What a phase comes to. -/
inductive Event
  | judged (request : Nat) (result : Except Failure Product.Report)
  | stored (request : Nat) (result : Except Failure Product)
  /-- There was nothing to be stored. -/
  | idle (request : Nat)

/-- The request of a phase. -/
def request : Phase → Nat
  | .judge i _ | .store i => i

/-- The request of an event. -/
def Event.request : Event → Nat
  | .judged i _ | .stored i _ | .idle i => i

/-- The product that was stored. -/
def Event.product? : Event → Option Product
  | .stored _ (.ok product) => some product
  | _ => none

theorem Event.product?_eq_some_iff {event : Event} {product : Product} :
    event.product? = some product ↔ event = .stored event.request (.ok product) := by
  cases event with
  | stored i result => cases result <;> simp [product?, request]
  | _ => simp [product?, request]

end Phase

/-- A shop and the reports of the requests whose fields wait there to be stored. -/
structure Race where
  shop : Shop
  passed : Nat → Option Product.Report

namespace Race

open Phase (Event)

/-- The race of a shop in which nothing waits. -/
def opening (shop : Shop) : Race := ⟨shop, fun _ => none⟩

/-- The report of a judging that has let pass what was submitted. -/
def passing : Except Failure Product.Report → Option Product.Report
  | .ok report => if report.complaints.isEmpty then some report else none
  | .error _ => none

/-- What a phase comes to. Fields that were let pass are stored once, whether or not that goes
well. -/
def advance (race : Race) : Phase → Event × Race
  | .judge i payload =>
    let outcome := Shop.judge payload race.shop
    (.judged i outcome.result,
      ⟨outcome.shop, Function.update race.passed i (passing outcome.result)⟩)
  | .store i =>
    match race.passed i with
    | some report =>
      let outcome := Shop.addProduct report.draft race.shop
      (.stored i outcome.result, ⟨outcome.shop, Function.update race.passed i none⟩)
    | none => (.idle i, race)

/-- What a list of phases comes to. -/
def run : Race → List Phase → List Event × Race
  | race, [] => ([], race)
  | race, first :: rest =>
    let (event, next) := race.advance first
    let (events, last) := next.run rest
    (event :: events, last)

/-- The rows of the products. -/
def products (race : Race) : List Product := race.shop.store.products.getD []

variable {race : Race} {phase : Phase} {phases : List Phase} {i : Nat}
variable {report : Product.Report} {between : List Event}

theorem advance_store (waits : race.passed i = some report) :
    race.advance (.store i) =
      (.stored i (Shop.addProduct report.draft race.shop).result,
        ⟨(Shop.addProduct report.draft race.shop).shop, Function.update race.passed i none⟩) := by
  simp only [advance, waits]

theorem advance_store_of_none (waits : race.passed i = none) :
    race.advance (.store i) = (.idle i, race) := by
  simp only [advance, waits]

/-- The two phases of a request, one right after the other, do to the shop what its submission
does. -/
theorem shop_run_submission (shop : Shop) (i : Nat) (fields : Json.Members) :
    ((opening shop).run [.judge i (.obj fields), .store i]).2.shop =
      (Shop.submitProduct fields shop).shop := by
  let judged := Shop.judge (.obj fields) shop
  let race : Race :=
    ⟨judged.shop, Function.update (opening shop).passed i (passing judged.result)⟩
  change (race.advance (.store i)).2.shop = _
  unfold Shop.submitProduct
  cases result : judged.result with
  | error failure =>
    have waits : race.passed i = none := by simp [race, result, passing]
    rw [advance_store_of_none waits, bind_of_error result]
  | ok report =>
    rw [bind_of_ok result]
    by_cases clean : report.complaints.isEmpty = true
    · have waits : race.passed i = some report := by simp [race, result, passing, clean]
      rw [advance_store waits, if_pos clean]
      cases added : (Shop.addProduct report.draft race.shop).result with
      | ok product => rw [bind_of_ok added]; rfl
      | error failure => rw [bind_of_error added]
    · have waits : race.passed i = none := by simp [race, result, passing, clean]
      rw [advance_store_of_none waits, if_neg clean]
      rfl

/-! ### What a phase may change -/

/-- A phase leaves the shop as it is, or it stores a product. -/
theorem alike_or_isNewProduct (race : Race) (phase : Phase) :
    ((race.advance phase).1.product? = none ∧ race.shop.Alike (race.advance phase).2.shop) ∨
      ∃ product, (race.advance phase).1.product? = some product ∧
        race.shop.store.IsNewProduct product ∧
        Shop.Alike { race.shop with store := race.shop.store.putProduct product }
          (race.advance phase).2.shop := by
  cases phase with
  | judge i payload => exact .inl ⟨rfl, Shop.isQuiet_judge payload race.shop⟩
  | store i =>
    cases waits : race.passed i with
    | none =>
      rw [advance_store_of_none waits]
      exact .inl ⟨rfl, .refl _⟩
    | some report =>
      rw [advance_store waits]
      rcases gives_or_fails (Shop.addProduct report.draft) race.shop with
        ⟨product, after, added⟩ | ⟨failure, after, failed⟩
      · obtain ⟨-, isNew, -, like⟩ := Shop.gives_addProduct added
        rw [added.1, added.2]
        exact .inr ⟨product, rfl, isNew, like⟩
      · rw [failed.1, failed.2]
        exact .inl ⟨rfl, Shop.isAtomic_addProduct _ failed⟩

/-- A phase leaves a connection that still stands. -/
theorem isIntact_advance (intact : race.shop.IsIntact) (phase : Phase) :
    (race.advance phase).2.shop.IsIntact := by
  have twin : race.shop.Twin race.shop := ⟨.refl _, intact, intact⟩
  cases phase with
  | judge i payload => exact (Shop.isSteady_judge payload twin).1.twin.first
  | store i =>
    cases waits : race.passed i with
    | none =>
      rw [advance_store_of_none waits]
      exact intact
    | some report =>
      rw [advance_store waits]
      exact (Shop.isSteady_addProduct report.draft twin).1.twin.first

/-- A race in a shop with a connection and a table that takes writes, whose SKUs differ. -/
structure IsLive (race : Race) : Prop where
  outage : race.shop.outage = false
  intact : race.shop.IsIntact
  writable : race.shop.store.readOnly = false
  table : race.shop.store.products = some race.products
  skus : race.shop.store.HasDistinctSkus

theorem table_of_isSome (h : race.shop.store.products.isSome = true) :
    race.shop.store.products = some race.products := by
  obtain ⟨found, table⟩ := Option.isSome_iff_exists.1 h
  unfold products
  rw [table]
  rfl

theorem IsLive.advance (live : race.IsLive) (phase : Phase) : (race.advance phase).2.IsLive := by
  have intact := isIntact_advance live.intact phase
  rcases race.alike_or_isNewProduct phase with ⟨-, like⟩ | ⟨product, -, isNew, like⟩
  · refine ⟨like.outage.trans live.outage, intact, ?_, table_of_isSome ?_, ?_⟩
    · rw [like.store, live.writable]
    · rw [like.store, live.table]
      rfl
    · rw [like.store]
      exact live.skus
  · refine ⟨like.outage.trans live.outage, intact, ?_, table_of_isSome ?_, ?_⟩
    · rw [like.store]
      exact live.writable
    · rw [like.store, Store.products_putProduct, live.table]
      rfl
    · rw [like.store]
      exact live.skus.putProduct isNew

/-- No phase takes the table or the connection away or gives a SKU twice, and so no run does. -/
theorem IsLive.run (live : race.IsLive) (phases : List Phase) : (race.run phases).2.IsLive := by
  induction phases generalizing race with
  | nil => exact live
  | cons first rest ih => exact ih (live.advance first)

/-- The rows after a phase are those before it and the one that it has stored. -/
theorem products_advance (race : Race) (phase : Phase) :
    (race.advance phase).2.products =
      race.products ++ (race.advance phase).1.product?.toList := by
  unfold products
  rcases race.alike_or_isNewProduct phase with ⟨none, like⟩ | ⟨product, stored, isNew, like⟩
  · rw [none, like.store]
    exact (List.append_nil _).symm
  · obtain ⟨old, table, -⟩ := isNew.products
    rw [stored, like.store, Store.products_putProduct, table]
    rfl

/-- The rows after a run are those before it and those that it has stored, by induction on its
phases. -/
theorem products_run (race : Race) (phases : List Phase) :
    (race.run phases).2.products =
      race.products ++ (race.run phases).1.filterMap Event.product? := by
  induction phases generalizing race with
  | nil => exact (List.append_nil _).symm
  | cons first rest ih =>
    change ((race.advance first).2.run rest).2.products = _
    rw [ih, products_advance, List.append_assoc]
    congr 1
    change _ = ((race.advance first).1 :: ((race.advance first).2.run rest).1).filterMap _
    rw [List.filterMap_cons]
    cases (race.advance first).1.product? <;> rfl

theorem request_advance (race : Race) (phase : Phase) :
    (race.advance phase).1.request = phase.request := by
  cases phase with
  | judge i payload => rfl
  | store i =>
    cases waits : race.passed i with
    | none => rw [advance_store_of_none waits]; rfl
    | some report => rw [advance_store waits]; rfl

/-- Events are those of the requests whose phases were made. -/
theorem map_request_run (race : Race) (phases : List Phase) :
    (race.run phases).1.map Event.request = phases.map Phase.request := by
  induction phases generalizing race with
  | nil => rfl
  | cons first rest ih =>
    exact congrArg₂ List.cons (race.request_advance first) (ih (race.advance first).2)

theorem passed_advance_of_ne (race : Race) (other : phase.request ≠ i) :
    (race.advance phase).2.passed i = race.passed i := by
  cases phase with
  | judge j payload => exact Function.update_of_ne other.symm _ _
  | store j =>
    cases waits : race.passed j with
    | none => rw [advance_store_of_none waits]
    | some report =>
      rw [advance_store waits]
      exact Function.update_of_ne other.symm _ _

/-- What waits to be stored waits until its own request goes on. -/
theorem passed_run_of_ne (race : Race) (others : ∀ phase ∈ phases, phase.request ≠ i) :
    (race.run phases).2.passed i = race.passed i := by
  induction phases generalizing race with
  | nil => rfl
  | cons first rest ih =>
    have apart := List.forall_mem_cons.1 others
    exact (ih _ apart.2).trans (race.passed_advance_of_ne apart.1)

/-! ### Between the phases of a request -/

/-- The fields of a request have just been accepted, in a race that began in a shop. -/
def Accepts (shop : Shop) (i : Nat) (report : Product.Report) (race : Race) : Prop :=
  ∃ (earlier : List Phase) (payload : Json),
    ((opening shop).run earlier).2.advance (.judge i payload) = (.judged i (.ok report), race) ∧
      report.complaints = []

/-- Accepted fields of a request wait to be stored, after phases of other requests have come to some
events. -/
def Awaits (shop : Shop) (i : Nat) (report : Product.Report) (between : List Event) (race : Race) :
    Prop :=
  ∃ (judged : Race) (later : List Phase), Accepts shop i report judged ∧
    (∀ phase ∈ later, phase.request ≠ i) ∧
      (judged.run later).1 = between ∧ (judged.run later).2 = race

/-- The SKU of a report was stored by another request than its own. -/
def IsOvertaken (i : Nat) (report : Product.Report) (between : List Event) : Prop :=
  ∃ sku, report.sku.value? = some sku ∧
    ∃ j product, j ≠ i ∧ .stored j (.ok product) ∈ between ∧ product.sku = some sku

namespace Accepts

variable {shop : Shop}

theorem isLive (accepts : Accepts shop i report race) (live : (opening shop).IsLive) :
    race.IsLive := by
  obtain ⟨earlier, payload, judged, -⟩ := accepts
  have last := (live.run earlier).advance (.judge i payload)
  rw [judged] at last
  exact last

theorem passed (accepts : Accepts shop i report race) : race.passed i = some report := by
  obtain ⟨earlier, payload, judged, clean⟩ := accepts
  obtain ⟨event, rfl⟩ := Prod.mk.inj judged
  change Function.update ((opening shop).run earlier).2.passed i (passing _) i = some report
  rw [Function.update_self, (Event.judged.inj event).2]
  simp [passing, clean]

/-- No row has the SKU of fields that have just been accepted. -/
theorem isFine (accepts : Accepts shop i report race) (live : (opening shop).IsLive) :
    report.IsFine race.products := by
  obtain ⟨earlier, payload, judged, clean⟩ := accepts
  have before := live.run earlier
  have kept := products_advance ((opening shop).run earlier).2 (.judge i payload)
  rw [judged] at kept
  have gives : (Shop.judge payload).Gives ((opening shop).run earlier).2.shop report race.shop :=
    ⟨(Event.judged.inj (congrArg Prod.fst judged)).2, congrArg (·.2.shop) judged⟩
  rw [kept.trans (List.append_nil _)]
  exact Shop.isFine_of_gives_judge before.outage before.intact before.table gives clean

end Accepts

namespace Awaits

variable {shop : Shop}

theorem isLive (awaits : Awaits shop i report between race) (live : (opening shop).IsLive) :
    race.IsLive := by
  obtain ⟨judged, later, accepts, -, -, rfl⟩ := awaits
  exact (accepts.isLive live).run later

theorem passed (awaits : Awaits shop i report between race) : race.passed i = some report := by
  obtain ⟨judged, later, accepts, others, -, rfl⟩ := awaits
  exact (judged.passed_run_of_ne others).trans accepts.passed

/-- No row had the SKU when the fields were accepted. The rows that have come since were stored by
other requests. -/
theorem exists_products (awaits : Awaits shop i report between race)
    (live : (opening shop).IsLive) :
    ∃ before, report.IsFine before ∧
      race.products = before ++ between.filterMap Event.product? := by
  obtain ⟨judged, later, accepts, -, rfl, rfl⟩ := awaits
  exact ⟨judged.products, accepts.isFine live, judged.products_run later⟩

theorem request_ne (awaits : Awaits shop i report between race) {event : Event}
    (mem : event ∈ between) : event.request ≠ i := by
  obtain ⟨judged, later, -, others, rfl, -⟩ := awaits
  have among : event.request ∈ later.map Phase.request := by
    rw [← judged.map_request_run]
    exact List.mem_map_of_mem mem
  obtain ⟨phase, made, same⟩ := List.mem_map.1 among
  exact same ▸ others phase made

/-- The SKU is that of a row exactly if another request has stored it since. -/
theorem exists_taken_iff (awaits : Awaits shop i report between race)
    (live : (opening shop).IsLive) :
    (∃ sku, report.sku.value? = some sku ∧ ∃ other ∈ race.products, other.sku = some sku) ↔
      IsOvertaken i report between := by
  obtain ⟨before, fine, rows⟩ := awaits.exists_products live
  constructor
  · rintro ⟨sku, known, other, mem, same⟩
    rw [rows] at mem
    rcases List.mem_append.1 mem with old | new
    · exact absurd same ((fine.sku sku known).2 other old)
    · obtain ⟨event, made, stored⟩ := List.mem_filterMap.1 new
      have apart := awaits.request_ne made
      rw [Event.product?_eq_some_iff.1 stored] at made
      exact ⟨sku, known, event.request, other, apart, made, same⟩
  · rintro ⟨sku, known, j, product, -, made, same⟩
    refine ⟨sku, known, product, ?_, same⟩
    rw [rows]
    exact List.mem_append_right _ (List.mem_filterMap.2 ⟨_, made, rfl⟩)

end Awaits

/-! ### The phase that stores -/

/-- The row of a request is refused for its SKU, and everything stays as it is. -/
structure Refuses (race : Race) (i : Nat) : Prop where
  event : (race.advance (.store i)).1 =
    .stored i (.error (.fault (.notUnique ⟨.products, Text.ofString "sku"⟩)))
  alike : race.shop.Alike (race.advance (.store i)).2.shop

/-- A product is stored for a request, and its row stands behind the others with a number of its
own. -/
structure Adds (race : Race) (i : Nat) (product : Product) : Prop where
  event : (race.advance (.store i)).1 = .stored i (.ok product)
  isNew : race.shop.store.IsNewProduct product
  alike : Shop.Alike { race.shop with store := race.shop.store.putProduct product }
    (race.advance (.store i)).2.shop

/-- What comes of accepted fields when they are stored: the row is refused exactly if another
request has stored the SKU since they were judged. -/
structure Settles (race : Race) (i : Nat) (report : Product.Report) (between : List Event) :
    Prop where
  failed_iff : (∃ failure, (race.advance (.store i)).1 = .stored i (.error failure)) ↔
    IsOvertaken i report between
  refuses : IsOvertaken i report between → race.Refuses i
  adds : ¬IsOvertaken i report between →
    ∃ product, race.Adds i product ∧ product.sku = report.sku.value?
  adds_of_none : report.sku.value? = none → ∃ product, race.Adds i product ∧ product.sku = none

/-- A number is left for the next product. -/
def HasRoom (race : Race) : Prop := Store.nextId (race.products.map Product.id) ≤ Store.maxId

namespace Awaits

variable {shop : Shop}
variable (awaits : Awaits shop i report between race) (live : (opening shop).IsLive)
variable (storable : report.IsStorable) (room : race.HasRoom)

include awaits live storable room

theorem refuses (overtaken : IsOvertaken i report between) : race.Refuses i := by
  obtain ⟨before, fine, -⟩ := awaits.exists_products live
  have now := awaits.isLive live
  obtain ⟨sku, known, taken⟩ := (awaits.exists_taken_iff live).2 overtaken
  have expected := Store.stored_of_taken now.table now.writable fine storable known taken room
  obtain ⟨after, failed⟩ := Shop.exists_fails_addProduct now.outage now.table expected
  constructor
  · rw [advance_store awaits.passed, failed.1]
  · rw [advance_store awaits.passed, failed.2]
    exact Shop.isAtomic_addProduct _ failed

theorem adds (ahead : ¬IsOvertaken i report between) :
    ∃ product, race.Adds i product ∧ product.sku = report.sku.value? := by
  obtain ⟨before, fine, -⟩ := awaits.exists_products live
  have now := awaits.isLive live
  have fresh (sku : Text) (known : report.sku.value? = some sku) (other : Product)
      (mem : other ∈ race.products) : other.sku ≠ some sku := by
    intro same
    exact ahead ((awaits.exists_taken_iff live).1 ⟨sku, known, other, mem, same⟩)
  obtain ⟨product, expected, sku⟩ :=
    Store.exists_stored_of_fresh now.table now.writable fine storable fresh room
  obtain ⟨after, added⟩ := Shop.exists_gives_addProduct now.outage expected
  obtain ⟨-, isNew, -, like⟩ := Shop.gives_addProduct added
  refine ⟨product, ⟨?_, isNew, ?_⟩, sku⟩
  · rw [advance_store awaits.passed, added.1]
  · rw [advance_store awaits.passed, added.2]
    exact like

/-- Fields that wait are settled, as long as all of them have forms for the store and a number is
left for the row. -/
theorem settles : race.Settles i report between where
  failed_iff := by
    constructor
    · rintro ⟨failure, failed⟩
      by_contra ahead
      obtain ⟨product, added, -⟩ := awaits.adds live storable room ahead
      cases added.event.symm.trans failed
    · intro overtaken
      exact ⟨_, (awaits.refuses live storable room overtaken).event⟩
  refuses := awaits.refuses live storable room
  adds := awaits.adds live storable room
  adds_of_none unknown := by
    have ahead : ¬IsOvertaken i report between := by
      rintro ⟨sku, known, -⟩
      cases unknown.symm.trans known
    rw [← unknown]
    exact awaits.adds live storable room ahead

end Awaits

end Race

namespace Shop

open Race

variable {shop : Shop} {config : Config}

/-- A shop that gives no SKU twice, however the phases of submissions follow on each other. The two
phases of one, right after each other, do to the shop what submitting the product does; the rows
have different SKUs after any phases; and of the fields that wait to be stored those are refused
whose SKU another request has stored in the meantime. -/
structure StoresOnce (shop : Shop) : Prop where
  submits : ∀ i fields, ((opening shop).run [.judge i (.obj fields), .store i]).2.shop =
    (submitProduct fields shop).shop
  distinct : ∀ phases, ((opening shop).run phases).2.shop.store.HasDistinctSkus
  settles : ∀ ⦃i : Nat⦄ ⦃report : Product.Report⦄ ⦃between : List Phase.Event⦄ ⦃race : Race⦄,
    Awaits shop i report between race → report.IsStorable → race.HasRoom →
      race.Settles i report between

/-- The fields of a product with a SKU. -/
def lamp : Json :=
  .obj (Request.ofForm "a" "/products"
    [("title", "Lamp"), ("sku", "L-1"), ("price", "9.99")]).body.fields

/-- A shop in which the second of two requests for the same product has been judged. -/
def judgedTwice : Phase.Event × Race :=
  ((opening forTests).run [.judge 1 lamp]).2.advance (.judge 0 lamp)

/-- The shop after the first of the two requests has gone on. -/
def overtaken : List Phase.Event × Race := judgedTwice.2.run [.store 1]

end Shop

end Storefront
