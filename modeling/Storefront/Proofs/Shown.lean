import Storefront.Proofs.ReadBack
import Storefront.Proofs.Submission

/-!
# A product is shown as it was submitted

A product that was added by a request has a row, which stays while no row is deleted and no table is
dropped. Whoever asks for its number then is shown that row as JSON, in ASCII, and what is read of
it is what was submitted: no text is cut off, no letter of it is lost on the way, and what was left
out is shown as null, as zero or as active.

## Main definitions

* `Step.keepsRows` — the steps that take no row away
* `Request.AsksForProduct` — requests for the product with a number
* `Response.TellsOf`, `Json.Members.ShowsProduct` — what is said of a product when it was added and
  when it is shown

## Main results

* `resolve_of_productDigits?` — which requests are for a product
* `Product.isPlain_summary` — what a product shows can be read back
* `Shop.isKept_has` — no other step takes a row away
* `Shop.shows_submitted` — a product is shown as it was submitted
-/

namespace Storefront

open Service

/-- The steps that take no row away. -/
def Step.keepsRows : Step → Prop
  | .dropTable _ | .deleteRow .. => False
  | _ => True

/-! ### Requests for a product -/

section Asking

variable {path method : Text} {digits : List Nat}

/-- No other route has the path of a product. -/
theorem route?_of_productDigits? (number : Pattern.productDigits? path = some digits) :
    route? path = some ⟨"/products/<int:product_id>", .product, .product, readingMethods⟩ := by
  -- The routes before this one have one path each, and none of these ends with digits.
  have differs (known : String) (none : Pattern.productDigits? (Text.ofString known) = none) :
      Pattern.fits (.exact known) path = false := by
    rw [Pattern.fits, beq_eq_false_iff_ne]
    rintro rfl
    rw [none] at number
    cases number
  have fits : Pattern.fits .product path = true := by
    rw [Pattern.fits, number]
    rfl
  simp [route?, routes, differs "/" rfl, differs "/dashboard" rfl,
    differs "/login" rfl, differs "/logout" rfl, differs "/products" rfl, fits]

/-- The path of a product is resolved to the product with the number that its digits write, unless
these are too many. -/
theorem resolve_of_productDigits? (number : Pattern.productDigits? path = some digits)
    (short : digits.length ≤ Integer.maxDigits) (get : Method.get.name = method.capitals) :
    resolve method false path = .view (.product (valueOfDigits digits)) := by
  have taken : readingMethods.find? (fun taken => taken.name = method.capitals) = some .get := by
    rw [← get]
    rfl
  have nonempty : path ≠ [] := by
    rintro rfl
    cases number
  unfold resolve
  split
  · exact (nonempty rfl).elim
  · rw [route?_of_productDigits? number]
    simp only [Route.resolve, taken, Route.accept, number, Option.getD_some,
      if_neg (Nat.not_lt.2 short)]
    rfl

/-- A request for the product with a number, at a host that can be asked: its path ends with digits
that write the number. -/
def Request.AsksForProduct (request : Request) (n : Nat) : Prop :=
  ∃ target digits, request.read = .ok target ∧ target.isMisnamed = false ∧
    target.isSocket = false ∧ Method.get.name = request.method.capitals ∧
    Pattern.productDigits? target.path = some digits ∧ digits.length ≤ Integer.maxDigits ∧
    valueOfDigits digits = n

theorem Request.AsksForProduct.visited {request : Request} {n : Nat}
    (asks : request.AsksForProduct n) :
    (∃ target key, request.visit? = some { target, key, view := .product n }) ∧
      request.isHead = false := by
  obtain ⟨target, digits, read, named, plain, get, number, short, rfl⟩ := asks
  constructor
  · refine ⟨target, Shop.sessionKey request target,
      Request.visit?_eq_some_iff.2 ⟨read, named, rfl, ?_⟩⟩
    rw [plain]
    exact resolve_of_productDigits? number short get
  · rw [Request.isHead, decide_eq_false_iff_not]
    intro head
    rw [head] at get
    exact absurd get (by decide)

theorem mapM_digit?_of_isDigit {t : Text} (digits : ∀ c ∈ t, c.isDigit = true) :
    t.mapM CodePoint.digit? = some (t.filterMap CodePoint.digit?) := by
  induction t with
  | nil => rfl
  | cons c rest ih =>
    obtain ⟨value, read⟩ := Option.isSome_iff_exists.1 (digits c List.mem_cons_self)
    have others := ih fun d mem => digits d (List.mem_cons_of_mem c mem)
    rw [List.mapM_cons, read, others, List.filterMap_cons_some read]
    rfl

/-- The digits in the path of a product are those behind its start. -/
theorem productDigits?_append {d : Text} (nonempty : d ≠ []) :
    Pattern.productDigits? (Text.ofString "/products/" ++ d) = d.mapM CodePoint.digit? := by
  have starts : (Text.ofString "/products/").isPrefixOf (Text.ofString "/products/" ++ d) = true :=
    List.isPrefixOf_iff_prefix.2 (List.prefix_append _ _)
  unfold Pattern.productDigits?
  rw [if_pos starts, List.drop_left]
  cases d with
  | nil => exact absurd rfl nonempty
  | cons c rest => rfl

theorem productDigits?_ofNat (n : Nat) :
    Pattern.productDigits? (Text.ofString "/products/" ++ Text.ofNat n) =
      some ((Text.ofNat n).map (·.toNat - 0x30)) := by
  have digits : ∀ c ∈ Text.ofNat n, c.isDigit = true := fun c mem => by
    rw [CodePoint.isDigit, CodePoint.digit?_of_ascii (Text.ascii_of_mem_ofNat mem)]
    rfl
  rw [productDigits?_append (Text.ofNat_ne_nil n), mapM_digit?_of_isDigit digits,
    Text.filterMap_digit?_of_ascii fun c => Text.ascii_of_mem_ofNat]

/-- The plain numeral of a row's number asks for it. -/
theorem Request.asksForProduct_of_path {request : Request} {target : Target} {n : Nat}
    (read : request.read = .ok target) (named : target.isMisnamed = false)
    (plain : target.isSocket = false) (get : Method.get.name = request.method.capitals)
    (le : n ≤ Store.maxId) (path : target.path = Text.ofString "/products/" ++ Text.ofNat n) :
    request.AsksForProduct n := by
  have number := path ▸ productDigits?_ofNat n
  have short : ((Text.ofNat n).map (·.toNat - 0x30)).length ≤ Integer.maxDigits := by
    rw [List.length_map, Text.length_ofNat]
    exact digitCount_le_of_le_maxId le
  exact ⟨target, _, read, named, plain, get, number, short, valueOfDigits_ofNat n⟩

end Asking

/-! ### What a product shows -/

namespace Product

/-- A price is shown in ASCII. -/
theorem isAscii_cents (x : Binary64) : x.cents.IsAscii := by
  have sign (negative : Bool) : (Decimal.signText negative).IsAscii := by cases negative <;> decide
  have digit {d : Nat} (h : d < 10) : (CodePoint.ofNat (0x30 + d)).toNat < 0x80 := by
    rw [CodePoint.toNat_ofNat (by omega)]
    omega
  cases x with
  | nan => decide
  | infinite negative => exact (sign negative).append (by decide)
  | finite negative significand exponent =>
    refine ((sign negative).append (.ofNat _)).append (.cons (by decide) ?_)
    exact .cons (digit (by omega)) (.singleton (digit (by omega)))

theorem digitCount_le_of_fits {n : Int} (fits : Cell.fits n = true) :
    digitCount n.natAbs ≤ Integer.maxDigits := by
  rw [Cell.fits_iff, Cell.minInteger, Cell.maxInteger] at fits
  have short : digitCount n.natAbs ≤ 19 :=
    (Nat.length_toDigits_le_iff (by decide) (by decide)).2 (by omega)
  exact Nat.le_trans short (by decide)

/-- What a row shows can be read back. -/
theorem isPlain_summary {product : Product} (written : product.IsWritten)
    (le : product.id ≤ Store.maxId) : product.summary.json.IsPlain := by
  have text (kept : Option Text) (whole : ∀ t, kept = some t → t.hasSurrogate = false) :
      (optionalText kept).IsPlain := by
    cases kept with
    | none => exact .null
    | some t => exact .str (whole t rfl)
  -- All but the stock are texts, flags and the number of a row, whatever the product is.
  obtain ⟨n, stock, fits⟩ := written.stock
  have shown : product.summary.stock = .int n := congrArg Stock.json stock
  have distinct : (["description", "id", "is_active", "price", "sku", "stock", "title"].map
      Text.ofString).Nodup := by
    decide
  refine .obj ?_ distinct ?_
  · simp only [List.forall_mem_cons, List.not_mem_nil, false_implies, implies_true, and_true]
    decide
  · simp only [List.forall_mem_cons, List.not_mem_nil, false_implies, implies_true, and_true]
    refine ⟨text _ written.description, .int (digitCount_le_of_le_maxId le), .bool _,
      .str (isAscii_cents _).hasSurrogate, text _ written.sku, ?_, .str written.title⟩
    rw [shown]
    exact .int (digitCount_le_of_fits fits)

end Product

/-- What is said of a product that was added. -/
def Response.TellsOf (response : Response) (n : Nat) : Prop :=
  ∃ members data : Json.Members, Json.read response.body = .ok (.obj members) ∧
    members.get? (Text.ofString "data") = some (.obj data) ∧
    data.get? (Text.ofString "id") = some (.int n)

theorem Response.TellsOf.unique {response : Response} {n m : Nat} (first : response.TellsOf n)
    (second : response.TellsOf m) : n = m := by
  obtain ⟨members, data, read, found, id⟩ := first
  obtain ⟨members', data', read', found', id'⟩ := second
  obtain rfl : members = members' := by simpa using read.symm.trans read'
  obtain rfl : data = data' := by simpa using found.symm.trans found'
  have same : (n : Int) = m := by simpa using id.symm.trans id'
  exact Int.ofNat.inj same

/-- What is shown of a product that was added with some fields. -/
structure Json.Members.ShowsProduct (members : Json.Members) (n : Nat) (fields : Json.Members) :
    Prop where
  id : members.get? (Text.ofString "id") = some (.int n)
  title : ∃ t, fields.submitted "title" = .str t ∧
    members.get? (Text.ofString "title") = some (.str t.strip)
  sku : ∃ kept, (fields.submitted "sku").StripsTo kept ∧
    members.get? (Text.ofString "sku") = some (Product.optionalText kept)
  description : ∃ kept, (fields.submitted "description").StripsTo kept ∧
    members.get? (Text.ofString "description") = some (Product.optionalText kept)
  stock : ∃ count, (fields.submitted "stock").count? = some count ∧
    members.get? (Text.ofString "stock") = some (.int count)
  isActive : ∃ b, (fields.submitted "is_active").activity? = some b ∧
    members.get? (Text.ofString "is_active") = some (.bool b)

theorem Product.IsMadeOf.shows {product : Product} {fields : Json.Members}
    (made : product.IsMadeOf fields) :
    ∃ members : Json.Members, product.summary.json = .obj members ∧
      members.ShowsProduct product.id fields := by
  obtain ⟨t, submitted, title⟩ := made.title
  obtain ⟨count, counted, stock⟩ := made.stock
  refine ⟨_, rfl, rfl, ⟨t, submitted, ?_⟩, ⟨product.sku, made.sku, rfl⟩,
    ⟨product.description, made.description, rfl⟩, ⟨count, counted, ?_⟩,
    ⟨product.isActive, made.isActive, rfl⟩⟩
  · rw [← title]
    rfl
  · exact congrArg (fun stock : Stock => some stock.json) stock

/-- What is written of a plain value in a response is read back from it. -/
theorem Response.read_json (status : Nat) {value : Json} (plain : value.IsPlain) :
    Json.read (Response.json status value).body = .ok value ∧
      (Response.json status value).body.IsAscii := by
  constructor
  · exact Json.read_print plain (by decide)
  · exact (Json.isAscii_print plain).append (by decide)

namespace Shop

variable {start changed after : Shop} {request : Request} {product : Product}

/-! ### Rows that stay -/

/-- A shop has a product when there is a row of it. -/
def Has (shop : Shop) (product : Product) : Prop :=
  ∃ products, shop.store.products = some products ∧ product ∈ products

theorem Handles.has {answer : Answer} (has : start.Has product)
    (h : start.Handles request answer changed) : changed.Has product := by
  obtain ⟨products, table, mem⟩ := has
  -- A view adds a row behind the others at most.
  rcases h.serves_or_kept with ⟨visit, response, -, -, serves⟩ | ⟨rfl, -⟩
  · rcases serves.products with ⟨-, -, -, others, new, others_eq, changed_eq⟩ | ⟨-, same⟩
    · obtain rfl : products = others := Option.some.inj (table.symm.trans others_eq)
      exact ⟨_, changed_eq, List.mem_append_left _ mem⟩
    · exact ⟨products, same.trans table, mem⟩
  · exact ⟨products, table, mem⟩

/-- A row stays in every step that takes none away. -/
theorem isKept_has (product : Product) :
    IsKept Step.keepsRows fun shop => shop.Has product where
  alike a b like has := by
    obtain ⟨products, table, mem⟩ := has
    exact ⟨products, like.store ▸ table, mem⟩
  moves start step changed keeps has moves := by
    obtain ⟨products, table, mem⟩ := has
    cases moves with
    | handled handles => exact handles.has ⟨products, table, mem⟩
    | tableDropped dropped => exact keeps.elim
    | rowDeleted => exact keeps.elim
    | tablesMade made =>
      refine ⟨products, ?_, mem⟩
      rw [(Store.makeTables_eq_ok made).2.1, table, Option.getD_some]
    | @productAdded _ new isNew =>
      refine ⟨products ++ [new], ?_, List.mem_append_left _ mem⟩
      rw [Store.products_putProduct, table, Option.map_some]
    | _ => exact ⟨products, table, mem⟩

/-- A row is found by its number, which fits. -/
theorem find?_of_has (numbered : start.store.IsNumbered) (has : start.Has product) :
    product.id ≤ Store.maxId ∧ ∃ products, start.store.products = some products ∧
      products.find? (fun other => (other.id : Int) = product.id) = some product := by
  obtain ⟨products, table, mem⟩ := has
  have numbers := numbered.products
  rw [table, Option.getD_some] at numbers
  exact ⟨numbers.le product.id (List.mem_map_of_mem mem), products, table, numbers.find? mem⟩

/-! ### Products that are shown -/

/-- The response to a request for a product that there is not. -/
def missingResponse : Response :=
  .json 404 <| .obj [(Text.ofString "message", .str (Text.ofString "Product not found"))]

/-- The response to what has been found. -/
def foundResponse : Option Product → Response
  | some product => .json 200 product.summary.json
  | none => missingResponse

theorem showProduct_eq (id : Nat) : showProduct id = foundResponse <$> findProduct id := by
  rw [← bind_pure_comp]
  refine bind_congr fun found => ?_
  cases found <;> rfl

theorem exists_gives_findProduct {id : Int} {products : List Product}
    (outage : start.outage = false) (table : start.store.products = some products)
    (fits : Cell.fits id = true) :
    ∃ after, (findProduct id).Gives start
      (products.find? fun product => (product.id : Int) = id) after := by
  have has : start.store.has .products = true := by simp [Store.has, table]
  have taken : (Store.productById id).values = .ok () := if_pos fits
  have effect : (Store.productById id).effect () start.store =
      .ok (products.find? (fun product => (product.id : Int) = id), start.store) :=
    Store.effect_productById.2 ⟨⟨products, table, rfl⟩, rfl⟩
  obtain ⟨after, called, -⟩ := exists_gives_call (Store.productById id) outage has taken effect
  exact ⟨after, gives_guarded_iff.2 called⟩

/-- While the database can be reached and has its products, a number that fits is answered with what
is found. -/
theorem answer_of_fits {n : Nat} {products : List Product} (outage : start.outage = false)
    (table : start.store.products = some products) (fits : Cell.fits n = true)
    (asks : request.AsksForProduct n) :
    (start.step (.request request)).answer =
      .response (foundResponse (products.find? fun product => (product.id : Int) = n)) := by
  obtain ⟨⟨target, key, visited⟩, noHead⟩ := asks.visited
  obtain ⟨after, asked⟩ := exists_gives_findProduct outage table fits
  have shown : (view (.product n) key request.body).Gives start
      (foundResponse (products.find? fun product => (product.id : Int) = n)) after := by
    change (showProduct n).Gives start _ after
    rw [showProduct_eq, gives_map_iff]
    exact ⟨_, asked, rfl⟩
  rw [step_of_gives_view visited shown, Request.delivered, noHead]
  rfl

/-- While the database can be reached, a product that has a row is shown to everybody. -/
theorem answer_of_asksForProduct (outage : start.outage = false)
    (numbered : start.store.IsNumbered) (has : start.Has product)
    (asks : request.AsksForProduct product.id) :
    (start.step (.request request)).answer = .response (.json 200 product.summary.json) := by
  -- The number of the row fits, so it can be asked for, and it is the number of no other row.
  obtain ⟨le, products, table, found⟩ := find?_of_has numbered has
  rw [answer_of_fits outage table (Cell.fits_ofNat le) asks, found]
  rfl

/-- The response to a product that was added tells of its number. -/
theorem tellsOf_createdResponse (written : product.IsWritten) (le : product.id ≤ Store.maxId) :
    (createdResponse product).TellsOf product.id := by
  have distinct : (["id", "title"].map Text.ofString).Nodup ∧
      (["data", "message"].map Text.ofString).Nodup := by
    decide
  have data : Json.IsPlain (.obj [(Text.ofString "id", .int product.id),
      (Text.ofString "title", .str product.title)]) := by
    refine .obj ?_ distinct.1 ?_
    · simp only [List.forall_mem_cons, List.not_mem_nil, false_implies, implies_true, and_true]
      decide
    · simp only [List.forall_mem_cons, List.not_mem_nil, false_implies, implies_true, and_true]
      exact ⟨.int (digitCount_le_of_le_maxId le), .str written.title⟩
  have plain : Json.IsPlain (.obj [(Text.ofString "data", .obj [
      (Text.ofString "id", .int product.id), (Text.ofString "title", .str product.title)]),
      (Text.ofString "message", .str (Text.ofString "created"))]) := by
    refine .obj ?_ distinct.2 ?_
    · simp only [List.forall_mem_cons, List.not_mem_nil, false_implies, implies_true, and_true]
      decide
    · simp only [List.forall_mem_cons, List.not_mem_nil, false_implies, implies_true, and_true]
      exact ⟨data, .str (by decide)⟩
  exact ⟨_, _, (Response.read_json 201 plain).1, rfl, rfl⟩

/-- A product that was added by a request is shown as it was submitted, to whoever asks for it while
the database can be reached, whatever happens in between but that a row or a table is taken away. -/
theorem shows_submitted {config : Config} {shop : Shop}
    (reachable : shop.IsReachable (fun _ => True) config) {request : Request} {created : Response}
    (answered : (shop.step (.request request)).answer = .response created)
    (status : created.status = 201) :
    ∃ n : Nat, created.TellsOf n ∧
      ∀ later : List Step, (∀ step ∈ later, step.keepsRows) →
        let last := ((shop.step (.request request)).shop.run later).2
        last.outage = false → ∀ asking : Request, asking.AsksForProduct n →
          ∃ (shown : Response) (members : Json.Members),
            (last.step (.request asking)).answer = .response shown ∧ shown.status = 200 ∧
              shown.body.IsAscii ∧ Json.read shown.body = .ok (.obj members) ∧
              members.ShowsProduct n request.body.fields := by
  obtain ⟨visit, product, visited, view, rfl, made, written, isNew, like⟩ :=
    exists_created_of_status answered status
  rw [delivered_of_addProduct visited view]
  refine ⟨product.id, tellsOf_createdResponse written isNew.id_le, fun later keeps => ?_⟩
  intro last outage asking asks
  -- The row is there after the request, and stays.
  have has : (shop.step (.request request)).shop.Has product := by
    obtain ⟨products, table, -⟩ := isNew.products
    refine ⟨products ++ [product], ?_, by simp⟩
    rw [like.store, Store.products_putProduct, table, Option.map_some]
  have kept : last.Has product := (isKept_has product).run has keeps
  have numbered : last.store.IsNumbered := by
    have before : shop.store.IsNumbered :=
      isKept_isNumbered.of_isReachable (fun _ opened => opened.store ▸ .empty) reachable
    exact isKept_isNumbered.run (isKept_isNumbered.step before trivial) fun _ _ => trivial
  obtain ⟨members, summary, shows⟩ := made.shows
  obtain ⟨read, ascii⟩ :=
    Response.read_json 200 (Product.isPlain_summary written isNew.id_le)
  exact ⟨_, members, answer_of_asksForProduct outage numbered kept asks, rfl, ascii,
    read.trans (congrArg Except.ok summary), shows⟩

/-- A lamp with a title that needs escapes of all kinds. -/
def forLamp : Request :=
  .ofForm "a" "/products" [("title", " L\"amp\té😀 "), ("price", "9.99")]

/-- The lamp's title comes through an outage and is shown to another browser. -/
theorem shows_submitted_lamp :
    ∃ (created shown : Response) (members : Json.Members),
      (withUser.step (.request forLamp)).answer = .response created ∧ created.status = 201 ∧
        (((withUser.step (.request forLamp)).shop.run [.setOutage true, .setOutage false]).2.step
          (.request (.forPage "b" "/products/1"))).answer = .response shown ∧ shown.status = 200 ∧
        shown.body.IsAscii ∧ Json.read shown.body = .ok (.obj members) ∧
        members.ShowsProduct 1 forLamp.body.fields := by
  let lamp : Product :=
    { id := 1, title := Text.ofString "L\"amp\té😀", sku := none, description := none
      price := .zero false, stock := .whole 0, isActive := true }
  have answered : (withUser.step (.request forLamp)).answer =
      .response (createdResponse lamp) := rfl
  obtain ⟨n, tells, shows⟩ := shows_submitted isReachable_withUser answered rfl
  -- The number that the response tells is one.
  have written : lamp.IsWritten := ⟨by decide, nofun, nofun, ⟨0, rfl, by decide⟩⟩
  obtain rfl := tells.unique (tellsOf_createdResponse written (by decide))
  have asks : (Request.forPage "b" "/products/1").AsksForProduct 1 :=
    ⟨_, [1], rfl, by decide, by decide, by decide, by decide, by decide, by decide⟩
  obtain ⟨shown, members, rest⟩ := shows [.setOutage true, .setOutage false]
    (by simp [Step.keepsRows]) rfl (.forPage "b" "/products/1") asks
  exact ⟨_, shown, members, answered, rfl, rest⟩

end Shop

end Storefront
