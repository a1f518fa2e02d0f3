import Storefront.Proofs.Rounding
import Storefront.Proofs.Shown

/-!
# The prices that are shown

A price is judged as a decimal of any size, kept as a double and shown with two places. Every row
that requests have made has a price that was accepted, so it is neither negative nor NaN. It is
finite too wherever the decimal is below the bound of the doubles; a decimal beyond that is accepted
as well, and shown as an infinity.

## Main definitions

* `Text.IsAmount` — texts that write a number with two places and no sign

## Main results

* `Product.cents_of_accepted` — what an accepted price is shown as
* `Shop.exists_submission` — a row that was made by a run of requests was submitted by one of them
* `Shop.shows_price` — the price that is shown after a run of requests
* `Shop.not_always_amount` — it need not be finite
-/

namespace Storefront

open Service

/-! ### Amounts -/

/-- A text that writes a number that is not below zero, with exactly two places. -/
def Text.IsAmount (t : Text) : Prop :=
  ∃ whole tens ones : Nat, tens < 10 ∧ ones < 10 ∧
    t = Text.ofNat whole ++ ('.' : CodePoint) :: [.ofNat (0x30 + tens), .ofNat (0x30 + ones)]

/-- The name of the infinity begins with no digit. -/
theorem Text.not_isAmount_infinity : ¬(Text.ofString "Infinity").IsAmount := by
  rintro ⟨whole, tens, ones, -, -, same⟩
  cases digits : Text.ofNat whole with
  | nil => exact Text.ofNat_ne_nil whole digits
  | cons first rest =>
    have digit := Text.ascii_of_mem_ofNat (n := whole) (digits ▸ List.mem_cons_self)
    rw [digits] at same
    obtain rfl : ('I' : CodePoint) = first := (List.cons.inj same).1
    exact absurd digit (by decide)

theorem Binary64.isAmount_cents (significand : Nat) (exponent : Int) :
    (finite false significand exponent).cents.IsAmount := by
  let hundredths :=
    roundHalfEven (100 * (ratio significand exponent).1) (ratio significand exponent).2
  exact ⟨hundredths / 100, hundredths % 100 / 10, hundredths % 100 % 10, by omega, by omega, rfl⟩

/-- A double without a sign is kept without one. -/
theorem Store.keptPrice_finite {significand : Nat} {exponent : Int} {x : Binary64}
    (kept : keptPrice (.finite false significand exponent) = some x) :
    ∃ significand exponent, x = .finite false significand exponent := by
  obtain rfl := Option.some.inj kept
  split
  · exact ⟨_, _, rfl⟩
  · exact ⟨_, _, rfl⟩

namespace Product

/-- An accepted price is shown with two places if it is below the bound of the doubles, and as an
infinity otherwise. -/
theorem cents_of_accepted {value : Json} {d : Decimal} {x : Binary64}
    (accepted : judgePrice value = .accepted d) (kept : Store.keptPrice (.ofDecimal d) = some x) :
    (d.value < Binary64.overflow → x.cents.IsAmount) ∧
      (Binary64.overflow ≤ d.value → x.cents = Text.ofString "Infinity") := by
  obtain ⟨finite, nonneg⟩ := judgePrice_eq_accepted accepted
  cases d with
  | infinite negative => cases finite
  | nan negative signaling payload => cases finite
  | finite negative coefficient exponent =>
    cases negative with
    | true =>
      -- Of the decimals with a sign only zeros are accepted, and these lose it.
      obtain rfl : coefficient = 0 := by simpa [Decimal.isBelowZero] using nonneg
      obtain rfl : Binary64.zero false = x := Option.some.inj kept
      have value : Decimal.value (.finite true 0 exponent) = 0 := by simp [Decimal.value]
      rw [value]
      refine ⟨fun _ => Binary64.isAmount_cents _ _, fun le => ?_⟩
      exact absurd le Binary64.overflow_pos.not_ge
    | false =>
      have value : Decimal.value (.finite false coefficient exponent) =
          coefficient * 10 ^ exponent := by
        simp [Decimal.value]
      rw [value]
      constructor
      · intro lt
        obtain ⟨significand, place, rounded⟩ := Binary64.ofScientific_of_lt_overflow false lt
        rw [Binary64.ofDecimal, rounded] at kept
        obtain ⟨_, _, rfl⟩ := Store.keptPrice_finite kept
        exact Binary64.isAmount_cents _ _
      · intro le
        rw [Binary64.ofDecimal, Binary64.ofScientific_of_overflow_le false le] at kept
        obtain rfl : Binary64.infinite false = x := Option.some.inj kept
        rfl

end Product

namespace Shop

variable {start changed : Shop} {product : Product} {request : Request}

/-! ### Runs of requests -/

/-- A row that is there after a request was there before it or has been submitted with it. -/
theorem has_or_isMadeOf_of_has (has : (start.step (.request request)).shop.Has product) :
    start.Has product ∨ product.IsMadeOf request.body.fields ∧ product.IsWritten := by
  obtain ⟨products, table, mem⟩ := has
  obtain ⟨changed, handles, like⟩ := start.exists_handles request
  rw [like.store] at table
  -- Only the answer for a new product goes with a new row.
  by_cases created : (start.step (.request request)).answer.status? = some 201
  · cases answered : (start.step (.request request)).answer with
    | response response =>
      rw [answered] at created
      obtain ⟨visit, new, -, -, -, made, written, isNew, like'⟩ :=
        exists_created_of_status answered (Option.some.inj created)
      -- The row is one of the old ones or the new one.
      obtain ⟨old, found, -⟩ := isNew.products
      have added : changed.store.products = some (old ++ [new]) := by
        rw [← like.store, like'.store, Store.products_putProduct, found, Option.map_some]
      obtain rfl : products = old ++ [new] := Option.some.inj (table.symm.trans added)
      rcases List.mem_append.1 mem with before | last
      · exact .inl ⟨old, found, before⟩
      · obtain rfl := List.mem_singleton.1 last
        exact .inr ⟨made, written⟩
    | _ =>
      rw [answered] at created
      cases created
  · have same : changed.store.products = start.store.products := by
      rcases handles.serves_or_kept with ⟨visit, response, -, status, serves⟩ | ⟨rfl, -⟩
      · rcases serves.products with ⟨isCreated, -⟩ | ⟨-, same⟩
        · rw [status, isCreated] at created
          exact absurd rfl created
        · exact same
      · rfl
    exact .inl ⟨products, same ▸ table, mem⟩

/-- A row that is there after a run of requests was there before it or has been submitted with one
of them, by induction on the requests. -/
theorem exists_submission {requests : List Request}
    (has : (start.run (requests.map Step.request)).2.Has product) :
    start.Has product ∨ ∃ request ∈ requests,
      product.IsMadeOf request.body.fields ∧ product.IsWritten := by
  induction requests generalizing start with
  | nil => exact .inl has
  | cons first rest ih =>
    rcases ih has with before | ⟨request, mem, made⟩
    · refine (has_or_isMadeOf_of_has before).imp id fun made => ?_
      exact ⟨first, List.mem_cons_self, made⟩
    · exact .inr ⟨request, List.mem_cons_of_mem first mem, made⟩

theorem Serves.outage_eq {key : Sessions.Key} {body : Body} {v : View} {response : Response}
    (serves : start.Serves key body v response changed) : changed.outage = start.outage := by
  cases serves <;> rfl

/-- No request takes the database away. -/
theorem isKept_connected :
    IsKept (fun step => ∃ request, step = .request request) fun shop => shop.outage = false where
  alike a b like opens := like.outage.trans opens
  moves start step changed isRequest opens moves := by
    obtain ⟨request, rfl⟩ := isRequest
    cases moves with
    | kept => exact opens
    | handled handles =>
      cases handles with
      | served visited serves => exact serves.outage_eq.trans opens
      | _ => exact opens

/-- After a run of requests every product is shown with the price that one of them has submitted:
with two places if it is below the bound of the doubles, and as an infinity otherwise. -/
theorem shows_price {config : Config} {outage : Bool} {opened : Shop}
    (started : (Shop.start config outage).1 = .ok opened) (requests : List Request)
    (has : (opened.run (requests.map Step.request)).2.Has product) {asking : Request}
    (asks : asking.AsksForProduct product.id) :
    ∃ submitted ∈ requests, ∃ (d : Decimal) (shown : Response) (members : Json.Members)
      (price : Text),
      Product.judgePrice (submitted.body.fields.submitted "price") = .accepted d ∧
        ((opened.run (requests.map Step.request)).2.step (.request asking)).answer =
          .response shown ∧
        shown.status = 200 ∧ Json.read shown.body = .ok (.obj members) ∧
        members.get? (Text.ofString "price") = some (.str price) ∧
        (d.value < Binary64.overflow → price.IsAmount) ∧
        (Binary64.overflow ≤ d.value → price = Text.ofString "Infinity") := by
  have isOpened := isOpened_of_start started
  have areRequests : ∀ step ∈ requests.map Step.request, ∃ request, step = .request request := by
    intro step mem
    obtain ⟨request, -, same⟩ := List.mem_map.1 mem
    exact ⟨request, same.symm⟩
  have numbered : (opened.run (requests.map Step.request)).2.store.IsNumbered :=
    isKept_isNumbered.run (isOpened.store ▸ .empty) fun _ _ => trivial
  have reached : (opened.run (requests.map Step.request)).2.outage = false :=
    isKept_connected.run isOpened.outage areRequests
  rcases exists_submission has with ⟨products, table, mem⟩ | ⟨submitted, mem, made, written⟩
  · -- There are no rows at first.
    rw [isOpened.store] at table
    obtain rfl : [] = products := Option.some.inj table
    cases mem
  · obtain ⟨d, accepted, kept⟩ := made.price
    have le : product.id ≤ Store.maxId := (find?_of_has numbered has).1
    have answered := answer_of_asksForProduct reached numbered has asks
    have read := (Response.read_json 200 (Product.isPlain_summary written le)).1
    exact ⟨submitted, mem, d, _, _, product.price.cents, accepted, answered, rfl, read, rfl,
      Product.cents_of_accepted accepted kept⟩

/-- A browser's login, and a product with a price beyond all doubles. -/
def costlyRequests : List Request :=
  [.forLogin "a" "a@example.com", .ofForm "a" "/products" [("title", "A"), ("price", "1e400")]]

/-- The row of that product. -/
def costly : Product where
  id := 1
  title := Text.ofString "A"
  sku := none
  description := none
  price := .infinite false
  stock := .whole 0
  isActive := true

theorem has_costly :
    (forTests.run (costlyRequests.map Step.request)).2.Has costly :=
  ⟨[costly], rfl, List.mem_singleton_self _⟩

theorem asksFor_costly : (Request.forPage "b" "/products/1").AsksForProduct 1 :=
  ⟨_, [1], rfl, by decide, by decide, by decide, by decide, by decide, by decide⟩

/-- The price of that product is shown as an infinity. -/
theorem shows_price_costly :
    (Shop.start (Config.forTests {}) false).1 = .ok forTests ∧
      ∃ (shown : Response) (members : Json.Members),
        ((forTests.run (costlyRequests.map Step.request)).2.step
          (.request (.forPage "b" "/products/1"))).answer = .response shown ∧
        Json.read shown.body = .ok (.obj members) ∧
        members.get? (Text.ofString "price") = some (.str (Text.ofString "Infinity")) := by
  have started : (Shop.start (Config.forTests {}) false).1 = .ok forTests := rfl
  obtain ⟨submitted, mem, d, shown, members, price, accepted, answered, -, read, priced, -, beyond⟩ :=
    shows_price started costlyRequests has_costly asksFor_costly
  refine ⟨started, shown, members, answered, read, ?_⟩
  rw [priced, beyond]
  -- The price is the one of the second request, since no price came with the login.
  rcases List.mem_cons.1 mem with rfl | mem
  · have missing : Product.judgePrice ((Request.forLogin "a" "a@example.com").body.fields.submitted
        "price") = .refused .priceRequired := rfl
    rw [missing] at accepted
    cases accepted
  · obtain rfl := List.mem_singleton.1 mem
    have given : Product.judgePrice ((Request.ofForm "a" "/products"
        [("title", "A"), ("price", "1e400")]).body.fields.submitted "price") =
        .accepted (.finite false 1 400) := rfl
    rw [given] at accepted
    obtain rfl := Product.Verdict.accepted.inj accepted
    have value : Decimal.value (.finite false 1 400) = 10 ^ (400 : ℤ) := by simp [Decimal.value]
    rw [value]
    exact Binary64.overflow_lt_pow.le.trans (zpow_le_zpow_right₀ (by norm_num) (by decide))

/-- A price that was accepted is not always shown as a finite number. -/
theorem not_always_amount :
    ¬∀ (config : Config) (outage : Bool) (opened : Shop),
      (Shop.start config outage).1 = .ok opened → ∀ (requests : List Request) (product : Product),
        (opened.run (requests.map Step.request)).2.Has product → ∀ asking : Request,
          asking.AsksForProduct product.id → ∀ (shown : Response) (members : Json.Members)
            (price : Text),
            ((opened.run (requests.map Step.request)).2.step (.request asking)).answer =
              .response shown → Json.read shown.body = .ok (.obj members) →
              members.get? (Text.ofString "price") = some (.str price) → price.IsAmount := by
  intro always
  have written : costly.IsWritten := ⟨by decide, nofun, nofun, ⟨0, rfl, by decide⟩⟩
  have read := (Response.read_json 200 (Product.isPlain_summary written (by decide))).1
  have amount := always (Config.forTests {}) false forTests rfl costlyRequests costly
    has_costly (.forPage "b" "/products/1") asksFor_costly
    (.json 200 costly.summary.json) _ _ rfl read rfl
  exact Text.not_isAmount_infinity amount

end Shop

end Storefront
