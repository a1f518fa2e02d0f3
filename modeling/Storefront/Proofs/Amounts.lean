import Storefront.Proofs.RoundTrip
import Storefront.Proofs.Shown

/-!
# Amounts of money

An amount below a hundred million, in hundredths, is shown as it was submitted, however it was
written: with a point or an exponent, with underscores or blanks, as a text or as a number of JSON.
On its way a price is rounded to the nearest double and then to two places. A number of JSON has
been rounded before, when it was read, but its text leads back to the very same double. Doubles of
that size lie so close to each other that the first rounding never moves an amount by half a
hundredth.

## Main definitions

* `Text.amount` — a number of hundredths with two places
* `Json.IsCents` — the values that submit a number of hundredths

## Main results

* `Binary64.cents_of_near` — a double that is near to a number of hundredths is shown as it
* `Binary64.near_of_value` — the double nearest to a number of hundredths is near enough
* `Product.cents_of_isCents` — what is kept of a price is shown as it was submitted
* `Shop.shows_amount` — so is a product that was added
-/

namespace Storefront

open Service

/-- A number of hundredths, written with two places. -/
def Text.amount (k : Nat) : Text :=
  Text.ofNat (k / 100) ++
    ('.' : CodePoint) :: [.ofNat (0x30 + k % 100 / 10), .ofNat (0x30 + k % 100 % 10)]

/-- A finite decimal of so many hundredths. -/
def Decimal.IsCents (d : Decimal) (k : Nat) : Prop := d.isFinite = true ∧ d.value = k / 100

/-- Such a decimal is not below zero, and only zero can have a sign. -/
theorem Decimal.IsCents.exists_eq {d : Decimal} {k : Nat} (h : d.IsCents k) :
    ∃ negative coefficient exponent, d = .finite negative coefficient exponent ∧
      (coefficient * 10 ^ exponent : ℚ) = k / 100 ∧ (negative = true → coefficient = 0) := by
  obtain ⟨finite, value⟩ := h
  cases d with
  | infinite negative => cases finite
  | nan negative signaling payload => cases finite
  | finite negative coefficient exponent =>
    refine ⟨negative, coefficient, exponent, rfl, ?_⟩
    cases negative with
    | false => exact ⟨by simp [← value, Decimal.value], nofun⟩
    | true =>
      have negated : -(coefficient * 10 ^ exponent : ℚ) = k / 100 := by
        simp [← value, Decimal.value]
      have nonneg : (0 : ℚ) ≤ coefficient * 10 ^ exponent :=
        mul_nonneg (Nat.cast_nonneg _) (zpow_nonneg (by norm_num) _)
      have nonneg' : (0 : ℚ) ≤ k / 100 := by positivity
      have none : (coefficient * 10 ^ exponent : ℚ) = 0 := by
        linarith only [nonneg, nonneg', negated]
      refine ⟨by linarith only [none, negated], fun _ => ?_⟩
      simpa [zpow_ne_zero] using none

/-- A value that submits a number of hundredths: a text that writes it, an integer that equals it,
or a double that it was rounded to when it was read. -/
def Json.IsCents (k : Nat) : Json → Prop
  | .str t => ∃ d, Decimal.read t = .ok d ∧ d.IsCents k
  | .int n => 100 * n = k
  | .float x => ∃ d : Decimal, x = .ofDecimal d ∧ d.IsCents k
  | _ => False

/-! ### Numbers of JSON -/

namespace Binary64

variable {significand coefficient k : Nat} {exponent place : ℤ}

/-! ### Doubles and hundredths -/

/-- A double that is less than half a hundredth away from a number of hundredths is shown as it. -/
theorem cents_of_near (near : |(significand * 2 ^ exponent : ℚ) - k / 100| < 1 / 200) :
    (finite false significand exponent).cents = Text.amount k := by
  have pos : 0 < (ratio significand exponent).2 := Nat.pow_pos (by decide)
  have hundredths :
      roundHalfEven (100 * (ratio significand exponent).1) (ratio significand exponent).2 = k := by
    refine roundHalfEven_eq_of_near pos ?_
    rw [Nat.cast_mul, mul_div_assoc, ratio_eq_value]
    rw [abs_lt] at near ⊢
    constructor
    · push_cast
      linarith only [near.1]
    · push_cast
      linarith only [near.2]
  unfold cents
  dsimp only
  rw [hundredths]
  rfl

theorem cents_lt (lt : k < 10 ^ 10) : (k / 100 : ℚ) < 10 ^ 8 := by
  have lt : (k : ℚ) < 10 ^ 10 := by exact_mod_cast lt
  rw [div_lt_iff₀ (by norm_num)]
  linarith only [lt]

theorem cents_lt_overflow (lt : k < 10 ^ 10) : (k / 100 : ℚ) < overflow := by
  calc (k / 100 : ℚ) < 10 ^ 8 := cents_lt lt
    _ ≤ 2 ^ (27 : ℤ) := by norm_num
    _ ≤ 2 ^ (1023 : ℤ) := zpow_le_zpow_right₀ one_le_two (by decide)
    _ < overflow := lt_overflow

/-- Below a hundred million doubles lie so close to each other that the one nearest to a number of
hundredths is nowhere near any other. -/
theorem near_of_value (lt : k < 10 ^ 10) (same : (coefficient * 10 ^ place : ℚ) = k / 100) :
    ∃ significand exponent,
      ofScientific false coefficient place = .finite false significand exponent ∧
        |(significand * 2 ^ exponent : ℚ) - k / 100| < 1 / 200 := by
  have finite : (coefficient * 10 ^ place : ℚ) < overflow := same ▸ cents_lt_overflow lt
  obtain ⟨significand, exponent, rounded⟩ := ofScientific_of_lt_overflow false finite
  refine ⟨significand, exponent, rounded, ?_⟩
  have near := abs_ofScientific_sub_le rounded
  rw [same] at near
  -- A number below the twenty-seventh power of two has twenty-six places behind the point.
  have last : lastPlace (k / 100) ≤ -26 := by
    rcases Nat.eq_zero_or_pos k with rfl | pos
    · simp [lastPlace, minExponent]
    · have pos : (0 : ℚ) < k / 100 := by positivity
      have bits : Int.log 2 (k / 100 : ℚ) < 27 :=
        (lt_two_zpow_iff pos 27).1 ((cents_lt lt).trans (by norm_num))
      unfold lastPlace minExponent
      omega
  calc |(significand * 2 ^ exponent : ℚ) - k / 100|
      ≤ 2 ^ lastPlace (k / 100) / 2 := near
    _ ≤ 2 ^ (-26 : ℤ) / 2 := by
        have unit : (2 : ℚ) ^ lastPlace (k / 100) ≤ 2 ^ (-26 : ℤ) :=
          zpow_le_zpow_right₀ one_le_two last
        linarith only [unit]
    _ < 1 / 200 := by norm_num

/-- A decimal of so many hundredths is rounded to a double that the format has. -/
theorem exists_ofDecimal_eq {d : Decimal} (lt : k < 10 ^ 10) (isCents : d.IsCents k) :
    ∃ negative significand exponent, ofDecimal d = .finite negative significand exponent ∧
      IsCanonical significand exponent := by
  obtain ⟨negative, coefficient, place, rfl, same, -⟩ := isCents.exists_eq
  have finite : (coefficient * 10 ^ place : ℚ) < overflow := same ▸ cents_lt_overflow lt
  obtain ⟨significand, exponent, rounded⟩ := ofScientific_of_lt_overflow negative finite
  exact ⟨negative, significand, exponent, rounded, (isCanonical_ofScientific rounded).2⟩

end Binary64

namespace Product

variable {value : Json} {d : Decimal} {x : Binary64} {k : Nat}

/-! ### Prices -/

/-- A decimal of so many hundredths is shown as these. -/
theorem cents_of_value (lt : k < 10 ^ 10) (isCents : d.IsCents k)
    (kept : Store.keptPrice (.ofDecimal d) = some x) : x.cents = Text.amount k := by
  obtain ⟨negative, coefficient, place, rfl, same, unsigned⟩ := isCents.exists_eq
  cases negative with
  | true =>
    obtain rfl : coefficient = 0 := unsigned rfl
    obtain rfl : Binary64.zero false = x := Option.some.inj kept
    refine Binary64.cents_of_near ?_
    rw [← same]
    norm_num
  | false =>
    obtain ⟨significand, exponent, rounded, near⟩ := Binary64.near_of_value lt same
    rw [Binary64.ofDecimal, rounded] at kept
    obtain rfl := Option.some.inj kept
    -- A zero is kept as the one zero that there is.
    split
    next zero =>
      refine Binary64.cents_of_near ?_
      rw [eq_of_beq zero] at near
      rwa [Nat.cast_zero, zero_mul] at near ⊢
    next => exact Binary64.cents_of_near near

/-- The decimal that is read of a submitted value is rounded to the same double as the number of
hundredths that it submits. -/
theorem exists_isCents (lt : k < 10 ^ 10) (isCents : value.IsCents k)
    (written : decimal? value = some d) :
    ∃ d₀ : Decimal, d₀.IsCents k ∧ Binary64.ofDecimal d = .ofDecimal d₀ := by
  cases value with
  | str t =>
    obtain ⟨d₀, read, isCents⟩ := isCents
    rw [decimal?, read] at written
    obtain rfl := Option.some.inj written
    exact ⟨d₀, isCents, rfl⟩
  | int n =>
    change 100 * n = k at isCents
    obtain ⟨m, rfl⟩ := Int.eq_ofNat_of_zero_le (show 0 ≤ n by omega)
    have short : digitCount m ≤ 8 :=
      (Nat.length_toDigits_le_iff (by decide) (by decide)).2 (by omega)
    have bound : (8 : ℤ) ≤ Decimal.maxExponent := by decide
    have read : Decimal.read (Text.ofInt m) = .ok (.finite false m 0) :=
      Decimal.read_ofNat (by omega)
    rw [decimal?, read] at written
    obtain rfl := Option.some.inj written
    refine ⟨_, ⟨rfl, ?_⟩, rfl⟩
    have hundred : (100 * m : ℚ) = k := by exact_mod_cast isCents
    simp [Decimal.value, ← hundred]
  | float x =>
    obtain ⟨d₀, rfl, isCents⟩ := isCents
    obtain ⟨negative, significand, exponent, rounded, canonical⟩ :=
      Binary64.exists_ofDecimal_eq lt isCents
    obtain ⟨shown, read, back⟩ := Binary64.read_text canonical negative
    rw [decimal?, rounded, read] at written
    obtain rfl := Option.some.inj written
    exact ⟨d₀, isCents, back.trans rounded.symm⟩
  | _ => exact isCents.elim

/-- What is kept of a price is shown as it was submitted. -/
theorem cents_of_isCents (lt : k < 10 ^ 10) (isCents : value.IsCents k)
    (accepted : judgePrice value = .accepted d)
    (kept : Store.keptPrice (.ofDecimal d) = some x) : x.cents = Text.amount k := by
  obtain ⟨-, written, -⟩ := judgePrice_eq_accepted_iff.1 accepted
  obtain ⟨d₀, isCents, same⟩ := exists_isCents lt isCents written
  rw [same] at kept
  exact cents_of_value lt isCents kept

end Product

namespace Shop

variable {shop : Shop} {request : Request} {created : Response}

/-! ### Products that were added -/

/-- The row of a product that was added by a request is what is shown of it from then on, while no
row is deleted, no table is dropped and the database can be reached. -/
theorem exists_row_of_created {config : Config}
    (reachable : shop.IsReachable (fun _ => True) config)
    (answered : (shop.step (.request request)).answer = .response created)
    (status : created.status = 201) :
    ∃ product : Product, product.IsMadeOf request.body.fields ∧ created.TellsOf product.id ∧
      ∀ later : List Step, (∀ step ∈ later, step.keepsRows) →
        let last := ((shop.step (.request request)).shop.run later).2
        last.outage = false → ∀ asking : Request, asking.AsksForProduct product.id →
          ∃ shown : Response, (last.step (.request asking)).answer = .response shown ∧
            shown.status = 200 ∧ Json.read shown.body = .ok product.summary.json := by
  obtain ⟨visit, product, visited, view, rfl, made, written, isNew, like⟩ :=
    exists_created_of_status answered status
  rw [delivered_of_addProduct visited view]
  refine ⟨product, made, tellsOf_createdResponse written isNew.id_le, fun later keeps => ?_⟩
  intro last outage asking asks
  have has : (shop.step (.request request)).shop.Has product := by
    obtain ⟨products, table, -⟩ := isNew.products
    refine ⟨products ++ [product], ?_, by simp⟩
    rw [like.store, Store.products_putProduct, table, Option.map_some]
  have kept : last.Has product := (isKept_has product).run has keeps
  have numbered : last.store.IsNumbered := by
    have before : shop.store.IsNumbered :=
      isKept_isNumbered.of_isReachable (fun _ opened => opened.store ▸ .empty) reachable
    exact isKept_isNumbered.run (isKept_isNumbered.step before trivial) fun _ _ => trivial
  exact ⟨_, answer_of_asksForProduct outage numbered kept asks, rfl,
    (Response.read_json 200 (Product.isPlain_summary written isNew.id_le)).1⟩

/-- A product that was added with a price of so many hundredths, however that was written, is shown
with this very amount. -/
theorem shows_amount {config : Config} (reachable : shop.IsReachable (fun _ => True) config)
    (answered : (shop.step (.request request)).answer = .response created)
    (status : created.status = 201) {k : Nat} (lt : k < 10 ^ 10)
    (submitted : (request.body.fields.submitted "price").IsCents k) :
    ∃ n : Nat, created.TellsOf n ∧
      ∀ later : List Step, (∀ step ∈ later, step.keepsRows) →
        let last := ((shop.step (.request request)).shop.run later).2
        last.outage = false → ∀ asking : Request, asking.AsksForProduct n →
          ∃ (shown : Response) (members : Json.Members),
            (last.step (.request asking)).answer = .response shown ∧ shown.status = 200 ∧
              Json.read shown.body = .ok (.obj members) ∧
              members.get? (Text.ofString "price") = some (.str (Text.amount k)) := by
  obtain ⟨product, made, tells, shows⟩ := exists_row_of_created reachable answered status
  obtain ⟨d, accepted, kept⟩ := made.price
  refine ⟨product.id, tells, fun later keeps => ?_⟩
  intro last outage asking asks
  obtain ⟨shown, answer, found, read⟩ := shows later keeps outage asking asks
  refine ⟨shown, _, answer, found, read, ?_⟩
  rw [← Product.cents_of_isCents lt submitted accepted kept]
  rfl

/-- A lamp with a price that is no double, as a number of JSON. -/
def forPricedLamp : Request where
  client := Text.ofString "a"
  method := Method.post.name
  target := Text.ofString "/products"
  body := .text (some (Text.ofString "application/json"))
    (Text.ofString "\x7b\"title\": \"Lamp\", \"price\": 115e-2\x7d")

/-- The lamp's price is shown to the cent. -/
theorem shows_amount_lamp :
    ∃ (created shown : Response) (members : Json.Members),
      (withUser.step (.request forPricedLamp)).answer = .response created ∧ created.status = 201 ∧
        (forPricedLamp.body.fields.submitted "price").IsCents 115 ∧
        (((withUser.step (.request forPricedLamp)).shop.run []).2.step
          (.request (.forPage "b" "/products/1"))).answer = .response shown ∧ shown.status = 200 ∧
        Json.read shown.body = .ok (.obj members) ∧
        members.get? (Text.ofString "price") = some (.str (Text.ofString "1.15")) := by
  let lamp : Product :=
    { id := 1, title := Text.ofString "Lamp", sku := none, description := none
      price := .zero false, stock := .whole 0, isActive := true }
  have answered : (withUser.step (.request forPricedLamp)).answer =
      .response (createdResponse lamp) := rfl
  have submitted : (forPricedLamp.body.fields.submitted "price").IsCents 115 :=
    ⟨.finite false 115 (-2), rfl, rfl, by norm_num [Decimal.value]⟩
  obtain ⟨n, tells, shows⟩ := shows_amount isReachable_withUser answered rfl (by decide) submitted
  have written : lamp.IsWritten := ⟨by decide, nofun, nofun, ⟨0, rfl, by decide⟩⟩
  obtain rfl := tells.unique (tellsOf_createdResponse written (by decide))
  have asks : (Request.forPage "b" "/products/1").AsksForProduct 1 :=
    Request.asksForProduct_of_path rfl rfl rfl rfl (by decide) rfl
  obtain ⟨shown, members, rest⟩ := shows [] (by simp) rfl (.forPage "b" "/products/1") asks
  exact ⟨_, shown, members, answered, rfl, submitted, rest⟩

end Shop

end Storefront
