import Storefront.Proofs.Live
import Storefront.Proofs.Paths
import Storefront.Proofs.Shown

/-!
# Products by their numbers

The path of a product ends with its number, in decimal digits of any script and with as many zeros
in front as one likes. Whatever these digits are, they go through every reading of the address as
they are, and all that counts is the number that they write: the row with that number is shown, and
there is word that there is none. But a number that is too wide for the store cannot be asked for,
and the fault of the look-up is dealt with by nobody.

## Main definitions

* `Request.forProduct` — a browser's request for the product with a number in some digits
* `Shop.wideFault` — the fault of a query with a number that is too wide

## Main results

* `Request.asksForProduct_forProduct` — digits of any script ask for the number that they write
* `Shop.answer_of_forProduct` — the answers to all digits
-/

namespace Storefront

open Service

/-! ### Digits in a path -/

/-- A digit stands for itself in a path, whatever script it is of. -/
theorem CodePoint.isPathPart_of_isDigit {c : CodePoint} (h : c.isDigit = true) :
    c.isPathPart = true := by
  -- Digits beyond ASCII lie outside of the surrogates, whichever zero they follow.
  have place : (0x30 ≤ c.toNat ∧ c.toNat ≤ 0x39) ∨
      (0x80 ≤ c.toNat ∧ (c.toNat < 0xD800 ∨ 0xDFFF < c.toNat)) := by
    rw [isDigit, digit?] at h
    split at h
    next =>
      unfold asciiDigit? at h
      split at h
      next ascii =>
        left
        simpa using ascii
      next => cases h
    next beyond =>
      rw [Option.isSome_map, List.find?_isSome] at h
      obtain ⟨base, mem, near⟩ := h
      simp only [Bool.and_eq_true, decide_eq_true_eq] at near
      have apart : ∀ base ∈ zeroDigits, base + 10 ≤ 0xD800 ∨ 0xDFFF < base := by decide
      have := apart base mem
      omega
  have special : ∀ d ∈ Text.ofString "\t\n\r?#%", d.toNat < 0x30 ∨ d.toNat = 0x3F := by decide
  rw [isPathPart, Bool.and_eq_true, Bool.not_eq_true', Bool.not_eq_true']
  constructor
  · rw [isSurrogate, Bool.and_eq_false_iff, decide_eq_false_iff_not, decide_eq_false_iff_not]
    omega
  · rw [List.contains_eq_mem, decide_eq_false_iff_not]
    intro mem
    have := special c mem
    omega

/-- The path of a product whose number is written in some digits. -/
theorem Text.isPlainPath_product {d : Text} (digits : ∀ c ∈ d, c.isDigit = true) :
    (Text.ofString "/products/" ++ d).IsPlainPath where
  parts c mem := by
    rcases List.mem_append.1 mem with known | written
    · have all : ∀ c ∈ Text.ofString "/products/", c.isPathPart = true := by decide
      exact all c known
    · exact CodePoint.isPathPart_of_isDigit (digits c written)
  start := by
    have other : ('p' : CodePoint) ≠ '/' := by decide
    exact ⟨Text.ofString "products/" ++ d, rfl, fun same => other (Option.some.inj same)⟩

/-- A browser's request for the product with a number in some digits. -/
def Request.forProduct (client digits : Text) : Request where
  client := client
  method := Method.get.name
  target := Text.ofString "/products/" ++ digits
  body := .form none []

/-- Digits of any script ask for the number that they write. -/
theorem Request.asksForProduct_forProduct (client : Text) {d : Text} (nonempty : d ≠ [])
    (digits : ∀ c ∈ d, c.isDigit = true) (short : d.length ≤ Integer.maxDigits) :
    (Request.forProduct client d).AsksForProduct
      (valueOfDigits (d.filterMap CodePoint.digit?)) := by
  have plain := Text.isPlainPath_product digits
  have length : (d.filterMap CodePoint.digit?).length = d.length :=
    List.filterMap_length_eq_length.2 digits
  have written : Pattern.productDigits? (Text.ofString "/products/" ++ d) =
      some (d.filterMap CodePoint.digit?) :=
    (productDigits?_append nonempty).trans (mapM_digit?_of_isDigit digits)
  exact ⟨Target.usual _, _, Request.read_of_isPlainPath plain rfl, rfl, rfl, rfl, written,
    length ▸ short, rfl⟩

namespace Shop

variable {shop : Shop} {request : Request} {products : List Product} {n : Nat}

/-! ### Numbers that are too wide -/

/-- The fault of a query with a number that is too wide for the store. A fault that is left on the
connection is told instead, if the query has been prepared there before. -/
def wideFault (shop : Shop) (query : Statement) : Fault :=
  (if shop.prepared.contains query then shop.left else none).getD .integerTooWide

/-- A number that is too wide is answered with a fault. -/
theorem answer_of_not_fits (live : shop.IsLive) (table : shop.store.products = some products)
    (wide : ¬Cell.fits n = true) (asks : request.AsksForProduct n) :
    (shop.step (.request request)).answer =
      (Step.request request).answerTo shop (shop.wideFault .productById) := by
  obtain ⟨⟨target, key, visited⟩, -⟩ := asks.visited
  have ready : (Store.productById n).isReady (shop.prepared.contains .productById) shop.store =
      true := by
    have has : shop.store.has .products = true := by simp [Store.has, table]
    exact Bool.or_eq_true_iff.2 (.inr has)
  have ran := Statement.Call.run_of_isReady rfl (if_neg wide) ready shop.left
  obtain ⟨mid, called, liveMid, passed⟩ :=
    exists_fails_call (Store.isRegular_productById n) live ran
  obtain ⟨after, found⟩ := exists_fails_guarded called liveMid passed
  have fails : (showProduct n).Fails shop (.fault (shop.wideFault .productById)) after :=
    fails_bind_iff.2 (.inl found)
  exact answer_of_view_fails visited fails

/-! ### All numbers -/

/-- A request for a product by digits of any script is answered with the row that has the number
which they write, or with word that there is none, if a row may have that number at all. A greater
number is answered with a fault. -/
theorem answer_of_forProduct {config : Config}
    (reachable : shop.IsReachable (fun _ => True) config) (outage : shop.outage = false)
    (table : shop.store.products = some products) (client : Text) {d : Text}
    (nonempty : d ≠ []) (digits : ∀ c ∈ d, c.isDigit = true)
    (short : d.length ≤ Integer.maxDigits) :
    let n := valueOfDigits (d.filterMap CodePoint.digit?)
    let step := Step.request (.forProduct client d)
    (∀ product ∈ products, product.id = n →
      (shop.step step).answer = .response (.json 200 product.summary.json)) ∧
    (n ≤ Store.maxId → (∀ product ∈ products, product.id ≠ n) →
      (shop.step step).answer = .response missingResponse) ∧
    (Store.maxId < n →
      (shop.step step).answer = step.answerTo shop (shop.wideFault .productById)) := by
  intro n step
  have asks := Request.asksForProduct_forProduct client nonempty digits short
  refine ⟨fun product mem same => ?_, fun le missing => ?_, fun wide => ?_⟩
  · have numbered : shop.store.IsNumbered :=
      isKept_isNumbered.of_isReachable (fun _ opened => opened.store ▸ .empty) reachable
    exact answer_of_asksForProduct outage numbered ⟨products, table, mem⟩ (same ▸ asks)
  · have nothing : products.find? (fun product => (product.id : Int) = n) = none := by
      refine List.find?_eq_none.2 fun product mem same => missing product mem ?_
      exact Int.ofNat.inj (of_decide_eq_true same)
    rw [answer_of_fits outage table (Cell.fits_ofNat le) asks, nothing]
    rfl
  · have unfit : ¬Cell.fits n = true := fun fits =>
      Nat.not_le.2 wide (Cell.fits_natCast_iff.1 fits)
    exact answer_of_not_fits ⟨outage, isIntact_of_isReachable reachable⟩ table unfit asks

/-- A shop with a lamp. -/
def withLamp : Shop :=
  (forTests.run [.request (.forLogin "a" "a@example.com"), .request forLamp]).2

theorem isReachable_withLamp : withLamp.IsReachable (fun _ => True) (Config.forTests {}) :=
  ⟨false, forTests, _, rfl, fun _ _ => trivial, rfl⟩

/-- The lamp is shown by its number in Arabic digits with a zero in front. There is no second
product, and no look-up of a number beyond 64 bits. -/
theorem answer_of_forProduct_lamp :
    ∃ lamp : Product, withLamp.store.products = some [lamp] ∧ withLamp.outage = false ∧
      (withLamp.step (.request (.forProduct (Text.ofString "b") (Text.ofString "٠١")))).answer =
        .response (.json 200 lamp.summary.json) ∧
      (withLamp.step (.request (.forProduct (Text.ofString "b") (Text.ofString "2")))).answer =
        .response missingResponse ∧
      (withLamp.step (.request
        (.forProduct (Text.ofString "b") (Text.ofString "9223372036854775808")))).answer =
        .failed (.fault .integerTooWide) := by
  obtain ⟨lamp, table, id⟩ : ∃ lamp : Product, withLamp.store.products = some [lamp] ∧
    lamp.id = 1 := ⟨_, rfl, rfl⟩
  have answered (d : Text) (nonempty : d ≠ []) (digits : ∀ c ∈ d, c.isDigit = true)
      (short : d.length ≤ Integer.maxDigits) :=
    answer_of_forProduct isReachable_withLamp rfl table (Text.ofString "b") nonempty digits short
  refine ⟨lamp, table, rfl, ?_, ?_, ?_⟩
  · exact (answered (Text.ofString "٠١") (by decide) (by decide) (by decide)).1 lamp (by simp)
      (id.trans (by decide))
  · refine (answered (Text.ofString "2") (by decide) (by decide) (by decide)).2.1 (by decide) ?_
    intro product mem
    rw [List.mem_singleton.1 mem, id]
    decide
  · exact (answered (Text.ofString "9223372036854775808") (by decide) (by decide) (by decide)).2.2
      (by decide)

/-- Not every number in decimal digits is looked up. -/
theorem not_always_lookedUp :
    ¬∀ (config : Config) (shop : Shop), shop.IsReachable (fun _ => True) config →
      shop.outage = false → ∀ products : List Product, shop.store.products = some products →
        ∀ client d : Text, d ≠ [] → (∀ c ∈ d, c.isDigit = true) → d.length ≤ Integer.maxDigits →
          (∀ product ∈ products, product.id ≠ valueOfDigits (d.filterMap CodePoint.digit?)) →
            (shop.step (.request (.forProduct client d))).answer = .response missingResponse := by
  intro always
  have answered := always _ withLamp isReachable_withLamp rfl _ rfl (Text.ofString "b")
    (Text.ofString "9223372036854775808") (by decide) (by decide) (by decide) (by decide +kernel)
  have failed : (withLamp.step (.request
      (.forProduct (Text.ofString "b") (Text.ofString "9223372036854775808")))).answer =
      .failed (.fault .integerTooWide) := rfl
  rw [failed] at answered
  cases answered

end Shop

end Storefront
