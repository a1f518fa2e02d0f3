import Storefront.Proofs.Expected
import Storefront.Proofs.Failures
import Storefront.Proofs.Submission
import Storefront.Proofs.Unreachable

/-!
# Products that cannot be stored

What comes of a product that a user submits can be calculated from the rows of the products alone,
but for the fault that is told where something goes wrong. It is added, or there are complaints
about it, or nothing answers for it: the judging accepts texts with surrogates and integers of any
size, and the store has no form for these; and a body that is nested too deep is not judged at all.
The exact condition for an answer is that the body can be read, that its fields can be judged and
that whatever is accepted has a form.

## Main definitions

* `Product.isAmong` — whether a SKU is that of a product
* `Product.Report.IsStorable` — reports that have accepted nothing without a form for the store
* `Shop.CanAnswerFor`, `Shop.CanAnswer` — shops that can answer for submitted fields, and for the
  body in which they are sent

## Main results

* `Shop.comesTo_submitProduct`, `Shop.comesTo_submitBody` — what is expected of a submission
* `Store.exists_stored_iff` — which drafts of accepted fields can be stored
* `Shop.answer_of_submission` — the answers to a submission
* `Shop.not_always_created_or_refused` — a stock can be too great for either
-/

namespace Storefront

open Service

/-! ### Judging -/

/-- Whether a SKU, which must be one that can be written, is that of a product. -/
def Product.isAmong (products : List Product) (sku : Text) : Except Fault Bool := do
  sku.checkWritten
  return products.any fun product => product.sku = some sku

namespace Shop

variable {start : Shop} {products : List Product}

/-- Whether a SKU is taken is known from the rows, if there is a table of them. -/
theorem expected_productBySku (table : start.store.products = some products) (sku : Text) :
    (do
      let found ← (Store.productBySku sku).expected start.store
      return found.isSome) = Product.isAmong products sku := by
  unfold Statement.Call.expected Product.isAmong
  change ((sku.checkWritten >>= fun _ => _) >>= _) = _
  cases sku.checkWritten with
  | ok u =>
    have found : (Store.productBySku sku).effect () start.store =
        .ok (products.find? (fun product => product.sku = some sku), start.store) :=
      Store.effect_productBySku.2 ⟨⟨products, table, rfl⟩, rfl⟩
    change (((Store.productBySku sku).effect () start.store >>= _) >>= _) = _
    rw [found]
    exact congrArg Except.ok List.isSome_find?
  | error fault => rfl

theorem comesTo_isTaken (outage : start.outage = false) (intact : start.IsIntact)
    (table : start.store.products = some products) (sku : Text) :
    (isTaken sku).ComesTo start (Product.isAmong products sku) := by
  have regular := Store.isRegular_productBySku sku
  have asked := (comesTo_call regular outage intact).guarded (isAtomic_call _) outage
    regular.sparesConnection_expected
  rw [← expected_productBySku table]
  exact asked.bind fun found _ => comesTo_pure found.isSome _

theorem comesTo_judgeSku (outage : start.outage = false) (intact : start.IsIntact)
    (table : start.store.products = some products) (limits : Product.Limits) (value : Json) :
    ComesTo (Product.judgeSku limits isTaken value) start
      (Product.judgeSku limits (Product.isAmong products) value) := by
  unfold Product.judgeSku
  split
  · exact comesTo_pure _ _
  cases value with
  | str t =>
    refine (comesTo_ofFault _ _).bind fun verdict _ => ?_
    cases verdict with
    | accepted sku =>
      refine (comesTo_isTaken outage intact table sku).bind fun taken _ => ?_
      cases taken <;> exact comesTo_pure _ _
    | absent => exact comesTo_pure _ _
    | refused complaint => exact comesTo_pure _ _
  | _ => exact comesTo_pure _ _

/-- A judgement is known from the limits and the rows. -/
theorem comesTo_judge (outage : start.outage = false) (intact : start.IsIntact)
    (table : start.store.products = some products) (fields : Json.Members) :
    (judge (.obj fields)).ComesTo start
      (Product.judge start.limits (Product.isAmong products) fields) := by
  refine comesTo_shop_bind ((comesTo_ofFault _ _).bind fun title _ => ?_)
  exact (comesTo_judgeSku outage intact table _ _).bind fun sku _ => comesTo_pure _ _

end Shop

/-! ### Storing -/

/-- What is expected of a draft that is to be stored. -/
def Store.stored (store : Store) (draft : Product.Draft) : Except Fault Product := do
  let (price, isActive) ← draft.convert
  (addProduct draft price isActive).expected store

namespace Shop

variable {start : Shop}

/-- Whether a product can be added is known from the rows. -/
theorem comesTo_addProduct (outage : start.outage = false) (intact : start.IsIntact)
    (draft : Product.Draft) : (addProduct draft).ComesTo start (start.store.stored draft) := by
  let insertion : Service Product := do
    Service.connected
    let (price, isActive) ← Service.ofFault draft.convert
    Service.call (Store.addProduct draft price isActive)
  have regular := Store.isRegular_addProduct draft
  have opened := gives_connected outage
  -- A connection opens, the price and the flag are converted, and the statement does the rest.
  have inserted : insertion.ComesTo start (.ok () >>= fun _ => start.store.stored draft) := by
    refine ComesTo.bind (.inl opened.1.symm) fun _ _ => ?_
    rw [opened.2]
    refine (comesTo_ofFault _ _).bind fun converted _ => ?_
    exact comesTo_call (regular converted.1 converted.2) outage intact
  have atomic : insertion.IsAtomic :=
    .bind_of_isQuiet isQuiet_connected fun _ =>
      .bind_of_isQuiet (isQuiet_ofFault _) fun _ => isAtomic_call _
  have spares : SparesConnection (start.store.stored draft) :=
    draft.sparesConnection_convert.bind fun converted =>
      (regular converted.1 converted.2).sparesConnection_expected
  -- What follows the insertion cannot fail.
  have whole : (addProduct draft).ComesTo start (start.store.stored draft >>= Except.ok) :=
    (inserted.guarded atomic outage spares).bind fun product _ => .inl rfl
  have same : (start.store.stored draft >>= Except.ok) = start.store.stored draft := by
    cases start.store.stored draft <;> rfl
  exact same ▸ whole

end Shop

/-! ### Reports without complaints -/

/-- A rounded number is never NaN. -/
theorem Binary64.ofRatio_ne_nan (negative : Bool) (num den : Nat) :
    ofRatio negative num den ≠ .nan := by
  unfold ofRatio zero
  dsimp only
  repeat' split
  all_goals simp

theorem Store.exists_keptPrice {d : Decimal} (finite : d.isFinite = true) :
    ∃ x, keptPrice (.ofDecimal d) = some x := by
  have number : Binary64.ofDecimal d ≠ .nan := by
    cases d with
    | finite negative coefficient exponent =>
      change Binary64.ofScientific negative coefficient exponent ≠ .nan
      unfold Binary64.ofScientific Binary64.zero
      dsimp only
      repeat' split
      all_goals simp [Binary64.ofRatio_ne_nan]
    | infinite negative => cases finite
    | nan negative signaling payload => cases finite
  cases kept : Binary64.ofDecimal d with
  | nan => exact absurd kept number
  | finite negative significand exponent => exact ⟨_, rfl⟩
  | infinite negative => exact ⟨_, rfl⟩

namespace Product

variable {report : Report} {limits : Limits} {products : List Product} {fields : Json.Members}

/-- A report that has accepted nothing without a form for the store: no text with surrogates, and no
stock that is too great. -/
structure Report.IsStorable (report : Report) : Prop where
  title : ∀ t, report.title.value? = some t → t.hasSurrogate = false
  description : ∀ t, report.description.value? = some t → t.hasSurrogate = false
  stock : ∀ n, report.stock.value? = some n → Cell.fits n = true

/-- What a judgement without complaints has found out. -/
structure Report.IsFine (report : Report) (products : List Product) : Prop where
  title : ∃ t, report.title = .accepted t
  sku : ∀ sku, report.sku.value? = some sku →
    sku.hasSurrogate = false ∧ ∀ other ∈ products, other.sku ≠ some sku
  price : ∃ d, report.price = .accepted d ∧ d.isFinite = true
  stock : ∃ n, orDefault (.int 0) (Report.given .int report.stock) = .int n ∧
    (report.stock.value? = none ∧ n = 0 ∨ report.stock.value? = some n)
  isActive : ∃ b, orDefault (.bool true) (Report.given .bool report.isActive) = .bool b

/-- A SKU that is accepted can be written, and no product has it. -/
theorem fresh_of_judgeSku {value : Json} {sku : Text}
    (h : judgeSku limits (isAmong products) value = .ok (.accepted sku)) :
    sku.hasSurrogate = false ∧ ∀ other ∈ products, other.sku ≠ some sku := by
  unfold judgeSku at h
  split at h
  · cases h
  cases value with
  | str t =>
    obtain ⟨verdict, -, asked⟩ := Except.bind_eq_ok_iff.1 h
    cases verdict with
    | accepted kept =>
      obtain ⟨taken, among, returned⟩ := Except.bind_eq_ok_iff.1 asked
      obtain ⟨u, written, found⟩ := Except.bind_eq_ok_iff.1 among
      cases taken with
      | true => cases returned
      | false =>
        cases returned
        have fresh := Except.ok.inj found
        rw [List.any_eq_false] at fresh
        refine ⟨Text.checkWritten_eq_ok_iff.1 written, ?_⟩
        intro other mem same
        exact fresh other mem (by simpa using same)
    | absent => cases asked
    | refused complaint => cases asked
  | _ => cases h

theorem isFine_of_judge (judged : judge limits (isAmong products) fields = .ok report)
    (clean : report.complaints = []) : report.IsFine products := by
  obtain ⟨title, titled, judged⟩ := Except.bind_eq_ok_iff.1 judged
  obtain ⟨sku, skued, judged⟩ := Except.bind_eq_ok_iff.1 judged
  obtain rfl := Except.ok.inj judged
  obtain ⟨title?, sku?, description?, price?, stock?, isActive?⟩ :=
    Report.complaints_eq_nil_iff.1 clean
  obtain ⟨t, -, accepted⟩ := judgeTitle_without_complaint titled title?
  obtain ⟨d, priced⟩ := exists_of_judgePrice price?
  refine ⟨⟨_, accepted⟩, fun kept known => ?_, ⟨d, priced, (judgePrice_eq_accepted priced).1⟩, ?_, ?_⟩
  · cases sku with
    | accepted other =>
      cases known
      exact fresh_of_judgeSku skued
    | absent => cases known
    | refused complaint => cases known
  -- A stock or a flag that is absent leaves the value that stands for it.
  · rcases Verdict.given_of_complaint? .int stock? with ⟨absent, given⟩ | ⟨n, found, given⟩
    · exact ⟨0, by rw [given]; rfl, .inl ⟨by rw [absent]; rfl, rfl⟩⟩
    · exact ⟨n, by rw [given]; rfl, .inr (by rw [found]; rfl)⟩
  · rcases Verdict.given_of_complaint? .bool isActive? with ⟨-, given⟩ | ⟨b, -, given⟩
    · exact ⟨true, by rw [given]; rfl⟩
    · exact ⟨b, by rw [given]; rfl⟩

/-! ### Drafts of accepted fields -/

/-- A text, or nothing, has a form for the store if the text can be written. -/
theorem exists_ofJson_optionalText (position : Nat) {kept : Option Text}
    (written : ∀ t, kept = some t → t.hasSurrogate = false) :
    ∃ cell, Cell.ofJson position (optionalText kept) = .ok cell ∧ cell.inTexts = kept := by
  cases kept with
  | none => exact ⟨.null, rfl, rfl⟩
  | some t =>
    have checked : t.checkWritten = .ok () := Text.checkWritten_eq_ok_iff.2 (written t rfl)
    exact ⟨.text t, by simp [optionalText, Cell.ofJson, checked, Except.map], rfl⟩

/-- What is accepted makes a row if it has a form for the store. -/
theorem exists_entry_of_isStorable (fine : report.IsFine products) (storable : report.IsStorable)
    (price : Binary64) (isActive : Bool) :
    ∃ n, Store.entry report.draft price isActive = .ok ⟨report.title.value?, report.sku.value?,
      report.description.value?, Store.keptPrice price, some (.whole n), isActive⟩ := by
  obtain ⟨title, madeTitle, keptTitle⟩ := exists_ofJson_optionalText 1 storable.title
  obtain ⟨sku, madeSku, keptSku⟩ :=
    exists_ofJson_optionalText 2 fun t known => (fine.sku t known).1
  obtain ⟨description, madeDescription, keptDescription⟩ :=
    exists_ofJson_optionalText 3 storable.description
  obtain ⟨n, draftStock, counted⟩ := fine.stock
  -- The stock of a product without one is zero, which has a form like any that is accepted.
  have fits : Cell.fits n = true := by
    rcases counted with ⟨-, rfl⟩ | known
    · decide
    · exact storable.stock n known
  have madeStock : Cell.ofJson 5 (.int n) = .ok (.integer n) := by
    simp [Cell.ofJson, Cell.checkInteger, fits, Except.map]
  refine ⟨n, ?_⟩
  unfold Store.entry Report.draft
  dsimp only
  rw [draftStock, Report.given_str, Report.given_str, Report.given_str, madeTitle, madeSku,
    madeDescription, madeStock, ← keptTitle, ← keptSku, ← keptDescription]
  rfl

/-- The price and the flag of accepted fields are the double of the one and the other. -/
theorem convert_draft {d : Decimal} {b : Bool} (priced : report.price = .accepted d)
    (finite : d.isFinite = true)
    (flagged : orDefault (.bool true) (Report.given .bool report.isActive) = .bool b) :
    report.draft.convert = .ok (.ofDecimal d, b) := by
  have price : report.draft.price = some (.decimal d) :=
    congrArg (fun verdict => (verdict.value?.map Amount.decimal)) priced
  have double : (Amount.decimal d).toBinary64 = .ok (.ofDecimal d) := by
    cases d with
    | finite negative coefficient exponent => rfl
    | infinite negative => cases finite
    | nan negative signaling payload => cases finite
  have flag : orDefault (.bool true) report.draft.isActive = .bool b := flagged
  unfold Draft.convert
  rw [price, flag, Option.getD_some, double]
  rfl

/-- What makes a row has a form for the store. -/
theorem isStorable_of_entry {price : Binary64} {isActive : Bool} {values : Store.Entry}
    (h : Store.entry report.draft price isActive = .ok values) : report.IsStorable := by
  obtain ⟨title, madeTitle, h⟩ := Except.bind_eq_ok_iff.1 h
  obtain ⟨sku, -, h⟩ := Except.bind_eq_ok_iff.1 h
  obtain ⟨description, madeDescription, h⟩ := Except.bind_eq_ok_iff.1 h
  obtain ⟨stock, madeStock, -⟩ := Except.bind_eq_ok_iff.1 h
  refine ⟨?_, ?_, fun n known => ?_⟩
  · have draftTitle : report.draft.title = optionalText report.title.value? := Report.given_str _
    exact (ofJson_optionalText (draftTitle ▸ madeTitle)).2
  · have draftDescription : report.draft.description = optionalText report.description.value? :=
      Report.given_str _
    exact (ofJson_optionalText (draftDescription ▸ madeDescription)).2
  · have given : Report.given .int report.stock = .int n := by
      rw [Report.given, known]
      rfl
    have draftStock : orDefault (.int 0) report.draft.stock = .int n := by
      change orDefault (.int 0) (Report.given .int report.stock) = .int n
      rw [given]
      rfl
    exact fits_of_ofJson_int (draftStock ▸ madeStock)

end Product

/-- A draft of accepted fields can be stored exactly if all that is accepted has a form for the
store and a number is left for the row. -/
theorem Store.exists_stored_iff {store : Store} {report : Product.Report}
    {products : List Product} (table : store.products = some products)
    (writable : store.readOnly = false) (fine : report.IsFine products) :
    (∃ product, store.stored report.draft = .ok product) ↔
      report.IsStorable ∧ nextId (products.map Product.id) ≤ maxId := by
  constructor
  · rintro ⟨product, stored⟩
    obtain ⟨⟨price, isActive⟩, -, stored⟩ := Except.bind_eq_ok_iff.1 stored
    obtain ⟨values, after, taken, effect⟩ := Statement.Call.expected_eq_ok_iff.1 stored
    obtain ⟨others, found, -, id, le, -⟩ := effect_addProduct.1 effect
    obtain rfl : products = others := Option.some.inj (table.symm.trans found)
    exact ⟨Product.isStorable_of_entry taken, id ▸ le⟩
  · rintro ⟨storable, room⟩
    obtain ⟨t, accepted⟩ := fine.title
    obtain ⟨d, priced, finite⟩ := fine.price
    obtain ⟨b, flagged⟩ := fine.isActive
    obtain ⟨price, kept⟩ := exists_keptPrice finite
    -- With forms for all values the row is made; its number fits, and no other row has its SKU.
    obtain ⟨n, taken⟩ := Product.exists_entry_of_isStorable fine storable (.ofDecimal d) b
    have converted := Product.convert_draft priced finite flagged
    let product : Product :=
      { id := nextId (products.map Product.id), title := t, sku := report.sku.value?
        description := report.description.value?, price, stock := .whole n, isActive := b }
    refine ⟨product, Except.bind_eq_ok_iff.2 ⟨_, converted, ?_⟩⟩
    refine Statement.Call.expected_eq_ok_iff.2 ⟨_, store.putProduct product, taken, ?_⟩
    refine effect_addProduct.2 ⟨products, table, writable, rfl, room, ?_, ?_, rfl⟩
    · rw [accepted, kept]
      rfl
    · intro other mem
      cases known : report.sku.value? with
      | none => exact .inl known
      | some sku => exact .inr fun same => (fine.sku sku known).2 other mem (same.trans known)

namespace Shop

variable {shop start : Shop} {products : List Product} {fields : Json.Members}
variable {key : Sessions.Key} {request : Request}

/-! ### Submissions -/

/-- The response to submitted fields that is expected, or the fault that there is instead. -/
def expectedResponse (shop : Shop) (products : List Product) (fields : Json.Members) :
    Except Fault Response := do
  let report ← Product.judge shop.limits (Product.isAmong products) fields
  if report.complaints.isEmpty then return createdResponse (← shop.store.stored report.draft)
  else return complaintResponse report

/-- A shop can answer for submitted fields that can be judged, if all that is accepted of them has a
form for the store and a number is left for the row; if there are complaints, nothing else
matters. -/
def CanAnswerFor (shop : Shop) (products : List Product) (fields : Json.Members) : Prop :=
  ∃ report, Product.judge shop.limits (Product.isAmong products) fields = .ok report ∧
    (report.complaints = [] →
      report.IsStorable ∧ Store.nextId (products.map Product.id) ≤ Store.maxId)

theorem exists_expectedResponse_iff (table : shop.store.products = some products)
    (writable : shop.store.readOnly = false) :
    (∃ response, shop.expectedResponse products fields = .ok response) ↔
      shop.CanAnswerFor products fields := by
  constructor
  · rintro ⟨response, expected⟩
    obtain ⟨report, judged, rest⟩ := Except.bind_eq_ok_iff.1 expected
    refine ⟨report, judged, fun clean => ?_⟩
    rw [if_pos (List.isEmpty_iff.2 clean)] at rest
    obtain ⟨product, stored, -⟩ := Except.bind_eq_ok_iff.1 rest
    have fine := Product.isFine_of_judge judged clean
    exact (Store.exists_stored_iff table writable fine).1 ⟨product, stored⟩
  · rintro ⟨report, judged, storable⟩
    by_cases clean : report.complaints = []
    · have fine := Product.isFine_of_judge judged clean
      obtain ⟨product, stored⟩ :=
        (Store.exists_stored_iff table writable fine).2 (storable clean)
      refine ⟨createdResponse product, Except.bind_eq_ok_iff.2 ⟨report, judged, ?_⟩⟩
      rw [if_pos (List.isEmpty_iff.2 clean)]
      exact Except.bind_eq_ok_iff.2 ⟨product, stored, rfl⟩
    · refine ⟨complaintResponse report, Except.bind_eq_ok_iff.2 ⟨report, judged, ?_⟩⟩
      rw [if_neg fun empty => clean (List.isEmpty_iff.1 empty)]
      rfl

/-- What comes of submitted fields is known from the limits and the rows. -/
theorem comesTo_submitProduct (outage : start.outage = false) (intact : start.IsIntact)
    (table : start.store.products = some products) (fields : Json.Members) :
    (submitProduct fields).ComesTo start (start.expectedResponse products fields) := by
  have like := isQuiet_judge (.obj fields) start
  have intact' : (judge (.obj fields) start).shop.IsIntact :=
    (isSteady_judge (.obj fields) ⟨.refl start, intact, intact⟩).1.twin.first
  -- The judging has left the shop as it was, but for the connection, which still stands.
  refine (comesTo_judge outage intact table fields).bind fun report _ => ?_
  split
  · have added := comesTo_addProduct (like.outage.trans outage) intact' report.draft
    rw [like.store] at added
    exact added.bind fun product _ => comesTo_pure _ _
  · exact comesTo_pure _ _

/-! ### Bodies -/

theorem Body.checkDepth_eq_ok_iff {room : Nat} {body : Body} :
    body.checkDepth room = .ok () ↔ body.excess? room = none := by
  unfold Body.checkDepth
  split <;> simp [*]

/-- The response to a body that is expected, or the fault that there is instead. -/
def expectedAnswer (shop : Shop) (products : List Product) (body : Body) :
    Except Fault Response := do
  body.checkDepth shop.config.maxDepth
  shop.expectedResponse products body.fields

/-- A shop can answer for a body that it can read, if it can for the fields. -/
structure CanAnswer (shop : Shop) (products : List Product) (body : Body) : Prop where
  shallow : body.excess? shop.config.maxDepth = none
  fields : shop.CanAnswerFor products body.fields

theorem exists_expectedAnswer_iff {body : Body} (table : shop.store.products = some products)
    (writable : shop.store.readOnly = false) :
    (∃ response, shop.expectedAnswer products body = .ok response) ↔
      shop.CanAnswer products body := by
  constructor
  · rintro ⟨response, expected⟩
    obtain ⟨_, readable, rest⟩ := Except.bind_eq_ok_iff.1 expected
    exact ⟨Body.checkDepth_eq_ok_iff.1 readable,
      (exists_expectedResponse_iff table writable).1 ⟨response, rest⟩⟩
  · rintro ⟨shallow, fields⟩
    obtain ⟨response, rest⟩ := (exists_expectedResponse_iff table writable).2 fields
    exact ⟨response, Except.bind_eq_ok_iff.2 ⟨(), Body.checkDepth_eq_ok_iff.2 shallow, rest⟩⟩

/-- What comes of a body is known from the room for it, the limits and the rows. -/
theorem comesTo_submitBody (outage : start.outage = false) (intact : start.IsIntact)
    (table : start.store.products = some products) (body : Body) :
    (submitBody body).ComesTo start (start.expectedAnswer products body) :=
  comesTo_shop_bind ((comesTo_ofFault _ _).bind fun _ _ =>
    comesTo_submitProduct outage intact table body.fields)

/-- A session that names a user can be read. -/
theorem canRead_of_userNamed (numbered : shop.store.IsNumbered) {user : User}
    (named : shop.userNamed key = some user) : shop.CanRead key := by
  intro id held
  simp only [userNamed, Option.bind_eq_bind, Option.bind_eq_some_iff] at named
  obtain ⟨other, held', number, read, found⟩ := named
  obtain rfl : id = other := Option.some.inj (held.symm.trans held')
  -- The number is that of a row, and those fit.
  have same : (user.id : Int) = number := by simpa using List.find?_some found
  have le := numbered.users.le user.id (List.mem_map_of_mem (List.mem_of_find?_eq_some found))
  refine ⟨number, ?_, same ▸ Cell.fits_ofNat le⟩
  cases given : userNumber id with
  | ok n =>
    rw [given] at read
    exact congrArg Except.ok (Option.some.inj read)
  | error fault =>
    rw [given] at read
    cases read

/-- Alike shops are expected to answer alike. -/
theorem Alike.expectedAnswer_eq {other : Shop} (like : shop.Alike other) (body : Body) :
    other.expectedAnswer products body = shop.expectedAnswer products body := by
  rw [expectedAnswer, expectedAnswer, expectedResponse, expectedResponse, limits, limits,
    like.config, like.store]

/-- What comes of a user's submission is known from the limits and the rows: the user is found
first, which leaves a shop where the same is expected. -/
theorem comesTo_view_addProduct (intact : shop.IsIntact) (numbered : shop.store.IsNumbered)
    (outage : shop.outage = false) (users : shop.store.users.isSome = true)
    (table : shop.store.products = some products) (named : shop.userNamed key ≠ none)
    (body : Body) :
    (view .addProduct key body).ComesTo shop (shop.expectedAnswer products body) := by
  obtain ⟨user, named⟩ := Option.ne_none_iff_exists'.1 named
  have readable := canRead_of_userNamed numbered named
  obtain ⟨mid, found⟩ := exists_gives_currentUser outage users readable
  rw [named] at found
  have like := (isQuiet_currentUser key).alike_of_gives found
  have intact' : mid.IsIntact :=
    found.2 ▸ (isSteady_currentUser key ⟨.refl shop, intact, intact⟩).1.twin.first
  have submitted := comesTo_submitBody (like.outage.trans outage) intact' (like.store ▸ table) body
  rw [like.expectedAnswer_eq] at submitted
  have first : (currentUser key).ComesTo shop (.ok (some user)) := .inl found.1.symm
  have whole : (view .addProduct key body).ComesTo shop
      (.ok (some user) >>= fun _ => shop.expectedAnswer products body) := by
    refine first.bind fun given known => ?_
    obtain rfl := Except.ok.inj known
    rw [found.2]
    exact submitted
  exact whole

/-- A request is answered with the response that is expected of its view. -/
theorem answer_of_comesTo_ok {visit : Visit} {response : Response}
    (visited : request.visit? = some visit)
    (h : (view visit.view visit.key request.body).ComesTo start (.ok response)) :
    (start.step (.request request)).answer = .response (request.delivered response) := by
  obtain ⟨after, shown⟩ := h.exists_gives
  exact step_of_gives_view visited shown

/-- Where a fault is expected of its view, some fault is told or there is an internal error. -/
theorem answer_of_comesTo_error {visit : Visit} {fault : Fault}
    (visited : request.visit? = some visit)
    (h : (view visit.view visit.key request.body).ComesTo start (.error fault)) :
    ∃ told, (start.step (.request request)).answer =
      if start.config.isTesting then .failed (.fault told)
      else .response (request.delivered (.page 500 Page.internalError)) := by
  obtain ⟨told, after, fails⟩ := h.exists_fails
  exact ⟨told, answer_of_view_fails visited fails⟩

/-- A submission that nothing answers leaves the shop as it was. -/
theorem alike_of_unanswered {fault : Fault} (shows : shop.config.ShowsDatabase)
    (answered : (shop.step (.request request)).answer =
      if shop.config.isTesting then .failed (.fault fault)
      else .response (.page 500 Page.internalError)) :
    shop.Alike (shop.step (.request request)).shop := by
  refine alike_of_isFailure shows ?_
  rw [answered]
  split
  · trivial
  · exact (by decide : 400 ≤ 500)

/-- A response that was expected and given is that to a new row, or tells of complaints. -/
theorem created_or_refused_of_expectedAnswer (shows : shop.config.ShowsDatabase)
    {response : Response}
    (expected : shop.expectedAnswer products request.body = .ok response)
    (answered : (shop.step (.request request)).answer = .response response) :
    (∃ product, (shop.step (.request request)).answer = .response (createdResponse product) ∧
      product.IsMadeOf request.body.fields ∧
      Shop.Alike { shop with store := shop.store.putProduct product }
        (shop.step (.request request)).shop) ∨
    ∃ report, (shop.step (.request request)).answer = .response (complaintResponse report) ∧
      shop.Alike (shop.step (.request request)).shop := by
  obtain ⟨-, -, judged⟩ := Except.bind_eq_ok_iff.1 expected
  obtain ⟨report, -, rest⟩ := Except.bind_eq_ok_iff.1 judged
  split at rest
  · obtain ⟨stored, -, returned⟩ := Except.bind_eq_ok_iff.1 rest
    obtain rfl := Except.ok.inj returned
    obtain ⟨visit, product, visited, view, same, made, -, -, like⟩ :=
      exists_created_of_status answered rfl
    rw [delivered_of_addProduct visited view] at same
    exact .inl ⟨product, answered.trans (congrArg Answer.response same), made, like⟩
  · obtain rfl := Except.ok.inj rest
    have failed : (shop.step (.request request)).answer.IsFailure := by
      rw [answered]
      exact (by decide : 400 ≤ 422)
    exact .inr ⟨report, answered, alike_of_isFailure shows failed⟩

/-- A user's submission is answered with a new row or with complaints and no row if the shop can
answer for the body, and otherwise with neither: nothing is added, and some fault is told under
test, or there is an internal error. -/
theorem answer_of_submission {config : Config} (reachable : shop.IsReachable (fun _ => True) config)
    (outage : shop.outage = false) (writable : shop.store.readOnly = false)
    (users : shop.store.users.isSome = true) (table : shop.store.products = some products)
    (asks : request.AsksFor [.post] "/products" key) (named : shop.userNamed key ≠ none) :
    let after := shop.step (.request request)
    (shop.CanAnswer products request.body →
      (∃ product, after.answer = .response (createdResponse product) ∧
        product.IsMadeOf request.body.fields ∧
        Shop.Alike { shop with store := shop.store.putProduct product } after.shop) ∨
      ∃ report, after.answer = .response (complaintResponse report) ∧ shop.Alike after.shop) ∧
    (¬shop.CanAnswer products request.body →
      (∃ fault, after.answer =
        if shop.config.isTesting then .failed (.fault fault)
        else .response (.page 500 Page.internalError)) ∧
      shop.Alike after.shop) := by
  intro after
  have numbered : shop.store.IsNumbered :=
    isKept_isNumbered.of_isReachable (fun _ opened => opened.store ▸ .empty) reachable
  have intact := isIntact_of_isReachable reachable
  have shows := showsDatabase_of_isReachable reachable
  have possible : _ ↔ shop.CanAnswer products request.body :=
    exists_expectedAnswer_iff table writable
  obtain ⟨target, visited⟩ := (Request.asksFor_iff .addProduct rfl).1 asks
  have sent := delivered_of_addProduct visited rfl
  have shown := comesTo_view_addProduct intact numbered outage users table named request.body
  cases expected : shop.expectedAnswer products request.body with
  | ok response =>
    rw [expected] at shown
    have answered := answer_of_comesTo_ok visited shown
    rw [sent] at answered
    refine ⟨fun _ => ?_, fun impossible => (impossible (possible.1 ⟨_, expected⟩)).elim⟩
    exact created_or_refused_of_expectedAnswer shows expected answered
  | error fault =>
    have impossible : ¬shop.CanAnswer products request.body := by
      intro can
      obtain ⟨response, other⟩ := possible.2 can
      rw [expected] at other
      cases other
    rw [expected] at shown
    obtain ⟨told, answered⟩ := answer_of_comesTo_error visited shown
    rw [sent] at answered
    exact ⟨fun can => (impossible can).elim,
      fun _ => ⟨⟨told, answered⟩, alike_of_unanswered shows answered⟩⟩

/-- A product with a stock that is accepted although the store has no form for it. -/
def forWideStock : Request :=
  .ofForm "a" "/products" [("title", "A"), ("price", "1"), ("stock", "9223372036854775808")]

theorem asksFor_forWideStock : forWideStock.AsksFor [.post] "/products" (.usual "a") :=
  ⟨_, rfl, by decide, by decide, by decide, ⟨.post, by decide, by decide⟩, by decide⟩

theorem not_canAnswer_forWideStock : ¬withUser.CanAnswer [] forWideStock.body := by
  rintro ⟨-, report, judged, storable⟩
  have accepted : Product.judge withUser.limits (Product.isAmong []) forWideStock.body.fields = .ok
      ⟨.accepted (Text.ofString "A"), .absent, .absent, .accepted (.finite false 1 0),
        .accepted 9223372036854775808, .absent⟩ := rfl
  rw [accepted] at judged
  obtain rfl := Except.ok.inj judged
  have fits := (storable rfl).1.stock 9223372036854775808 rfl
  exact absurd fits (by decide)

theorem userNamed_withUser : withUser.userNamed (.usual "a") ≠ none := by
  have named : withUser.userNamed (.usual "a") =
      some ⟨1, Text.ofString "Demo User", Text.ofString "a@example.com"⟩ := rfl
  rw [named]
  exact Option.some_ne_none _

/-- Nothing is added for a stock that is too great, and nothing answers for it. -/
theorem answer_of_submission_wideStock :
    ¬withUser.CanAnswer [] forWideStock.body ∧
      (∃ fault, (withUser.step (.request forWideStock)).answer = .failed (.fault fault)) ∧
      withUser.Alike (withUser.step (.request forWideStock)).shop := by
  have submitted := answer_of_submission isReachable_withUser rfl rfl rfl rfl asksFor_forWideStock
    userNamed_withUser
  exact ⟨not_canAnswer_forWideStock, submitted.2 not_canAnswer_forWideStock⟩

/-- A submission is not always answered with a new row or with complaints: a stock of 64 bits that
takes the place of the sign is accepted and cannot be stored. -/
theorem not_always_created_or_refused :
    ¬∀ (config : Config) (shop : Shop), shop.IsReachable (fun _ => True) config →
      shop.outage = false → shop.store.readOnly = false → shop.store.users.isSome = true →
        shop.store.products.isSome = true → ∀ (request : Request) (key : Sessions.Key),
          request.AsksFor [.post] "/products" key → shop.userNamed key ≠ none →
            ((shop.step (.request request)).answer.status? = some 201 ∨
              (shop.step (.request request)).answer.status? = some 422) := by
  intro always
  have answered := always _ _ isReachable_withUser rfl rfl rfl rfl forWideStock (.usual "a")
    asksFor_forWideStock userNamed_withUser
  have failed : (withUser.step (.request forWideStock)).answer =
      .failed (.fault .integerTooWide) := rfl
  rw [failed] at answered
  rcases answered with created | refused
  · cases created
  · cases refused

end Shop

end Storefront
