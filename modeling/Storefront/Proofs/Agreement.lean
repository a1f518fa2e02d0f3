import Storefront.Proofs.Digits
import Storefront.Proofs.Insertion
import Storefront.Proofs.Prices
import Storefront.Proofs.Sound

/-!
# The judging and the table agree

There are two sets of rules for a product: what the judging asks of the submitted fields, and what
the table asks of a row. The judging tells that a SKU is taken exactly where the table would refuse
it. And what the judging lets pass the table takes, unless something of it has no form for the
store: a draft of accepted fields made into a row next never breaks a rule of the table.

Only texts that can be written become SKUs of rows, whatever value is given for one, so nothing is
lost in comparing them with the SKU of a submission.

## Main definitions

* `Step.GivesDoubles` — the steps whose floating-point numbers are doubles
* `Product.Report.Tells` — a report with a certain message about a field
* `Product.IsTakenSku` — values that are the SKU of a product but for the blanks around it
* `Shop.TakesNext` — what becomes of accepted fields that are to be stored
* `Shop.AgreesWithTable` — what the judging of a payload has to do with the rules of the table

## Main results

* `Shop.hasWrittenSku_of_isReachable` — the SKUs of rows can be written
* `Product.exists_judge_tells_iff` — which submissions are told that their SKU is taken
* `Shop.agreesWithTable_of_isReachable` — judging and table agree in every shop that can be reached
-/

namespace Storefront

open Service

/-! ### The SKUs of rows -/

/-- The steps whose floating-point numbers are doubles, as all that are given from outside are. -/
def Step.GivesDoubles : Step → Prop
  | .addProduct fields =>
    ∀ name x, fields.get? (Text.ofString name) = some (.float x) → x.IsDouble
  | _ => True

/-- A column of texts keeps of every value a text that can be written, if anything. -/
theorem Cell.hasSurrogate_inTexts {position : Nat} {value : Json} {cell : Cell} {t : Text}
    (doubles : ∀ x, value = .float x → x.IsDouble) (made : ofJson position value = .ok cell)
    (kept : cell.inTexts = some t) : t.hasSurrogate = false := by
  cases value with
  | null =>
    rw [ofJson_null made] at kept
    cases kept
  | bool b =>
    obtain rfl := Except.ok.inj made
    obtain rfl := Option.some.inj kept
    exact (Text.IsAscii.ofInt _).hasSurrogate
  | int n =>
    rw [(ofJson_int made).1] at kept
    obtain rfl := Option.some.inj kept
    exact (Text.IsAscii.ofInt n).hasSurrogate
  | float x =>
    cases x with
    | nan =>
      obtain rfl := Except.ok.inj made
      cases kept
    | _ =>
      obtain rfl := Except.ok.inj made
      exact (Binary64.isAscii_numeral (doubles _ rfl) kept).hasSurrogate
  | str given =>
    rw [ofJson_str made] at kept
    obtain rfl := Option.some.inj kept
    have form : ofJson position (Product.optionalText (some given)) = .ok cell := made
    exact (Product.ofJson_optionalText form).2 given rfl
  | arr items => cases made
  | obj members => cases made

/-- The SKU of a product, if it has one, can be written. -/
def Product.HasWrittenSku (product : Product) : Prop :=
  ∀ sku, product.sku = some sku → sku.hasSurrogate = false

namespace Shop

variable {start changed shop : Shop} {product : Product} {step : Step}

/-- A product that was added from a draft has a SKU that can be written, or none. -/
theorem hasWrittenSku_of_entry {draft : Product.Draft} {price : Binary64} {isActive : Bool}
    {values : Store.Entry} (doubles : ∀ x, draft.sku = .float x → x.IsDouble)
    (made : Store.entry draft price isActive = .ok values) (same : values.sku = product.sku) :
    product.HasWrittenSku := by
  obtain ⟨title, -, made⟩ := Except.bind_eq_ok_iff.1 made
  obtain ⟨sku, madeSku, made⟩ := Except.bind_eq_ok_iff.1 made
  obtain ⟨description, -, made⟩ := Except.bind_eq_ok_iff.1 made
  obtain ⟨stock, -, made⟩ := Except.bind_eq_ok_iff.1 made
  obtain rfl := Except.ok.inj made
  intro t known
  exact Cell.hasSurrogate_inTexts doubles madeSku (same.trans known)

/-- The SKU of the draft that named fields describe is the one among the fields. -/
theorem sku_of_ofFields {fields : Json.Members} {draft : Product.Draft}
    (h : Product.Draft.ofFields fields = .ok draft) :
    draft.sku = (fields.get? (Text.ofString "sku")).getD .null := by
  obtain ⟨price, -, h⟩ := Except.bind_eq_ok_iff.1 h
  split at h
  · cases h
  · split at h
    · cases h
    · obtain rfl := Except.ok.inj h
      rfl

theorem has_iff : shop.Has product ↔ product ∈ shop.store.products.getD [] := by
  unfold Has
  cases shop.store.products <;> simp

/-- A row that is there after a direct call was there before it, or its SKU can be written. -/
theorem has_or_hasWrittenSku_of_addProduct {fields : Json.Members}
    (doubles : (Step.addProduct fields).GivesDoubles)
    (has : (start.step (.addProduct fields)).shop.Has product) :
    start.Has product ∨ product.HasWrittenSku := by
  let service : Service Answer := (Step.addProduct fields).service
  have atomic : service.IsAtomic :=
    .bind_of_isQuiet (isQuiet_ofFault _) fun draft => (isAtomic_addProduct draft).map _
  obtain ⟨products, table, mem⟩ := has
  change (service start).shop.store.products = some products at table
  rcases gives_or_fails service start with ⟨answer, after, ends⟩ | ⟨failure, after, ends⟩
  · obtain ⟨draft, described, rest⟩ := gives_ofFault_bind_iff.1 ends
    obtain ⟨new, added, -⟩ := gives_map_iff.1 rest
    obtain ⟨-, isNew, ⟨price, isActive, -, made⟩, like⟩ := gives_addProduct added
    obtain ⟨old, found, -⟩ := isNew.products
    rw [ends.2, like.store, Store.products_putProduct, found] at table
    obtain rfl := Option.some.inj table
    rcases List.mem_append.1 mem with before | last
    · exact .inl ⟨old, found, before⟩
    · obtain rfl := List.mem_singleton.1 last
      refine .inr (hasWrittenSku_of_entry (fun x float => ?_) made rfl)
      rw [sku_of_ofFields described] at float
      cases given : fields.get? (Text.ofString "sku") with
      | none =>
        rw [given] at float
        cases float
      | some value =>
        rw [given] at float
        exact doubles "sku" x (given.trans (congrArg some float))
  · rw [ends.2, (atomic ends).store] at table
    exact .inl ⟨products, table, mem⟩

/-- A row that is there after a step was there before it, or its SKU can be written. -/
theorem has_or_hasWrittenSku_of_step (doubles : step.GivesDoubles)
    (has : (start.step step).shop.Has product) : start.Has product ∨ product.HasWrittenSku := by
  obtain ⟨changed, moves, like⟩ := start.exists_moves step
  have mem := has_iff.1 has
  rw [like.store] at mem
  cases step with
  | request request => exact (has_or_isMadeOf_of_has has).imp id fun made => made.2.sku
  | addProduct fields => exact has_or_hasWrittenSku_of_addProduct doubles has
  | _ => exact .inl (has_iff.2 ((moves.products_sublist nofun nofun).subset mem))

/-- The rows of every shop that can be reached have SKUs that can be written, by induction on the
steps that have led to it. -/
theorem hasWrittenSku_of_isReachable {config : Config}
    (reachable : shop.IsReachable Step.GivesDoubles config) (has : shop.Has product) :
    product.HasWrittenSku := by
  obtain ⟨outage, opened, steps, started, all, rfl⟩ := reachable
  have none : ¬opened.Has product := by
    rintro ⟨products, table, mem⟩
    rw [(isOpened_of_start started).store] at table
    obtain rfl : [] = products := Option.some.inj table
    cases mem
  suffices opened.Has product ∨ product.HasWrittenSku from this.resolve_left none
  clear none started
  induction steps generalizing opened with
  | nil => exact .inl has
  | cons first rest ih =>
    have given := List.forall_mem_cons.1 all
    rcases ih _ given.2 has with before | written
    · exact has_or_hasWrittenSku_of_step given.1 before
    · exact .inr written

end Shop

/-! ### What the judging says of a SKU -/

namespace Product

variable {limits : Limits} {products : List Product} {fields : Json.Members} {report : Report}
variable {value : Json}

/-- A report has a message about a field. -/
def Report.Tells (report : Report) (field message : String) : Prop :=
  ∃ complaint, (Text.ofString field, complaint) ∈ report.complaints ∧
    complaint.message = Text.ofString message

/-- A value is a text that is not blank, is within the limit and is the SKU of a product but for the
blanks at its ends. -/
def IsTakenSku (limits : Limits) (products : List Product) (value : Json) : Prop :=
  ∃ t, value = .str t ∧ t.isBlank = false ∧ IsWithin limits.sku t.strip ∧
    ∃ other ∈ products, other.sku = some t.strip

/-- The fifth letter of a message tells whether it says that a SKU is taken. The messages with a
limit in them are compared by it as well, whatever the limit is. -/
theorem Complaint.fifth_ne {complaint : Complaint} (other : complaint ≠ .skuTaken) :
    complaint.message[4]? ≠ some (CodePoint.ofChar 'a') := by
  cases complaint with
  | skuTaken => exact absurd rfl other
  | titleTooLong limit =>
    have fifth : (titleTooLong limit).message[4]? = some (CodePoint.ofChar 'u') := rfl
    rw [fifth]
    decide
  | skuTooLong limit =>
    have fifth : (skuTooLong limit).message[4]? = some (CodePoint.ofChar 'm') := rfl
    rw [fifth]
    decide
  | _ => decide

/-- There is one message that says that a SKU is taken. -/
theorem Complaint.message_eq_iff {complaint : Complaint} :
    complaint.message = Text.ofString "SKU already exists." ↔ complaint = .skuTaken := by
  refine ⟨fun same => ?_, fun taken => taken ▸ rfl⟩
  by_contra other
  exact fifth_ne other (congrArg (·[4]?) same)

/-- The complaints about the SKU are those that stand under its name. -/
theorem Report.mem_complaints_sku {complaint : Complaint} :
    (Text.ofString "sku", complaint) ∈ report.complaints ↔
      report.sku.complaint? = some complaint := by
  have description : Text.ofString "description" ≠ Text.ofString "sku" := by decide
  have isActive : Text.ofString "is_active" ≠ Text.ofString "sku" := by decide
  have price : Text.ofString "price" ≠ Text.ofString "sku" := by decide
  have stock : Text.ofString "stock" ≠ Text.ofString "sku" := by decide
  have title : Text.ofString "title" ≠ Text.ofString "sku" := by decide
  simp [complaints, description, isActive, price, stock, title]

theorem Report.tells_taken_iff :
    report.Tells "sku" "SKU already exists." ↔ report.sku = .refused .skuTaken := by
  constructor
  · rintro ⟨complaint, mem, said⟩
    obtain rfl := Complaint.message_eq_iff.1 said
    have found := mem_complaints_sku.1 mem
    cases verdict : report.sku with
    | refused complaint =>
      rw [verdict] at found
      exact congrArg Verdict.refused (Option.some.inj found)
    | _ =>
      rw [verdict] at found
      cases found
  · intro refused
    exact ⟨.skuTaken, mem_complaints_sku.2 (congrArg Verdict.complaint? refused), rfl⟩

/-- Whether a SKU is among those of the products is found out for texts that can be written. -/
theorem isAmong_eq_ok_true_iff {sku : Text} :
    isAmong products sku = .ok true ↔
      sku.hasSurrogate = false ∧ ∃ other ∈ products, other.sku = some sku := by
  rw [isAmong, Except.bind_eq_ok_iff]
  constructor
  · rintro ⟨u, written, found⟩
    have any : products.any (·.sku = some sku) = true := Except.ok.inj found
    exact ⟨Text.checkWritten_eq_ok_iff.1 written, by simpa using any⟩
  · rintro ⟨written, taken⟩
    have any : products.any (·.sku = some sku) = true := by simpa using taken
    exact ⟨(), Text.checkWritten_eq_ok_iff.2 written, congrArg Except.ok any⟩

/-- The SKU of a text is judged to be taken exactly if it is a SKU of a product. -/
theorem judgeSku_eq_taken_iff (written : ∀ product ∈ products, product.HasWrittenSku) :
    judgeSku limits (isAmong products) value = .ok (.refused .skuTaken) ↔
      IsTakenSku limits products value := by
  constructor
  · intro judged
    unfold judgeSku at judged
    split at judged
    · cases judged
    next nonblank =>
      cases value with
      | str t =>
        obtain ⟨verdict, measured, asked⟩ := Except.bind_eq_ok_iff.1 judged
        cases verdict with
        | accepted sku =>
          obtain ⟨rfl, within⟩ := judgeLength_eq_accepted measured
          obtain ⟨taken, among, returned⟩ := Except.bind_eq_ok_iff.1 asked
          cases taken with
          | true =>
            have found := isAmong_eq_ok_true_iff.1 among
            exact ⟨t, rfl, by simpa [Json.isBlank] using nonblank, within, found.2⟩
          | false => cases returned
        | absent => cases asked
        | refused complaint =>
          -- A text is refused for its length with another complaint.
          obtain ⟨bound, -, exceeds⟩ := Except.bind_eq_ok_iff.1 measured
          cases asked
          split at exceeds <;> cases exceeds
      | _ => cases judged
  · rintro ⟨t, rfl, nonblank, ⟨bound, read, within⟩, other, mem, same⟩
    have among : isAmong products t.strip = .ok true :=
      isAmong_eq_ok_true_iff.2 ⟨written other mem _ same, other, mem, same⟩
    have measured : judgeLength limits.sku .skuTooLong t.strip = .ok (.accepted t.strip) := by
      rw [judgeLength, read]
      change Except.ok (if bound.isExceededBy t.strip.length then _ else _) = _
      rw [within]
      rfl
    unfold judgeSku
    rw [if_neg (by simpa [Json.isBlank] using nonblank)]
    change (judgeLength limits.sku .skuTooLong t.strip >>= _) = _
    rw [measured]
    change (isAmong products t.strip >>= _) = _
    rw [among]
    rfl

/-- Whether a value can be measured against a limit, which must be a number unless the value is no
text or a blank one. -/
def CanMeasure (limit value : Json) : Prop :=
  (∃ bound, Limit.read limit = .ok bound) ∨ value.isBlank = true ∨ ∀ t, value ≠ .str t

theorem exists_judgeTitle_iff :
    (∃ verdict, judgeTitle limits value = .ok verdict) ↔ CanMeasure limits.title value := by
  constructor
  · rintro ⟨verdict, judged⟩
    unfold judgeTitle at judged
    split at judged
    next blank => exact .inr (.inl blank)
    · cases value with
      | str t =>
        obtain ⟨bound, read, -⟩ := Except.bind_eq_ok_iff.1 judged
        exact .inl ⟨bound, read⟩
      | _ => exact .inr (.inr nofun)
  · intro measures
    unfold judgeTitle
    split
    · exact ⟨_, rfl⟩
    next nonblank =>
      cases value with
      | str t =>
        rcases measures with ⟨bound, read⟩ | blank | noText
        · change ∃ verdict, judgeLength limits.title .titleTooLong t.strip = .ok verdict
          rw [judgeLength, read]
          exact ⟨_, rfl⟩
        · exact absurd blank nonblank
        · exact absurd rfl (noText t)
      | _ => exact ⟨_, rfl⟩

/-- A report says that the SKU is taken exactly if it is a SKU of a product, as long as the title
can be measured. -/
theorem exists_judge_tells_iff (written : ∀ product ∈ products, product.HasWrittenSku) :
    (∃ report, judge limits (isAmong products) fields = .ok report ∧
        report.Tells "sku" "SKU already exists.") ↔
      CanMeasure limits.title (fields.submitted "title") ∧
        IsTakenSku limits products (fields.submitted "sku") := by
  rw [← exists_judgeTitle_iff]
  constructor
  · rintro ⟨report, judged, tells⟩
    obtain ⟨title, titled, judged⟩ := Except.bind_eq_ok_iff.1 judged
    obtain ⟨sku, skued, judged⟩ := Except.bind_eq_ok_iff.1 judged
    obtain rfl := Except.ok.inj judged
    obtain rfl : sku = .refused .skuTaken := Report.tells_taken_iff.1 tells
    exact ⟨⟨title, titled⟩, (judgeSku_eq_taken_iff written).1 skued⟩
  · rintro ⟨⟨title, titled⟩, taken⟩
    have skued := (judgeSku_eq_taken_iff written).2 taken
    refine ⟨_, Except.bind_eq_ok_iff.2 ⟨title, titled,
      Except.bind_eq_ok_iff.2 ⟨_, skued, rfl⟩⟩, ?_⟩
    exact Report.tells_taken_iff.2 rfl

end Product

/-! ### Judging and storing -/

namespace Shop

variable {shop mid : Shop} {products : List Product} {report : Product.Report} {payload : Json}

/-- What becomes of accepted fields that are to be stored: they have a title, no rule of the table
and no lack of a value is in their way, and they are stored if all of them have forms for the store
and a number is left for the row. -/
structure TakesNext (shop : Shop) (products : List Product) (report : Product.Report) : Prop where
  titled : ∃ t, report.title = .accepted t
  unbroken : ∀ failure after, (addProduct report.draft).Fails shop failure after →
    ∃ fault, failure = .fault fault ∧ fault.kind ≠ .type ∧ fault.kind ≠ .integrity
  stored_iff : (∃ product after, (addProduct report.draft).Gives shop product after) ↔
    report.IsStorable ∧ Store.nextId (products.map Product.id) ≤ Store.maxId

/-- The judging of a payload agrees with the rules of the table: it tells of a taken SKU exactly
where there is one, and the table takes what it lets pass. -/
structure AgreesWithTable (shop : Shop) (products : List Product) (payload : Json) : Prop where
  told_iff :
    (∃ report after, (judge payload).Gives shop report after ∧
        report.Tells "sku" "SKU already exists.") ↔
      ∃ fields : Json.Members, payload = .obj fields ∧
        Product.CanMeasure shop.limits.title (fields.submitted "title") ∧
        Product.IsTakenSku shop.limits products (fields.submitted "sku")
  accepted : ∀ report mid, (judge payload).Gives shop report mid → report.complaints = [] →
    mid.TakesNext products report

/-- Only an object can be judged. -/
theorem exists_of_gives_judge (judged : (judge payload).Gives shop report mid) :
    ∃ fields, payload = .obj fields := by
  cases payload with
  | obj fields => exact ⟨fields, rfl⟩
  | _ => cases judged.1

/-- A judgement without complaints has found out what there is to be found out of the rows. -/
theorem isFine_of_gives_judge (outage : shop.outage = false) (intact : shop.IsIntact)
    (table : shop.store.products = some products)
    (judged : (judge payload).Gives shop report mid) (clean : report.complaints = []) :
    report.IsFine products := by
  obtain ⟨fields, rfl⟩ := exists_of_gives_judge judged
  have comesTo := comesTo_judge outage intact table fields
  exact Product.isFine_of_judge (comesTo.exists_gives_iff.1 ⟨mid, judged⟩) clean

theorem takesNext_of_isFine (outage : shop.outage = false)
    (table : shop.store.products = some products) (writable : shop.store.readOnly = false)
    (fine : report.IsFine products) :
    shop.TakesNext products report where
  titled := fine.title
  unbroken failure after failed := by
    cases stored : shop.store.stored report.draft with
    | ok product =>
      obtain ⟨_, added⟩ := exists_gives_addProduct outage stored
      cases added.1.symm.trans failed.1
    | error fault =>
      obtain ⟨_, told⟩ := exists_fails_addProduct outage table stored
      obtain rfl : failure = .fault fault := Except.error.inj (failed.1.symm.trans told.1)
      refine ⟨fault, rfl, ?_⟩
      rcases Store.fault_of_stored table writable fine stored with
        ⟨-, encoding | overflow⟩ | ⟨-, rfl⟩
      · rw [encoding]
        exact ⟨nofun, nofun⟩
      · rw [overflow]
        exact ⟨nofun, nofun⟩
      · exact ⟨nofun, nofun⟩
  stored_iff := by
    rw [← Store.exists_stored_iff table writable fine]
    constructor
    · rintro ⟨product, after, added⟩
      cases stored : shop.store.stored report.draft with
      | ok other => exact ⟨other, rfl⟩
      | error fault =>
        obtain ⟨_, told⟩ := exists_fails_addProduct outage table stored
        cases added.1.symm.trans told.1
    · rintro ⟨product, stored⟩
      exact ⟨product, exists_gives_addProduct outage stored⟩

/-- In every shop that can be reached and takes writes, the judging agrees with the table. -/
theorem agreesWithTable_of_isReachable {config : Config}
    (reachable : shop.IsReachable Step.GivesDoubles config) (outage : shop.outage = false)
    (writable : shop.store.readOnly = false) (table : shop.store.products = some products)
    (payload : Json) : shop.AgreesWithTable products payload := by
  have intact := isIntact_of_isReachable reachable
  have written (product : Product) (mem : product ∈ products) : product.HasWrittenSku :=
    hasWrittenSku_of_isReachable reachable ⟨products, table, mem⟩
  have gives_iff (fields : Json.Members) (report : Product.Report) :
      (∃ after, (judge (.obj fields)).Gives shop report after) ↔
        Product.judge shop.limits (Product.isAmong products) fields = .ok report :=
    (comesTo_judge outage intact table fields).exists_gives_iff
  constructor
  case told_iff =>
    constructor
    · rintro ⟨report, after, judged, tells⟩
      obtain ⟨fields, rfl⟩ := exists_of_gives_judge judged
      have expected := (gives_iff fields report).1 ⟨after, judged⟩
      exact ⟨fields, rfl, (Product.exists_judge_tells_iff written).1 ⟨report, expected, tells⟩⟩
    · rintro ⟨fields, rfl, taken⟩
      obtain ⟨report, expected, tells⟩ := (Product.exists_judge_tells_iff written).2 taken
      obtain ⟨after, judged⟩ := (gives_iff fields report).2 expected
      exact ⟨report, after, judged, tells⟩
  case accepted =>
    intro report mid judged clean
    have like := (isQuiet_judge _).alike_of_gives judged
    have fine := isFine_of_gives_judge outage intact table judged clean
    -- The judging has changed nothing that matters to the storing.
    apply takesNext_of_isFine
    · exact like.outage.trans outage
    · rw [like.store, table]
    · rw [like.store, writable]
    · exact fine

/-- Submitted fields with a SKU that the shop with a product has, but for the blanks around it. -/
def takenFields : Json.Members :=
  (Request.ofForm "a" "/products" [("title", "A"), ("sku", " L-1 "), ("price", "1")]).body.fields

/-- The SKU of the product that there is is told to be taken. -/
theorem agreesWithTable_of_isReachable_withProduct :
    withProduct.IsReachable Step.GivesDoubles (Config.forTests {}) ∧
      withProduct.outage = false ∧ withProduct.store.readOnly = false ∧
        ∃ products, withProduct.store.products = some products ∧
          withProduct.AgreesWithTable products (.obj takenFields) ∧
            ∃ report after, (judge (.obj takenFields)).Gives withProduct report after ∧
              report.Tells "sku" "SKU already exists." := by
  have reachable : withProduct.IsReachable Step.GivesDoubles (Config.forTests {}) :=
    ⟨false, forTests, _, rfl, by simp [Step.GivesDoubles], rfl⟩
  have outage : withProduct.outage = false := by decide +kernel
  have writable : withProduct.store.readOnly = false := by decide +kernel
  have lamp : (withProduct.store.products.getD []).any
      (·.sku = some (Text.strip (Text.ofString " L-1 "))) = true := by decide +kernel
  obtain ⟨products, table⟩ : ∃ products, withProduct.store.products = some products :=
    Option.isSome_iff_exists.1 (by decide +kernel)
  have agrees := agreesWithTable_of_isReachable reachable outage writable table (.obj takenFields)
  refine ⟨reachable, outage, writable, products, table, agrees, agrees.told_iff.2 ?_⟩
  rw [table] at lamp
  have taken : ∃ other ∈ products, other.sku = some (Text.strip (Text.ofString " L-1 ")) := by
    simpa using lamp
  refine ⟨takenFields, rfl, .inl ⟨_, rfl⟩, Text.ofString " L-1 ", rfl, by decide, ?_, taken⟩
  exact ⟨_, rfl, by decide⟩

end Shop

end Storefront
