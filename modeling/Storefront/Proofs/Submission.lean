import Storefront.Proofs.Access

/-!
# What becomes of a product that is submitted

A product that was added has in its columns what was submitted for them: texts without the blanks at
their ends, the integer and the flag that were written, and for what was left out the value that
stands for it. So a response that says that a product was added tells of a row with all that.

## Main definitions

* `Json.Members.submitted` — what was submitted under a name
* `Json.StripsTo`, `Json.count?`, `Json.activity?` — the text, the stock and the flag that a
  submitted value stands for
* `Product.IsMadeOf` — a product with all that was submitted

## Main results

* `Shop.isMadeOf_of_gives_submitProduct` — a product that was added is made of what was submitted
* `Shop.exists_gives_view` — which responses are those of views
* `Shop.exists_created_of_status` — what has happened when a product was added by a request
-/

namespace Storefront

open Service

/-! ### Submitted values -/

/-- What was submitted under a name, and null if nothing was. -/
def Json.Members.submitted (fields : Json.Members) (name : String) : Json :=
  (fields.get? (Text.ofString name)).getD .null

/-- The text that a value stands for: none for null and for blanks, and otherwise the text without
the blanks at its ends. -/
inductive Json.StripsTo : Json → Option Text → Prop
  | null : StripsTo .null none
  | blank {t : Text} (blank : t.isBlank = true) : StripsTo (.str t) none
  | text {t : Text} (nonblank : t.isBlank = false) : StripsTo (.str t) (some t.strip)

/-- The stock that a value stands for; what is left out or blank stands for none. -/
def Json.count? (value : Json) : Option Int :=
  if value.isBlank then some 0 else Product.integer? value

/-- The flag that a value stands for; what is left out or blank stands for an active product. -/
def Json.activity? (value : Json) : Option Bool :=
  if value.isBlank then some true else value.flag?

theorem Json.stripsTo_none {value : Json} (blank : value.isBlank = true) :
    value.StripsTo none := by
  cases value with
  | null => exact .null
  | str t => exact .blank blank
  | _ => cases blank

namespace Product

/-- A draft of what was submitted. -/
structure Draft.IsMadeOf (fields : Json.Members) (draft : Draft) : Prop where
  title : ∃ t, fields.submitted "title" = .str t ∧ draft.title = .str t.strip
  sku : ∃ kept, (fields.submitted "sku").StripsTo kept ∧ draft.sku = optionalText kept
  description : ∃ kept, (fields.submitted "description").StripsTo kept ∧
    draft.description = optionalText kept
  price : ∃ d, judgePrice (fields.submitted "price") = .accepted d ∧
    draft.price = some (.decimal d)
  stock : ∃ n, (fields.submitted "stock").count? = some n ∧
    orDefault (.int 0) draft.stock = .int n
  isActive : ∃ b, (fields.submitted "is_active").activity? = some b ∧
    orDefault (.bool true) draft.isActive = .bool b

/-- A product with all that was submitted. Its texts can be written, and its stock has a form for
the store. -/
structure IsMadeOf (fields : Json.Members) (product : Product) : Prop where
  title : ∃ t, fields.submitted "title" = .str t ∧ product.title = t.strip
  sku : (fields.submitted "sku").StripsTo product.sku
  description : (fields.submitted "description").StripsTo product.description
  price : ∃ d, judgePrice (fields.submitted "price") = .accepted d ∧
    Store.keptPrice (.ofDecimal d) = some product.price
  stock : ∃ n, (fields.submitted "stock").count? = some n ∧ product.stock = .whole n
  isActive : (fields.submitted "is_active").activity? = some product.isActive

/-- What is promised of a row that is written as JSON: texts without surrogates, and a stock that
fits. -/
structure IsWritten (product : Product) : Prop where
  title : product.title.hasSurrogate = false
  sku : ∀ sku, product.sku = some sku → sku.hasSurrogate = false
  description : ∀ text, product.description = some text → text.hasSurrogate = false
  stock : ∃ n, product.stock = .whole n ∧ Cell.fits n = true

/-! ### Verdicts without complaints -/

/-- The value of an accepted text, or null. -/
theorem Report.given_str (verdict : Verdict Text) :
    given .str verdict = optionalText verdict.value? := by
  cases verdict <;> rfl

theorem judgeTitle_without_complaint {limits : Limits} {value : Json} {verdict : Verdict Text}
    (h : judgeTitle limits value = .ok verdict) (fine : verdict.complaint? = none) :
    ∃ t, value = .str t ∧ verdict = .accepted t.strip := by
  unfold judgeTitle at h
  split at h
  · cases h
    cases fine
  · cases value with
    | str t =>
      obtain ⟨bound, -, judged⟩ := Except.bind_eq_ok_iff.1 h
      cases exceeded : bound.isExceededBy t.strip.length with
      | true =>
        rw [exceeded] at judged
        cases judged
        cases fine
      | false =>
        rw [exceeded] at judged
        exact ⟨t, rfl, (Except.ok.inj judged).symm⟩
    | _ =>
      cases h
      cases fine

theorem stripsTo_judgeDescription {value : Json}
    (fine : (judgeDescription value).complaint? = none) :
    value.StripsTo (judgeDescription value).value? := by
  unfold judgeDescription at fine ⊢
  split
  next blank => exact Json.stripsTo_none blank
  next nonblank =>
    rw [if_neg nonblank] at fine
    cases value with
    | str t => exact .text (by simpa [Json.isBlank] using nonblank)
    | _ => cases fine

theorem exists_of_judgePrice {value : Json} (fine : (judgePrice value).complaint? = none) :
    ∃ d, judgePrice value = .accepted d := by
  cases judged : judgePrice value with
  | accepted d => exact ⟨d, rfl⟩
  | refused complaint =>
    rw [judged] at fine
    cases fine
  | absent =>
    -- A price is never absent.
    unfold judgePrice at judged
    split at judged
    · cases judged
    · split at judged
      · split at judged
        · cases judged
        · split at judged <;> cases judged
      · cases judged

theorem count?_of_judgeStock {value : Json} (fine : (judgeStock value).complaint? = none) :
    ∃ n, value.count? = some n ∧
      orDefault (.int 0) (Report.given .int (judgeStock value)) = .int n := by
  unfold judgeStock at fine ⊢
  unfold Json.count?
  split
  next blank => exact ⟨0, rfl, rfl⟩
  next nonblank =>
    rw [if_neg nonblank] at fine
    split at fine
    next n written =>
      split at fine
      · cases fine
      next nonneg =>
        refine ⟨n, written, ?_⟩
        rw [if_neg nonneg]
        rfl
    · cases fine

theorem activity?_of_judgeActive {value : Json} (fine : (judgeActive value).complaint? = none) :
    ∃ b, value.activity? = some b ∧
      orDefault (.bool true) (Report.given .bool (judgeActive value)) = .bool b := by
  unfold judgeActive at fine ⊢
  unfold Json.activity?
  split
  next blank => exact ⟨true, rfl, rfl⟩
  next nonblank =>
    rw [if_neg nonblank] at fine
    split at fine
    next b written => exact ⟨b, written, rfl⟩
    · cases fine

/-! ### Rows made of drafts -/

/-- A column of texts keeps a text or nothing as it is, if that can be written. -/
theorem ofJson_optionalText {position : Nat} {kept : Option Text} {cell : Cell}
    (h : Cell.ofJson position (optionalText kept) = .ok cell) :
    cell.inTexts = kept ∧ ∀ t, kept = some t → t.hasSurrogate = false := by
  cases kept with
  | none =>
    obtain rfl := Cell.ofJson_null h
    exact ⟨rfl, nofun⟩
  | some t =>
    obtain rfl := Cell.ofJson_str h
    refine ⟨rfl, fun other same => ?_⟩
    obtain rfl := Option.some.inj same
    cases checked : t.checkWritten with
    | ok u => exact Text.checkWritten_eq_ok_iff.1 checked
    | error fault => simp [optionalText, Cell.ofJson, checked, Except.map] at h

/-- An integer that is handed over fits. -/
theorem fits_of_ofJson_int {position : Nat} {n : Int} {cell : Cell}
    (h : Cell.ofJson position (.int n) = .ok cell) : Cell.fits n = true := by
  cases checked : Cell.checkInteger n with
  | ok u => exact Cell.fits_iff.2 (Cell.checkInteger_eq_ok_iff.1 checked)
  | error fault => simp [Cell.ofJson, checked, Except.map] at h

/-- A price that is a decimal becomes the nearest double. -/
theorem Amount.toBinary64_decimal {d : Decimal} {x : Binary64}
    (h : (Amount.decimal d).toBinary64 = .ok x) : x = .ofDecimal d := by
  cases d with
  | nan negative signaling payload =>
    cases signaling with
    | true => cases h
    | false => exact (Except.ok.inj h).symm
  | _ => exact (Except.ok.inj h).symm

/-- The double and the flag of a draft are those of its decimal and of its truth value. -/
theorem Draft.convert_eq_ok {draft : Draft} {d : Decimal} {b isActive : Bool} {price : Binary64}
    (priced : draft.price = some (.decimal d))
    (flagged : orDefault (.bool true) draft.isActive = .bool b)
    (h : draft.convert = .ok (price, isActive)) : price = .ofDecimal d ∧ isActive = b := by
  obtain ⟨x, converted, h⟩ := Except.bind_eq_ok_iff.1 h
  obtain ⟨flag, found, h⟩ := Except.bind_eq_ok_iff.1 h
  rw [priced] at converted
  rw [flagged] at found
  cases h
  exact ⟨Amount.toBinary64_decimal converted, (Except.ok.inj found).symm⟩

/-- The row of a draft that is made of what was submitted is so too. -/
theorem isMadeOf_of_entry {fields : Json.Members} {draft : Draft} {product : Product}
    {price : Binary64} {isActive : Bool} (made : draft.IsMadeOf fields)
    (converted : draft.convert = .ok (price, isActive))
    (h : Store.entry draft price isActive = .ok ⟨some product.title, product.sku,
      product.description, some product.price, some product.stock, product.isActive⟩) :
    product.IsMadeOf fields ∧ product.IsWritten := by
  obtain ⟨title, madeTitle, h⟩ := Except.bind_eq_ok_iff.1 h
  obtain ⟨sku, madeSku, h⟩ := Except.bind_eq_ok_iff.1 h
  obtain ⟨description, madeDescription, h⟩ := Except.bind_eq_ok_iff.1 h
  obtain ⟨stock, madeStock, h⟩ := Except.bind_eq_ok_iff.1 h
  have columns := Except.ok.inj h
  simp only [Store.Entry.mk.injEq] at columns
  obtain ⟨titled, skued, described, priced, stocked, flagged⟩ := columns
  obtain ⟨t, submitted, draftTitle⟩ := made.title
  obtain ⟨keptSku, stripsSku, draftSku⟩ := made.sku
  obtain ⟨keptDescription, strips, draftDescription⟩ := made.description
  obtain ⟨d, accepted, draftPrice⟩ := made.price
  obtain ⟨n, counted, draftStock⟩ := made.stock
  obtain ⟨b, active, draftActive⟩ := made.isActive
  obtain ⟨rfl, rfl⟩ := Draft.convert_eq_ok draftPrice draftActive converted
  rw [draftTitle] at madeTitle
  rw [draftSku] at madeSku
  rw [draftDescription] at madeDescription
  rw [draftStock] at madeStock
  -- What each column keeps is what the draft has for it, and that has been checked on the way.
  have textTitle : title.inTexts = some t.strip ∧ _ := ofJson_optionalText madeTitle
  have textSku := ofJson_optionalText madeSku
  have textDescription := ofJson_optionalText madeDescription
  have fits := fits_of_ofJson_int madeStock
  obtain ⟨rfl, -⟩ := Cell.ofJson_int madeStock
  rw [textTitle.1] at titled
  rw [textSku.1] at skued
  rw [textDescription.1] at described
  obtain rfl := skued
  obtain rfl := described
  have stock : product.stock = .whole n := (Option.some.inj stocked).symm
  have title : product.title = t.strip := (Option.some.inj titled).symm
  have whole : product.title.hasSurrogate = false := title ▸ textTitle.2 t.strip rfl
  exact ⟨⟨⟨t, submitted, title⟩, stripsSku, strips, ⟨d, accepted, priced⟩, ⟨n, counted, stock⟩,
    flagged ▸ active⟩, ⟨whole, textSku.2, textDescription.2, ⟨n, stock, fits⟩⟩⟩

end Product

namespace Shop

variable {start after : Shop} {fields : Json.Members} {response : Response} {request : Request}

/-! ### What was submitted -/

theorem stripsTo_of_gives_judgeSku {limits : Product.Limits} {value : Json}
    {verdict : Product.Verdict Text}
    (h : Gives (Product.judgeSku limits isTaken value) start verdict after)
    (fine : verdict.complaint? = none) : value.StripsTo verdict.value? := by
  unfold Product.judgeSku at h
  split at h
  next blank =>
    obtain ⟨rfl, -⟩ := gives_pure_iff.1 h
    exact Json.stripsTo_none blank
  next nonblank =>
    cases value with
    | str t =>
      have stripped : Json.StripsTo (.str t) (some t.strip) :=
        .text (by simpa [Json.isBlank] using nonblank)
      obtain ⟨length, judged, asked⟩ := gives_ofFault_bind_iff.1 h
      cases length with
      | accepted sku =>
        obtain ⟨rfl, -⟩ := Product.judgeLength_eq_accepted judged
        obtain ⟨taken, _, -, returned⟩ := gives_bind_iff.1 asked
        cases taken with
        | false =>
          obtain ⟨rfl, -⟩ := gives_pure_iff.1 returned
          exact stripped
        | true =>
          obtain ⟨rfl, -⟩ := gives_pure_iff.1 returned
          cases fine
      | absent =>
        -- A length that was judged makes no text absent.
        obtain ⟨bound, -, judged⟩ := Except.bind_eq_ok_iff.1 judged
        split at judged <;> cases judged
      | refused complaint =>
        obtain ⟨rfl, -⟩ := gives_pure_iff.1 asked
        cases fine
    | _ =>
      obtain ⟨rfl, -⟩ := gives_pure_iff.1 h
      cases fine

/-- A judgement without complaints makes a draft of what was submitted. -/
theorem isMadeOf_of_judge {report : Product.Report}
    (h : (judge (.obj fields)).Gives start report after) (clean : report.complaints = []) :
    report.draft.IsMadeOf fields := by
  obtain ⟨title, titled, rest⟩ := gives_ofFault_bind_iff.1 (gives_shop_bind_iff.1 h)
  obtain ⟨sku, _, judged, returned⟩ := gives_bind_iff.1 rest
  obtain ⟨rfl, -⟩ := gives_pure_iff.1 returned
  obtain ⟨title?, sku?, description?, price?, stock?, isActive?⟩ :=
    Product.Report.complaints_eq_nil_iff.1 clean
  obtain ⟨t, submitted, accepted⟩ := Product.judgeTitle_without_complaint titled title?
  obtain ⟨d, priced⟩ := Product.exists_of_judgePrice price?
  refine ⟨⟨t, submitted, ?_⟩, ⟨sku.value?, ?_, ?_⟩,
    ⟨(Product.judgeDescription (fields.submitted "description")).value?, ?_, ?_⟩,
    ⟨d, priced, ?_⟩, ?_, ?_⟩
  · exact accepted ▸ rfl
  · exact stripsTo_of_gives_judgeSku judged sku?
  · exact Product.Report.given_str sku
  · exact Product.stripsTo_judgeDescription description?
  · exact Product.Report.given_str _
  · exact congrArg (fun verdict => (verdict.value?.map Product.Amount.decimal)) priced
  · exact Product.count?_of_judgeStock stock?
  · exact Product.activity?_of_judgeActive isActive?

/-- A product that was added is made of what was submitted, and its row stands behind the others. -/
theorem isMadeOf_of_gives_submitProduct (h : (submitProduct fields).Gives start response after)
    (created : response.status = 201) :
    ∃ product, response = createdResponse product ∧ product.IsMadeOf fields ∧ product.IsWritten ∧
      start.store.IsNewProduct product ∧
      Shop.Alike { start with store := start.store.putProduct product } after := by
  obtain ⟨report, mid, judged, rest⟩ := gives_bind_iff.1 h
  have like := (isQuiet_judge _).alike_of_gives judged
  split at rest
  next clean =>
    obtain ⟨product, last, added, returned⟩ := gives_bind_iff.1 rest
    obtain ⟨rfl, rfl⟩ := gives_pure_iff.1 returned
    obtain ⟨-, isNew, ⟨price, isActive, converted, entry⟩, changed⟩ := gives_addProduct added
    obtain ⟨made, written⟩ := Product.isMadeOf_of_entry
      (isMadeOf_of_judge judged (List.isEmpty_iff.1 clean)) converted entry
    exact ⟨product, rfl, made, written, like.store ▸ isNew,
      (like.mapStore (·.putProduct product)).trans changed⟩
  next unclean =>
    obtain ⟨rfl, -⟩ := gives_pure_iff.1 rest
    cases created

/-- A request for a view that only takes what is sent gets its response with the body. -/
theorem delivered_of_addProduct {visit : Visit} (visited : request.visit? = some visit)
    (view : visit.view = .addProduct) (response : Response) :
    request.delivered response = response := by
  have asked : visit.view.asked? = some ("/products", [.post]) := by rw [view]; rfl
  exact Request.delivered_of_post (Request.asksFor_of_visited visited asked) response

/-- A response with a status of its own, which no page for failures has, is that of a view. -/
theorem exists_gives_view (answered : (start.step (.request request)).answer = .response response)
    (own : response.status ∉ 500 :: 503 :: unvisitedStatuses) :
    ∃ visit given, request.visit? = some visit ∧ response = request.delivered given ∧
      (view visit.view visit.key request.body).Gives start given
        (start.step (.request request)).shop := by
  cases visited : request.visit? with
  | none =>
    -- Without a view the status is one of those that are left aside.
    rcases respond_of_unvisited visited with ⟨fault, same⟩ | ⟨known, status, same⟩
    · have ends : (respond request).Fails start (.fault fault) start := by simp [same]
      rw [(step_of_fails_respond ends).1] at answered
      cases answered
    · have ends : (respond request).Gives start known start := by simp [same]
      rw [(step_of_gives_respond ends).1] at answered
      obtain rfl := Answer.response.inj answered
      exact absurd (List.mem_cons_of_mem _ (List.mem_cons_of_mem _ status)) own
  | some visit =>
    rcases gives_or_fails (settled request visit) start with
      ⟨given, after, ends⟩ | ⟨failure, after, ends⟩
    · obtain ⟨answer, shop⟩ := step_of_gives_settled visited ends
      rw [answer] at answered
      obtain rfl := Answer.response.inj answered
      rw [Request.status_delivered] at own
      rcases gives_settled ends with shown | ⟨-, rfl | rfl⟩
      · exact ⟨visit, given, rfl, rfl, shop ▸ shown⟩
      · exact absurd (by simp) own
      · exact absurd (by simp) own
    · rw [(step_of_fails_settled visited ends).1] at answered
      cases answered

/-- A request that is answered with the status for a new product has added one that is made of what
was submitted. -/
theorem exists_created_of_status
    (answered : (start.step (.request request)).answer = .response response)
    (created : response.status = 201) :
    ∃ visit product, request.visit? = some visit ∧ visit.view = .addProduct ∧
      response = request.delivered (createdResponse product) ∧
      product.IsMadeOf request.body.fields ∧ product.IsWritten ∧
      start.store.IsNewProduct product ∧
      Shop.Alike { start with store := start.store.putProduct product }
        (start.step (.request request)).shop := by
  have own : response.status ∉ 500 :: 503 :: unvisitedStatuses := by
    rw [created]
    decide
  obtain ⟨visit, given, visited, rfl, shown⟩ := exists_gives_view answered own
  rw [Request.status_delivered] at created
  -- Of all views only that for new products answers so, and only for a user.
  obtain ⟨changed, serves, -⟩ := exists_serves_of_gives shown
  obtain ⟨-, view, -⟩ | ⟨other, -⟩ := serves.products
  · rw [view] at shown
    rcases gives_forUser shown with ⟨-, rfl, -⟩ | ⟨user, mid, -, like, submitted⟩
    · cases created
    · obtain ⟨-, done⟩ := gives_submitBody_iff.1 submitted
      obtain ⟨product, rfl, made, written, isNew, changed⟩ :=
        isMadeOf_of_gives_submitProduct done created
      exact ⟨visit, product, visited, view, rfl, made, written, like.store ▸ isNew,
        (like.mapStore (·.putProduct product)).trans changed⟩
  · exact (other created).elim

end Shop

end Storefront
