import Storefront.Proofs.Agreement
import Storefront.Proofs.NormalForm

/-!
# Fields are judged one by one

A report has one place for each of the six fields of a product: among the accepted values, among the
complaints, or in neither for a field that may be left out and is. Nothing else is in it, and what
it says of a field is decided by what was submitted for this field, by the limits and by the
products that there are; the other fields have no part in it.

## Main definitions

* `Product.Report.verdicts` — the verdicts by the names of their fields
* `Product.Report.HasPlaces` — reports that have one place for each field

## Main results

* `Shop.gives_judge_iff` — what a report is made of
* `Shop.exists_gives_isTaken_iff` — when it can be found out whether a SKU is taken
* `Shop.places_of_gives_judge` — each field has its place, which the other fields do not decide
-/

namespace Storefront

open Service

/-! ### Entries by names -/

namespace Text

variable {α β : Type} {entries : List (Text × α)}

/-- A look-up among the entries for which something is found, where no name stands twice. -/
theorem lookup_filterMap_of_nodup {find : α → Option β} (nodup : (entries.map (·.1)).Nodup)
    (name : Text) :
    (entries.filterMap fun entry => (find entry.2).map (entry.1, ·)).lookup name =
      (entries.lookup name).bind find := by
  induction entries with
  | nil => rfl
  | cons entry rest ih =>
    obtain ⟨first, a⟩ := entry
    rw [List.map_cons, List.nodup_cons] at nodup
    rw [List.filterMap_cons]
    by_cases same : name = first
    · -- An entry for which nothing is found is left out, and no later one has its name.
      subst same
      have once : rest.lookup name = none := by
        refine List.lookup_eq_none_iff.2 fun entry mem => ?_
        simpa using fun same : name = entry.1 =>
          nodup.1 (List.mem_map.2 ⟨entry, mem, same.symm⟩)
      cases found : find a with
      | none => simp [ih nodup.2, once, found]
      | some b => simp [found]
    · have differs : (name == first) = false := by simpa using same
      cases find a <;> simp [List.lookup_cons, differs, ih nodup.2]

theorem map_fst_filterMap_sublist (find : α → Option β) :
    ((entries.filterMap fun entry => (find entry.2).map (entry.1, ·)).map (·.1)).Sublist
      (entries.map (·.1)) := by
  induction entries with
  | nil => exact .slnil
  | cons entry rest ih =>
    rw [List.filterMap_cons, List.map_cons]
    cases find entry.2 with
    | none => exact ih.cons _
    | some b => exact ih.cons_cons _

end Text

namespace Product

variable {α β : Type}

/-! ### Reports by names -/

/-- A verdict on a value in another form. -/
def Verdict.map (f : α → β) : Verdict α → Verdict β
  | absent => .absent
  | accepted a => .accepted (f a)
  | refused complaint => .refused complaint

@[simp] theorem Verdict.value?_map (f : α → β) (verdict : Verdict α) :
    (verdict.map f).value? = verdict.value?.map f := by
  cases verdict <;> rfl

@[simp] theorem Verdict.complaint?_map (f : α → β) (verdict : Verdict α) :
    (verdict.map f).complaint? = verdict.complaint? := by
  cases verdict <;> rfl

theorem Verdict.map_eq_absent_iff {f : α → β} {verdict : Verdict α} :
    verdict.map f = .absent ↔ verdict = .absent := by
  cases verdict <;> simp [map]

namespace Report

variable {report other : Report} {name : Text}

/-- The verdicts with the names of their fields, in the order of the names. -/
def verdicts (report : Report) : List (Text × Verdict Value) :=
  [(Text.ofString "description", report.description.map .text),
   (Text.ofString "is_active", report.isActive.map .flag),
   (Text.ofString "price", report.price.map .price),
   (Text.ofString "sku", report.sku.map .text),
   (Text.ofString "stock", report.stock.map .stock),
   (Text.ofString "title", report.title.map .text)]

theorem cleaned_eq (report : Report) :
    report.cleaned = report.verdicts.filterMap fun entry =>
      entry.2.value?.map (entry.1, ·) := by
  simp [cleaned, verdicts, List.filterMap_cons]

theorem complaints_eq (report : Report) :
    report.complaints = report.verdicts.filterMap fun entry =>
      entry.2.complaint?.map (entry.1, ·) := by
  simp [complaints, verdicts, List.filterMap_cons]

/-- The names of the fields. -/
theorem map_fst_verdicts (report : Report) :
    report.verdicts.map (·.1) =
      ["description", "is_active", "price", "sku", "stock", "title"].map Text.ofString :=
  rfl

theorem mem_fieldNames_iff :
    name ∈ fieldNames ↔ name ∈ report.verdicts.map (·.1) := by
  rw [map_fst_verdicts]
  exact ⟨(by decide : ∀ name ∈ fieldNames, name ∈ _) name,
    (by decide : ∀ name ∈ _, name ∈ fieldNames) name⟩

theorem nodup_map_fst_verdicts (report : Report) : (report.verdicts.map (·.1)).Nodup := by
  rw [map_fst_verdicts]
  decide

theorem lookup_cleaned (report : Report) (name : Text) :
    report.cleaned.lookup name = (report.verdicts.lookup name).bind Verdict.value? := by
  rw [cleaned_eq, Text.lookup_filterMap_of_nodup report.nodup_map_fst_verdicts]

theorem lookup_complaints (report : Report) (name : Text) :
    report.complaints.lookup name = (report.verdicts.lookup name).bind Verdict.complaint? := by
  rw [complaints_eq, Text.lookup_filterMap_of_nodup report.nodup_map_fst_verdicts]

end Report

/-- The names of the fields that may be left out. -/
def optionalNames : List Text :=
  ["sku", "description", "stock", "is_active"].map Text.ofString

/-- A report has one place for each field: among the accepted values, among the complaints, or in
neither, which only happens to a field that may be left out and is. There is nothing else in it. -/
structure Report.HasPlaces (fields : Json.Members) (report : Report) : Prop where
  accepted_names : (report.cleaned.map (·.1)).Nodup ∧
    ∀ name ∈ report.cleaned.map (·.1), name ∈ fieldNames
  refused_names : (report.complaints.map (·.1)).Nodup ∧
    ∀ name ∈ report.complaints.map (·.1), name ∈ fieldNames
  placed : ∀ name ∈ fieldNames,
    (report.cleaned.lookup name).isSome ∧ report.complaints.lookup name = none ∨
    report.cleaned.lookup name = none ∧ (report.complaints.lookup name).isSome ∨
    report.cleaned.lookup name = none ∧ report.complaints.lookup name = none ∧
      name ∈ optionalNames ∧ ((fields.get? name).getD .null).isBlank = true

/-! ### What is left out -/

section Absent

variable {limits : Limits} {taken : Text → Except Fault Bool} {value : Json}

theorem isBlank_of_judgeSku (h : judgeSku limits taken value = .ok .absent) :
    value.isBlank = true := by
  unfold judgeSku at h
  split at h
  next blank => exact blank
  · cases value with
    | str t =>
      obtain ⟨verdict, measured, rest⟩ := Except.bind_eq_ok_iff.1 h
      cases verdict with
      | accepted sku =>
        obtain ⟨among, -, returned⟩ := Except.bind_eq_ok_iff.1 rest
        cases among <;> cases returned
      | absent =>
        obtain ⟨bound, -, judged⟩ := Except.bind_eq_ok_iff.1 measured
        split at judged <;> cases judged
      | refused complaint => cases rest
    | _ => cases h

theorem isBlank_of_judgeDescription (h : judgeDescription value = .absent) :
    value.isBlank = true := by
  unfold judgeDescription at h
  split at h
  next blank => exact blank
  · cases value <;> cases h

/-- A price is never absent. -/
theorem judgePrice_ne_absent : judgePrice value ≠ .absent := by
  intro h
  unfold judgePrice at h
  split at h
  · cases h
  · split at h
    · split at h
      · cases h
      · split at h <;> cases h
    · cases h

theorem isBlank_of_judgeStock (h : judgeStock value = .absent) : value.isBlank = true := by
  unfold judgeStock at h
  split at h
  next blank => exact blank
  · split at h
    · split at h <;> cases h
    · cases h

theorem isBlank_of_judgeActive (h : judgeActive value = .absent) : value.isBlank = true := by
  unfold judgeActive at h
  split at h
  next blank => exact blank
  · split at h <;> cases h

end Absent

/-! ### What a report is made of -/

variable {limits : Limits} {taken : Text → Except Fault Bool} {fields given : Json.Members}
variable {report other : Report} {name : Text}

theorem judge_eq_ok_iff :
    judge limits taken fields = .ok report ↔
      judgeTitle limits (fields.submitted "title") = .ok report.title ∧
        judgeSku limits taken (fields.submitted "sku") = .ok report.sku ∧
          judgeDescription (fields.submitted "description") = report.description ∧
            judgePrice (fields.submitted "price") = report.price ∧
              judgeStock (fields.submitted "stock") = report.stock ∧
                judgeActive (fields.submitted "is_active") = report.isActive := by
  unfold judge
  simp only [Except.bind_eq_ok_iff]
  constructor
  · rintro ⟨title, titled, sku, skued, returned⟩
    obtain rfl := Except.ok.inj returned
    exact ⟨titled, skued, rfl, rfl, rfl, rfl⟩
  · obtain ⟨title, sku, description, price, stock, isActive⟩ := report
    rintro ⟨titled, skued, rfl, rfl, rfl, rfl⟩
    exact ⟨_, titled, _, skued, rfl⟩

/-- Every field has a verdict, which leaves it out only where that is allowed. -/
theorem exists_verdict_of_judge (judged : judge limits taken fields = .ok report)
    (field : name ∈ fieldNames) :
    ∃ verdict, report.verdicts.lookup name = some verdict ∧
      (verdict = .absent →
        name ∈ optionalNames ∧ ((fields.get? name).getD .null).isBlank = true) := by
  obtain ⟨title, sku, description, price, stock, isActive⟩ := judge_eq_ok_iff.1 judged
  simp only [fieldNames, List.map_cons, List.map_nil, List.mem_cons, List.not_mem_nil,
    or_false] at field
  -- A title and a price are never left out; the other four are only if they are blank.
  rcases field with rfl | rfl | rfl | rfl | rfl | rfl
  · refine ⟨_, rfl, fun absent => ?_⟩
    rw [Verdict.map_eq_absent_iff.1 absent] at title
    exact (judgeTitle_ne_absent title).elim
  · refine ⟨_, rfl, fun absent => ⟨by decide, ?_⟩⟩
    rw [Verdict.map_eq_absent_iff.1 absent] at sku
    exact isBlank_of_judgeSku sku
  · refine ⟨_, rfl, fun absent => ⟨by decide, ?_⟩⟩
    exact isBlank_of_judgeDescription (description.trans (Verdict.map_eq_absent_iff.1 absent))
  · refine ⟨_, rfl, fun absent => ?_⟩
    exact (judgePrice_ne_absent (price.trans (Verdict.map_eq_absent_iff.1 absent))).elim
  · refine ⟨_, rfl, fun absent => ⟨by decide, ?_⟩⟩
    exact isBlank_of_judgeStock (stock.trans (Verdict.map_eq_absent_iff.1 absent))
  · refine ⟨_, rfl, fun absent => ⟨by decide, ?_⟩⟩
    exact isBlank_of_judgeActive (isActive.trans (Verdict.map_eq_absent_iff.1 absent))

theorem hasPlaces_of_judge (judged : judge limits taken fields = .ok report) :
    report.HasPlaces fields where
  accepted_names := by
    rw [Report.cleaned_eq]
    refine ⟨report.nodup_map_fst_verdicts.sublist (Text.map_fst_filterMap_sublist _), ?_⟩
    intro name mem
    exact Report.mem_fieldNames_iff.2 ((Text.map_fst_filterMap_sublist _).subset mem)
  refused_names := by
    rw [Report.complaints_eq]
    refine ⟨report.nodup_map_fst_verdicts.sublist (Text.map_fst_filterMap_sublist _), ?_⟩
    intro name mem
    exact Report.mem_fieldNames_iff.2 ((Text.map_fst_filterMap_sublist _).subset mem)
  placed name field := by
    obtain ⟨verdict, found, leaves⟩ := exists_verdict_of_judge judged field
    rw [Report.lookup_cleaned, Report.lookup_complaints, found]
    cases verdict with
    | accepted value => exact .inl ⟨rfl, rfl⟩
    | refused complaint => exact .inr (.inl ⟨rfl, rfl⟩)
    | absent => exact .inr (.inr ⟨rfl, rfl, leaves rfl⟩)

/-- What was submitted for a field decides its verdict. -/
theorem lookup_verdicts_of_judge (judged : judge limits taken fields = .ok report)
    (again : judge limits taken given = .ok other)
    (same : (given.get? name).getD .null = (fields.get? name).getD .null) :
    other.verdicts.lookup name = report.verdicts.lookup name := by
  by_cases field : name ∈ fieldNames
  · obtain ⟨title, sku, description, price, stock, isActive⟩ := judge_eq_ok_iff.1 judged
    obtain ⟨title', sku', description', price', stock', isActive'⟩ := judge_eq_ok_iff.1 again
    unfold Json.Members.submitted at *
    simp only [fieldNames, List.map_cons, List.map_nil, List.mem_cons, List.not_mem_nil,
      or_false] at field
    rcases field with rfl | rfl | rfl | rfl | rfl | rfl
    · rw [same, title] at title'
      exact congrArg (fun verdict => some (Verdict.map Value.text verdict))
        (Except.ok.inj title').symm
    · rw [same, sku] at sku'
      exact congrArg (fun verdict => some (Verdict.map Value.text verdict))
        (Except.ok.inj sku').symm
    · rw [same, description] at description'
      exact congrArg (fun verdict => some (Verdict.map Value.text verdict)) description'.symm
    · rw [same, price] at price'
      exact congrArg (fun verdict => some (Verdict.map Value.price verdict)) price'.symm
    · rw [same, stock] at stock'
      exact congrArg (fun verdict => some (Verdict.map Value.stock verdict)) stock'.symm
    · rw [same, isActive] at isActive'
      exact congrArg (fun verdict => some (Verdict.map Value.flag verdict)) isActive'.symm
  · -- What is no field has no verdict in any report.
    have none (report : Report) : report.verdicts.lookup name = none := by
      refine List.lookup_eq_none_iff.2 fun entry mem => ?_
      simpa using fun same : name = entry.1 =>
        field (Report.mem_fieldNames_iff.2 (List.mem_map.2 ⟨entry, mem, same.symm⟩))
    rw [none, none]

end Product

namespace Shop

variable {start after other last : Shop} {payload : Json} {fields : Json.Members}
variable {report again : Product.Report} {sku : Text} {taken : Bool}

/-! ### What is found out of the rows -/

/-- A service whose result has a property gives a value with it. -/
theorem exists_gives_of_any {α : Type} {service : Service α} {holds : α → Bool}
    (h : (service start).result.toOption.any holds = true) :
    ∃ a after, service.Gives start a after ∧ holds a = true := by
  rcases gives_or_fails service start with ⟨a, after, ends⟩ | ⟨failure, after, ends⟩
  · rw [ends.1] at h
    exact ⟨a, after, ends, h⟩
  · rw [ends.1] at h
    cases h

/-- Whether a SKU is taken is found out of the rows, if they can be reached. -/
theorem exists_gives_isTaken_iff :
    (∃ after, (isTaken sku).Gives start taken after) ↔
      start.outage = false ∧ ∃ products, start.store.products = some products ∧
        Product.isAmong products sku = .ok taken := by
  constructor
  · rintro ⟨after, asked⟩
    obtain ⟨found, _, called, returned⟩ := gives_bind_iff.1 asked
    obtain ⟨rfl, -⟩ := gives_pure_iff.1 returned
    obtain ⟨outage, values, store, written, effect, -⟩ := gives_call (gives_guarded_iff.1 called)
    obtain ⟨⟨products, table, rfl⟩, -⟩ := Store.effect_productBySku.1 effect
    refine ⟨outage, products, table, Except.bind_eq_ok_iff.2 ⟨values, written, ?_⟩⟩
    exact congrArg Except.ok List.isSome_find?.symm
  · rintro ⟨outage, products, table, among⟩
    obtain ⟨values, written, found⟩ := Except.bind_eq_ok_iff.1 among
    have effect : (Store.productBySku sku).effect values start.store =
        .ok (products.find? (fun product => product.sku = some sku), start.store) :=
      Store.effect_productBySku.2 ⟨⟨products, table, rfl⟩, rfl⟩
    have there : start.store.has Table.products = true := by
      simp [Store.has, table]
    obtain ⟨after, called, -⟩ := exists_gives_call (Store.productBySku sku) outage there written
      effect
    refine ⟨after, gives_bind_iff.2 ⟨_, after, gives_guarded_iff.2 called, ?_⟩⟩
    rw [gives_pure_iff]
    refine ⟨?_, rfl⟩
    obtain rfl := Except.ok.inj found
    exact List.isSome_find?.symm

theorem judgeSku_of_gives {limits : Product.Limits} {value : Json}
    {verdict : Product.Verdict Text}
    (judged : Gives (Product.judgeSku limits isTaken value) start verdict after) :
    Product.judgeSku limits (Product.isAmong (start.store.products.getD [])) value =
      .ok verdict := by
  unfold Product.judgeSku at judged ⊢
  split at judged
  next blank =>
    obtain ⟨rfl, -⟩ := gives_pure_iff.1 judged
    rw [if_pos blank]
    rfl
  next nonblank =>
    rw [if_neg nonblank]
    cases value with
    | str t =>
      obtain ⟨length, measured, asked⟩ := gives_ofFault_bind_iff.1 judged
      refine Except.bind_eq_ok_iff.2 ⟨length, measured, ?_⟩
      cases length with
      | accepted sku =>
        -- The rows have been asked, so there is a table of them.
        obtain ⟨taken, _, found, returned⟩ := gives_bind_iff.1 asked
        obtain ⟨-, products, table, among⟩ := exists_gives_isTaken_iff.1 ⟨_, found⟩
        rw [table]
        refine Except.bind_eq_ok_iff.2 ⟨taken, among, ?_⟩
        cases taken <;> exact congrArg Except.ok (gives_pure_iff.1 returned).1.symm
      | absent => exact congrArg Except.ok (gives_pure_iff.1 asked).1.symm
      | refused complaint => exact congrArg Except.ok (gives_pure_iff.1 asked).1.symm
    | _ => exact congrArg Except.ok (gives_pure_iff.1 judged).1.symm

/-- A report is made of the verdicts on what was submitted for each field. -/
theorem gives_judge_iff :
    (judge (.obj fields)).Gives start report after ↔
      Product.judgeTitle start.limits (fields.submitted "title") = .ok report.title ∧
        Gives (Product.judgeSku start.limits isTaken (fields.submitted "sku")) start report.sku
          after ∧
          Product.judgeDescription (fields.submitted "description") = report.description ∧
            Product.judgePrice (fields.submitted "price") = report.price ∧
              Product.judgeStock (fields.submitted "stock") = report.stock ∧
                Product.judgeActive (fields.submitted "is_active") = report.isActive := by
  refine gives_shop_bind_iff.trans (gives_ofFault_bind_iff.trans ?_)
  constructor
  · rintro ⟨title, titled, rest⟩
    obtain ⟨sku, _, skued, returned⟩ := gives_bind_iff.1 rest
    obtain ⟨rfl, rfl⟩ := gives_pure_iff.1 returned
    exact ⟨titled, skued, rfl, rfl, rfl, rfl⟩
  · obtain ⟨title, sku, description, price, stock, isActive⟩ := report
    rintro ⟨titled, skued, rfl, rfl, rfl, rfl⟩
    exact ⟨_, titled, gives_bind_iff.2 ⟨_, _, skued, gives_pure_iff.2 ⟨rfl, rfl⟩⟩⟩

/-- A report can be calculated from the limits and the rows. -/
theorem judge_of_gives (judged : (judge (.obj fields)).Gives start report after) :
    Product.judge start.limits (Product.isAmong (start.store.products.getD [])) fields =
      .ok report := by
  obtain ⟨title, sku, rest⟩ := gives_judge_iff.1 judged
  exact Product.judge_eq_ok_iff.2 ⟨title, judgeSku_of_gives sku, rest⟩

/-- Whenever a payload is judged, each field has one place in the report, and what was submitted for
it decides what the report says of it: any other payload with the same in this field is told the
same of it, be its other fields as they may, where the limits and the products are the same. -/
theorem places_of_gives_judge (judged : (judge payload).Gives start report after) :
    ∃ fields : Json.Members, payload = .obj fields ∧ report.HasPlaces fields ∧
      ∀ {other last : Shop} {given : Json.Members} {again : Product.Report},
        (judge (.obj given)).Gives other again last → other.limits = start.limits →
        other.store.products = start.store.products → ∀ name : Text,
          (given.get? name).getD .null = (fields.get? name).getD .null →
            again.cleaned.lookup name = report.cleaned.lookup name ∧
              again.complaints.lookup name = report.complaints.lookup name := by
  obtain ⟨fields, rfl⟩ := exists_of_gives_judge judged
  have made := judge_of_gives judged
  refine ⟨fields, rfl, Product.hasPlaces_of_judge made, ?_⟩
  intro other last given again judgedAgain limits table name same
  have madeAgain := judge_of_gives judgedAgain
  rw [limits, table] at madeAgain
  have verdicts := Product.lookup_verdicts_of_judge made madeAgain same
  simp only [Product.Report.lookup_cleaned, Product.Report.lookup_complaints, verdicts, and_self]

/-- A submission of nothing but the SKU of the product that there is. -/
def bareFields : Json.Members := [(Text.ofString "sku", .str (Text.ofString " L-1 "))]

/-- A SKU that is taken is told to be so with a title and a price beside it and without. -/
theorem places_of_gives_judge_withProduct :
    ∃ report after again last,
      (judge (.obj takenFields)).Gives withProduct report after ∧ report.HasPlaces takenFields ∧
        (judge (.obj bareFields)).Gives withProduct again last ∧
          again.complaints.lookup (Text.ofString "sku") =
            report.complaints.lookup (Text.ofString "sku") := by
  have accepted : (judge (.obj takenFields) withProduct).result.toOption.any (fun _ => true) =
      true := by
    decide +kernel
  have refused : (judge (.obj bareFields) withProduct).result.toOption.any (fun _ => true) =
      true := by
    decide +kernel
  obtain ⟨report, after, judged, -⟩ := exists_gives_of_any accepted
  obtain ⟨again, last, bare, -⟩ := exists_gives_of_any refused
  obtain ⟨fields, same, places, alone⟩ := places_of_gives_judge judged
  obtain rfl : takenFields = fields := Json.obj.inj same
  exact ⟨report, after, again, last, judged, places, bare, (alone bare rfl rfl _ rfl).2⟩

end Shop

end Storefront
