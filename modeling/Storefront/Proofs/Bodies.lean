import Mathlib.Data.List.DropRight
import Storefront.Proofs.Nested
import Storefront.Proofs.Storable

/-!
# Forms and JSON bodies

A product may be submitted as a form or as a JSON object, and nothing tells the two apart but the
values that their names have. Of several pairs of a form with one name the first one counts, of
several members of an object the last one, and whichever way the object is written, the same members
are read. A body that is sent as JSON and is no object counts as a form without pairs.

All of this is so of bodies that can be read. What is nested too deep is no form without pairs and
no object either: for a user nothing answers for it. Whoever is not logged in is told so and nothing
else, whatever was sent.

## Main definitions

* `Body.IsForm` — bodies that send some pairs as a form
* `Body.IsJson`, `Body.Writes` — bodies that are sent as JSON, and the values that these write

## Main results

* `Form.lookup_grouped` — grouping keeps the first pair of each name
* `Body.json?_eq_some_iff` — the members of an object are those that the body writes
* `Body.pairs_of_isJson` — a body that is sent as JSON has no pairs
* `Shop.submitProduct_congr` — fields with the same values are submitted alike
* `Shop.step_submission_congr` — so are bodies with such fields that can be read alike
* `Shop.step_json_eq_step_form` — a JSON object is answered as a form with the same fields is
* `Shop.not_always_as_form` — a long row of brackets is not answered as an empty form is
-/

namespace Storefront

/-! ### Look-ups -/

section Lookup

variable {α : Type} {pairs : List (Text × α)} {name other : Text}

theorem lookup_filter_name :
    (pairs.filter (·.1 = other)).lookup name =
      if name = other then pairs.lookup name else none := by
  induction pairs with
  | nil => simp
  | cons pair rest ih =>
    obtain ⟨first, value⟩ := pair
    by_cases same : name = first
    · subst same
      by_cases kept : name = other <;> simp [kept, ih]
    · have differs : (name == first) = false := by simpa using same
      by_cases kept : first = other
      · subst kept
        simp [List.lookup_cons, differs, same, ih]
      · simp [List.lookup_cons, differs, kept, ih]

theorem lookup_flatMap_filter_name (names : List Text) :
    (names.flatMap fun other => pairs.filter (·.1 = other)).lookup name =
      if name ∈ names then pairs.lookup name else none := by
  induction names with
  | nil => rfl
  | cons first rest ih =>
    rw [List.flatMap_cons, List.lookup_append, ih, lookup_filter_name]
    by_cases same : name = first
    · subst same
      cases pairs.lookup name <;> simp
    · simp [same]

theorem lookup_map_value {β : Type} (make : α → β) :
    (pairs.map fun pair => (pair.1, make pair.2)).lookup name = (pairs.lookup name).map make := by
  induction pairs with
  | nil => rfl
  | cons pair rest ih =>
    rw [List.map_cons, List.lookup_cons, List.lookup_cons, ih]
    cases name == pair.1 <;> rfl

end Lookup

/-- The first pair of each name stays the first one. -/
theorem Form.lookup_grouped (pairs : List (Text × Text)) (name : Text) :
    (grouped pairs).lookup name = pairs.lookup name := by
  rw [grouped, lookup_flatMap_filter_name]
  split
  next => rfl
  next missing =>
    symm
    rw [List.lookup_eq_none_iff]
    intro pair mem
    have differs : pair.1 ≠ name := fun same =>
      missing (List.mem_eraseDups.2 (same ▸ List.mem_map_of_mem mem))
    simpa using differs.symm

/-! ### Bodies -/

namespace Body

variable {body : Body} {pairs : List (Text × Text)} {members : Json.Members} {name : Text}

/-- The content type of a body. -/
def contentType : Body → Option Text
  | form contentType _ => contentType
  | text contentType .. => contentType
  | bytes contentType .. => contentType

/-- A body that can be sent and that sends some pairs as a form: the pairs themselves, or bytes that
they are read from, be it as they stand or in parts. -/
inductive IsForm (pairs : List (Text × Text)) : Body → Prop
  | pairs (whole : ∀ pair ∈ pairs, pair.1.hasSurrogate = false ∧ pair.2.hasSurrogate = false) :
    IsForm pairs (.form none pairs)
  | bytes {contentType : Text} {content : Bytes} {parts : List (Text × Text)}
    (sent : (Body.bytes (some contentType) content parts).check = .ok ())
    (typed : mediaType contentType = formType) (read : Form.read content = pairs) :
    IsForm pairs (.bytes (some contentType) content parts)
  | parts {contentType : Text} {content : Bytes}
    (sent : (Body.bytes (some contentType) content pairs).check = .ok ())
    (typed : mediaType contentType = partsType) :
    IsForm pairs (.bytes (some contentType) content pairs)

/-- A body that can be sent and that is sent as JSON. -/
structure IsJson (body : Body) : Prop where
  sent : body.check = .ok ()
  typed : ∃ contentType, body.contentType = some contentType ∧
    isJsonType (mediaType contentType) = true

/-- A body writes a value as JSON: its text does, or its bytes do in the encoding that they show.
The bytes of a text may do so although it does not itself, if there are zeros among them. -/
inductive Writes (value : Json) : Body → Prop
  | text {contentType : Option Text} {content : Text} {parts : List (Text × Text)}
    (text : Json.IsTextOf content value) : Writes value (.text contentType content parts)
  | utf8 {contentType : Option Text} {content : Text} {parts : List (Text × Text)}
    (written : Json.IsWrittenBy content.utf8 value) : Writes value (.text contentType content parts)
  | bytes {contentType : Option Text} {content : Bytes} {parts : List (Text × Text)}
    (written : Json.IsWrittenBy content value) : Writes value (.bytes contentType content parts)

/-! ### Forms -/

theorem check_form
    (whole : ∀ pair ∈ pairs, pair.1.hasSurrogate = false ∧ pair.2.hasSurrogate = false) :
    (Body.form none pairs).check = .ok () := by
  have all (rest : List (Text × Text)) (written : ∀ pair ∈ rest, pair ∈ pairs) :
      rest.forM (fun pair => do
        pair.1.checkWritten
        pair.2.checkWritten) = (.ok () : Except Fault Unit) := by
    induction rest with
    | nil => rfl
    | cons pair rest ih =>
      obtain ⟨mem, others⟩ := List.forall_mem_cons.1 written
      change (pair.1.checkWritten >>= fun _ => pair.2.checkWritten) >>= (fun _ => rest.forM _) = _
      rw [Text.checkWritten_eq_ok_iff.2 (whole pair mem).1,
        Text.checkWritten_eq_ok_iff.2 (whole pair mem).2]
      exact ih others
  exact all (Form.grouped pairs) fun pair mem => Form.mem_grouped.1 mem

theorem IsForm.check (isForm : body.IsForm pairs) : body.check = .ok () := by
  cases isForm with
  | pairs whole => exact check_form whole
  | bytes sent => exact sent
  | parts sent => exact sent

/-- Each name of a form has the value of its first pair. -/
theorem IsForm.get?_fields (isForm : body.IsForm pairs) (name : Text) :
    body.fields.get? name = (pairs.lookup name).map .str := by
  cases isForm with
  | pairs =>
    change ((Form.grouped pairs).map fun pair => (pair.1, Json.str pair.2)).lookup name = _
    rw [lookup_map_value, Form.lookup_grouped]
  | @bytes contentType content parts sent typed read =>
    have noJson : (Body.bytes (some contentType) content parts).json? = none := by
      simp [json?, typed?, typed, (by decide : isJsonType formType = false)]
    have held : (Body.bytes (some contentType) content parts).pairs = pairs := by
      simp [Body.pairs, typed?, typed, read]
    rw [fields, noJson, held]
    exact lookup_map_value _
  | @parts contentType content sent typed =>
    have noJson : (Body.bytes (some contentType) content pairs).json? = none := by
      simp [json?, typed?, typed, (by decide : isJsonType partsType = false)]
    have held : (Body.bytes (some contentType) content pairs).pairs = pairs := by
      simp [Body.pairs, typed?, typed, Body.parts, (by decide : partsType ≠ formType)]
    rw [fields, noJson, held]
    exact lookup_map_value _

/-- A form is no JSON, so it is not nested. -/
theorem IsForm.excess?_eq_none (isForm : body.IsForm pairs) (room : Nat) :
    body.excess? room = none := by
  cases isForm with
  | pairs => rfl
  | bytes sent typed read =>
    simp [excess?, typed?, typed, (by decide : isJsonType formType = false)]
  | parts sent typed =>
    simp [excess?, typed?, typed, (by decide : isJsonType partsType = false)]

/-! ### JSON -/

theorem json?_eq_some_iff_of_typed {media : Text} {content : Bytes}
    (typed : body.typed? = some (media, content)) (json : isJsonType media = true) :
    body.json? = some members ↔ Json.IsWrittenBy content (.obj members) := by
  rw [json?, typed, ← Json.readBytes?_eq_some_iff]
  simp only [Option.bind_eq_bind, Option.bind_some, json, if_true]
  split
  next found => simp [found]
  next other =>
    constructor
    · nofun
    · intro found
      exact (other members found).elim

/-- The members of an object are those that the body writes. -/
theorem json?_eq_some_iff (json : body.IsJson) :
    body.json? = some members ↔ body.Writes (.obj members) := by
  obtain ⟨sent, contentType, shown, typed⟩ := json
  cases body with
  | form => exact ⟨nofun, nofun⟩
  | text =>
    obtain rfl := shown
    rw [json?_eq_some_iff_of_typed rfl typed]
    constructor
    · exact .utf8
    · rintro (text | written)
      · obtain ⟨-, -, written⟩ := Except.bind_eq_ok_iff.1 sent
        exact Json.isWrittenBy_utf8 (Text.checkWritten_eq_ok_iff.1 written) text
      · exact written
  | bytes =>
    obtain rfl := shown
    rw [json?_eq_some_iff_of_typed rfl typed]
    constructor
    · exact .bytes
    · rintro (_ | _ | written)
      exact written

/-- A type of JSON is no other type. -/
theorem ne_of_isJsonType {media other : Text} (json : isJsonType media = true)
    (differs : isJsonType other = false) : media ≠ other := by
  rintro rfl
  rw [json] at differs
  cases differs

/-- The name of a JSON type starts with an `a`. -/
theorem exists_cons_of_isJsonType {media : Text} (json : isJsonType media = true) :
    ∃ rest, media = ('a' : CodePoint) :: rest := by
  simp only [isJsonType, Bool.or_eq_true, decide_eq_true_eq, Bool.and_eq_true] at json
  rcases json with rfl | ⟨start, -⟩
  · exact ⟨_, rfl⟩
  · obtain ⟨rest, rfl⟩ := List.isPrefixOf_iff_prefix.1 start
    exact ⟨_, rfl⟩

theorem dropWhile_eq_cons_of_imp {α : Type} {p q : α → Bool} {a : α} {s t : List α}
    (imp : ∀ b, p b = true → q b = true) (kept : q a = false) (first : s.dropWhile p = a :: t) :
    s.dropWhile q = a :: t := by
  induction s with
  | nil => cases first
  | cons b rest ih =>
    cases dropped : p b with
    | true =>
      rw [List.dropWhile_cons_of_pos dropped] at first
      rw [List.dropWhile_cons_of_pos (imp b dropped)]
      exact ih first
    | false =>
      rw [List.dropWhile_cons_of_neg (by simpa using dropped)] at first
      obtain rfl := (List.cons.inj first).1
      rw [List.dropWhile_cons_of_neg (by simpa using kept), first]

/-- What is JSON by its media type is not sent in parts. -/
theorem sentType_ne_of_isJsonType {contentType : Text}
    (json : isJsonType (mediaType contentType) = true) : sentType contentType ≠ partsType := by
  obtain ⟨rest, lower⟩ := exists_cons_of_isJsonType json
  obtain ⟨c, more, trimmed, small, -⟩ := List.map_eq_cons_iff.1 lower
  have letter : c = ('a' : CodePoint) ∨ c = ('A' : CodePoint) := by
    refine (CodePoint.eq_or_of_toLower small).imp_right fun capital => ?_
    change c.toNat + 0x20 = 0x61 at capital
    exact CodePoint.ext (show c.toNat = 0x41 by omega)
  -- Behind blanks of either kind there is the same letter, which is not that of the other type.
  obtain ⟨tail, first⟩ :
      (c :: more) <+: (Text.splitFirst ';' contentType).1.dropWhile isMediaMargin :=
    trimmed ▸ List.rdropWhile_prefix ..
  have margins (d : CodePoint) (margin : isMediaMargin d = true) : d.isBlank = true := by
    simp only [isMediaMargin, Bool.or_eq_true, decide_eq_true_eq] at margin
    rcases margin with rfl | rfl <;> decide
  have kept : c.isBlank = false := by rcases letter with rfl | rfl <;> decide
  have stripped : (Text.splitFirst ';' contentType).1.stripStart = c :: (more ++ tail) :=
    dropWhile_eq_cons_of_imp margins kept first.symm
  intro parts
  have start : partsType <+: c :: (more ++ tail) :=
    stripped ▸ parts ▸ List.rdropWhile_prefix ..
  obtain rfl : ('m' : CodePoint) = c := (List.cons_prefix_cons.1 start).1
  revert letter
  decide

/-- A body that is sent as JSON has no pairs. -/
theorem pairs_of_isJson (json : body.IsJson) : body.pairs = [] := by
  obtain ⟨-, contentType, shown, typed⟩ := json
  have noForm : mediaType contentType ≠ formType := ne_of_isJsonType typed (by decide)
  have noParts : mediaType contentType ≠ partsType := ne_of_isJsonType typed (by decide)
  cases body with
  | form =>
    obtain rfl := shown
    have notSent := sentType_ne_of_isJsonType typed
    simp [pairs, noForm, notSent]
  | text =>
    obtain rfl := shown
    simp [pairs, typed?, noForm, noParts]
  | bytes =>
    obtain rfl := shown
    simp [pairs, typed?, noForm, noParts]

end Body

/-! ### Nesting -/

namespace Body

variable {contentType t : Text} {c : CodePoint} {room n : Nat} {parts : List (Text × Text)}

/-- A body that is sent as JSON is nested as deep as its text, if that begins with a character of
ASCII and has no control characters but blanks. -/
theorem excess?_text (json : isJsonType (mediaType contentType) = true)
    (whole : Text.hasSurrogate (c :: t) = false) (visible : Json.IsVisible (c :: t))
    (ascii : c.toNat < 0x80) :
    (Body.text (some contentType) (c :: t) parts).excess? room = Json.excess? room (c :: t) := by
  change (if isJsonType (mediaType contentType) then _ else _) = _
  rw [if_pos json, Json.excessBytes?_utf8 whole visible ascii]

/-- A row of brackets that open arrays, sent as JSON. -/
def ofBrackets (n : Nat) : Body :=
  .text (some (Text.ofString "application/json")) (Json.brackets n)

theorem isJson_ofBrackets (n : Nat) : (ofBrackets n).IsJson where
  sent := by
    change (check.checkType _ >>= fun _ => Text.checkWritten _) = _
    rw [Text.checkWritten_eq_ok_iff.2 (Json.hasSurrogate_brackets n)]
    rfl
  typed := ⟨_, rfl, by decide⟩

/-- A long row is nested too deep. -/
theorem excess?_ofBrackets (long : room < n) : (ofBrackets n).excess? room = some .array := by
  obtain ⟨n, rfl⟩ := Nat.exists_eq_add_one_of_ne_zero (Nat.ne_zero_of_lt long)
  have deep : (ofBrackets (n + 1)).excess? room = Json.excess? room (Json.brackets (n + 1)) :=
    excess?_text (by decide) (Json.hasSurrogate_brackets (n + 1))
      (Json.isVisible_brackets (n + 1)) (by decide)
  rw [deep, Json.excess?_brackets long]

/-- No row is JSON for anything, neither as a text nor as its bytes. -/
theorem not_writes_ofBrackets (value : Json) : ¬(ofBrackets (n + 1)).Writes value := by
  rintro (text | ⟨t, decoded, text⟩)
  · exact Json.not_isTextOf_brackets (n + 1) value text
  · have visible : Json.IsVisible ('[' :: Json.brackets n) := Json.isVisible_brackets (n + 1)
    rw [Json.brackets_succ, Json.Encoding.detect_utf8 visible (by decide)] at decoded
    have whole := (Utf8.decode?_utf8 (Json.hasSurrogate_brackets (n + 1)) true).symm.trans decoded
    obtain rfl := Option.some.inj whole
    exact Json.not_isTextOf_brackets (n + 1) value text

end Body

/-! ### Services on a shop -/

namespace Service

variable {α β : Type} {service other : Service α} {start : Shop}

theorem map_congr (same : service start = other start) (f : α → β) :
    (f <$> service) start = (f <$> other) start := by
  change Service.bind service (pure ∘ f) start = Service.bind other (pure ∘ f) start
  rw [Service.bind, Service.bind, same]

theorem recover_congr (same : service start = other start) (handler : Failure → Service α) :
    service.recover handler start = other.recover handler start := by
  rw [recover, recover, same]

end Service

open Service

/-! ### Submissions -/

theorem Product.judge_congr {m : Type → Type} [Monad m] [MonadLiftT (Except Fault) m]
    {fields others : Json.Members} (same : ∀ name, fields.get? name = others.get? name)
    (limits : Limits) (taken : Text → m Bool) :
    judge limits taken fields = judge limits taken others := by
  unfold judge
  simp only [same]

namespace Shop

variable {start mid : Shop} {request : Request} {key : Sessions.Key} {body other : Body}

/-- Fields with the same values are submitted alike. -/
theorem submitProduct_congr {fields others : Json.Members}
    (same : ∀ name, fields.get? name = others.get? name) :
    submitProduct fields = submitProduct others := by
  have judged : judge (.obj fields) = judge (.obj others) := by
    unfold judge
    simp only [Product.judge_congr same]
  rw [submitProduct, judged]
  rfl

/-- Bodies with such fields that can be read come to the same for a user, and any two come to the
same for nobody. -/
theorem view_addProduct_congr
    (readable : start.userNamed key ≠ none → body.excess? start.config.maxDepth = none)
    (readable' : start.userNamed key ≠ none → other.excess? start.config.maxDepth = none)
    (same : ∀ name, body.fields.get? name = other.fields.get? name) :
    view .addProduct key body start = view .addProduct key other start := by
  change (currentUser key >>= _) start = (currentUser key >>= _) start
  cases result : (currentUser key start).result with
  | error failure => rw [bind_of_error result, bind_of_error result]
  | ok found =>
    have gives : (currentUser key).Gives start found (currentUser key start).shop := ⟨result, rfl⟩
    have config := ((isQuiet_currentUser key).alike_of_gives gives).config
    rw [bind_of_ok result, bind_of_ok result]
    cases found with
    | none => rfl
    | some user =>
      have named : start.userNamed key ≠ none := by
        rw [← gives_currentUser gives]
        exact Option.some_ne_none user
      have reads {sent : Body} (readable : sent.excess? start.config.maxDepth = none) :
          submitBody sent (currentUser key start).shop =
            submitProduct sent.fields (currentUser key start).shop :=
        submitBody_of_readable (Body.checkDepth_eq_ok_iff.2 (config ▸ readable))
      dsimp only
      rw [reads (readable named), reads (readable' named), submitProduct_congr same]

/-- Another body that can be sent does not change what a request asks for. -/
theorem read_of_check {target : Target} (read : request.read = .ok target)
    (sent : body.check = .ok ()) : Request.read { request with body } = .ok target := by
  obtain ⟨address, split, read⟩ := Except.bind_eq_ok_iff.1 read
  obtain ⟨asked, found, read⟩ := Except.bind_eq_ok_iff.1 read
  obtain ⟨-, -, read⟩ := Except.bind_eq_ok_iff.1 read
  exact Except.bind_eq_ok_iff.2 ⟨address, split, Except.bind_eq_ok_iff.2 ⟨asked, found,
    Except.bind_eq_ok_iff.2 ⟨(), sent, read⟩⟩⟩

/-- Nor does it change which view answers. -/
theorem exists_visit?_of_check (asks : request.AsksFor [.post] "/products" key) :
    ∃ target, ∀ body : Body, body.check = .ok () →
      Request.visit? { request with body } = some { target, key, view := .addProduct } := by
  obtain ⟨target, visited⟩ := (Request.asksFor_iff .addProduct rfl).1 asks
  obtain ⟨read, named, shown, found⟩ := Request.visit?_eq_some_iff.1 visited
  exact ⟨target, fun body sent =>
    Request.visit?_eq_some_iff.2 ⟨read_of_check read sent, named, shown, found⟩⟩

/-- A submission comes to the same with another body that has the same fields, if both can be
read. -/
theorem step_submission_congr (asks : request.AsksFor [.post] "/products" key)
    (sent : body.check = .ok ()) (sent' : other.check = .ok ())
    (readable : start.userNamed key ≠ none → body.excess? start.config.maxDepth = none)
    (readable' : start.userNamed key ≠ none → other.excess? start.config.maxDepth = none)
    (same : ∀ name, body.fields.get? name = other.fields.get? name) :
    start.step (.request { request with body }) =
      start.step (.request { request with body := other }) := by
  obtain ⟨target, visits⟩ := exists_visit?_of_check asks
  have shown := view_addProduct_congr readable readable' same
  have settles : settled { request with body } ⟨target, key, .addProduct⟩ start =
      settled { request with body := other } ⟨target, key, .addProduct⟩ start :=
    recover_congr (recover_congr shown _) _
  have responds : respond { request with body } start =
      respond { request with body := other } start := by
    rw [respond_of_visited (visits body sent), respond_of_visited (visits other sent')]
    exact map_congr settles _
  unfold step
  rw [Step.service_request, Step.service_request, map_congr responds]

/-- For a user nothing answers for a body that is nested too deep, and nothing comes of it. -/
theorem answer_of_excess {config : Config} {bracket : Json.Bracket}
    (reachable : start.IsReachable (fun _ => True) config) (outage : start.outage = false)
    (users : start.store.users.isSome = true)
    (asks : request.AsksFor [.post] "/products" key) (named : start.userNamed key ≠ none)
    (deep : request.body.excess? start.config.maxDepth = some bracket) :
    (start.step (.request request)).answer =
        (if start.config.isTesting then .failed (.fault (.nestedTooDeep bracket))
        else .response (.page 500 Page.internalError)) ∧
      start.Alike (start.step (.request request)).shop := by
  obtain ⟨target, visited⟩ := (Request.asksFor_iff .addProduct rfl).1 asks
  obtain ⟨user, named⟩ := Option.ne_none_iff_exists'.1 named
  have numbered : start.store.IsNumbered :=
    isKept_isNumbered.of_isReachable (fun _ opened => opened.store ▸ .empty) reachable
  obtain ⟨mid, found⟩ :=
    exists_gives_currentUser outage users (canRead_of_userNamed numbered named)
  rw [named] at found
  have config := ((isQuiet_currentUser key).alike_of_gives found).config
  have refused : request.body.checkDepth mid.config.maxDepth = .error (.nestedTooDeep bracket) := by
    rw [Body.checkDepth, config, deep]
  have unread : (submitBody request.body).Fails mid (.fault (.nestedTooDeep bracket)) mid := by
    rw [submitBody, Fails, shop_bind, refused]
    exact ⟨rfl, rfl⟩
  have failed : (view .addProduct key request.body).Fails start
      (.fault (.nestedTooDeep bracket)) mid := fails_bind_iff.2 (.inr ⟨_, mid, found, unread⟩)
  have answered := answer_of_view_fails visited failed
  rw [delivered_of_addProduct visited rfl] at answered
  exact ⟨answered, alike_of_unanswered (showsDatabase_of_isReachable reachable) answered⟩

/-- A product that is submitted as a JSON object comes to the same as one that is submitted as a
form with the same values: to the same answer, the same shop and the same records in the log. What
is sent as JSON and is no object comes to the same as a form without pairs. For a user this is so as
long as the JSON can be read, and nothing answers for what is nested too deep. -/
theorem step_json_eq_step_form (asks : request.AsksFor [.post] "/products" key) :
    (∀ (pairs : List (Text × Text)) (members : Json.Members) (form json : Body),
      form.IsForm pairs → json.IsJson → json.Writes (.obj members) →
      (∀ name, members.get? name = (pairs.lookup name).map .str) →
      (start.userNamed key ≠ none → json.excess? start.config.maxDepth = none) →
        start.step (.request { request with body := json }) =
          start.step (.request { request with body := form })) ∧
    (∀ form json : Body, form.IsForm [] → json.IsJson →
      (∀ members, ¬json.Writes (.obj members)) →
      (start.userNamed key ≠ none → json.excess? start.config.maxDepth = none) →
        start.step (.request { request with body := json }) =
          start.step (.request { request with body := form })) ∧
    ∀ (json : Body) (bracket : Json.Bracket) (config : Config), json.IsJson →
      json.excess? start.config.maxDepth = some bracket →
      start.IsReachable (fun _ => True) config → start.outage = false →
      start.store.users.isSome = true → start.userNamed key ≠ none →
        let after := start.step (.request { request with body := json })
        after.answer =
            (if start.config.isTesting then .failed (.fault (.nestedTooDeep bracket))
            else .response (.page 500 Page.internalError)) ∧
          start.Alike after.shop := by
  refine ⟨?object, ?noObject, ?tooDeep⟩
  case object =>
    intro pairs members form json isForm isJson writes same readable
    refine step_submission_congr asks isJson.sent isForm.check readable
      (fun _ => isForm.excess?_eq_none _) fun name => ?_
    have read : json.json? = some members := (Body.json?_eq_some_iff isJson).2 writes
    -- Both come down to the values of names, whichever pair or member was written first.
    rw [isForm.get?_fields, ← same, Body.fields, read]
  case noObject =>
    intro form json isForm isJson noObject readable
    refine step_submission_congr asks isJson.sent isForm.check readable
      (fun _ => isForm.excess?_eq_none _) fun name => ?_
    have unread : json.json? = none := by
      rw [Option.eq_none_iff_forall_not_mem]
      exact fun members read => noObject members ((Body.json?_eq_some_iff isJson).1 read)
    rw [isForm.get?_fields, Body.fields, unread, Body.pairs_of_isJson isJson]
    rfl
  case tooDeep =>
    intro json bracket config isJson deep reachable outage users named
    obtain ⟨target, visits⟩ := exists_visit?_of_check asks
    have asks' : Request.AsksFor { request with body := json } [.post] "/products" key :=
      (Request.asksFor_iff .addProduct rfl).2 ⟨target, visits json isJson.sent⟩
    exact answer_of_excess reachable outage users asks' named deep

/-- A title and a price as a JSON text, with the price written twice. -/
def penText : Text :=
  Text.ofString "\x7b \"price\": \"2\", \"t\\u0069tle\" : \"Pen\",\n\"price\":\"1.50\"\x7d"

/-- A title, a second one and a price come to the same as that text does, and half of it to the same
as no fields. A thousand brackets are too many. -/
theorem step_json_eq_step_form_pen :
    withUser.step (.request { Request.ofForm "a" "/products" [] with
        body := .text (some (Text.ofString "application/json; charset=utf-8")) penText }) =
      withUser.step (.request (.ofForm "a" "/products"
        [("title", "Pen"), ("title", "Pencil"), ("price", "1.50")])) ∧
    withUser.step (.request { Request.ofForm "a" "/products" [] with
        body := .text (some (Text.ofString "application/json")) (penText.take 20) }) =
      withUser.step (.request (.ofForm "a" "/products" [])) ∧
    (withUser.step (.request { Request.ofForm "a" "/products" [] with
        body := .ofBrackets 1000 })).answer = .failed (.fault (.nestedTooDeep .array)) := by
  have asks : (Request.ofForm "a" "/products" []).AsksFor [.post] "/products" (.usual "a") :=
    ⟨_, rfl, rfl, rfl, rfl, ⟨.post, by simp, rfl⟩, rfl⟩
  have alike := @step_json_eq_step_form withUser _ _ asks
  have text : Json.IsTextOf penText (.obj [(Text.ofString "price", .str (Text.ofString "1.50")),
      (Text.ofString "title", .str (Text.ofString "Pen"))]) :=
    Json.isTextOf_of_read rfl
  refine ⟨?pen, ?half, ?brackets⟩
  case pen =>
    refine alike.1 _ _ _ _ (.pairs (by decide)) ⟨rfl, _, rfl, by decide⟩ (.text text)
      (fun name => ?_) fun _ => ?_
    · by_cases title : name = Text.ofString "title"
      · subst title
        rfl
      by_cases price : name = Text.ofString "price"
      · subst price
        rfl
      simp [Json.Members.get?, List.lookup_cons, beq_false_of_ne title, beq_false_of_ne price]
    · exact (Body.excess?_text (by decide) (by decide) (by decide) (by decide)).trans
        (Json.excess?_eq_none_of_countP_le (by decide))
  case half =>
    have isJson : Body.IsJson (.text (some (Text.ofString "application/json"))
        (penText.take 20)) := ⟨rfl, _, rfl, by decide⟩
    refine alike.2.1 _ _ (.pairs (by simp)) isJson (fun members writes => ?_) fun _ => ?_
    · cases (Body.json?_eq_some_iff isJson).2 writes
    · exact (Body.excess?_text (by decide) (by decide) (by decide) (by decide)).trans
        (Json.excess?_eq_none_of_countP_le (by decide))
  case brackets =>
    exact (alike.2.2 _ _ _ (Body.isJson_ofBrackets 1000) (Body.excess?_ofBrackets (by decide))
      isReachable_withUser rfl rfl userNamed_withUser).1

/-- What is sent as JSON and is no object is not always answered as a form without pairs is: there
may be no room for it. -/
theorem not_always_as_form :
    ¬∀ (config : Config) (shop : Shop), shop.IsReachable (fun _ => True) config →
      ∀ (request : Request) (key : Sessions.Key), request.AsksFor [.post] "/products" key →
        ∀ form json : Body, form.IsForm [] → json.IsJson →
          (∀ members, ¬json.Writes (.obj members)) →
            shop.step (.request { request with body := json }) =
              shop.step (.request { request with body := form }) := by
  intro always
  have asks : (Request.ofForm "a" "/products" []).AsksFor [.post] "/products" (.usual "a") :=
    ⟨_, rfl, rfl, rfl, rfl, ⟨.post, by simp, rfl⟩, rfl⟩
  have same := always _ _ isReachable_withUser _ _ asks (.form none []) (.ofBrackets 1000)
    (.pairs (by simp)) (Body.isJson_ofBrackets 1000) fun members =>
      Body.not_writes_ofBrackets (.obj members)
  obtain ⟨target, visits⟩ := exists_visit?_of_check asks
  have asks' : Request.AsksFor { Request.ofForm "a" "/products" [] with body := .ofBrackets 1000 }
      [.post] "/products" (.usual "a") :=
    (Request.asksFor_iff .addProduct rfl).2 ⟨target, visits _ (Body.isJson_ofBrackets 1000).sent⟩
  have told := (answer_of_excess isReachable_withUser rfl rfl asks' userNamed_withUser
    (Body.excess?_ofBrackets (by decide))).1
  rw [same] at told
  cases told

end Shop

end Storefront
