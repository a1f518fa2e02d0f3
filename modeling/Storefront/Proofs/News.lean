import Storefront.Proofs.Numeral

/-!
# Messages of rows and sessions

Four kinds of messages tell what has become of the shop: a product or a user was created, somebody
was logged in or out. What is told can be read off the message again, whatever the title of the
product is, so that the records of a log can be sorted by what they tell.

## Main definitions

* `News`, `News.record` — what is told, and the record that tells it
* `Log.Reports` — the records of a log tell some news and no others of the four kinds

## Main results

* `News.message_injective` — no two things are told by the same message
* `Log.Reports.append`, `Log.Reports.filter` — logs in a row, and logs with a level
* `Log.Reports.filter_of_mem`, `Log.Reports.filter_of_notMem` — news are recorded once or not at all
-/

namespace Storefront

/-- What the log tells of products, users and sessions. -/
inductive News
  | productCreated (id : Nat) (title : Text)
  | userCreated (id : Nat)
  | loggedIn (id : Nat)
  | loggedOut (id : Nat)
  deriving DecidableEq

namespace News

/-- The message that tells it. -/
def message : News → Text
  | productCreated id title =>
    Text.ofString "Created product " ++ Text.ofNat id ++ Text.ofString " (" ++ title ++
      [(')' : CodePoint)]
  | userCreated id => Text.ofString "Created user " ++ Text.ofNat id
  | loggedIn id => Text.ofString "User " ++ Text.ofNat id ++ Text.ofString " logged in"
  | loggedOut id => Text.ofString "User " ++ Text.ofNat id ++ Text.ofString " logged out"

/-- The part of the shop that tells it. -/
def source : News → Log.Source
  | productCreated .. => .catalogue
  | _ => .accounts

/-- The record that tells it. -/
def record (news : News) : Log.Record where
  level := .info
  source := news.source
  message := news.message

end News

/-! ### Messages -/

theorem Text.ofNat_injective : Function.Injective Text.ofNat := by
  intro m n same
  rw [← valueOfDigits_ofNat m, same, valueOfDigits_ofNat]

/-- A numeral ends where the digits do. -/
theorem Text.takeWhile_ofNat_append (n : Nat) {rest : Text}
    (ends : rest.takeWhile CodePoint.isDigit = []) :
    (Text.ofNat n ++ rest).takeWhile CodePoint.isDigit = Text.ofNat n := by
  have digits : ∀ c ∈ Text.ofNat n, c.isDigit = true := fun c mem => by
    rw [CodePoint.isDigit, CodePoint.digit?_of_ascii (Text.ascii_of_mem_ofNat mem)]
    rfl
  rw [List.takeWhile_append_of_pos digits, ends, List.append_nil]

/-- A numeral with other text behind it can be told from it. -/
theorem Text.ofNat_append_inj {m n : Nat} {first second : Text}
    (ends : first.takeWhile CodePoint.isDigit = []) (ends' : second.takeWhile CodePoint.isDigit = [])
    (same : Text.ofNat m ++ first = Text.ofNat n ++ second) : m = n ∧ first = second := by
  have digits := congrArg (List.takeWhile CodePoint.isDigit) same
  rw [takeWhile_ofNat_append m ends, takeWhile_ofNat_append n ends'] at digits
  obtain rfl := Text.ofNat_injective digits
  exact ⟨rfl, List.append_cancel_left same⟩

namespace News

/-- No two things are told by the same message. -/
theorem message_injective : Function.Injective message := by
  intro a b same
  -- The first code point tells rows from sessions, and the ninth one products from users.
  have first := congrArg (·[0]?) same
  have ninth := congrArg (·[8]?) same
  cases a <;> cases b
  case productCreated.productCreated id title id' title' =>
    simp only [message, List.append_assoc] at same
    obtain ⟨rfl, rest⟩ := Text.ofNat_append_inj rfl rfl (List.append_cancel_left same)
    obtain rfl := List.append_cancel_right (List.append_cancel_left rest)
    rfl
  case userCreated.userCreated id id' =>
    obtain rfl := Text.ofNat_injective (List.append_cancel_left same)
    rfl
  case loggedIn.loggedIn id id' =>
    simp only [message, List.append_assoc] at same
    obtain ⟨rfl, -⟩ := Text.ofNat_append_inj rfl rfl (List.append_cancel_left same)
    rfl
  case loggedOut.loggedOut id id' =>
    simp only [message, List.append_assoc] at same
    obtain ⟨rfl, -⟩ := Text.ofNat_append_inj rfl rfl (List.append_cancel_left same)
    rfl
  case loggedIn.loggedOut id id' =>
    simp only [message, List.append_assoc] at same
    obtain ⟨-, rest⟩ := Text.ofNat_append_inj rfl rfl (List.append_cancel_left same)
    exact absurd rest (by decide)
  case loggedOut.loggedIn id id' =>
    simp only [message, List.append_assoc] at same
    obtain ⟨-, rest⟩ := Text.ofNat_append_inj rfl rfl (List.append_cancel_left same)
    exact absurd rest (by decide)
  case productCreated.userCreated => exact absurd ninth nofun
  case userCreated.productCreated => exact absurd ninth nofun
  all_goals exact absurd first nofun

theorem head?_message (news : News) :
    news.message.head? = some ('C' : CodePoint) ∨ news.message.head? = some ('U' : CodePoint) := by
  cases news with
  | productCreated id title => exact .inl rfl
  | userCreated id => exact .inl rfl
  | loggedIn id => exact .inr rfl
  | loggedOut id => exact .inr rfl

end News

/-! ### Logs -/

namespace Log

variable {first second log : List Record} {news more : List News}

/-- The records of a log that tell something of rows or sessions are those of some news, in this
order. -/
def Reports (log : List Record) (news : List News) : Prop :=
  ∀ one : News, log.filter (fun record => record.message = one.message) =
    (news.filter (· = one)).map News.record

theorem reports_nil : Reports [] [] := fun _ => rfl

theorem Reports.append (h : Reports first news) (h' : Reports second more) :
    Reports (first ++ second) (news ++ more) := by
  intro one
  rw [List.filter_append, List.filter_append, List.map_append, h, h']

theorem reports_record (news : News) : Reports [news.record] [news] := by
  intro one
  by_cases same : news = one
  · simp [same, News.record]
  · have differs : news.record.message ≠ one.message := fun told =>
      same (News.message_injective told)
    simp [same, differs]

/-- The records of news report them, by induction. -/
theorem reports_map_record (news : List News) : Reports (news.map News.record) news := by
  induction news with
  | nil => exact reports_nil
  | cons first rest ih => exact (reports_record first).append ih

/-- Records that start with another letter tell nothing of the kind. -/
theorem reports_of_head? (others : ∀ record ∈ log, ∃ c : CodePoint,
    record.message.head? = some c ∧ c ≠ 'C' ∧ c ≠ 'U') : Reports log [] := by
  intro one
  refine List.filter_eq_nil_iff.2 fun record mem told => ?_
  obtain ⟨c, head, notC, notU⟩ := others record mem
  rw [of_decide_eq_true told] at head
  rcases one.head?_message with same | same
  · exact notC (Option.some.inj (head.symm.trans same))
  · exact notU (Option.some.inj (head.symm.trans same))

/-- At a level that lets informations through all news are written. -/
theorem Reports.filter {threshold : Int} (h : Reports log news)
    (low : threshold ≤ Level.info.rank) : Reports (Log.filter threshold log) news := by
  intro one
  have reached : ∀ record ∈ (news.filter (· = one)).map News.record,
      decide (threshold ≤ record.level.rank) = true := by
    intro record mem
    obtain ⟨told, -, rfl⟩ := List.mem_map.1 mem
    exact decide_eq_true low
  rw [← List.filter_eq_self.2 reached, ← h one, Log.filter, List.filter_filter, List.filter_filter]
  exact List.filter_congr fun record _ => Bool.and_comm ..

/-- News that are among those reported are recorded once. -/
theorem Reports.filter_of_mem (h : Reports log news) (nodup : news.Nodup) {one : News}
    (mem : one ∈ news) : log.filter (fun record => record.message = one.message) = [one.record] := by
  have once : news.filter (· = one) = [one] := by
    rw [List.filter_eq, nodup.count, if_pos mem]
    rfl
  rw [h one, once]
  rfl

theorem Reports.filter_of_notMem (h : Reports log news) {one : News} (out : one ∉ news) :
    log.filter (fun record => record.message = one.message) = [] := by
  have none : news.filter (· = one) = [] := by
    refine List.filter_eq_nil_iff.2 fun told mem same => out ?_
    rwa [← of_decide_eq_true same]
  rw [h one, none]
  rfl

end Log

end Storefront
