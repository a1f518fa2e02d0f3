import Storefront.Proofs.Reading
import Storefront.Proofs.Strings

/-!
# JSON read back

What is written of a value is a text of that value, and so it is read as that value again. This is
shown for words, strings and numerals, and then for the items and members of which larger values are
made. Floating-point numbers are left aside, and so are integers of too many digits to be read.

## Main definitions

* `Json.IsPlain` — values that can be read back

## Main results

* `Json.writesNumber_ofInt`, `Json.writes_items`, `Json.writes_members` — what is written of
  integers, arrays and objects
* `Json.writes_print` — what is written of a plain value is a text of it
* `Json.isAscii_print` — that is in ASCII
* `Json.read_print` — and it is read back
-/

namespace Storefront

namespace Json

/-! ### Plain values -/

/-- A value that can be read back: no floating-point number occurs in it, no integer that is too
long, no text with surrogates, and in no object a name twice. -/
inductive IsPlain : Json → Prop
  | null : IsPlain .null
  | bool (b : Bool) : IsPlain (.bool b)
  | int {n : Int} (short : digitCount n.natAbs ≤ Integer.maxDigits) : IsPlain (.int n)
  | str {t : Text} (whole : t.hasSurrogate = false) : IsPlain (.str t)
  | arr {items : List Json} (each : ∀ item ∈ items, IsPlain item) : IsPlain (.arr items)
  | obj {members : List (Text × Json)}
      (names : ∀ member ∈ members, member.1.hasSurrogate = false)
      (distinct : (members.map Prod.fst).Nodup)
      (each : ∀ member ∈ members, IsPlain member.2) : IsPlain (.obj members)

/-! ### Numerals -/

/-- What is written of an integer is a number. -/
theorem writesNumber_ofInt {n : Int} (short : digitCount n.natAbs ≤ Integer.maxDigits) :
    WritesNumber (.int n) (Text.ofInt n) := by
  -- The numeral of a negative integer is that of a natural number behind a sign.
  have signed (negative : Bool) {m : Nat} (short : digitCount m ≤ Integer.maxDigits) :
      WritesNumber (.int (if negative then -(m : Int) else m))
        (Decimal.signText negative ++ (Text.ofNat m ++ [])) := by
    have ascii : (Text.ofNat m).IsDigits := fun c => Text.ascii_of_mem_ofNat
    have fits : ¬Integer.maxDigits < ((Text.ofNat m).map (·.toNat - 0x30)).length := by
      rw [List.length_map, Text.length_ofNat]
      exact Nat.not_lt.2 short
    refine .mk (Text.ofNat_ne_nil m) ascii ?_ .none .none ?_
    · rcases Nat.eq_zero_or_pos m with rfl | pos
      · exact fun _ => rfl
      · obtain ⟨c, rest, same, nonzero⟩ := Text.exists_ofNat_eq_cons pos
        intro zero
        rw [same] at zero
        obtain rfl := Option.some.inj zero
        exact absurd rfl nonzero
    · simp only [numberOf, if_neg fits, valueOfDigits_ofNat]
  cases n with
  | ofNat m =>
    have written := signed false short
    rwa [List.append_nil] at written
  | negSucc m =>
    have written := signed true short
    rwa [List.append_nil] at written

/-! ### Arrays and objects -/

/-- The items of an array, by induction on them. -/
theorem writes_items {items : List Json} (each : ∀ item ∈ items, Writes (.value item) item.print)
    (ne : items ≠ []) :
    Writes (.items items)
      ([(',' : CodePoint)].intercalate (printItems items) ++ [(']' : CodePoint)]) := by
  induction items with
  | nil => exact (ne rfl).elim
  | cons item rest ih =>
    have first := each item List.mem_cons_self
    -- Behind the last item stands the bracket, behind any other one a comma.
    cases rest with
    | nil =>
      rw [printItems, printItems, List.intercalate_singleton]
      exact .lastItem isSpaces_nil first isSpaces_nil
    | cons other more =>
      have others := ih (fun item mem => each item (List.mem_cons_of_mem _ mem)) (by simp)
      rw [printItems, printItems, List.intercalate_cons_cons, List.append_assoc, List.append_assoc]
      exact .item isSpaces_nil first isSpaces_nil others

/-- A member with a new name comes last. -/
theorem set_of_notMem {before : Members} {name : Text} (fresh : name ∉ before.map Prod.fst)
    (value : Json) : before.set name value = before ++ [(name, value)] := by
  unfold Members.set
  rw [if_neg]
  rw [Bool.not_eq_true, List.any_eq_false]
  intro member mem
  have differs : member.1 ≠ name := fun same => fresh (same ▸ List.mem_map_of_mem mem)
  simpa using differs

/-- The members of an object, by induction on those that are left. -/
theorem writes_members {members : List (Text × Json)}
    (names : ∀ member ∈ members, member.1.hasSurrogate = false)
    (each : ∀ member ∈ members, Writes (.value member.2) member.2.print) (ne : members ≠ [])
    {before : Members} (distinct : ((before ++ members).map Prod.fst).Nodup) :
    Writes (.members before (before ++ members))
      ([(',' : CodePoint)].intercalate (printMembers members) ++ [('\x7d' : CodePoint)]) := by
  induction members generalizing before with
  | nil => exact (ne rfl).elim
  | cons member rest ih =>
    obtain ⟨name, value⟩ := member
    have named := writesString_printText (names _ List.mem_cons_self)
    have valued := each _ List.mem_cons_self
    have fresh : name ∉ before.map Prod.fst := by
      rw [List.map_append, List.map_cons, List.nodup_append] at distinct
      intro mem
      exact distinct.2.2 name mem name List.mem_cons_self rfl
    -- Since the name is new, the member is put behind the others, as it was written.
    have set := set_of_notMem fresh value
    cases rest with
    | nil =>
      have written : [(',' : CodePoint)].intercalate (printMembers [(name, value)]) =
          printText name ++ (':' : CodePoint) :: value.print :=
        List.intercalate_singleton
      rw [written, ← set, List.append_assoc, List.cons_append]
      exact .name isSpaces_nil named isSpaces_nil (.lastMember isSpaces_nil valued isSpaces_nil)
    | cons other more =>
      have whole : before.set name value ++ other :: more =
          before ++ (name, value) :: other :: more := by
        rw [set, List.append_assoc, List.singleton_append]
      have others := @ih (fun member mem => names member (List.mem_cons_of_mem _ mem))
        (fun member mem => each member (List.mem_cons_of_mem _ mem)) (by simp)
        (before.set name value) (by rwa [whole])
      have written : [(',' : CodePoint)].intercalate
          (printMembers ((name, value) :: other :: more)) =
          printText name ++ (':' : CodePoint) :: value.print ++ [(',' : CodePoint)] ++
            [(',' : CodePoint)].intercalate (printMembers (other :: more)) :=
        List.intercalate_cons_cons
      rw [whole] at others
      rw [written, List.append_assoc, List.append_assoc, List.append_assoc, List.cons_append]
      exact .name isSpaces_nil named isSpaces_nil (.member isSpaces_nil valued isSpaces_nil others)

/-- What is written of a plain value is a text of it, by induction on what it is made of. -/
theorem writes_print {value : Json} (plain : value.IsPlain) :
    Writes (.value value) value.print := by
  induction plain with
  | null => exact .word (.head _)
  | bool b =>
    cases b with
    | true => exact .word (.tail _ (.head _))
    | false => exact .word (.tail _ (.tail _ (.head _)))
  | int short => exact .number (writesNumber_ofInt short)
  | str whole => exact .string (writesString_printText whole)
  | @arr items each ih =>
    cases items with
    | nil => exact .emptyArray isSpaces_nil
    | cons item rest => exact .array (writes_items ih (by simp))
  | @obj members names distinct each ih =>
    cases members with
    | nil => exact .emptyObject isSpaces_nil
    | cons member rest => exact .object (writes_members names ih (by simp) distinct)

/-! ### ASCII of plain values -/

theorem printItems_eq_map (items : List Json) : printItems items = items.map print := by
  induction items with
  | nil => rfl
  | cons item rest ih => rw [printItems, ih, List.map_cons]

theorem printMembers_eq_map (members : List (Text × Json)) :
    printMembers members =
      members.map fun member => printText member.1 ++ (':' : CodePoint) :: print member.2 := by
  induction members with
  | nil => rfl
  | cons member rest ih => rw [printMembers, ih, List.map_cons]

/-- What is written of a plain value is in ASCII, by induction on what it is made of. -/
theorem isAscii_print {value : Json} (plain : value.IsPlain) : value.print.IsAscii := by
  have between {items : List Text} {opening closing : CodePoint} (h : opening.toNat < 0x80)
      (h' : closing.toNat < 0x80) (each : ∀ t ∈ items, Text.IsAscii t) :
      Text.IsAscii (opening :: [(',' : CodePoint)].intercalate items ++ [closing]) :=
    .append (.cons h (.intercalate (.singleton (by decide)) each)) (.singleton h')
  induction plain with
  | null => decide
  | bool b =>
    cases b <;> decide
  | int short => exact .ofInt _
  | str whole => exact isAscii_printText _
  | arr each ih =>
    rw [print, printItems_eq_map]
    refine between (by decide) (by decide) fun t mem => ?_
    obtain ⟨item, known, rfl⟩ := List.mem_map.1 mem
    exact ih item known
  | obj names distinct each ih =>
    rw [print, printMembers_eq_map]
    refine between (by decide) (by decide) fun t mem => ?_
    obtain ⟨member, known, rfl⟩ := List.mem_map.1 mem
    exact (isAscii_printText _).append (.cons (by decide) (ih member known))

/-! ### Whole texts -/

/-- What is written of a plain value is read as that value, whatever blanks stand behind it. -/
theorem read_print {value : Json} (plain : value.IsPlain) {blanks : Text}
    (blank : ∀ c ∈ blanks, isSpace c = true) : read (value.print ++ blanks) = .ok value :=
  read_of_isTextOf ⟨[], value.print, blanks, rfl, isSpaces_nil, writes_print plain, blank⟩

end Json

end Storefront
