import Storefront.Proofs.Decoded
import Storefront.Proofs.Statement
import Storefront.Web.Message

/-!
# Plain paths

A request may be sent for a path alone. Unless something in it ends the path, is left out of it or
stands for something else, it goes through every reading of the address as it is: what the request
asks for then is that path at the usual host, over the usual scheme and with no query.

## Main definitions

* `Text.IsPlainPath` — paths that mean what they say
* `Target.usual` — a path at the usual host

## Main results

* `Address.split_of_isPlainPath`, `Address.sentPath_of_isPlainPath` — a plain path as an address
* `Request.read_of_isPlainPath` — a request for a plain path asks for it at the usual host
-/

namespace Storefront

/-- A code point that stands for itself in a path. The first three of the others are left out of an
address, two end a path, and the last one starts the notation of a byte. -/
def CodePoint.isPathPart (c : CodePoint) : Bool :=
  !c.isSurrogate && !(Text.ofString "\t\n\r?#%").contains c

/-- A path that means what it says: it starts with one slash, and each of its code points stands for
itself. -/
structure Text.IsPlainPath (t : Text) : Prop where
  parts : ∀ c ∈ t, c.isPathPart = true
  start : ∃ rest : Text, t = ('/' : CodePoint) :: rest ∧ rest.head? ≠ some ('/' : CodePoint)

/-- What stands before a separator goes up to it. -/
theorem Text.fst_splitFirst (separator : CodePoint) (t : Text) :
    (splitFirst separator t).1 = t.takeWhile (· != separator) := by
  unfold splitFirst
  dsimp only
  split <;> rfl

variable {t : Text}

namespace Text.IsPlainPath

theorem notMem (plain : t.IsPlainPath) {c : CodePoint}
    (special : (Text.ofString "\t\n\r?#%").contains c = true) : c ∉ t := by
  intro mem
  have part := plain.parts c mem
  rw [CodePoint.isPathPart, special] at part
  simp at part

theorem hasSurrogate (plain : t.IsPlainPath) : t.hasSurrogate = false := by
  refine List.any_eq_false.2 fun c mem => ?_
  have part := plain.parts c mem
  rw [CodePoint.isPathPart, Bool.and_eq_true] at part
  simpa using part.1

/-- Nothing is taken for an authority. -/
theorem slashes (plain : t.IsPlainPath) : (Text.ofString "//").isPrefixOf t = false := by
  obtain ⟨rest, rfl, one⟩ := plain.start
  rw [Bool.eq_false_iff, ne_eq, List.isPrefixOf_iff_prefix]
  rintro ⟨more, same⟩
  obtain rfl : ('/' : CodePoint) :: more = rest := congrArg List.tail same
  exact one rfl

theorem percentDecode (plain : t.IsPlainPath) : t.percentDecode = t :=
  percentDecode_of_plain plain.hasSurrogate (plain.notMem (by decide))

end Text.IsPlainPath

namespace Address

/-- Nothing is left out of a plain path. -/
theorem cleaned_of_isPlainPath (plain : t.IsPlainPath) : cleaned t = t := by
  obtain ⟨rest, rfl, -⟩ := plain.start
  unfold cleaned
  rw [List.dropWhile_cons_of_neg (by decide), List.filter_eq_self]
  intro c mem
  have kept {n : Nat} (h : n < 0x110000)
      (special : (Text.ofString "\t\n\r?#%").contains ⟨n, h⟩ = true) : c.toNat ≠ n := by
    rintro rfl
    exact plain.notMem special mem
  simp [kept (n := 0x09) (by decide) (by decide), kept (n := 0x0A) (by decide) (by decide),
    kept (n := 0x0D) (by decide) (by decide)]

/-- A plain path is the path of an address that has nothing else. -/
theorem split_of_isPlainPath (plain : t.IsPlainPath) :
    split t = .ok { scheme := [], authority := [], path := t, query := [] } := by
  obtain ⟨rest, same, -⟩ := plain.start
  have schemeless : splitScheme t = ([], t) := by
    have before := Text.fst_splitFirst ':' t
    unfold splitScheme
    split
    next scheme after found =>
      -- A scheme does not start with a slash.
      rw [found, same] at before
      obtain rfl : scheme = ('/' : CodePoint) :: rest.takeWhile (· != (':' : CodePoint)) := before
      exact if_neg Bool.false_ne_true
    next => rfl
  have bare : splitAuthority t = ([], t) := if_neg (by simp [plain.slashes])
  have path : Text.splitFirst '?' (Text.splitFirst '#' t).1 = (t, none) := by
    rw [Text.splitFirst_of_notMem (plain.notMem (by decide)),
      Text.splitFirst_of_notMem (plain.notMem (by decide))]
  unfold split
  rw [cleaned_of_isPlainPath plain, schemeless]
  dsimp only
  rw [bare]
  dsimp only
  rw [path]
  rfl

/-- A plain path is sent as it is. -/
theorem sentPath_of_isPlainPath (plain : t.IsPlainPath) : sentPath t = .ok t := by
  have joined : join [] [] t = t := by
    have nested : nestedSchemes.contains [] = false := by decide
    unfold join
    dsimp only
    rw [plain.slashes, nested]
    rfl
  -- Without an authority there is nothing in front of the path.
  refine Except.bind_eq_ok_iff.2 ⟨_, split_of_isPlainPath plain, ?_⟩
  refine Except.bind_eq_ok_iff.2 ⟨(), Text.checkWritten_eq_ok_iff.2 plain.hasSurrogate, ?_⟩
  exact Except.bind_eq_ok_iff.2 ⟨_, rfl, congrArg Except.ok joined⟩

end Address

namespace Target

/-- A path at the usual host. -/
def usual (path : Text) : Target where
  scheme := Text.ofString "http"
  host := some { name := defaultHost, listening := none }
  path := path
  query := []

theorem decodedPath_of_isPlainPath (plain : t.IsPlainPath) : decodedPath t = t := by
  obtain ⟨rest, same, one⟩ := plain.start
  unfold decodedPath
  rw [plain.percentDecode, same]
  dsimp only
  rw [List.dropWhile_cons_of_pos (by simp)]
  cases rest with
  | nil => rfl
  | cons c more =>
    have other : c ≠ ('/' : CodePoint) := by simpa using one
    rw [List.dropWhile_cons_of_neg (by simpa using other)]

/-- The usual host is sent by its name. -/
theorem sent_defaultHost : (Authority.read defaultHost).sent =
    .ok { user := [], name := defaultHost, listening := none } := rfl

theorem ofAddress_of_isPlainPath (plain : t.IsPlainPath) :
    ofAddress { scheme := [], authority := [], path := t, query := [] } = .ok (usual t) := by
  have line : Address.line { scheme := [], authority := [], path := t, query := [] } = t :=
    List.append_nil t
  have parts := Address.split_of_isPlainPath plain
  rw [← line] at parts
  refine Except.bind_eq_ok_iff.2 ⟨_, parts, ?_⟩
  refine Except.bind_eq_ok_iff.2 ⟨t, line.symm ▸ Address.sentPath_of_isPlainPath plain, ?_⟩
  refine Except.bind_eq_ok_iff.2 ⟨_, sent_defaultHost, ?_⟩
  rw [decodedPath_of_isPlainPath plain]
  rfl

end Target

/-- A request for a plain path asks for it at the usual host. -/
theorem Request.read_of_isPlainPath {request : Request} (plain : request.target.IsPlainPath)
    (sendable : request.body.check = .ok ()) :
    request.read = .ok (Target.usual request.target) := by
  have whole : Text.checkWritten (request.target ++ []) = .ok () := by
    rw [List.append_nil, Text.checkWritten_eq_ok_iff]
    exact plain.hasSurrogate
  refine Except.bind_eq_ok_iff.2 ⟨_, Address.split_of_isPlainPath plain, ?_⟩
  refine Except.bind_eq_ok_iff.2 ⟨_, Target.ofAddress_of_isPlainPath plain, ?_⟩
  refine Except.bind_eq_ok_iff.2 ⟨(), sendable, Except.bind_eq_ok_iff.2 ⟨(), whole, ?_⟩⟩
  -- The usual host can be shown.
  rfl

end Storefront
