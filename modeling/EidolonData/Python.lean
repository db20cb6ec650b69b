import Mathlib.Algebra.Group.Nat.Defs
import Mathlib.Data.List.Basic

/-!
# Strings and identifiers as Python sees them

`str.strip`, the identifier patterns the services compile, and UUIDs.  A
string is examined through its characters, so every test here is decided by
evaluation.
-/

namespace EidolonData

/-- `str.isspace` of one character: the characters `str.strip` removes. -/
def isSpace (c : Char) : Bool :=
  c.toNat ∈ [9, 10, 11, 12, 13, 28, 29, 30, 31, 32, 133, 160, 5760, 8192, 8193,
    8194, 8195, 8196, 8197, 8198, 8199, 8200, 8201, 8202, 8232, 8233, 8239, 8287,
    12288]

/-- `text.strip()`. -/
def strip (text : String) : String :=
  String.ofList ((text.toList.dropWhile isSpace).reverse.dropWhile isSpace).reverse

/-- `value or default` on a string that may be `None`. -/
def orDefault : Option String → String → String
  | some value, default => if value = "" then default else value
  | none, default => default

def isLetterOrDigit (c : Char) : Bool :=
  ('A' ≤ c && c ≤ 'Z') || ('a' ≤ c && c ≤ 'z') || ('0' ≤ c && c ≤ '9')

/-- `^[A-Za-z0-9][<inner>]{0,limit}$` as a full match. -/
def matchesIdentifier (inner : Char → Bool) (limit : Nat) (text : String) : Bool :=
  match text.toList with
  | [] => false
  | first :: rest => isLetterOrDigit first && rest.all inner && rest.length ≤ limit

/-- The characters `[A-Za-z0-9_.-]`. -/
def isNameChar (c : Char) : Bool :=
  isLetterOrDigit c || c = '_' || c = '.' || c = '-'

/-- `OWNER_ID_RE`. -/
def matchesOwnerId : String → Bool := matchesIdentifier isNameChar 47

/-- `GENERATED_ID_RE`. -/
def matchesGeneratedId : String → Bool := matchesIdentifier isNameChar 63

/-- `_OPAQUE_ID` of the guard bindings. -/
def matchesOpaqueId : String → Bool :=
  matchesIdentifier (fun c => isNameChar c || c = ':') 127

def isLowerHex (c : Char) : Bool :=
  ('0' ≤ c && c ≤ '9') || ('a' ≤ c && c ≤ 'f')

/-- `REQUEST_FINGERPRINT_RE`. -/
def matchesRequestFingerprint (text : String) : Bool :=
  text.toList.take 7 = "sha256:".toList && (text.toList.drop 7).all isLowerHex &&
    (text.toList.drop 7).length = 64

/-- The text of a UUID as `str(UUID(...))` writes it. -/
def isCanonicalUuid (text : String) : Bool :=
  let chars := text.toList
  chars.length = 36 &&
    (chars.zipIdx.all fun (c, index) =>
      if index ∈ [8, 13, 18, 23] then c = '-' else isLowerHex c)

/-- What `UUID(text)` parses: 32 hexadecimal digits, the URN prefix, the
braces and the hyphens being optional. -/
def parsesAsUuid (text : String) : Bool :=
  let bare := (text.replace "urn:" "").replace "uuid:" ""
  let inner := ((bare.toList.dropWhile isBrace).reverse.dropWhile isBrace).reverse
  let digits := inner.filter (· ≠ '-')
  digits.length = 32 && digits.all (fun c => isLowerHex c || ('A' ≤ c && c ≤ 'F'))
where
  isBrace (c : Char) : Bool := c = '{' || c = '}'

/-- `UUID(text).hex` of a canonical text. -/
def uuidHex (text : String) : String :=
  String.ofList (text.toList.filter (· ≠ '-'))

/-- A value of `uuid4()`, by its `hex`. -/
structure Uuid where
  hex : String
  wellFormed : hex.toList.length = 32 ∧ hex.toList.all isLowerHex = true
  deriving DecidableEq

theorem isLowerHex_digitChar (digit : Nat) (small : digit < 16) :
    isLowerHex (Nat.digitChar digit) = true := by
  have all : ∀ digit : Fin 16, isLowerHex (Nat.digitChar digit) = true := by decide
  exact all ⟨digit, small⟩

/-- The UUID of a number, its lowest digit first. -/
def Uuid.ofNat (number : Nat) : Uuid :=
  { hex := String.ofList ((List.range 32).map (fun place =>
      Nat.digitChar (number / 16 ^ place % 16)))
    wellFormed := by
      refine ⟨by simp, ?_⟩
      simp only [String.toList_ofList, List.all_map, List.all_eq_true, Function.comp_apply]
      intro place _
      exact isLowerHex_digitChar _ (Nat.mod_lt _ (by decide)) }

theorem strip_toList (text : String) :
    (strip text).toList =
      ((text.toList.dropWhile isSpace).reverse.dropWhile isSpace).reverse := by
  simp [strip]

theorem not_isSpace_of_isNameChar {c : Char} (name : isNameChar c = true) :
    isSpace c = false := by
  simp only [isNameChar, isLetterOrDigit, Bool.or_eq_true, Bool.and_eq_true,
    decide_eq_true_eq, Char.le_def, UInt32.le_iff_toNat_le] at name
  have code : (45 ≤ c.toNat ∧ c.toNat ≤ 46) ∨ (48 ≤ c.toNat ∧ c.toNat ≤ 122) := by
    change (((((65 ≤ c.toNat ∧ c.toNat ≤ 90) ∨ (97 ≤ c.toNat ∧ c.toNat ≤ 122)) ∨
      (48 ≤ c.toNat ∧ c.toNat ≤ 57)) ∨ c = '_') ∨ c = '.') ∨ c = '-' at name
    rcases name with ((((upper | lower) | digit) | rfl) | rfl) | rfl
    · omega
    · omega
    · omega
    · decide
    · decide
    · decide
  simp only [isSpace, List.mem_cons, List.not_mem_nil, or_false, decide_eq_false_iff_not]
  omega

/-- Text without a blank character is its own `strip()`. -/
theorem strip_eq_self {text : String}
    (solid : ∀ c ∈ text.toList, isSpace c = false) : strip text = text := by
  have unchanged : ∀ chars : List Char, (∀ c ∈ chars, isSpace c = false) →
      chars.dropWhile isSpace = chars := by
    intro chars chars_solid
    cases chars with
    | nil => rfl
    | cons head tail =>
        rw [List.dropWhile_cons_of_neg]
        simp [chars_solid head (by simp)]
  apply String.toList_injective
  rw [strip_toList, unchanged _ solid, unchanged, List.reverse_reverse]
  intro c member
  exact solid c (List.mem_reverse.mp member)

theorem isNameChar_of_isLowerHex {c : Char} (hex : isLowerHex c = true) :
    isNameChar c = true := by
  simp only [isLowerHex, Bool.or_eq_true, Bool.and_eq_true, decide_eq_true_eq] at hex
  simp only [isNameChar, isLetterOrDigit, Bool.or_eq_true, Bool.and_eq_true, decide_eq_true_eq]
  rcases hex with digit | ⟨low, high⟩
  · simp [digit]
  · have bounded : c ≤ 'z' := Char.le_trans high (by decide)
    simp [low, bounded]

/-- An identifier continued by name characters. -/
theorem matchesGeneratedId_append {text rest : String} (valid : matchesGeneratedId text = true)
    (names : ∀ c ∈ rest.toList, isNameChar c = true)
    (short : text.length + rest.length ≤ 64) : matchesGeneratedId (text ++ rest) = true := by
  unfold matchesGeneratedId matchesIdentifier at valid ⊢
  rw [String.toList_append]
  rw [← String.length_toList, ← String.length_toList] at short
  cases chars : text.toList with
  | nil => simp [chars] at valid
  | cons first inner =>
      rw [chars] at valid short
      simp only [Bool.and_eq_true, List.all_eq_true, decide_eq_true_eq] at valid
      obtain ⟨⟨firstValid, innerValid⟩, -⟩ := valid
      simp only [List.cons_append, Bool.and_eq_true, List.all_eq_true, List.mem_append,
        decide_eq_true_eq, List.length_append]
      simp only [List.length_cons] at short
      refine ⟨⟨firstValid, ?_⟩, by omega⟩
      intro c member
      rcases member with inText | inRest
      · exact innerValid c inText
      · exact names c inRest

theorem isNameChar_uuidHex {text : String} (canonical : isCanonicalUuid text = true) :
    (∀ c ∈ (uuidHex text).toList, isNameChar c = true) ∧ (uuidHex text).length ≤ 36 := by
  simp only [isCanonicalUuid, Bool.and_eq_true, decide_eq_true_eq, List.all_eq_true] at canonical
  obtain ⟨length, positions⟩ := canonical
  have kept : (uuidHex text).toList = text.toList.filter (· ≠ '-') := by
    simp [uuidHex]
  constructor
  · intro c member
    rw [kept, List.mem_filter, decide_eq_true_eq] at member
    obtain ⟨inText, notHyphen⟩ := member
    obtain ⟨index, bound, rfl⟩ := List.getElem_of_mem inText
    have position := positions (text.toList[index], index)
      (List.mem_zipIdx_iff_getElem?.mpr (by simp [bound]))
    apply isNameChar_of_isLowerHex
    simp only at position
    split at position
    · exact absurd (by simpa using position) notHyphen
    · exact position
  · rw [← String.length_toList, kept, ← length]
    exact List.length_filter_le _ _

theorem Uuid.isNameChar_hex (uuid : Uuid) : ∀ c ∈ uuid.hex.toList, isNameChar c = true := by
  intro c member
  apply isNameChar_of_isLowerHex
  exact List.all_eq_true.mp uuid.wellFormed.2 c member

theorem Uuid.length_hex (uuid : Uuid) : uuid.hex.length = 32 := by
  rw [← String.length_toList]
  exact uuid.wellFormed.1

theorem matchesGeneratedId_solid {text : String} (valid : matchesGeneratedId text = true) :
    strip text = text ∧ text ≠ "" ∧ text.length ≤ 64 := by
  unfold matchesGeneratedId matchesIdentifier at valid
  cases chars : text.toList with
  | nil => simp [chars] at valid
  | cons first rest =>
      rw [chars] at valid
      simp only [Bool.and_eq_true, List.all_eq_true, decide_eq_true_eq] at valid
      obtain ⟨⟨firstValid, restValid⟩, short⟩ := valid
      refine ⟨?_, ?_, ?_⟩
      · apply strip_eq_self
        intro c member
        apply not_isSpace_of_isNameChar
        rw [chars, List.mem_cons] at member
        rcases member with rfl | tail
        · simp [isNameChar, firstValid]
        · exact restValid c tail
      · rintro rfl
        simp at chars
      · rw [← String.length_toList, chars, List.length_cons]
        omega

end EidolonData
