import Mathlib.Data.List.Basic

/-!
# Base64 as Python's standard library writes and reads it

`urlsafe_b64encode` without its padding, and `urlsafe_b64decode`, which reads
both alphabets, skips every other character and stops at the padding.
-/

namespace EidolonData

/-- The URL-safe alphabet. -/
def urlsafeAlphabet : List Char :=
  "ABCDEFGHIJKLMNOPQRSTUVWXYZabcdefghijklmnopqrstuvwxyz0123456789-_".toList

def urlsafeChar (sextet : Nat) : Char := urlsafeAlphabet.getD sextet 'A'

/-- The value of a character, in either alphabet. -/
def sextet? (c : Char) : Option Nat :=
  if 'A' ≤ c ∧ c ≤ 'Z' then some (c.toNat - 65)
  else if 'a' ≤ c ∧ c ≤ 'z' then some (c.toNat - 71)
  else if '0' ≤ c ∧ c ≤ '9' then some (c.toNat + 4)
  else if c = '+' ∨ c = '-' then some 62
  else if c = '/' ∨ c = '_' then some 63
  else none

/-- The groups of six bits of a sequence of bytes, the last filled with zeros. -/
def sextets : List UInt8 → List Nat
  | [] => []
  | [a] => [a.toNat / 4, a.toNat % 4 * 16]
  | [a, b] => [a.toNat / 4, a.toNat % 4 * 16 + b.toNat / 16, b.toNat % 16 * 4]
  | a :: b :: c :: rest =>
      a.toNat / 4 :: (a.toNat % 4 * 16 + b.toNat / 16) :: (b.toNat % 16 * 4 + c.toNat / 64) ::
        c.toNat % 64 :: sextets rest

/-- The `=` that complete a text to a multiple of four characters. -/
def base64Padding (text : List Char) : List Char :=
  List.replicate ((4 - text.length % 4) % 4) '='

/-- `urlsafe_b64encode(raw)`. -/
def urlsafeB64encode (raw : List UInt8) : List Char :=
  (sextets raw).map urlsafeChar ++ base64Padding ((sextets raw).map urlsafeChar)

/-- `text.rstrip("=")`. -/
def rstripPadding (text : List Char) : List Char :=
  (text.reverse.dropWhile (· = '=')).reverse

/-- The loop of `binascii.a2b_base64`: the place in a group of four, the bits
left over from the last character, and the padding seen since. -/
def a2bBase64 : (quadPos leftover pads : Nat) → List Char → Option (List UInt8)
  | quadPos, _, _, [] => if quadPos = 0 then some [] else none
  | quadPos, leftover, pads, c :: rest =>
      if c = '=' then
        -- a complete padding ends the reading, whatever follows
        if 2 ≤ quadPos ∧ 4 ≤ quadPos + (pads + 1) then some []
        else a2bBase64 quadPos leftover (if 2 ≤ quadPos then pads + 1 else pads) rest
      else
        match sextet? c with
        | none => a2bBase64 quadPos leftover pads rest
        | some value =>
            match quadPos with
            | 0 => a2bBase64 1 value 0 rest
            | 1 => (a2bBase64 2 (value % 16) 0 rest).map
                (fun bytes => UInt8.ofNat (leftover * 4 + value / 16) :: bytes)
            | 2 => (a2bBase64 3 (value % 4) 0 rest).map
                (fun bytes => UInt8.ofNat (leftover * 16 + value / 4) :: bytes)
            | _ => (a2bBase64 0 0 0 rest).map
                (fun bytes => UInt8.ofNat (leftover * 64 + value) :: bytes)

/-- `urlsafe_b64decode(text)` of a string: it takes ASCII only. -/
def urlsafeB64decode (text : List Char) : Option (List UInt8) :=
  if text.all (fun c => c.toNat < 128) then a2bBase64 0 0 0 text else none

/-- The texts `urlsafe_b64encode` writes, less the padding: characters of the
URL-safe alphabet, no bit left over. -/
def isUnpaddedBase64 : List Char → Bool
  | [] => true
  | [_] => false
  | [a, b] => [a, b].all (· ∈ urlsafeAlphabet) && (sextet? b).any (· % 16 = 0)
  | [a, b, c] => [a, b, c].all (· ∈ urlsafeAlphabet) && (sextet? c).any (· % 4 = 0)
  | a :: b :: c :: d :: rest =>
      [a, b, c, d].all (· ∈ urlsafeAlphabet) && isUnpaddedBase64 rest

theorem sextet?_urlsafeChar {value : Nat} (small : value < 64) :
    sextet? (urlsafeChar value) = some value := by
  have all : ∀ value : Fin 64, sextet? (urlsafeChar value) = some value.val := by decide +kernel
  exact all ⟨value, small⟩

theorem urlsafeChar_ne_pad {value : Nat} (small : value < 64) : urlsafeChar value ≠ '=' := by
  have all : ∀ value : Fin 64, urlsafeChar value ≠ '=' := by decide +kernel
  exact all ⟨value, small⟩

theorem urlsafeChar_mem {value : Nat} (small : value < 64) :
    urlsafeChar value ∈ urlsafeAlphabet := by
  have all : ∀ value : Fin 64, urlsafeChar value ∈ urlsafeAlphabet := by decide +kernel
  exact all ⟨value, small⟩

theorem urlsafeChar_ascii {value : Nat} (small : value < 64) : (urlsafeChar value).toNat < 128 := by
  have all : ∀ value : Fin 64, (urlsafeChar value).toNat < 128 := by
    decide +kernel
  exact all ⟨value, small⟩

theorem exists_urlsafeChar {c : Char} (member : c ∈ urlsafeAlphabet) :
    ∃ value, value < 64 ∧ urlsafeChar value = c := by
  obtain ⟨value, bound, rfl⟩ := List.getElem_of_mem member
  refine ⟨value, bound, ?_⟩
  rw [urlsafeChar, List.getD_eq_getElem?_getD, List.getElem?_eq_getElem bound, Option.getD_some]

theorem sextets_lt (raw : List UInt8) : ∀ value ∈ sextets raw, value < 64 := by
  induction raw using sextets.induct with
  | case1 => simp [sextets]
  | case2 a =>
      have := a.toNat_lt
      simp only [sextets, List.mem_cons, List.not_mem_nil, or_false, forall_eq_or_imp, forall_eq]
      omega
  | case3 a b =>
      have := a.toNat_lt
      have := b.toNat_lt
      simp only [sextets, List.mem_cons, List.not_mem_nil, or_false, forall_eq_or_imp, forall_eq]
      omega
  | case4 a b c rest induction =>
      have := a.toNat_lt
      have := b.toNat_lt
      have := c.toNat_lt
      simp only [sextets, List.mem_cons, forall_eq_or_imp]
      exact ⟨by omega, by omega, by omega, by omega, induction⟩

/-- Four characters carry three bytes. -/
theorem length_sextets_le (raw : List UInt8) : 3 * (sextets raw).length ≤ 4 * raw.length + 2 := by
  induction raw using sextets.induct with
  | case1 => simp [sextets]
  | case2 a => simp [sextets]
  | case3 a b => simp [sextets]
  | case4 a b c rest induction =>
      simp only [sextets, List.length_cons]
      omega

section Reading

variable {x y z w : Nat} {rest : List Char}

theorem a2bBase64_urlsafeChar {quadPos leftover pads value : Nat} (small : value < 64) :
    a2bBase64 quadPos leftover pads (urlsafeChar value :: rest) =
      match quadPos with
      | 0 => a2bBase64 1 value 0 rest
      | 1 => (a2bBase64 2 (value % 16) 0 rest).map
          (fun bytes => UInt8.ofNat (leftover * 4 + value / 16) :: bytes)
      | 2 => (a2bBase64 3 (value % 4) 0 rest).map
          (fun bytes => UInt8.ofNat (leftover * 16 + value / 4) :: bytes)
      | _ => (a2bBase64 0 0 0 rest).map
          (fun bytes => UInt8.ofNat (leftover * 64 + value) :: bytes) := by
  rw [a2bBase64, if_neg (urlsafeChar_ne_pad small), sextet?_urlsafeChar small]

/-- Four characters are three bytes. -/
theorem a2bBase64_group (hx : x < 64) (hy : y < 64) (hz : z < 64) (hw : w < 64) :
    a2bBase64 0 0 0
        (urlsafeChar x :: urlsafeChar y :: urlsafeChar z :: urlsafeChar w :: rest) =
      (a2bBase64 0 0 0 rest).map (fun bytes => UInt8.ofNat (x * 4 + y / 16) ::
        UInt8.ofNat (y % 16 * 16 + z / 4) :: UInt8.ofNat (z % 4 * 64 + w) :: bytes) := by
  simp only [a2bBase64_urlsafeChar hx, a2bBase64_urlsafeChar hy, a2bBase64_urlsafeChar hz,
    a2bBase64_urlsafeChar hw, Option.map_map]
  rfl

theorem ofNat_toNat {byte : UInt8} {value : Nat} (same : value = byte.toNat) :
    UInt8.ofNat value = byte := by
  rw [same]
  exact UInt8.ofNat_toNat

/-- What is written is read back, its padding put back. -/
theorem a2bBase64_sextets (raw : List UInt8) :
    a2bBase64 0 0 0
      ((sextets raw).map urlsafeChar ++ base64Padding ((sextets raw).map urlsafeChar)) =
      some raw := by
  induction raw using sextets.induct with
  | case1 => rfl
  | case2 a =>
      have := a.toNat_lt
      have padding : base64Padding ((sextets [a]).map urlsafeChar) = ['=', '='] := rfl
      rw [padding]
      simp only [sextets, List.map_cons, List.map_nil, List.cons_append, List.nil_append]
      have firstSmall : a.toNat / 4 < 64 := by omega
      have secondSmall : a.toNat % 4 * 16 < 64 := by omega
      have ended : a2bBase64 2 (a.toNat % 4 * 16 % 16) 0 ['=', '='] = some [] := rfl
      have byte : UInt8.ofNat (a.toNat / 4 * 4 + a.toNat % 4 * 16 / 16) = a :=
        ofNat_toNat (by omega)
      simp only [a2bBase64_urlsafeChar firstSmall, a2bBase64_urlsafeChar secondSmall]
      rw [ended, Option.map_some, byte]
  | case3 a b =>
      have := a.toNat_lt
      have := b.toNat_lt
      have padding : base64Padding ((sextets [a, b]).map urlsafeChar) = ['='] := rfl
      rw [padding]
      simp only [sextets, List.map_cons, List.map_nil, List.cons_append, List.nil_append]
      have firstSmall : a.toNat / 4 < 64 := by omega
      have secondSmall : a.toNat % 4 * 16 + b.toNat / 16 < 64 := by omega
      have thirdSmall : b.toNat % 16 * 4 < 64 := by omega
      have ended : a2bBase64 3 (b.toNat % 16 * 4 % 4) 0 ['='] = some [] := rfl
      have first : UInt8.ofNat (a.toNat / 4 * 4 + (a.toNat % 4 * 16 + b.toNat / 16) / 16) = a :=
        ofNat_toNat (by omega)
      have second : UInt8.ofNat ((a.toNat % 4 * 16 + b.toNat / 16) % 16 * 16 +
          b.toNat % 16 * 4 / 4) = b := ofNat_toNat (by omega)
      simp only [a2bBase64_urlsafeChar firstSmall, a2bBase64_urlsafeChar secondSmall,
        a2bBase64_urlsafeChar thirdSmall]
      rw [ended, Option.map_some, Option.map_some, first, second]
  | case4 a b c rest induction =>
      have := a.toNat_lt
      have := b.toNat_lt
      have := c.toNat_lt
      have padding : base64Padding ((sextets (a :: b :: c :: rest)).map urlsafeChar) =
          base64Padding ((sextets rest).map urlsafeChar) := by
        simp only [base64Padding, sextets, List.map_cons, List.length_cons]
        congr 2
        omega
      rw [padding]
      simp only [sextets, List.map_cons, List.cons_append]
      rw [a2bBase64_group (by omega) (by omega) (by omega) (by omega), induction, Option.map_some]
      congr 2
      · exact ofNat_toNat (by omega)
      · congr 1
        · exact ofNat_toNat (by omega)
        · congr 1
          exact ofNat_toNat (by omega)

end Reading

/-- Nothing but the padding is stripped. -/
theorem rstripPadding_urlsafeB64encode (raw : List UInt8) :
    rstripPadding (urlsafeB64encode raw) = (sextets raw).map urlsafeChar := by
  have noPadding : ∀ c ∈ (sextets raw).map urlsafeChar, c ≠ '=' := by
    intro c member
    obtain ⟨value, sextet, rfl⟩ := List.mem_map.mp member
    exact urlsafeChar_ne_pad (sextets_lt raw value sextet)
  unfold rstripPadding urlsafeB64encode base64Padding
  rw [List.reverse_append, List.reverse_replicate, List.dropWhile_append_of_pos (by simp)]
  have kept : ((sextets raw).map urlsafeChar).reverse.dropWhile (· = '=') =
      ((sextets raw).map urlsafeChar).reverse := by
    cases chars : ((sextets raw).map urlsafeChar).reverse with
    | nil => rfl
    | cons last before =>
        have member : last ∈ ((sextets raw).map urlsafeChar).reverse := by
          rw [chars]
          exact List.mem_cons_self
        have solid := noPadding last (List.mem_reverse.mp member)
        rw [List.dropWhile_cons_of_neg (by simpa using solid)]
  rw [kept, List.reverse_reverse]

/-- Written without padding, and read with the padding put back. -/
theorem urlsafeB64decode_rstripPadding (raw : List UInt8) :
    urlsafeB64decode (rstripPadding (urlsafeB64encode raw) ++
      base64Padding (rstripPadding (urlsafeB64encode raw))) = some raw := by
  rw [rstripPadding_urlsafeB64encode, urlsafeB64decode, if_pos, a2bBase64_sextets]
  rw [List.all_append, Bool.and_eq_true, List.all_eq_true, List.all_eq_true]
  constructor
  · intro c member
    obtain ⟨value, sextet, rfl⟩ := List.mem_map.mp member
    simpa using urlsafeChar_ascii (sextets_lt raw value sextet)
  · intro c member
    rw [(List.mem_replicate.mp member).2]
    rfl

/-- What bytes are written as is canonical. -/
theorem isUnpaddedBase64_sextets (raw : List UInt8) :
    isUnpaddedBase64 ((sextets raw).map urlsafeChar) = true := by
  have small := sextets_lt raw
  induction raw using sextets.induct with
  | case1 => rfl
  | case2 a =>
      simp only [sextets, List.mem_cons, List.not_mem_nil, or_false, forall_eq_or_imp,
        forall_eq] at small
      obtain ⟨first, second⟩ := small
      simp [sextets, isUnpaddedBase64, urlsafeChar_mem first, urlsafeChar_mem second,
        sextet?_urlsafeChar second]
  | case3 a b =>
      simp only [sextets, List.mem_cons, List.not_mem_nil, or_false, forall_eq_or_imp,
        forall_eq] at small
      obtain ⟨first, second, third⟩ := small
      simp [sextets, isUnpaddedBase64, urlsafeChar_mem first, urlsafeChar_mem second,
        urlsafeChar_mem third, sextet?_urlsafeChar third]
  | case4 a b c rest induction =>
      simp only [sextets, List.mem_cons, forall_eq_or_imp] at small
      obtain ⟨first, second, third, fourth, others⟩ := small
      simp [sextets, isUnpaddedBase64, urlsafeChar_mem first, urlsafeChar_mem second,
        urlsafeChar_mem third, urlsafeChar_mem fourth, induction others]

theorem toNat_ofNat {value : Nat} (small : value < 256) : (UInt8.ofNat value).toNat = value :=
  UInt8.toNat_ofNat_of_lt' (show value < UInt8.size from small)

theorem exists_sextets {text : List Char} (canonical : isUnpaddedBase64 text = true) :
    ∃ raw, (sextets raw).map urlsafeChar = text := by
  induction text using isUnpaddedBase64.induct with
  | case1 => exact ⟨[], rfl⟩
  | case2 c => cases canonical
  | case3 a b =>
      simp only [isUnpaddedBase64, List.all_cons, List.all_nil, Bool.and_true, Bool.and_eq_true,
        decide_eq_true_eq] at canonical
      obtain ⟨⟨aMember, bMember⟩, bits⟩ := canonical
      obtain ⟨x, xSmall, rfl⟩ := exists_urlsafeChar aMember
      obtain ⟨y, ySmall, rfl⟩ := exists_urlsafeChar bMember
      have bitsFree : y % 16 = 0 := by simpa [sextet?_urlsafeChar ySmall] using bits
      have byte : (UInt8.ofNat (x * 4 + y / 16)).toNat = x * 4 + y / 16 :=
        toNat_ofNat (by omega)
      refine ⟨[UInt8.ofNat (x * 4 + y / 16)], ?_⟩
      have xBack : (x * 4 + y / 16) / 4 = x := by omega
      have yBack : (x * 4 + y / 16) % 4 * 16 = y := by omega
      simp only [sextets, byte, xBack, yBack, List.map_cons, List.map_nil]
  | case4 a b c =>
      simp only [isUnpaddedBase64, List.all_cons, List.all_nil, Bool.and_true, Bool.and_eq_true,
        decide_eq_true_eq] at canonical
      obtain ⟨⟨aMember, bMember, cMember⟩, bits⟩ := canonical
      obtain ⟨x, xSmall, rfl⟩ := exists_urlsafeChar aMember
      obtain ⟨y, ySmall, rfl⟩ := exists_urlsafeChar bMember
      obtain ⟨z, zSmall, rfl⟩ := exists_urlsafeChar cMember
      have bitsFree : z % 4 = 0 := by simpa [sextet?_urlsafeChar zSmall] using bits
      have first : (UInt8.ofNat (x * 4 + y / 16)).toNat = x * 4 + y / 16 :=
        toNat_ofNat (by omega)
      have second : (UInt8.ofNat (y % 16 * 16 + z / 4)).toNat = y % 16 * 16 + z / 4 :=
        toNat_ofNat (by omega)
      refine ⟨[UInt8.ofNat (x * 4 + y / 16), UInt8.ofNat (y % 16 * 16 + z / 4)], ?_⟩
      have xBack : (x * 4 + y / 16) / 4 = x := by omega
      have yBack : (x * 4 + y / 16) % 4 * 16 + (y % 16 * 16 + z / 4) / 16 = y := by omega
      have zBack : (y % 16 * 16 + z / 4) % 16 * 4 = z := by omega
      simp only [sextets, first, second, xBack, yBack, zBack, List.map_cons, List.map_nil]
  | case5 a b c d rest induction =>
      simp only [isUnpaddedBase64, List.all_cons, List.all_nil, Bool.and_true, Bool.and_eq_true,
        decide_eq_true_eq] at canonical
      obtain ⟨⟨aMember, bMember, cMember, dMember⟩, others⟩ := canonical
      obtain ⟨x, xSmall, rfl⟩ := exists_urlsafeChar aMember
      obtain ⟨y, ySmall, rfl⟩ := exists_urlsafeChar bMember
      obtain ⟨z, zSmall, rfl⟩ := exists_urlsafeChar cMember
      obtain ⟨w, wSmall, rfl⟩ := exists_urlsafeChar dMember
      obtain ⟨raw, rfl⟩ := induction others
      have first : (UInt8.ofNat (x * 4 + y / 16)).toNat = x * 4 + y / 16 :=
        toNat_ofNat (by omega)
      have second : (UInt8.ofNat (y % 16 * 16 + z / 4)).toNat = y % 16 * 16 + z / 4 :=
        toNat_ofNat (by omega)
      have third : (UInt8.ofNat (z % 4 * 64 + w)).toNat = z % 4 * 64 + w :=
        toNat_ofNat (by omega)
      refine ⟨UInt8.ofNat (x * 4 + y / 16) :: UInt8.ofNat (y % 16 * 16 + z / 4) ::
        UInt8.ofNat (z % 4 * 64 + w) :: raw, ?_⟩
      have xBack : (x * 4 + y / 16) / 4 = x := by omega
      have yBack : (x * 4 + y / 16) % 4 * 16 + (y % 16 * 16 + z / 4) / 16 = y := by omega
      have zBack : (y % 16 * 16 + z / 4) % 16 * 4 + (z % 4 * 64 + w) / 64 = z := by omega
      have wBack : (z % 4 * 64 + w) % 64 = w := by omega
      simp only [sextets, first, second, third, xBack, yBack, zBack, wBack, List.map_cons]

end EidolonData
