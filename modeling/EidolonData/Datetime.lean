import Mathlib.Algebra.Group.Nat.Defs
import Mathlib.Data.List.Basic

/-!
# Points in time as text

A `datetime`, naive or with its offset, what `isoformat` writes of it, and
readers that undo the writing as `datetime.fromisoformat` does.
-/

namespace EidolonData

/-- The last digits of a number, as many as asked for. -/
def padded : Nat → Nat → List Char
  | 0, _ => []
  | width + 1, number => padded width (number / 10) ++ [Nat.digitChar (number % 10)]

def isDigit (c : Char) : Bool := '0' ≤ c && c ≤ '9'

/-- The number a sequence of digits writes. -/
def number (digits : List Char) : Nat :=
  digits.foldl (fun value c => 10 * value + (c.toNat - 48)) 0

/-- As many digits as asked for, and what is left of the text. -/
def digits (width : Nat) (text : List Char) : Option (Nat × List Char) :=
  if (text.take width).length = width ∧ (text.take width).all isDigit then
    some (number (text.take width), text.drop width)
  else none

theorem length_padded (width value : Nat) : (padded width value).length = width := by
  induction width generalizing value with
  | zero => rfl
  | succ width induction => simp [padded, induction]

theorem digitChar_facts {digit : Nat} (small : digit < 10) :
    isDigit (Nat.digitChar digit) = true ∧ (Nat.digitChar digit).toNat - 48 = digit := by
  have all : ∀ digit : Fin 10,
      isDigit (Nat.digitChar digit) = true ∧ (Nat.digitChar digit).toNat - 48 = digit := by
    decide
  exact all ⟨digit, small⟩

theorem all_isDigit_padded (width value : Nat) : (padded width value).all isDigit = true := by
  induction width generalizing value with
  | zero => rfl
  | succ width induction =>
      have last := (digitChar_facts (Nat.mod_lt value (by decide : 10 > 0))).1
      simp [padded, induction, last]

theorem number_padded {width value : Nat} (small : value < 10 ^ width) :
    number (padded width value) = value := by
  induction width generalizing value with
  | zero =>
      have zero : value = 0 := by simpa using small
      rw [zero]
      rfl
  | succ width induction =>
      have upper : value / 10 < 10 ^ width := by
        rw [Nat.div_lt_iff_lt_mul (by decide)]
        rw [Nat.pow_succ] at small
        exact small
      have last := (digitChar_facts (Nat.mod_lt value (by decide : 10 > 0))).2
      have folded : number (padded (width + 1) value) =
          10 * number (padded width (value / 10)) + ((Nat.digitChar (value % 10)).toNat - 48) := by
        simp [number, padded]
      rw [folded, induction upper, last]
      omega

theorem digits_padded {width value : Nat} (small : value < 10 ^ width) (rest : List Char) :
    digits width (padded width value ++ rest) = some (value, rest) := by
  have taken : (padded width value ++ rest).take width = padded width value := by
    rw [List.take_append_of_le_length (Nat.le_of_eq (length_padded width value).symm),
      List.take_of_length_le (Nat.le_of_eq (length_padded width value))]
  have dropped : (padded width value ++ rest).drop width = rest :=
    List.drop_left' (length_padded width value)
  rw [digits, taken, dropped, if_pos ⟨length_padded width value, all_isDigit_padded width value⟩,
    number_padded small]

def isLeap (year : Nat) : Bool := year % 4 = 0 && (year % 100 ≠ 0 || year % 400 = 0)

def daysInMonth (year month : Nat) : Nat :=
  if month = 2 then (if isLeap year then 29 else 28)
  else if month ∈ [4, 6, 9, 11] then 30
  else 31

/-- The bounds the constructor of `datetime` checks; an offset is in
microseconds. -/
def isDatetime (year month day hour minute second microsecond : Nat) (offset : Option Int) : Bool :=
  1 ≤ year && year ≤ 9999 && 1 ≤ month && month ≤ 12 && 1 ≤ day && day ≤ daysInMonth year month &&
    hour < 24 && minute < 60 && second < 60 && microsecond < 1000000 &&
    offset.all (fun offset => offset.natAbs < 86400000000)

structure Datetime where
  year : Nat
  month : Nat
  day : Nat
  hour : Nat := 0
  minute : Nat := 0
  second : Nat := 0
  microsecond : Nat := 0
  offset : Option Int := none
  valid : isDatetime year month day hour minute second microsecond offset = true := by decide
  deriving DecidableEq

/-- `.ffffff`, when there is something to write. -/
def isoFraction (microsecond : Nat) : List Char :=
  if microsecond = 0 then [] else '.' :: padded 6 microsecond

/-- `±HH:MM`, with the seconds when there are any. -/
def isoOffset (offset : Int) : List Char :=
  let size := offset.natAbs
  let seconds := size / 1000000 % 60
  (if offset < 0 then '-' else '+') ::
    (padded 2 (size / 3600000000) ++ ':' :: padded 2 (size / 60000000 % 60) ++
      if size % 60000000 = 0 then []
      else ':' :: padded 2 seconds ++ isoFraction (size % 1000000))

def Datetime.isoChars (moment : Datetime) : List Char :=
  padded 4 moment.year ++ '-' :: padded 2 moment.month ++ '-' :: padded 2 moment.day ++
    'T' :: padded 2 moment.hour ++ ':' :: padded 2 moment.minute ++ ':' :: padded 2 moment.second ++
    isoFraction moment.microsecond ++ (moment.offset.map isoOffset).getD []

/-- `moment.isoformat()`. -/
def Datetime.isoformat (moment : Datetime) : String := String.ofList moment.isoChars

/-- The characters `isoformat` writes. -/
def isIsoChar (c : Char) : Bool := isDigit c || c ∈ ['-', ':', 'T', '.', '+']

theorem isIsoChar_padded {width value : Nat} {c : Char} (member : c ∈ padded width value) :
    isIsoChar c = true := by
  have digit := List.all_eq_true.mp (all_isDigit_padded width value) c member
  simp [isIsoChar, digit]

theorem isIsoChar_isoFraction {microsecond : Nat} {c : Char}
    (member : c ∈ isoFraction microsecond) : isIsoChar c = true := by
  unfold isoFraction at member
  split at member
  · cases member
  · rcases List.mem_cons.mp member with rfl | inDigits
    · decide
    · exact isIsoChar_padded inDigits

theorem isIsoChar_isoOffset {offset : Int} {c : Char} (member : c ∈ isoOffset offset) :
    isIsoChar c = true := by
  unfold isoOffset at member
  rcases List.mem_cons.mp member with rfl | inside
  · split
    · decide
    · decide
  · simp only [List.mem_append, List.mem_cons] at inside
    rcases inside with (hours | rfl | minutes) | seconds
    · exact isIsoChar_padded hours
    · decide
    · exact isIsoChar_padded minutes
    · split at seconds
      · cases seconds
      · simp only [List.cons_append, List.mem_cons, List.mem_append] at seconds
        rcases seconds with rfl | whole | fraction
        · decide
        · exact isIsoChar_padded whole
        · exact isIsoChar_isoFraction fraction

theorem isIsoChar_of_mem {moment : Datetime} {c : Char} (member : c ∈ moment.isoChars) :
    isIsoChar c = true := by
  simp only [Datetime.isoChars, List.append_assoc, List.cons_append, List.mem_append,
    List.mem_cons] at member
  rcases member with m | rfl | m | rfl | m | rfl | m | rfl | m | rfl | m | m | m
  · exact isIsoChar_padded m
  · decide
  · exact isIsoChar_padded m
  · decide
  · exact isIsoChar_padded m
  · decide
  · exact isIsoChar_padded m
  · decide
  · exact isIsoChar_padded m
  · decide
  · exact isIsoChar_padded m
  · exact isIsoChar_isoFraction m
  · cases found : moment.offset with
    | none =>
        rw [found] at m
        cases m
    | some offset =>
        rw [found] at m
        exact isIsoChar_isoOffset m

theorem length_isoFraction_le (microsecond : Nat) : (isoFraction microsecond).length ≤ 7 := by
  unfold isoFraction
  split
  · exact Nat.zero_le 7
  · exact Nat.le_of_eq (by rw [List.length_cons, length_padded])

theorem length_isoOffset_le (offset : Int) : (isoOffset offset).length ≤ 16 := by
  have fraction := length_isoFraction_le (offset.natAbs % 1000000)
  unfold isoOffset
  simp only [List.length_cons, List.length_append, length_padded]
  split
  · simp
  · simp only [List.cons_append, List.length_cons, List.length_append, length_padded]
    omega

theorem Datetime.length_isoChars_le (moment : Datetime) : moment.isoChars.length ≤ 42 := by
  have fraction := length_isoFraction_le moment.microsecond
  have offset : ((moment.offset.map isoOffset).getD []).length ≤ 16 := by
    cases moment.offset with
    | none => exact Nat.zero_le 16
    | some offset => exact length_isoOffset_le offset
  simp only [Datetime.isoChars, List.length_append, List.length_cons, length_padded]
  omega

theorem Datetime.toList_isoformat (moment : Datetime) :
    moment.isoformat.toList = moment.isoChars :=
  String.toList_ofList

/-- `datetime.fromisoformat`: the inverse of `isoformat`, whatever other
spellings it takes. -/
structure IsoReader where
  fromisoformat : String → Option Datetime
  inverse : ∀ moment : Datetime, fromisoformat moment.isoformat = some moment

section Reading

/-- One particular character. -/
def expect (wanted : Char) : List Char → Option (List Char)
  | [] => none
  | c :: rest => if c = wanted then some rest else none

/-- The fraction of a second, if there is one. -/
def readFraction : List Char → Option (Nat × List Char)
  | '.' :: rest => digits 6 rest
  | text => some (0, text)

/-- `HH:MM`, with the seconds if they are written, in microseconds. -/
def readShift (text : List Char) : Option Int := do
  let (hours, text) ← digits 2 text
  let text ← expect ':' text
  let (minutes, text) ← digits 2 text
  let (seconds, text) ← match expect ':' text with
    | some text => digits 2 text
    | none => some (0, text)
  let (fraction, text) ← readFraction text
  if text = [] then
    some (hours * 3600000000 + minutes * 60000000 + seconds * 1000000 + fraction)
  else none

/-- The offset that ends the text, if there is one. -/
def readOffset : List Char → Option (Option Int)
  | [] => some none
  | sign :: text =>
      if sign = 'Z' then (if text = [] then some (some 0) else none)
      else if sign = '-' then (readShift text).map (fun shift => some (-shift))
      else if sign = '+' then (readShift text).map some
      else none

/-- The extended format, with any separator between the date and the time. -/
def readExtended (text : List Char) : Option Datetime := do
  let (year, text) ← digits 4 text
  let text ← expect '-' text
  let (month, text) ← digits 2 text
  let text ← expect '-' text
  let (day, text) ← digits 2 text
  let (hour, text) ← digits 2 text.tail
  let text ← expect ':' text
  let (minute, text) ← digits 2 text
  let text ← expect ':' text
  let (second, text) ← digits 2 text
  let (microsecond, text) ← readFraction text
  let offset ← readOffset text
  if valid : isDatetime year month day hour minute second microsecond offset = true then
    some { year, month, day, hour, minute, second, microsecond, offset, valid }
  else none

theorem readFraction_isoFraction {microsecond : Nat} (small : microsecond < 1000000)
    {rest : List Char} (other : rest.head? ≠ some '.') :
    readFraction (isoFraction microsecond ++ rest) = some (microsecond, rest) := by
  unfold isoFraction
  by_cases zero : microsecond = 0
  · rw [if_pos zero, zero, List.nil_append]
    unfold readFraction
    split
    · exact absurd rfl other
    · rfl
  · rw [if_neg zero]
    exact digits_padded (by simpa using small) rest

theorem readShift_iso {size : Nat} (small : size < 86400000000) :
    readShift (padded 2 (size / 3600000000) ++ ':' :: padded 2 (size / 60000000 % 60) ++
      if size % 60000000 = 0 then []
      else ':' :: padded 2 (size / 1000000 % 60) ++ isoFraction (size % 1000000)) =
      some (size : Int) := by
  have hours : size / 3600000000 < 10 ^ 2 := by omega
  have minutes : size / 60000000 % 60 < 10 ^ 2 := by omega
  have seconds : size / 1000000 % 60 < 10 ^ 2 := by omega
  have fraction : size % 1000000 < 1000000 := by omega
  by_cases whole : size % 60000000 = 0
  · have noFraction : readFraction [] = some (0, []) := rfl
    simp only [readShift, if_pos whole, List.cons_append, List.append_nil,
      digits_padded hours, Option.bind_eq_bind, Option.bind_some, expect, if_true]
    have read := digits_padded minutes []
    rw [List.append_nil] at read
    simp only [read, Option.bind_some, noFraction, if_true, Option.some.injEq]
    omega
  · have ended : readFraction (isoFraction (size % 1000000) ++ []) = some (size % 1000000, []) :=
      readFraction_isoFraction fraction (by simp)
    rw [List.append_nil] at ended
    simp only [readShift, if_neg whole, List.append_assoc, List.cons_append,
      digits_padded hours, digits_padded minutes, digits_padded seconds, Option.bind_eq_bind,
      Option.bind_some, expect, if_true, ended, Option.some.injEq]
    omega

theorem readOffset_isoOffset {offset : Int} (small : offset.natAbs < 86400000000) :
    readOffset (isoOffset offset) = some (some offset) := by
  unfold readOffset isoOffset
  have shift := readShift_iso small
  by_cases negative : offset < 0
  · have back : -(offset.natAbs : Int) = offset := by omega
    simp only [if_pos negative, reduceIte, Char.reduceEq, shift, Option.map_some, back]
  · have back : (offset.natAbs : Int) = offset := by omega
    simp only [if_neg negative, reduceIte, Char.reduceEq, shift, Option.map_some, back]

theorem readExtended_isoChars (moment : Datetime) :
    readExtended moment.isoChars = some moment := by
  have valid := moment.valid
  simp only [isDatetime, Bool.and_eq_true, decide_eq_true_eq] at valid
  obtain ⟨⟨⟨⟨⟨⟨⟨⟨⟨⟨-, year⟩, -⟩, month⟩, -⟩, day⟩, hour⟩, minute⟩, second⟩, fraction⟩, offset⟩ :=
    valid
  have dayBound : moment.day < 10 ^ 2 := by
    have : daysInMonth moment.year moment.month ≤ 31 := by
      unfold daysInMonth
      split
      · split
        · decide
        · decide
      · split
        · decide
        · decide
    omega
  have offsetRead : readOffset ((moment.offset.map isoOffset).getD []) = some moment.offset := by
    cases found : moment.offset with
    | none => rfl
    | some shift =>
        rw [found] at offset
        exact readOffset_isoOffset (by simpa using offset)
  have noDot : ((moment.offset.map isoOffset).getD []).head? ≠ some '.' := by
    cases moment.offset with
    | none => simp
    | some shift =>
        simp only [Option.map_some, Option.getD_some, isoOffset, List.head?_cons]
        split
        · decide
        · decide
  simp only [readExtended, Datetime.isoChars, List.append_assoc, List.cons_append,
    digits_padded (show moment.year < 10 ^ 4 by omega),
    digits_padded (show moment.month < 10 ^ 2 by omega), digits_padded dayBound,
    digits_padded (show moment.hour < 10 ^ 2 by omega),
    digits_padded (show moment.minute < 10 ^ 2 by omega),
    digits_padded (show moment.second < 10 ^ 2 by omega),
    Option.bind_eq_bind, Option.bind_some, expect, if_true, List.tail_cons,
    readFraction_isoFraction fraction noDot, offsetRead]
  exact dif_pos moment.valid

/-- The extended format, read as a whole string. -/
def IsoReader.extended : IsoReader where
  fromisoformat := fun text => readExtended text.toList
  inverse := fun moment => by
    rw [Datetime.isoformat, String.toList_ofList]
    exact readExtended_isoChars moment

end Reading

end EidolonData
