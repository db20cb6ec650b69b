import EidolonData.Api.CompanionAuthority

/-!
# Cursors that the roster did not issue

A cursor leads back to the row it was written for.  Other texts lead to a row
too: what the base64 reader skips, and the other spellings of a time.
-/

namespace EidolonData

/-- A cursor as the roster writes it: characters of the URL-safe alphabet with
no padding and no bit left over, and the time in the spelling of `isoformat`. -/
def IsWrittenCursor (cursor : String) : Prop :=
  isUnpaddedBase64 cursor.toList = true ∧
    ∃ text, cursorText cursor = some text ∧ ∃ moment : Datetime,
      (partitionUnit text).1 = moment.isoformat

theorem isUnpaddedBase64_encodeCursor (createdAt : Datetime) (companionId : String) :
    isUnpaddedBase64 (encodeCursor createdAt companionId).toList = true := by
  rw [encodeCursor, String.toList_ofList, rstripPadding_urlsafeB64encode]
  exact isUnpaddedBase64_sextets _

theorem isWrittenCursor_encodeCursor (createdAt : Datetime) (companionId : String) :
    IsWrittenCursor (encodeCursor createdAt companionId) := by
  refine ⟨isUnpaddedBase64_encodeCursor createdAt companionId, _, cursorText_encode _,
    createdAt, ?_⟩
  rw [partitionUnit_append (isoChars_solid createdAt)]
  rfl

theorem partitionUnit_eq {text before after : String}
    (parts : partitionUnit text = (before, after)) (named : after ≠ "") :
    String.ofList (before.toList ++ unitSeparator :: after.toList) = text := by
  simp only [partitionUnit, Prod.mk.injEq] at parts
  obtain ⟨rfl, rfl⟩ := parts
  rw [String.toList_ofList, String.toList_ofList]
  cases rest : text.toList.dropWhile (· ≠ unitSeparator) with
  | nil =>
      rw [rest] at named
      exact absurd rfl named
  | cons first others =>
      have stopped : first = unitSeparator := by
        have head := List.head?_dropWhile_not (· ≠ unitSeparator) text.toList
        rw [rest] at head
        simpa using head
      rw [stopped] at rest
      rw [List.tail_cons, ← rest, List.takeWhile_append_dropWhile, String.ofList_toList]

/-- A cursor the roster accepts and could have written is the one of the row
it leads to. -/
theorem encodeCursor_of_written {reader : IsoReader} {cursor companionId : String}
    {createdAt : Datetime} (written : IsWrittenCursor cursor)
    (decoded : decodeCursor reader cursor = .ok (createdAt, companionId)) :
    encodeCursor createdAt companionId = cursor := by
  obtain ⟨canonical, text, carried, moment, spelled⟩ := written
  obtain ⟨raw, chars⟩ := exists_sextets canonical
  have bytes : fromBytes raw = some text := by
    have read := urlsafeB64decode_rstripPadding raw
    rw [rstripPadding_urlsafeB64encode, chars] at read
    rw [cursorText, read] at carried
    exact carried
  simp only [decodeCursor, decodeCursor.read, carried, Option.bind_eq_bind,
    Option.bind_some] at decoded
  split at decoded
  · next pair found =>
      cases decoded
      split at found
      · cases found
      · next named =>
          rw [spelled, reader.inverse, Option.bind_some, Option.some.injEq, Prod.mk.injEq] at found
          obtain ⟨rfl, rfl⟩ := found
          have parts : partitionUnit text = (moment.isoformat, (partitionUnit text).2) := by
            rw [← spelled]
          have whole := partitionUnit_eq parts named
          rw [Datetime.toList_isoformat] at whole
          rw [encodeCursor, whole, toBytes_of_fromBytes bytes, rstripPadding_urlsafeB64encode,
            chars, String.ofList_toList]
  · cases decoded

/-- The cursor of a row decodes to its creation time and id; and a cursor that
is accepted is the one of the row it leads to exactly when it is written as
the roster writes cursors. -/
theorem roster_cursor_exact_iff (reader : IsoReader) :
    (∀ createdAt companionId, companionId ≠ "" →
      decodeCursor reader (encodeCursor createdAt companionId) = .ok (createdAt, companionId)) ∧
    ∀ cursor createdAt companionId,
      decodeCursor reader cursor = .ok (createdAt, companionId) →
        (encodeCursor createdAt companionId = cursor ↔ IsWrittenCursor cursor) := by
  refine ⟨fun createdAt companionId named => decodeCursor_encodeCursor reader createdAt named, ?_⟩
  intro cursor createdAt companionId decoded
  constructor
  · rintro rfl
    exact isWrittenCursor_encodeCursor createdAt companionId
  · intro written
    exact encodeCursor_of_written written decoded

def sampleCreation : Datetime :=
  { year := 2026
    month := 1
    day := 2
    hour := 3
    minute := 4
    second := 5
    microsecond := 678900 }

theorem roster_cursor_exact_iff_sample :
    decodeCursor .extended (encodeCursor sampleCreation "c_owner") =
        .ok (sampleCreation, "c_owner") ∧
      IsWrittenCursor (encodeCursor sampleCreation "c_owner") := by
  have exact_iff := roster_cursor_exact_iff .extended
  have decoded := exact_iff.1 sampleCreation "c_owner" (by decide)
  exact ⟨decoded, (exact_iff.2 _ _ _ decoded).mp rfl⟩

/-- A cursor with characters of neither alphabet and with padding leads to a
row it is not the cursor of. -/
theorem decorated_cursor_accepted :
    decodeCursor .extended "!MjAyNi0wMS0wMlQwMzowNDowNS42Nzg5MDAfY19vd25lcg**=" =
        .ok (sampleCreation, "c_owner") ∧
      encodeCursor sampleCreation "c_owner" ≠
        "!MjAyNi0wMS0wMlQwMzowNDowNS42Nzg5MDAfY19vd25lcg**=" := by
  decide +kernel

end EidolonData
