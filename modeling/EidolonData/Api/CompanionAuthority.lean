import EidolonData.Base64
import EidolonData.Datetime
import EidolonData.Library.Paging
import EidolonData.Services.RuntimeSnapshot
import Mathlib.Data.Prod.Lex
import Mathlib.Data.String.Basic

/-!
# The Companion roster

The page of an Owner's Companions and the cursor between two pages: the sort
key of the last row seen, as opaque text.
-/

namespace EidolonData

open Relational

/-- `ROSTER_PAGE_LIMIT` -/
def rosterPageLimit : Nat := 50

/-- `\x1f` -/
def unitSeparator : Char := Char.ofNat 31

def toBytes (text : String) : List UInt8 := text.toUTF8.data.toList

/-- `raw.decode()`. -/
def fromBytes (raw : List UInt8) : Option String := String.fromUTF8? ⟨raw.toArray⟩

/-- `_encode_cursor` of a row's creation time and id. -/
def encodeCursor (createdAt : Datetime) (companionId : String) : String :=
  String.ofList (rstripPadding (urlsafeB64encode
    (toBytes (String.ofList (createdAt.isoChars ++ unitSeparator :: companionId.toList)))))

/-- `text.partition("\x1f")`, without the separator. -/
def partitionUnit (text : String) : String × String :=
  let before := text.toList.takeWhile (· ≠ unitSeparator)
  (String.ofList before, String.ofList ((text.toList.dropWhile (· ≠ unitSeparator)).tail))

/-- The text a cursor carries: its padding put back, decoded twice. -/
def cursorText (cursor : String) : Option String := do
  let raw ← urlsafeB64decode (cursor.toList ++ base64Padding cursor.toList)
  fromBytes raw

/-- `_decode_cursor`. -/
def decodeCursor (reader : IsoReader) (cursor : String) : Except HttpRefusal (Datetime × String) :=
  match read with
  | some pair => .ok pair
  | none => refuse 422 "cursor is not readable"
where
  read : Option (Datetime × String) := do
    let text ← cursorText cursor
    let (createdAt, companionId) := partitionUnit text
    if companionId = "" then none
    else do
      let moment ← reader.fromisoformat createdAt
      some (moment, companionId)

section Cursor

theorem fromBytes_toBytes (text : String) : fromBytes (toBytes text) = some text := by
  unfold fromBytes toBytes String.fromUTF8?
  exact dif_pos text.isValidUTF8

theorem toBytes_of_fromBytes {raw : List UInt8} {text : String}
    (decoded : fromBytes raw = some text) : toBytes text = raw := by
  unfold fromBytes String.fromUTF8? at decoded
  split at decoded
  · cases decoded
    simp [toBytes, String.fromUTF8]
  · cases decoded

/-- What `isoformat` writes has no separator in it. -/
theorem isoChars_solid (moment : Datetime) : ∀ c ∈ moment.isoChars, c ≠ unitSeparator := by
  rintro c member rfl
  have written := isIsoChar_of_mem member
  revert written
  decide

theorem partitionUnit_append {before : List Char} (solid : ∀ c ∈ before, c ≠ unitSeparator)
    (after : List Char) :
    partitionUnit (String.ofList (before ++ unitSeparator :: after)) =
      (String.ofList before, String.ofList after) := by
  have taken : (before ++ unitSeparator :: after).takeWhile (· ≠ unitSeparator) = before := by
    rw [List.takeWhile_append_of_pos (by simpa using solid)]
    simp
  have dropped : (before ++ unitSeparator :: after).dropWhile (· ≠ unitSeparator) =
      unitSeparator :: after := by
    rw [List.dropWhile_append_of_pos (by simpa using solid)]
    simp
  simp only [partitionUnit, String.toList_ofList, taken, dropped, List.tail_cons]

theorem cursorText_encode (text : String) :
    cursorText (String.ofList (rstripPadding (urlsafeB64encode (toBytes text)))) = some text := by
  simp only [cursorText, String.toList_ofList, urlsafeB64decode_rstripPadding,
    Option.bind_eq_bind, Option.bind_some, fromBytes_toBytes]

/-- A cursor leads back to the row it was written for. -/
theorem decodeCursor_encodeCursor (reader : IsoReader) (createdAt : Datetime)
    {companionId : String} (named : companionId ≠ "") :
    decodeCursor reader (encodeCursor createdAt companionId) = .ok (createdAt, companionId) := by
  have back : reader.fromisoformat (String.ofList createdAt.isoChars) = some createdAt :=
    reader.inverse createdAt
  simp only [decodeCursor, decodeCursor.read, encodeCursor, cursorText_encode,
    partitionUnit_append (isoChars_solid createdAt), String.ofList_toList, if_neg named,
    Option.bind_eq_bind, Option.bind_some, back]

end Cursor

section Length

theorem length_toBytes (text : String) : (toBytes text).length = text.utf8ByteSize := by
  simp only [toBytes, Array.length_toList]
  rfl

theorem utf8Size_ascii {c : Char} (ascii : c.toNat < 128) : c.utf8Size = 1 := by
  rw [Char.utf8Size_eq_one_iff, UInt32.le_iff_toNat_le]
  exact Nat.le_of_lt_succ ascii

theorem length_toBytes_ascii {chars : List Char} (ascii : ∀ c ∈ chars, c.toNat < 128) :
    (toBytes (String.ofList chars)).length = chars.length := by
  rw [length_toBytes]
  induction chars with
  | nil => rfl
  | cons c chars induction =>
      have rest := induction (fun c member => ascii c (List.mem_cons_of_mem _ member))
      have whole : String.ofList (c :: chars) = String.singleton c ++ String.ofList chars := by
        rw [String.singleton_eq_ofList, ← String.ofList_append]
        rfl
      rw [whole, String.utf8ByteSize_append, String.utf8ByteSize_singleton,
        utf8Size_ascii (ascii c List.mem_cons_self), rest, List.length_cons]
      exact Nat.add_comm 1 _

theorem isLetterOrDigit_ascii {c : Char} (plain : isLetterOrDigit c = true) : c.toNat < 128 := by
  unfold isLetterOrDigit at plain
  simp only [Bool.or_eq_true, Bool.and_eq_true, decide_eq_true_eq, Char.le_def,
    UInt32.le_iff_toNat_le] at plain
  rcases plain with (⟨-, upper⟩ | ⟨-, lower⟩) | ⟨-, digit⟩
  · exact Nat.lt_of_le_of_lt upper (by decide)
  · exact Nat.lt_of_le_of_lt lower (by decide)
  · exact Nat.lt_of_le_of_lt digit (by decide)

theorem isNameChar_ascii {c : Char} (name : isNameChar c = true) : c.toNat < 128 := by
  simp only [isNameChar, Bool.or_eq_true, decide_eq_true_eq] at name
  rcases name with ((plain | rfl) | rfl) | rfl
  · exact isLetterOrDigit_ascii plain
  · decide
  · decide
  · decide

theorem isIsoChar_ascii {c : Char} (written : isIsoChar c = true) : c.toNat < 128 := by
  simp only [isIsoChar, Bool.or_eq_true, decide_eq_true_eq, List.mem_cons,
    List.not_mem_nil, or_false] at written
  rcases written with digit | rfl | rfl | rfl | rfl | rfl
  · exact isLetterOrDigit_ascii (by simp [isLetterOrDigit, isDigit] at digit ⊢; exact .inr digit)
  · decide
  · decide
  · decide
  · decide
  · decide

theorem generatedId_chars {companionId : String}
    (generated : matchesGeneratedId companionId = true) :
    companionId.toList.length ≤ 64 ∧ ∀ c ∈ companionId.toList, c.toNat < 128 := by
  unfold matchesGeneratedId matchesIdentifier at generated
  split at generated
  · cases generated
  · next first rest chars =>
      simp only [Bool.and_eq_true, decide_eq_true_eq, List.all_eq_true] at generated
      obtain ⟨⟨plain, names⟩, short⟩ := generated
      rw [chars]
      refine ⟨Nat.succ_le_succ short, ?_⟩
      intro c member
      rcases List.mem_cons.mp member with rfl | later
      · exact isLetterOrDigit_ascii plain
      · exact isNameChar_ascii (names c later)

theorem ne_empty_of_generatedId {companionId : String}
    (generated : matchesGeneratedId companionId = true) : companionId ≠ "" := by
  rintro rfl
  revert generated
  decide

theorem length_encodeCursor_le (createdAt : Datetime) {companionId : String}
    (generated : matchesGeneratedId companionId = true) :
    (encodeCursor createdAt companionId).length ≤ 256 := by
  obtain ⟨short, ascii⟩ := generatedId_chars generated
  have moment := createdAt.length_isoChars_le
  have allAscii : ∀ c ∈ createdAt.isoChars ++ unitSeparator :: companionId.toList,
      c.toNat < 128 := by
    intro c member
    rcases List.mem_append.mp member with iso | behind
    · exact isIsoChar_ascii (isIsoChar_of_mem iso)
    · rcases List.mem_cons.mp behind with rfl | name
      · decide
      · exact ascii c name
  have bytes := length_toBytes_ascii allAscii
  have sextets := length_sextets_le (toBytes
    (String.ofList (createdAt.isoChars ++ unitSeparator :: companionId.toList)))
  rw [List.length_append, List.length_cons] at bytes
  rw [encodeCursor, rstripPadding_urlsafeB64encode, String.length_ofList, List.length_map]
  omega

end Length

section Roster

/-- The values a `DATETIME` column of the database hands out and takes. -/
structure DatetimeColumn where
  load : Timestamp → Datetime
  bind : Datetime → Timestamp

/-- `CompanionSummaryResponse`. -/
structure CompanionSummaryResponse where
  artworkId : Option String
  companionId : String
  displayName : String
  kind : CompanionKind
  lifecycleState : LifecycleState
  revision : Int
  createdAt : Datetime
  currentGenomeId : Option String
  memoryRealmId : Option String
  deriving DecidableEq

/-- The constraints of the response model. -/
def CompanionSummaryResponse.fits (summary : CompanionSummaryResponse) : Bool :=
  summary.artworkId.all (·.length ≤ 128) && fieldFits summary.companionId 64 &&
    summary.displayName.length ≤ 128 && decide (1 ≤ summary.revision) &&
      summary.currentGenomeId.all (·.length ≤ 64) && summary.memoryRealmId.all (·.length ≤ 64)

/-- A value offered for a field that is a `str | None`. -/
def optionalText : Option Json → Option (Option String)
  | none | some .null => some none
  | some (.str text) => some (some text)
  | some _ => none

/-- The `CompanionSummaryResponse` of a row, if the model accepts its fields. -/
def companionSummary (column : DatetimeColumn) (row : CompanionRow) :
    Option CompanionSummaryResponse := do
  let artworkId ← optionalText (row.profileJson.get? "artwork_id")
  let summary : CompanionSummaryResponse :=
    { artworkId := artworkId
      companionId := row.companionId
      displayName := row.displayName
      kind := row.kind
      lifecycleState := row.lifecycleState
      revision := row.revision
      createdAt := column.load row.createdAt
      currentGenomeId := row.currentGenomeId
      memoryRealmId := row.defaultMemoryRealmId }
  if summary.fits then some summary else none

/-- `CompanionPageResponse`. -/
structure CompanionPageResponse where
  ownerId : String
  defaultCompanionId : Option String
  companions : List CompanionSummaryResponse
  nextCursor : Option String
  deriving DecidableEq

def CompanionPageResponse.fits (response : CompanionPageResponse) : Bool :=
  fieldFits response.ownerId 64 && response.defaultCompanionId.all (·.length ≤ 64) &&
    response.nextCursor.all (·.length ≤ 256)

/-- Creation and then id. -/
def rosterColumn (row : CompanionRow) : Timestamp ×ₗ String :=
  toLex (row.createdAt, row.companionId)

/-- An Owner's Companions. -/
def Workspace.roster (w : Workspace) (ownerId : String) : List CompanionRow :=
  w.companions.select (fun row => row.ownerId = ownerId)

/-- `CompanionsRepository.page_for_owner`. -/
def pageForOwner (w : Workspace) (ownerId : String) (limit : Nat)
    (after : Option (Timestamp × String)) : List CompanionRow :=
  (orderBy rosterColumn (w.companions.select (fun row =>
    row.ownerId = ownerId && after.all (fun seen => toLex seen < rosterColumn row)))).take limit

/-- The response to the rows found, one more than asked for when there are more. -/
def rosterResponse (column : DatetimeColumn) (owner : OwnerRow) (ownerId : String) (limit : Nat)
    (rows : List CompanionRow) : Except HttpRefusal CompanionPageResponse :=
  match (rows.take limit).mapM (companionSummary column) with
  | none => refuse 500 "Internal Server Error"
  | some companions =>
      let response : CompanionPageResponse :=
        { ownerId := ownerId
          defaultCompanionId := owner.defaultCompanionId
          companions := companions
          nextCursor :=
            if limit < rows.length then
              (rows.take limit).getLast?.map (fun row =>
                encodeCursor (column.load row.createdAt) row.companionId)
            else none }
      if response.fits then .ok response else refuse 500 "Internal Server Error"

/-- `_decode_cursor(cursor) if cursor else None`. -/
def afterCursor (reader : IsoReader) (cursor : Option String) :
    Except HttpRefusal (Option (Datetime × String)) :=
  if orDefault cursor "" = "" then .ok none
  else (decodeCursor reader (cursor.getD "")).map some

/-- `list_owner_companions`, of an authorized caller.  The Owner is read in a
session of its own. -/
def listOwnerCompanions (reader : IsoReader) (column : DatetimeColumn) (owners w : Workspace)
    (ownerId : String) (cursor : Option String) (limit : Nat) :
    Except HttpRefusal CompanionPageResponse :=
  if ¬ (1 ≤ limit ∧ limit ≤ rosterPageLimit) then refuse 422 "limit must be between 1 and 50"
  else
    match owners.owners.get? ownerId with
    | none => refuse 404 "owner not found"
    | some owner => do
        let after ← afterCursor reader cursor
        rosterResponse column owner ownerId limit (pageForOwner w ownerId (limit + 1)
          (after.map (fun (createdAt, companionId) => (column.bind createdAt, companionId))))

/-- What the roster's response models and its cursors ask of the stored rows:
ids and creation times as they are written, texts of their columns' lengths. -/
structure Workspace.Listed (w : Workspace) (column : DatetimeColumn) (owners : Workspace)
    (ownerId : String) : Prop where
  owner : ∃ owner, owners.owners.get? ownerId = some owner ∧ fieldFits ownerId 64 = true ∧
    owner.defaultCompanionId.all (·.length ≤ 64) = true
  ids : ∀ row ∈ w.roster ownerId, matchesGeneratedId row.companionId = true
  times : ∀ row ∈ w.roster ownerId, column.bind (column.load row.createdAt) = row.createdAt
  summaries : ∀ row ∈ w.roster ownerId, (companionSummary column row).isSome = true

/-- The page a request of the roster is answered with. -/
def rosterPage (reader : IsoReader) (column : DatetimeColumn) (ownerId : String) (limit : Nat)
    (state : Workspace × Workspace) (cursor : Option String) :
    Option (Page CompanionSummaryResponse String) :=
  (listOwnerCompanions reader column state.1 state.2 ownerId cursor limit).toOption.map
    (fun response => { items := response.companions, next := response.nextCursor })

end Roster

end EidolonData
