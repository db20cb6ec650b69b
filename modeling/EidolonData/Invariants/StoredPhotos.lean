import EidolonData.Effects.ObjectCommands
import EidolonData.Effects.PhotoFiles

/-!
# Photos on runs with faults

One request brings in at most one photo, under a key of its own.  It leaves
the reading of the others as it was, unless an archive removes the object of a
row that then stays.
-/

namespace EidolonData

open Relational

variable {storage : LocalObjectStorage} {sdk : Sdk}

/-- The commands that write a photo's row. -/
def Command.changesPhoto : Command → Bool
  | replaceFace _ _ _ _ | deleteFace _ _ _ => true
  | _ => false

/-- No photo's row comes in or changes. -/
def Tables.PhotosFrom (t t' : Tables) : Prop :=
  ∀ row ∈ t'.people.personFaces.rows, row ∈ t.people.personFaces.rows

theorem Database.photosFrom_after {α : Type} {db : Database} {program : Session α}
    (ensures : program.Ensures db.tables (fun _ t' => db.tables.PhotosFrom t')) :
    db.tables.PhotosFrom (db.after (effect program)).tables := by
  rw [Database.after_effect]
  refine Database.after_induct (motive := fun db' => db.tables.PhotosFrom db'.tables)
    (fun _ member => member) ?_
  intro value db' ran
  exact ensures value _ ran

theorem Command.photos_kept (command : Command) (env : Env) (db : Database)
    (sound : StoreSound sdk db.tables) (other : command.changesPhoto = false) :
    db.tables.PhotosFrom (Call.step sdk db ⟨env, command⟩).tables := by
  have integrity : db.tables.Integrity := db.property
  cases handles : command.handlesObjects with
  | false =>
      refine Database.after_induct (motive := fun db' => db.tables.PhotosFrom db'.tables)
        (fun _ member => member) ?_
      intro done db' ran row member
      have same := (command.spares_objects env handles).ensures db.tables done _ ran
      have photos : db'.tables.people.personFaces = db.tables.people.personFaces :=
        congrArg Prod.snd same
      rw [← photos]
      exact member
  | true =>
      cases command with
      | deleteOwner ownerId =>
          apply Database.photosFrom_after
          refine (deleteOwner_removes env integrity sound.separate ownerId).mono ?_
          rintro result t' (⟨rfl, -⟩ | ⟨fact, rfl, -⟩) row member
          · exact member
          · exact List.mem_of_mem_filter member
      | deleteCompanion ownerId companionId allowDefault =>
          apply Database.photosFrom_after
          refine (deleteCompanion_removes env integrity sound.separate ownerId companionId
            allowDefault).mono ?_
          intro result t' removed row member
          rw [removed.tables] at member
          exact member
      | archivePerson ownerId personId expectedRevision =>
          apply Database.photosFrom_after
          refine (archivePerson_erases sdk env ownerId personId expectedRevision).mono ?_
          intro _ t' erased row member
          have photos : t'.people.personFaces =
              db.tables.people.personFaces.retain (fun row => row.personId ≠ personId) :=
            congrArg Voices.faces erased
          rw [photos] at member
          exact List.mem_of_mem_filter member
      | permanentlyDelete ownerId personId expectedRevision complete =>
          apply Database.photosFrom_after
          refine (permanentlyDelete_photos sdk env integrity sound.people ownerId personId
            expectedRevision complete).mono ?_
          intro _ t' same row member
          rw [← same]
          exact member
      | replaceFace | deleteFace => cases other
      | _ => cases handles

/-- The photo of a row is read back with the digest of the row. -/
def PersonFaceRow.Readable (storage : LocalObjectStorage) (sdk : Sdk) (files : ObjectFiles)
    (row : PersonFaceRow) (storageKey : String) : Prop :=
  ∃ data, storage.get files storageKey = .ok data ∧ row.sha256 = some (sdk.sha256 data)

theorem LocalObjectStorage.Same.readable_iff {files files' : ObjectFiles} {storageKey : String}
    (same : storage.Same files files' storageKey) (row : PersonFaceRow) :
    row.Readable storage sdk files' storageKey ↔ row.Readable storage sdk files storageKey := by
  unfold PersonFaceRow.Readable
  simp only [same _]

namespace PhotoWorld

def rows (world : PhotoWorld) : List PersonFaceRow := world.db.tables.people.personFaces.rows

/-- The keys of the rows were drawn as some of these. -/
def Drawn (world : PhotoWorld) (uuids : List Uuid) : Prop :=
  ∀ row ∈ world.rows, ∀ name, row.storageKey = some name → ∃ uuid ∈ uuids, name = photoKey uuid

end PhotoWorld

namespace PhotoCall

variable {call : PhotoCall} {world : PhotoWorld} {uuids : List Uuid}

theorem oldKey_stored {personId name : String} (named : oldKey world personId = some name) :
    ∃ row ∈ world.rows, row.personId = personId ∧ row.storageKey = some name := by
  obtain ⟨row, found, key⟩ := Option.bind_eq_some_iff.mp named
  exact ⟨row, Table.mem_of_get? found, Table.key_of_get? found, key⟩

theorem oldKey_drawn (drawn : world.Drawn uuids) {personId : String} :
    ∀ name, oldKey world personId = some name → ∃ uuid, name = photoKey uuid := by
  intro name named
  obtain ⟨row, member, -, key⟩ := oldKey_stored named
  obtain ⟨uuid, -, drawnAs⟩ := drawn row member name key
  exact ⟨uuid, drawnAs⟩

theorem eq_of_storageKey {row other : PersonFaceRow} {name : String} (member : row ∈ world.rows)
    (otherMember : other ∈ world.rows) (named : row.storageKey = some name)
    (otherNamed : other.storageKey = some name) : row = other :=
  world.db.property.people.faceKeys.eq_of_mem member otherMember named otherNamed

theorem commit_some {t : Tables} {db : Database} (committed : call.commit t = some db) :
    db.tables = t := by
  unfold commit at committed
  split at committed
  · cases committed
  · split at committed
    · cases committed
      rfl
    · cases committed

/-- What a request does to a row that is there afterwards: it was there and is
read as before, or not read any more because an archive lost its object, or
its photo is new. -/
inductive Moves (storage : LocalObjectStorage) (sdk : Sdk) (call : PhotoCall)
    (world world' : PhotoWorld) (row : PersonFaceRow) (name : String) : Prop where
  | kept : row ∈ world.rows → name ∉ call.lostKeys storage sdk world →
      storage.Same world.files world'.files name → Moves storage sdk call world world' row name
  | lost : row ∈ world.rows → name ∈ call.lostKeys storage sdk world →
      ¬ row.Readable storage sdk world'.files name →
      Moves storage sdk call world world' row name
  | stored : name = photoKey (call.env.uuid 1) → row.Readable storage sdk world'.files name →
      Moves storage sdk call world world' row name

theorem commit_after {α : Type} {program : Session α} {value : α} {t : Tables} {db : Database}
    (ran : program.run world.db.tables = .ok (value, t)) (committed : call.commit t = some db) :
    db = world.db.after (effect program) := by
  have tables := commit_some committed
  rw [Database.after_effect, Database.after_of_run ran (tables ▸ db.property)]
  exact Subtype.ext tables

theorem oldKey_fresh (drawn : world.Drawn uuids) (fresh : call.env.uuid 1 ∉ uuids)
    (personId : String) : oldKey world personId ≠ some (photoKey (call.env.uuid 1)) := by
  intro old
  obtain ⟨row, stored, -, key⟩ := oldKey_stored old
  obtain ⟨uuid, known, drawnAs⟩ := drawn row stored _ key
  rw [photoKey_injective drawnAs] at fresh
  exact fresh known

/-- The object of another Person's photo is another one. -/
theorem oldKey_apart {row : PersonFaceRow} {personId name : String} (stored : row ∈ world.rows)
    (named : row.storageKey = some name) (apart : row.personId ≠ personId) :
    oldKey world personId ≠ some name := by
  intro old
  obtain ⟨other, otherStored, person, key⟩ := oldKey_stored old
  rw [eq_of_storageKey stored otherStored named key] at apart
  exact apart person

section Settle

variable {t : Tables} {personId : String} {data : Option (List UInt8)} {row : PersonFaceRow}
  {written : Bool × ObjectFiles}

theorem settle_failed (drawn : world.Drawn uuids) (fresh : call.env.uuid 1 ∉ uuids)
    (changed : SlotChanged sdk call.env world.db.tables t personId data row)
    (others : ∀ uuid ∈ uuids, storage.Same world.files written.2 (photoKey uuid))
    {other : PersonFaceRow} {name : String} (stored : other ∈ world.rows)
    (named : other.storageKey = some name) :
    storage.Same world.files (call.deleteKey storage written.2 row.storageKey).2 name := by
  have drawnNew : row.storageKey = data.map (fun _ => photoKey (call.env.uuid 1)) :=
    changed.storageKey
  obtain ⟨uuid, known, rfl⟩ := drawn other stored name named
  refine (others uuid known).trans (call.deleteKey_same ?_ ?_)
  · intro new given
    rw [drawnNew, Option.map_eq_some_iff] at given
    obtain ⟨-, -, rfl⟩ := given
    exact ⟨call.env.uuid 1, rfl⟩
  · intro same
    rw [drawnNew, Option.map_eq_some_iff] at same
    obtain ⟨-, -, same⟩ := same
    rw [photoKey_injective same] at fresh
    exact fresh known

theorem settle_committed (drawn : world.Drawn uuids) (fresh : call.env.uuid 1 ∉ uuids)
    (changed : SlotChanged sdk call.env world.db.tables t personId data row)
    (others : ∀ uuid ∈ uuids, storage.Same world.files written.2 (photoKey uuid))
    (put : ∀ bytes, data = some bytes →
      storage.get written.2 (photoKey (call.env.uuid 1)) = .ok bytes)
    {other : PersonFaceRow} {name : String} (stored : other ∈ t.people.personFaces.rows)
    (named : other.storageKey = some name) :
    let files := (call.deleteKey storage written.2 (oldKey world personId)).2
    (other ∈ world.rows ∧ storage.Same world.files files name) ∨
      (name = photoKey (call.env.uuid 1) ∧ other.Readable storage sdk files name) := by
  intro files
  have found : t.people.personFaces.get? other.personId = some other :=
    (Table.mem_rows_iff _ other).mp stored
  by_cases same : other.personId = personId
  · right
    have self : t.people.personFaces.get? row.personId = some row := changed.stores.self
    rw [changed.person, ← same, found] at self
    obtain rfl := Option.some.inj self
    have drawnNew : other.storageKey = data.map (fun _ => photoKey (call.env.uuid 1)) :=
      changed.storageKey
    rw [drawnNew, Option.map_eq_some_iff] at named
    obtain ⟨bytes, given, rfl⟩ := named
    have kept : storage.Same written.2 files (photoKey (call.env.uuid 1)) :=
      call.deleteKey_same (oldKey_drawn drawn) (oldKey_fresh drawn fresh personId)
    refine ⟨rfl, bytes, ?_, ?_⟩
    · rw [kept bytes]
      exact put bytes given
    · rw [changed.sha256, given]
      rfl
  · left
    have before : other ∈ world.rows := by
      apply Table.mem_of_get?
      have apart : other.personId ≠ row.personId := by
        rw [changed.person]
        exact same
      rw [← found]
      exact (changed.stores.other apart).symm
    have apart := oldKey_apart before named same
    obtain ⟨uuid, known, rfl⟩ := drawn other before name named
    exact ⟨before, (others uuid known).trans (call.deleteKey_same (oldKey_drawn drawn) apart)⟩

theorem settle_moves (drawn : world.Drawn uuids) (fresh : call.env.uuid 1 ∉ uuids)
    (nothing : call.lostKeys storage sdk world = [])
    (changed : SlotChanged sdk call.env world.db.tables t personId data row)
    (others : ∀ uuid ∈ uuids, storage.Same world.files written.2 (photoKey uuid))
    (put : written.1 = true → ∀ bytes, data = some bytes →
      storage.get written.2 (photoKey (call.env.uuid 1)) = .ok bytes)
    {other : PersonFaceRow} {name : String}
    (member : other ∈ (call.settle storage world personId row.storageKey t written).rows)
    (named : other.storageKey = some name) :
    Moves storage sdk call world (call.settle storage world personId row.storageKey t written)
      other name := by
  have unlost : name ∉ call.lostKeys storage sdk world := by
    rw [nothing]
    exact List.not_mem_nil
  unfold settle at member ⊢
  cases committed : (if written.1 then call.commit t else .none) with
  | none =>
      simp only [committed] at member ⊢
      exact .kept member unlost (settle_failed drawn fresh changed others member named)
  | some db =>
      simp only [committed] at member ⊢
      split at committed
      · next wrote =>
          have stored : other ∈ t.people.personFaces.rows := by
            rw [← commit_some committed]
            exact member
          rcases settle_committed drawn fresh changed others (put wrote) stored named with
            ⟨before, same⟩ | ⟨new, readable⟩
          · exact .kept before unlost same
          · exact .stored new readable
      · cases committed

/-- The rows after a change are those before it or those of its command. -/
theorem settle_db {α : Type} {program : Session α} {value : α}
    (ran : program.run world.db.tables = .ok (value, t)) (newKey : Option String) :
    (call.settle storage world personId newKey t written).db = world.db ∨
      (call.settle storage world personId newKey t written).db =
        world.db.after (effect program) := by
  unfold settle
  cases committed : (if written.1 then call.commit t else .none) with
  | none => exact Or.inl rfl
  | some db =>
      split at committed
      · exact Or.inr (commit_after ran committed)
      · cases committed

end Settle

section Archive

variable {ownerId personId : String} {expectedRevision : Int}

theorem archived_apart {env : Env} {done : Unit} {t : Tables}
    (ran : (EidolonData.archivePerson sdk env ownerId personId expectedRevision).run
      world.db.tables = .ok (done, t))
    {other : PersonFaceRow} (stored : other ∈ t.people.personFaces.rows) :
    other ∈ world.rows ∧ other.personId ≠ personId := by
  have erased := archivePerson_erases sdk env ownerId personId expectedRevision _ _ ran
  have photos : t.people.personFaces =
      world.db.tables.people.personFaces.retain (fun row => row.personId ≠ personId) :=
    congrArg Voices.faces erased
  rw [photos, Table.mem_retain] at stored
  exact ⟨stored.1, of_decide_eq_true stored.2⟩

/-- An archive removes the object first: it is lost if the rows stay. -/
theorem archivePerson_moves (drawn : world.Drawn uuids)
    (archives : call.command = .archivePerson ownerId personId expectedRevision)
    {other : PersonFaceRow} {name : String}
    (member : other ∈ (call.archivePerson storage sdk world ownerId personId
      expectedRevision).rows)
    (named : other.storageKey = some name) :
    Moves storage sdk call world
      (call.archivePerson storage sdk world ownerId personId expectedRevision) other name := by
  unfold archivePerson at member ⊢
  cases ran : (EidolonData.archivePerson sdk call.env ownerId personId expectedRevision).run
      world.db.tables with
  | error error =>
      simp only [ran] at member ⊢
      refine .kept member ?_ (.refl world.files name)
      simp only [lostKeys, archives, ran, List.not_mem_nil, not_false_eq_true]
  | ok finished =>
      obtain ⟨done, t⟩ := finished
      simp only [ran] at member ⊢
      have lost : call.lostKeys storage sdk world =
          if (call.deleteKey storage world.files (oldKey world personId)).1 ∧
              call.commit t = .none then (oldKey world personId).toList else [] := by
        simp only [lostKeys, archives, ran]
      cases committed : call.commit t with
      | some db =>
          have unlost : name ∉ call.lostKeys storage sdk world := by
            rw [lost, committed]
            simp
          cases deleted : (call.deleteKey storage world.files (oldKey world personId)).1 with
          | true =>
              simp only [deleted, committed, if_true] at member ⊢
              have stored : other ∈ t.people.personFaces.rows := by
                rw [← commit_some committed]
                exact member
              obtain ⟨before, apart⟩ := archived_apart ran stored
              obtain ⟨uuid, known, rfl⟩ := drawn other before name named
              exact .kept before unlost (call.deleteKey_same (oldKey_drawn drawn)
                (oldKey_apart before named apart))
          | false =>
              simp only [deleted, Bool.false_eq_true, if_false] at member ⊢
              rw [call.deleteKey_failed deleted]
              exact .kept member unlost (.refl world.files name)
      | none =>
          cases deleted : (call.deleteKey storage world.files (oldKey world personId)).1 with
          | true =>
              simp only [deleted, committed, if_true] at member ⊢
              rw [deleted, committed, if_pos ⟨rfl, rfl⟩] at lost
              obtain ⟨uuid, known, rfl⟩ := drawn other member name named
              by_cases old : oldKey world personId = some (photoKey uuid)
              · refine .lost member (by rw [lost, old]; exact List.mem_singleton_self _) ?_
                rintro ⟨data, read, -⟩
                rw [old] at deleted read
                exact call.deleteKey_gone deleted data read
              · refine .kept member ?_ (call.deleteKey_same (oldKey_drawn drawn) old)
                rw [lost, Option.mem_toList]
                exact old
          | false =>
              simp only [deleted, Bool.false_eq_true, if_false] at member ⊢
              rw [call.deleteKey_failed deleted]
              refine .kept member ?_ (.refl world.files name)
              rw [lost, deleted]
              simp

theorem archivePerson_db :
    (call.archivePerson storage sdk world ownerId personId expectedRevision).db = world.db ∨
      (call.archivePerson storage sdk world ownerId personId expectedRevision).db =
        world.db.after
          (effect (EidolonData.archivePerson sdk call.env ownerId personId expectedRevision)) := by
  unfold archivePerson
  cases ran : (EidolonData.archivePerson sdk call.env ownerId personId expectedRevision).run
      world.db.tables with
  | error error => exact Or.inl rfl
  | ok finished =>
      obtain ⟨done, t⟩ := finished
      cases committed : (if (call.deleteKey storage world.files (oldKey world personId)).1 then
          call.commit t else .none) with
      | none =>
          simp only [committed]
          exact Or.inl trivial
      | some db =>
          simp only [committed]
          split at committed
          · exact Or.inr (commit_after ran committed)
          · cases committed

end Archive

section Change

variable {ownerId personId imageBase64 : String} {expectedRevision : Int}

theorem replaceFace_moves (drawn : world.Drawn uuids) (fresh : call.env.uuid 1 ∉ uuids)
    (nothing : call.lostKeys storage sdk world = [])
    {other : PersonFaceRow} {name : String}
    (member : other ∈ (call.replaceFace storage sdk world ownerId personId expectedRevision
      imageBase64).rows)
    (named : other.storageKey = some name) :
    Moves storage sdk call world
      (call.replaceFace storage sdk world ownerId personId expectedRevision imageBase64) other
      name := by
  unfold replaceFace at member ⊢
  split at member
  · next row t data ran normalized =>
      obtain ⟨bytes, same, changed⟩ := replaceFace_changes sdk call.env ownerId personId
        expectedRevision imageBase64 _ _ ran
      rw [normalized] at same
      obtain rfl := Except.ok.inj same
      have key : row.storageKey.getD "" = photoKey (call.env.uuid 1) := by
        rw [changed.storageKey]
        rfl
      simp only [key] at member ⊢
      refine settle_moves drawn fresh nothing changed ?_ ?_ member named
      · intro uuid known
        apply call.put_same data
        rintro rfl
        exact fresh known
      · rintro wrote bytes ⟨⟩
        exact call.put_stored wrote
  · refine .kept member ?_ (.refl world.files name)
    rw [nothing]
    exact List.not_mem_nil

theorem deleteFace_moves (drawn : world.Drawn uuids) (fresh : call.env.uuid 1 ∉ uuids)
    (nothing : call.lostKeys storage sdk world = [])
    {other : PersonFaceRow} {name : String}
    (member : other ∈ (call.deleteFace storage sdk world ownerId personId expectedRevision).rows)
    (named : other.storageKey = some name) :
    Moves storage sdk call world
      (call.deleteFace storage sdk world ownerId personId expectedRevision) other name := by
  unfold deleteFace at member ⊢
  cases ran : (EidolonData.deleteFace sdk call.env ownerId personId expectedRevision).run
      world.db.tables with
  | error error =>
      simp only [ran] at member ⊢
      refine .kept member ?_ (.refl world.files name)
      rw [nothing]
      exact List.not_mem_nil
  | ok finished =>
      obtain ⟨row, t⟩ := finished
      have changed := changeFace_changes sdk call.env ownerId personId expectedRevision none _ _ ran
      have bare : row.storageKey = none := changed.storageKey
      simp only [ran, ← bare] at member ⊢
      refine settle_moves drawn fresh nothing changed (fun uuid _ => .refl _ _) ?_ member named
      rintro _ bytes ⟨⟩

end Change

theorem others_move (sound : StoreSound sdk world.db.tables)
    (unchanging : call.command.changesPhoto = false)
    (nothing : call.lostKeys storage sdk world = [])
    {other : PersonFaceRow} {name : String}
    (member : other ∈ (PhotoWorld.rows { world with
      db := if call.faults.commit then world.db
        else Call.step sdk world.db ⟨call.env, call.command⟩ })) :
    Moves storage sdk call world { world with
      db := if call.faults.commit then world.db
        else Call.step sdk world.db ⟨call.env, call.command⟩ } other name := by
  refine .kept ?_ ?_ (.refl world.files name)
  · unfold PhotoWorld.rows at member
    split at member
    · exact member
    · exact call.command.photos_kept call.env world.db sound unchanging other member
  · rw [nothing]
    exact List.not_mem_nil

theorem step_moves (sound : StoreSound sdk world.db.tables) (drawn : world.Drawn uuids)
    (fresh : call.env.uuid 1 ∉ uuids) {other : PersonFaceRow} {name : String}
    (member : other ∈ (step storage sdk world call).rows)
    (named : other.storageKey = some name) :
    Moves storage sdk call world (step storage sdk world call) other name := by
  obtain ⟨env, faults, command⟩ := call
  cases command with
  | replaceFace ownerId personId expectedRevision imageBase64 =>
      exact replaceFace_moves drawn fresh rfl member named
  | deleteFace ownerId personId expectedRevision =>
      exact deleteFace_moves drawn fresh rfl member named
  | archivePerson ownerId personId expectedRevision =>
      exact archivePerson_moves drawn rfl member named
  | _ => exact others_move sound rfl rfl member

theorem others_db (world : PhotoWorld) (call : PhotoCall) :
    (if call.faults.commit then world.db
      else Call.step sdk world.db ⟨call.env, call.command⟩) = world.db ∨
      (if call.faults.commit then world.db
        else Call.step sdk world.db ⟨call.env, call.command⟩) =
        Call.step sdk world.db ⟨call.env, call.command⟩ := by
  cases call.faults.commit with
  | true => exact Or.inl rfl
  | false => exact Or.inr rfl

/-- The rows are those before a request or those its command leaves. -/
theorem step_db (storage : LocalObjectStorage) (sdk : Sdk) (world : PhotoWorld)
    (call : PhotoCall) :
    (step storage sdk world call).db = world.db ∨
      (step storage sdk world call).db = Call.step sdk world.db ⟨call.env, call.command⟩ := by
  obtain ⟨env, faults, command⟩ := call
  cases command with
  | replaceFace ownerId personId expectedRevision imageBase64 =>
      simp only [step, replaceFace]
      split
      · next row t data ran normalized => exact settle_db ran _
      · exact Or.inl rfl
  | deleteFace ownerId personId expectedRevision =>
      simp only [step, deleteFace]
      split
      · next row t ran => exact settle_db ran _
      · exact Or.inl rfl
  | archivePerson ownerId personId expectedRevision => exact archivePerson_db
  | _ => exact others_db world _

end PhotoCall

/-- Which photos are read, after a run that has drawn these identifiers and
lost these objects. -/
structure PhotosSound (storage : LocalObjectStorage) (sdk : Sdk) (uuids : List Uuid)
    (lost : List String) (world : PhotoWorld) : Prop where
  store : StoreSound sdk world.db.tables
  drawn : world.Drawn uuids
  lostDrawn : ∀ name ∈ lost, ∃ uuid ∈ uuids, name = photoKey uuid
  readable_iff : ∀ row ∈ world.rows, ∀ name, row.storageKey = some name →
    (row.Readable storage sdk world.files name ↔ name ∉ lost)

theorem photosSound_empty : PhotosSound storage sdk [] [] .empty :=
  { store := storeSound_empty sdk
    drawn := fun _ member => absurd member List.not_mem_nil
    lostDrawn := fun _ member => absurd member List.not_mem_nil
    readable_iff := fun _ member => absurd member List.not_mem_nil }

namespace PhotosSound

variable {uuids : List Uuid} {lost : List String} {world : PhotoWorld} {call : PhotoCall}

theorem lostKeys_drawn (sound : PhotosSound storage sdk uuids lost world) :
    ∀ name ∈ call.lostKeys storage sdk world, ∃ uuid ∈ uuids, name = photoKey uuid := by
  intro name member
  unfold PhotoCall.lostKeys at member
  split at member
  · split at member
    · split at member
      · obtain ⟨row, stored, -, key⟩ := PhotoCall.oldKey_stored (Option.mem_toList.mp member)
        exact sound.drawn row stored name key
      · cases member
    · cases member
  · cases member

theorem step (sound : PhotosSound storage sdk uuids lost world)
    (fresh : call.env.uuid 1 ∉ uuids) :
    PhotosSound storage sdk (call.env.uuid 1 :: uuids) (lost ++ call.lostKeys storage sdk world)
      (PhotoCall.step storage sdk world call) := by
  have other : ∀ names : List String, (∀ name ∈ names, ∃ uuid ∈ uuids, name = photoKey uuid) →
      photoKey (call.env.uuid 1) ∉ names := by
    intro names drawn member
    obtain ⟨uuid, known, same⟩ := drawn _ member
    rw [photoKey_injective same] at fresh
    exact fresh known
  constructor
  · rcases PhotoCall.step_db storage sdk world call with same | stepped
    · rw [same]
      exact sound.store
    · rw [stepped]
      exact Call.step_storeSound _ world.db sound.store
  · intro row member name named
    cases PhotoCall.step_moves sound.store sound.drawn fresh member named with
    | kept before _ _ | lost before _ _ =>
        obtain ⟨uuid, known, drawnAs⟩ := sound.drawn row before name named
        exact ⟨uuid, List.mem_cons_of_mem _ known, drawnAs⟩
    | stored new _ => exact ⟨_, List.mem_cons_self, new⟩
  · intro name member
    have drawn : ∃ uuid ∈ uuids, name = photoKey uuid := by
      rcases List.mem_append.mp member with earlier | now
      · exact sound.lostDrawn name earlier
      · exact sound.lostKeys_drawn name now
    obtain ⟨uuid, known, drawnAs⟩ := drawn
    exact ⟨uuid, List.mem_cons_of_mem _ known, drawnAs⟩
  · intro row member name named
    rw [List.mem_append, not_or]
    cases PhotoCall.step_moves sound.store sound.drawn fresh member named with
    | kept before unlost same =>
        rw [same.readable_iff row, sound.readable_iff row before name named]
        exact (and_iff_left unlost).symm
    | lost before lost unreadable =>
        exact ⟨fun readable => absurd readable unreadable, fun found => absurd lost found.2⟩
    | stored new readable =>
        rw [new] at readable ⊢
        exact ⟨fun _ => ⟨other lost sound.lostDrawn, other _ sound.lostKeys_drawn⟩,
          fun _ => readable⟩

theorem run (calls : List PhotoCall) (sound : PhotosSound storage sdk uuids lost world)
    (fresh : (calls.map (fun call => call.env.uuid 1)).Nodup)
    (apart : ∀ call ∈ calls, call.env.uuid 1 ∉ uuids) :
    ∃ drawn, PhotosSound storage sdk drawn (lost ++ photosLost storage sdk calls world)
      (replayPhotos storage sdk calls world) := by
  induction calls generalizing uuids lost world with
  | nil =>
      refine ⟨uuids, ?_⟩
      show PhotosSound storage sdk uuids (lost ++ []) world
      rw [List.append_nil]
      exact sound
  | cons call calls induction =>
      rw [List.map_cons, List.nodup_cons] at fresh
      have first := sound.step (apart call List.mem_cons_self)
      have later : ∀ next ∈ calls, next.env.uuid 1 ∉ call.env.uuid 1 :: uuids := by
        intro next member
        rw [List.mem_cons, not_or]
        refine ⟨?_, apart next (List.mem_cons_of_mem call member)⟩
        intro same
        exact fresh.1 (List.mem_map.mpr ⟨next, member, same⟩)
      obtain ⟨drawn, final⟩ := induction first fresh.2 later
      rw [List.append_assoc] at final
      exact ⟨drawn, final⟩

end PhotosSound

end EidolonData
