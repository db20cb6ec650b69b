import EidolonData.People.File

/-!
# The life of a Person

What a command that commits can do to the file of one Person: create it,
rewrite its row and its realm, begin and complete its deletion.  Every
statement about a Person's memory, its place in the candidate pool and its
revision is proved from these moves.
-/

namespace EidolonData

open Relational

def PersonRow.revised (person : PersonRow) : PersonRow :=
  { person with revision := person.revision + 1 }

/-- The row `Persons.update` leaves. -/
def PersonRow.updated (person : PersonRow) (request : PersonUpdateRequest) : PersonRow :=
  { person.revised with
    isNamed := request.isNamed.getD person.isNamed
    displayName := request.displayName
    status := request.status
    profileJson := request.profile }

/-- The row `Persons.archive` leaves. -/
def PersonRow.archived (person : PersonRow) (now : Timestamp) : PersonRow :=
  { person.revised with
    archivedAt := some now
    deleted := true
    status := .inactive }

/-- The row `Persons.restore` leaves. -/
def PersonRow.restored (person : PersonRow) : PersonRow :=
  { person.revised with
    archivedAt := none
    deleted := false
    status := .inactive }

/-- The row of a candidate that has left the pool. -/
def PersonRow.retained (person : PersonRow) : PersonRow :=
  { person.revised with recognitionState := .retained }

def deletionReceipt (person : PersonRow) (realm : MemoryRealmRow) : PersonDeletionRow :=
  { personId := person.personId
    ownerId := person.ownerId
    realmId := realm.realmId
    revision := person.revision
    state := "pending" }

/-- The realm marked for erasure. -/
def MemoryRealmRow.doomed (realm : MemoryRealmRow) : MemoryRealmRow :=
  { realm with
    status := .deleting
    policyJson := realm.policyJson.set "purge" (.obj [("state", .str "pending")]) }

structure PersonInserted (sdk : Sdk) (env : Env) (ownerId : String) (request : PersonCreateRequest)
    (person : PersonRow) (realm : MemoryRealmRow) : Prop where
  personId : person.personId = request.personId
  ownerId : person.ownerId = ownerId
  status : person.status = .active
  deleted : person.deleted = false
  maturity : person.maturity = request.maturity
  recognition : person.recognitionState = .active
  activity : person.candidateActivityAt =
    if request.maturity = .candidate then some env.now else none
  revision : person.revision = 1
  realm : ∃ owner defaults, storedMemoryDefaults sdk owner = .ok defaults ∧
    realm = boundRealm env person
      (if person.maturity = .candidate then
        [("provisional_memory", .obj defaults.candidate),
         ("defaults_owner_revision", .int owner.revision)]
      else [])

structure PersonFile.OwnedBy (file : PersonFile) (ownerId : String) : Prop where
  person : ∀ person, file.person = some person → person.ownerId = ownerId
  receipt : ∀ receipt, file.receipt = some receipt → receipt.ownerId = ownerId

inductive PersonMoved (sdk : Sdk) (env : Env) (personId : String) :
    Command → PersonFile → PersonFile → Prop where
  | kept (command : Command) (file : PersonFile) : PersonMoved sdk env personId command file file
  | created {ttl : Timestamp} {ownerId : String} {request : PersonCreateRequest}
      {person : PersonRow} {realm : MemoryRealmRow}
      (inserted : PersonInserted sdk env ownerId request person realm)
      (named : request.personId = personId) :
      PersonMoved sdk env personId (.createPerson ttl ownerId request) .absent
        (.bound person realm none)
  | discovered {policies : VoicePolicies} {ownerId : String} {request : CandidateDiscovery}
      {draft : PersonCreateRequest} {person : PersonRow} {realm : MemoryRealmRow}
      (inserted : PersonInserted sdk env ownerId draft person realm)
      (named : draft.personId = personId) (candidate : draft.maturity = .candidate) :
      PersonMoved sdk env personId (.runVoiceprint policies ownerId (.discoverCandidate request))
        .absent (.bound person realm none)
  | updated {ttl : Timestamp} {ownerId : String} {request : PersonUpdateRequest}
      {person : PersonRow} {realm : MemoryRealmRow} {receipt : Option PersonDeletionRow}
      (owned : person.ownerId = ownerId) (alive : person.deleted = false)
      (current : person.revision = request.expectedRevision) :
      PersonMoved sdk env personId (.updatePerson ttl ownerId personId request)
        (.bound person realm receipt)
        (.bound (person.updated request)
          (if request.status = .inactive then realm.suspended sdk else realm) receipt)
  | retired {ownerId : String} {expectedRevision : Int} {person : PersonRow}
      {realm : MemoryRealmRow} {receipt : Option PersonDeletionRow}
      (owned : person.ownerId = ownerId) (alive : person.deleted = false)
      (candidate : person.maturity = .candidate) (current : person.revision = expectedRevision) :
      PersonMoved sdk env personId (.retireCandidate ownerId personId expectedRevision)
        (.bound person realm receipt)
        (.bound person.retained realm receipt)
  | expired {policies : VoicePolicies} {ownerId : String} {person : PersonRow}
      {realm : MemoryRealmRow} {receipt : Option PersonDeletionRow}
      (owned : person.ownerId = ownerId)
      (past : person.isExpiredCandidate env.now policies.candidatePoolTtl = true) :
      PersonMoved sdk env personId (.runVoiceprint policies ownerId .retainExpiredCandidates)
        (.bound person realm receipt)
        (.bound person.retained realm receipt)
  | archived {ownerId : String} {expectedRevision : Int} {person : PersonRow}
      {realm : MemoryRealmRow} {receipt : Option PersonDeletionRow}
      (owned : person.ownerId = ownerId) (alive : person.deleted = false)
      (current : person.revision = expectedRevision) :
      PersonMoved sdk env personId (.archivePerson ownerId personId expectedRevision)
        (.bound person realm receipt)
        (.bound (person.archived env.now) (realm.suspended sdk) receipt)
  | restored {ownerId : String} {expectedRevision : Int} {person : PersonRow}
      {realm : MemoryRealmRow} {receipt : Option PersonDeletionRow}
      (owned : person.ownerId = ownerId) (archived : person.deleted = true)
      (current : person.revision = expectedRevision) (kept : realm.status ≠ .deleting) :
      PersonMoved sdk env personId (.restorePerson ownerId personId expectedRevision)
        (.bound person realm receipt)
        (.bound person.restored (realm.suspended sdk) receipt)
  | deletionRequested {ownerId : String} {expectedRevision : Int} {person : PersonRow}
      {realm : MemoryRealmRow} (owned : person.ownerId = ownerId)
      (archived : person.deleted = true) (current : person.revision = expectedRevision) :
      PersonMoved sdk env personId (.permanentlyDelete ownerId personId expectedRevision false)
        (.bound person realm none)
        (.bound person.revised realm.doomed (some (deletionReceipt person realm)))
  | deletionCompleted {ownerId : String} {expectedRevision : Int} {person : PersonRow}
      {realm : MemoryRealmRow} {receipt : PersonDeletionRow} (owned : person.ownerId = ownerId)
      (current : expectedRevision = receipt.revision) :
      PersonMoved sdk env personId (.permanentlyDelete ownerId personId expectedRevision true)
        (.bound person realm (some receipt)) ⟨none, [], some { receipt with state := "completed" }⟩
  | policyWritten {ownerId : String} {expectedRevision : Option Int} {document : Json}
      {policy : ProvisionalMemoryPolicy} {person : PersonRow} {realm : MemoryRealmRow}
      {receipt : Option PersonDeletionRow} (owned : person.ownerId = ownerId)
      (alive : person.deleted = false) (current : expectedRevision = some person.revision)
      (valid : sdk.validateProvisionalMemoryPolicy document = .ok policy)
      (allowed : person.status = .active ∨
        (policy.saveAllowed = false ∧ policy.sessionRecallAllowed = false)) :
      PersonMoved sdk env personId
        (.writeProvisionalPolicy ownerId personId expectedRevision document)
        (.bound person realm receipt)
        (.bound person.revised
          { realm with
            policyJson := realm.policyJson.set "provisional_memory" (.obj policy.document) }
              receipt)
  | memorySuspended {ownerId : String} {expectedRevision : Int} {person : PersonRow}
      {realm : MemoryRealmRow} {receipt : Option PersonDeletionRow}
      (owned : person.ownerId = ownerId) (alive : person.deleted = false)
      (current : person.revision = expectedRevision) :
      PersonMoved sdk env personId (.suspendMemory ownerId personId expectedRevision)
        (.bound person realm receipt) (.bound person.revised (realm.suspended sdk) receipt)
  | memoryRestored {ownerId : String} {expectedRevision : Int} {person : PersonRow}
      {realm : MemoryRealmRow} {receipt : Option PersonDeletionRow}
      (owned : person.ownerId = ownerId) (alive : person.deleted = false)
      (established : person.maturity = .established) (active : person.status = .active)
      (current : person.revision = expectedRevision) :
      PersonMoved sdk env personId (.restoreMemory ownerId personId expectedRevision)
        (.bound person realm receipt)
        (.bound person.revised { realm with status := .active } receipt)
  | evidenceRecorded {policies : VoicePolicies} {ownerId : String} {request : CandidateEvidence}
      {person : PersonRow} {realm : MemoryRealmRow} {receipt : Option PersonDeletionRow}
      (activity : Timestamp) (owned : person.ownerId = ownerId)
      (recognizable : person.isPooled env.now policies.candidatePoolTtl = true) :
      PersonMoved sdk env personId
        (.runVoiceprint policies ownerId (.recordCandidateEvidence request))
        (.bound person realm receipt)
        (.bound { person with candidateActivityAt := some activity } realm receipt)
  | promoted {policies : VoicePolicies} {ownerId : String} {request : CandidateEvidence}
      {person : PersonRow} {realm realm' : MemoryRealmRow} {receipt : Option PersonDeletionRow}
      (activity : Timestamp) (owned : person.ownerId = ownerId)
      (recognizable : person.isPooled env.now policies.candidatePoolTtl = true)
      (prepared : realm' = realm ∨
        (realm.isPreparable = true ∧ realm' = { realm with status := .active })) :
      PersonMoved sdk env personId
        (.runVoiceprint policies ownerId (.recordCandidateEvidence request))
        (.bound person realm receipt)
        (.bound
          { person.revised with
            maturity := .established
            candidateActivityAt := some activity } realm' receipt)
  | ownerArchived {ownerId : String} {person : PersonRow} {realm : MemoryRealmRow}
      {receipt : Option PersonDeletionRow} (owned : person.ownerId = ownerId) :
      PersonMoved sdk env personId (.archiveOwner ownerId) (.bound person realm receipt)
        (.bound person
          (if realm.status = .active then { realm with status := .inactive } else realm) receipt)
  | ownerDeleted {ownerId : String} {file : PersonFile} (owned : file.OwnedBy ownerId) :
      PersonMoved sdk env personId (.deleteOwner ownerId) file .absent

section Sound

variable {sdk : Sdk} {env : Env} {personId : String} {command : Command} {file file' : PersonFile}

namespace PersonFile

theorem sound_bound_iff {person : PersonRow} {realm : MemoryRealmRow}
    {receipt : Option PersonDeletionRow} :
    (PersonFile.bound person realm receipt).Sound ↔ realm.ownerId = person.ownerId ∧
      ∀ stored, receipt = some stored → stored.ownerId = person.ownerId ∧
        stored.realmId = realm.realmId ∧ stored.state = "pending" := by
  constructor
  · intro sound
    obtain ⟨realm', same, owned, pending⟩ := sound.of_person rfl
    cases same
    exact ⟨owned, pending⟩
  · rintro ⟨owned, pending⟩
    exact .bound person realm receipt owned pending

theorem sound_absent : PersonFile.absent.Sound := by
  refine .absent none ?_
  rintro _ ⟨⟩

end PersonFile

theorem PersonInserted.sound {ownerId : String} {request : PersonCreateRequest} {person : PersonRow}
    {realm : MemoryRealmRow} (inserted : PersonInserted sdk env ownerId request person realm) :
    (PersonFile.bound person realm none).Sound := by
  obtain ⟨owner, defaults, -, rfl⟩ := inserted.realm
  refine .bound _ _ _ rfl ?_
  rintro _ ⟨⟩

theorem PersonMoved.sound (moved : PersonMoved sdk env personId command file file')
    (sound : file.Sound) : file'.Sound := by
  cases moved with
  | kept => exact sound
  | created inserted => exact inserted.sound
  | discovered inserted => exact inserted.sound
  | @updated ttl ownerId request =>
      rw [PersonFile.sound_bound_iff] at sound ⊢
      split
      · exact sound
      · exact sound
  | retired | expired | archived | restored | policyWritten | memorySuspended | memoryRestored
  | evidenceRecorded =>
      rw [PersonFile.sound_bound_iff] at sound ⊢
      exact sound
  | promoted activity owned recognizable prepared =>
      rw [PersonFile.sound_bound_iff] at sound ⊢
      rcases prepared with rfl | ⟨-, rfl⟩
      · exact sound
      · exact sound
  | deletionRequested =>
      rw [PersonFile.sound_bound_iff] at sound ⊢
      refine ⟨sound.1, ?_⟩
      rintro _ ⟨⟩
      exact ⟨rfl, rfl, rfl⟩
  | deletionCompleted =>
      refine .absent _ ?_
      rintro _ ⟨⟩
      rfl
  | ownerArchived =>
      rw [PersonFile.sound_bound_iff] at sound ⊢
      split
      · exact sound
      · exact sound
  | ownerDeleted => exact PersonFile.sound_absent

end Sound

end EidolonData
