import EidolonData.Services.Session

/-!
# Persons

The Data authority for the real people of an Owner: their rows, the private
realm each of them is bound to, and the one-way protocol of their permanent
deletion.  Every command requires an active Owner.
-/

namespace EidolonData

open Relational

structure PersonCreateRequest where
  personId : String
  displayName : String
  maturity : Maturity := .established
  isNamed : Bool := true
  profile : JsonDict := []
  deriving DecidableEq, Repr

structure PersonUpdateRequest where
  expectedRevision : Int
  displayName : String
  status : PersonStatus
  isNamed : Option Bool := none
  profile : JsonDict := []
  deriving DecidableEq, Repr

/-- What a Person command answers about the memory. -/
structure PersonMemoryView where
  personRevision : Int
  personStatus : PersonStatus
  realmId : String
  status : RealmStatus
  deriving DecidableEq, Repr

section Rows

def getPerson (personId : String) : Session (Option PersonRow) :=
  Tx.read (fun t => t.people.persons.get? personId)

def getPersonDeletion (personId : String) : Session (Option PersonDeletionRow) :=
  Tx.read (fun t => t.people.personDeletions.get? personId)

/-- `SELECT` of the realm of a Person within its Owner. -/
def personRealm (ownerId personId : String) : Session (Option MemoryRealmRow) :=
  Tx.read (fun t => (t.workspace.memoryRealms.select (fun row =>
    row.ownerId = ownerId && row.personId = some personId)).head?)

def insertPerson (row : PersonRow) : Session Unit :=
  Tx.attempt (fun t =>
    if t.people.persons.has row.personId then .error .integrityError
    else .ok (t.mapPeople (fun p => { p with persons := p.persons.insert row })))

/-- The flush of a Person row the session changed. -/
def writePerson (person : PersonRow) : Session Unit :=
  Tx.modify (fun t => t.mapPeople (fun p =>
    { p with
      persons := p.persons.modify person.personId (fun row =>
        { row with
          displayName := person.displayName
          status := person.status
          deleted := person.deleted
          recognitionState := person.recognitionState
          isNamed := person.isNamed
          archivedAt := person.archivedAt
          revision := person.revision
          profileJson := person.profileJson }) }))

/-- The flush of a realm's status and policy. -/
def writeRealm (realm : MemoryRealmRow) : Session Unit :=
  updateRealmRow realm.realmId (fun row =>
    { row with
      status := realm.status
      policyJson := realm.policyJson })

end Rows

/-- `_owner`. -/
def requireActiveOwner (ownerId : String) : Session OwnerRow := do
  let stored ← getOwner ownerId
  Tx.require (stored.filter (fun owner => owner.status = .active))
    (.lookupError "active owner not found")

/-- `_person`. -/
def requirePerson (ownerId personId : String) (includeDeleted : Bool := false) :
    Session PersonRow := do
  let _ ← requireActiveOwner ownerId
  let stored ← getPerson personId
  Tx.require
    (stored.filter (fun row => row.ownerId = ownerId && (!row.deleted || includeDeleted)))
    (.lookupError "person not found")

/-- `_revision`. -/
def checkPersonRevision (person : PersonRow) (revision : Int) : Session Unit :=
  Tx.refuseIf (person.revision ≠ revision) (.personConflict "person revision changed")

/-- `_audit`. -/
def auditPerson (env : Env) (uuid : Nat) (person : PersonRow) (action : String) : Session Unit :=
  addFact env (governanceFact (env.uuid uuid) env.now person.ownerId "person" person.personId
    action [("revision", .int person.revision)])

/-- A candidate the pool counts. -/
def PersonRow.isPooled (person : PersonRow) (now ttl : Timestamp) : Bool :=
  person.maturity = .candidate && person.status = .active && !person.deleted &&
    person.recognitionState = .active &&
      person.candidateActivityAt.any (fun activity => now - ttl < activity)

/-- `_candidate_capacity`. -/
def candidateCapacity (sdk : Sdk) (env : Env) (ttl : Timestamp) (ownerId : String) :
    Session Unit := do
  let pooled ← Tx.read (fun t => t.people.persons.select (fun row =>
    row.ownerId = ownerId && row.isPooled env.now ttl))
  Tx.refuseIf (sdk.maxCandidatePersons ≤ pooled.length)
    (.personConflict "candidate pool capacity reached")

/-- The realm `_bind_memory` adds, with the extra policy of its caller. -/
def boundRealm (env : Env) (person : PersonRow) (policy : JsonDict) : MemoryRealmRow :=
  { realmId := "r_" ++ (env.uuid 0).hex
    ownerId := person.ownerId
    personId := some person.personId
    engine := "mempalace"
    status := if person.maturity = .established then .active else .inactive
    engineConfigJson := []
    policyJson := JsonDict.merge [("scope", .str "person")] policy
    createdAt := env.now }

/-- `_bind_memory`. -/
def bindMemory (env : Env) (person : PersonRow) (policy : JsonDict) :
    Session MemoryRealmRow := do
  let realm := boundRealm env person policy
  insertRealm realm
  auditPerson env 1 person "person.memory_bound"
  return realm

/-- `(owner.settings_json or {}).get("person_memory_defaults", {})`, validated. -/
def storedMemoryDefaults (sdk : Sdk) (owner : OwnerRow) : Except String PersonMemoryDefaults :=
  sdk.validatePersonMemoryDefaults
    ((owner.settingsJson.get? "person_memory_defaults").getD (.obj []))

/-- `_insert_person`. -/
def insertNewPerson (sdk : Sdk) (env : Env) (owner : OwnerRow) (request : PersonCreateRequest) :
    Session PersonRow := do
  let row : PersonRow :=
    { personId := request.personId
      ownerId := owner.ownerId
      displayName := request.displayName
      maturity := request.maturity
      candidateActivityAt := if request.maturity = .candidate then some env.now else none
      isNamed := request.isNamed
      status := .active
      revision := 1
      profileJson := request.profile }
  insertPerson row
  auditPerson env 2 row "person.created"
  let defaults ← validated (storedMemoryDefaults sdk owner)
  let _ ← bindMemory env row
    (if row.maturity = .candidate then
      [("provisional_memory", .obj defaults.candidate),
       ("defaults_owner_revision", .int owner.revision)]
    else [])
  return row

/-- `Persons.create`. -/
def createPerson (sdk : Sdk) (env : Env) (ttl : Timestamp) (ownerId : String)
    (request : PersonCreateRequest) : Session PersonRow := do
  let owner ← requireActiveOwner ownerId
  let receipt ← getPersonDeletion request.personId
  Tx.refuseIf receipt.isSome (.personConflict "person identity has been permanently deleted")
  let existing ← getPerson request.personId
  match existing with
  | some row => do
      Tx.refuseIf row.deleted (.personConflict "person is deleted; use explicit restore")
      Tx.refuseIf (row.ownerId ≠ ownerId) (.personConflict "person id unavailable")
      Tx.refuseIf (row.maturity ≠ request.maturity ∨ row.isNamed ≠ request.isNamed ∨
          row.displayName ≠ request.displayName ∨ row.profileJson ≠ request.profile)
        (.personConflict "person id already exists with different data")
      return row
  | none => do
      let retained ← Tx.read (fun t => t.workspace.memoryRealms.select (fun row =>
        row.personId = some request.personId))
      Tx.refuseIf (retained ≠ [])
        (.personConflict "person id has retained memory; explicit recovery required")
      if request.maturity = .candidate then
        candidateCapacity sdk env ttl ownerId
        insertNewPerson sdk env owner request
      else
        insertNewPerson sdk env owner request

/-- The realm with its memory switched off, as `_deactivate_memory` and
`suspend_memory` leave it. -/
def MemoryRealmRow.suspended (sdk : Sdk) (realm : MemoryRealmRow) : MemoryRealmRow :=
  { realm with
    status := .inactive
    policyJson := realm.policyJson.merge
      [("provisional_memory", .obj sdk.defaultProvisionalMemoryPolicy.document),
       ("automatic_preparation_blocked", .bool true)] }

/-- `_deactivate_memory`. -/
def deactivateMemory (sdk : Sdk) (ownerId personId : String) : Session Unit := do
  let stored ← personRealm ownerId personId
  match stored with
  | some realm => writeRealm (realm.suspended sdk)
  | none => Tx.done ()

/-- `Persons.update`. -/
def updatePerson (sdk : Sdk) (env : Env) (ttl : Timestamp) (ownerId personId : String)
    (request : PersonUpdateRequest) : Session PersonRow := do
  let row ← requirePerson ownerId personId
  checkPersonRevision row request.expectedRevision
  if row.status ≠ .active ∧ ({ row with status := request.status }).isPooled env.now ttl then
    candidateCapacity sdk env ttl ownerId
  else
    Tx.done ()
  if request.status = .inactive then deactivateMemory sdk ownerId personId else Tx.done ()
  let updated : PersonRow :=
    { row with
      isNamed := request.isNamed.getD row.isNamed
      displayName := request.displayName
      status := request.status
      profileJson := request.profile
      revision := row.revision + 1 }
  writePerson updated
  auditPerson env 0 updated "person.updated"
  return updated

/-- `Persons.retire_candidate`. -/
def retireCandidate (env : Env) (ownerId personId : String) (expectedRevision : Int) :
    Session PersonRow := do
  let row ← requirePerson ownerId personId
  checkPersonRevision row expectedRevision
  Tx.refuseIf (row.maturity ≠ .candidate)
    (.personConflict "only candidates can leave the candidate pool")
  if row.recognitionState ≠ .retained then
    let updated : PersonRow :=
      { row with
        recognitionState := .retained
        revision := row.revision + 1 }
    writePerson updated
    auditPerson env 0 updated "person.candidate_retained"
    return updated
  else
    return row

/-- The voice and photo rows of one Person are removed. -/
def People.eraseBiometrics (p : People) (personId : String) : People :=
  let profiles := p.speakerProfiles.retain (fun row => row.personId ≠ personId)
  { p with
    voiceEnrollments := p.voiceEnrollments.retain (fun row => row.personId ≠ personId)
    speakerProfiles := profiles
    speakerRecordings := p.speakerRecordings.retain (fun row => profiles.has row.profileId)
    personFaces := p.personFaces.retain (fun row => row.personId ≠ personId) }

/-- `Persons.archive`. -/
def archivePerson (sdk : Sdk) (env : Env) (ownerId personId : String) (expectedRevision : Int) :
    Session Unit := do
  let row ← requirePerson ownerId personId
  checkPersonRevision row expectedRevision
  auditPerson env 0 row "person.archived"
  deactivateMemory sdk ownerId personId
  Tx.modify (fun t => t.mapPeople (fun p => p.eraseBiometrics personId))
  writePerson
    { row with
      archivedAt := some env.now
      deleted := true
      status := .inactive
      revision := row.revision + 1 }

/-- `Persons.restore`. -/
def restorePerson (sdk : Sdk) (env : Env) (ownerId personId : String) (expectedRevision : Int) :
    Session PersonRow := do
  let row ← requirePerson ownerId personId true
  checkPersonRevision row expectedRevision
  Tx.refuseIf (row.identityState = "missing")
    (.personConflict
      "identity information is missing; this retained memory cannot be restored as a Person")
  Tx.refuseIf (row.deleted = false) (.personConflict "person is not archived")
  let realms ← Tx.read (fun t => t.workspace.memoryRealms.select (fun realm =>
    realm.personId = some personId))
  Tx.refuseIf (realms.head?.any (fun realm => realm.status = .deleting))
    (.personConflict "memory erasure is pending; retry erasure before restoring")
  let updated : PersonRow :=
    { row with
      archivedAt := none
      deleted := false
      status := .inactive
      revision := row.revision + 1 }
  writePerson updated
  deactivateMemory sdk ownerId personId
  auditPerson env 0 updated "person.restored"
  return updated

/-- The request half of `Persons.permanent_delete`: the receipt is written and
the realm marked for erasure. -/
def requestDeletion (env : Env) (ownerId personId : String) (expectedRevision : Int) :
    Session PersonDeletionRow := do
  let row ← requirePerson ownerId personId true
  checkPersonRevision row expectedRevision
  Tx.refuseIf (row.deleted = false)
    (.personConflict "archive the Person before permanent deletion")
  let stored ← personRealm ownerId personId
  let realm ← Tx.require stored (.lookupError "personal memory realm not found")
  let receipt : PersonDeletionRow :=
    { personId := personId
      ownerId := ownerId
      realmId := realm.realmId
      revision := expectedRevision
      state := "pending" }
  Tx.attempt (fun t =>
    if t.people.personDeletions.has personId then .error .integrityError
    else .ok (t.mapPeople (fun p =>
      { p with personDeletions := p.personDeletions.insert receipt })))
  writeRealm
    { realm with
      status := .deleting
      policyJson := realm.policyJson.set "purge" (.obj [("state", .str "pending")]) }
  writePerson { row with revision := row.revision + 1 }
  auditPerson env 0 { row with revision := row.revision + 1 }
    "person.permanent_deletion_requested"
  return receipt

/-- The completing half of `Persons.permanent_delete`: the realm and the
Person go, the receipt stays. -/
def completeDeletion (env : Env) (ownerId personId : String) (receipt : PersonDeletionRow)
    (row : PersonRow) : Session PersonDeletionRow := do
  auditPerson env 1 row "person.permanently_deleted"
  Tx.modify (fun t => t.mapWorkspace (fun w => w.withoutRealms (fun realm =>
    realm.realmId = receipt.realmId && realm.ownerId = ownerId &&
      realm.personId = some personId)))
  Tx.modify (fun t => t.mapPeople (fun p =>
    People.cascade t.workspace
      { p with persons := p.persons.retain (fun person => person.personId ≠ personId) }))
  Tx.modify (fun t => t.mapPeople (fun p =>
    { p with
      personDeletions := p.personDeletions.modify personId (fun row =>
        { row with state := "completed" }) }))
  return { receipt with state := "completed" }

/-- `Persons.permanent_delete`. -/
def permanentlyDelete (env : Env) (ownerId personId : String) (expectedRevision : Int)
    (complete : Bool) : Session PersonDeletionRow := do
  let _ ← requireActiveOwner ownerId
  let stored ← getPersonDeletion personId
  match stored with
  | some receipt => do
      Tx.refuseIf (receipt.ownerId ≠ ownerId) (.lookupError "person not found")
      let person ← getPerson personId
      Tx.refuseIf (expectedRevision ≠ receipt.revision ∧
          (complete = true ∨ person.all (fun row => expectedRevision ≠ row.revision)))
        (.personConflict "deletion revision does not match")
      if receipt.state = "completed" then
        return receipt
      else if complete then
        let row ← Tx.require person (.validationError "person")
        completeDeletion env ownerId personId receipt row
      else
        return receipt
  | none => do
      Tx.refuseIf complete (.personConflict "deletion has not been requested")
      requestDeletion env ownerId personId expectedRevision

/-- `Persons.memory_defaults` with a policy: the Owner defaults are written
under the Owner's revision. -/
def writeMemoryDefaults (sdk : Sdk) (env : Env) (ownerId : String)
    (expectedRevision : Option Int) (policy : Json) : Session (Int × PersonMemoryDefaults) := do
  let owner ← requireActiveOwner ownerId
  let current ← validated (storedMemoryDefaults sdk owner)
  Tx.refuseIf (expectedRevision ≠ some owner.revision)
    (.personConflict "owner revision changed")
  let policy ← validated (sdk.validatePersonMemoryDefaults policy)
  if current ≠ policy then
    updateOwnerRow ownerId (fun row =>
      { row with
        settingsJson := owner.settingsJson.set "person_memory_defaults" (.obj policy.document)
        revision := owner.revision + 1 })
    addFact env (governanceFact (env.uuid 0) env.now ownerId "owner" ownerId
      "owner.person_memory_defaults_updated"
      [("revision", .int (owner.revision + 1)), ("policy", .obj policy.document)])
    return (owner.revision + 1, policy)
  else
    return (owner.revision, policy)

/-- The stored provisional policy of a realm, validated. -/
def storedProvisionalPolicy (sdk : Sdk) (realm : MemoryRealmRow) :
    Except String ProvisionalMemoryPolicy :=
  sdk.validateProvisionalMemoryPolicy
    ((realm.policyJson.get? "provisional_memory").getD (.obj []))

/-- `Persons.provisional_memory_policy` with a policy. -/
def writeProvisionalPolicy (sdk : Sdk) (env : Env) (ownerId personId : String)
    (expectedRevision : Option Int) (policy : Json) :
    Session (Int × ProvisionalMemoryPolicy) := do
  let person ← requirePerson ownerId personId
  Tx.refuseIf (expectedRevision.any (fun revision => person.revision ≠ revision))
    (.personConflict "person revision changed")
  let stored ← personRealm ownerId personId
  let realm ← Tx.require stored (.lookupError "personal memory realm is not bound")
  let current ← validated (storedProvisionalPolicy sdk realm)
  Tx.refuseIf (expectedRevision = none)
    (.personConflict "policy update requires current person revision")
  let policy ← validated (sdk.validateProvisionalMemoryPolicy policy)
  Tx.refuseIf (person.status ≠ .active ∧
      (policy.saveAllowed = true ∨ policy.sessionRecallAllowed = true))
    (.personConflict "inactive person cannot enable provisional memory")
  if current ≠ policy then
    writeRealm { realm with
      policyJson := realm.policyJson.set "provisional_memory" (.obj policy.document) }
    writePerson { person with revision := person.revision + 1 }
    auditPerson env 0 { person with revision := person.revision + 1 }
      "person.provisional_memory_policy_updated"
    return (person.revision + 1, policy)
  else
    return (person.revision, policy)

def memoryView (person : PersonRow) (realm : MemoryRealmRow) : PersonMemoryView :=
  { personRevision := person.revision
    personStatus := person.status
    realmId := realm.realmId
    status := realm.status }

/-- The checks `memory_realm` and `restore_memory` share. -/
def checkMemoryEligible (person : PersonRow) : Session Unit := do
  Tx.refuseIf (person.maturity ≠ .established)
    (.personConflict "candidate memory requires scoped provisional access")
  Tx.refuseIf (person.status ≠ .active) (.personConflict "person is inactive")

/-- `Persons.memory_realm`. -/
def resolveMemoryRealm (env : Env) (ownerId personId : String) (create : Bool) :
    Session PersonMemoryView := do
  let person ← requirePerson ownerId personId
  checkMemoryEligible person
  let stored ← personRealm ownerId personId
  let realm ← match stored with
    | some realm => Tx.done realm
    | none => do
        Tx.refuseIf (create = false) (.lookupError "personal memory realm is not bound")
        bindMemory env person []
  Tx.refuseIf (realm.status ≠ .active)
    (.personConflict "personal memory realm is inactive; explicit recovery required")
  return memoryView person realm

/-- `Persons.suspend_memory`. -/
def suspendMemory (sdk : Sdk) (env : Env) (ownerId personId : String) (expectedRevision : Int) :
    Session PersonMemoryView := do
  let person ← requirePerson ownerId personId
  checkPersonRevision person expectedRevision
  let stored ← personRealm ownerId personId
  let realm ← Tx.require stored (.lookupError "personal memory realm is not bound")
  let provisional := ((realm.policyJson.get? "provisional_memory").bind Json.asDict?).getD []
  let blocked := (realm.policyJson.get? "automatic_preparation_blocked").any Json.truthy
  if realm.status = .active ∨ provisional.any (fun field => field.2.truthy) = true ∨
      blocked = false then
    let suspended := realm.suspended sdk
    let updated : PersonRow := { person with revision := person.revision + 1 }
    writeRealm suspended
    writePerson updated
    auditPerson env 0 updated "person.memory_suspended"
    return memoryView updated suspended
  else
    return memoryView person realm

/-- `Persons.restore_memory`. -/
def restoreMemory (env : Env) (ownerId personId : String) (expectedRevision : Int) :
    Session PersonMemoryView := do
  let person ← requirePerson ownerId personId
  checkPersonRevision person expectedRevision
  checkMemoryEligible person
  let stored ← personRealm ownerId personId
  let realm ← Tx.require stored (.lookupError "personal memory realm is not bound")
  if realm.status ≠ .active then
    let restored : MemoryRealmRow := { realm with status := .active }
    let updated : PersonRow := { person with revision := person.revision + 1 }
    writeRealm restored
    writePerson updated
    auditPerson env 0 updated "person.memory_restored"
    return memoryView updated restored
  else
    return memoryView person realm

end EidolonData
