import EidolonData.Library.Ordering
import EidolonData.People.Safety

/-!
# Provisional memory

What a session is told it may do with a Person's memory before it is ready,
and the catalog of realms the runtime is configured from.
-/

namespace EidolonData

open Relational

/-- `ProvisionalMemoryAccessSnapshot`. -/
structure ProvisionalAccess where
  ownerId : String
  personId : String
  personRevision : Int
  realmId : String
  policy : ProvisionalMemoryPolicy
  sessionId : String
  scope : String := "provisional_session"

/-- The checks of the session in `Persons.provisional_memory_policy`. -/
def validSession (sessionId : String) : Bool :=
  strip sessionId ≠ "" && sessionId.length ≤ 256

/-- A candidate whose time in the pool is over, or was never noted. -/
def PersonRow.isStaleCandidate (person : PersonRow) (now ttl : Timestamp) : Bool :=
  person.maturity = .candidate &&
    person.candidateActivityAt.all (fun activity => activity ≤ now - ttl)

/-- `Persons.provisional_memory_policy` of a session, which writes nothing. -/
def provisionalAccess (sdk : Sdk) (env : Env) (ttl : Timestamp) (ownerId personId : String)
    (expectedRevision : Option Int) (sessionId : String) : Session ProvisionalAccess := do
  Tx.refuseIf (validSession sessionId = false) (.personConflict "invalid provisional session")
  let person ← requirePerson ownerId personId
  Tx.refuseIf (expectedRevision.any (fun revision => person.revision ≠ revision))
    (.personConflict "person revision changed")
  let stored ← personRealm ownerId personId
  let realm ← Tx.require stored (.lookupError "personal memory realm is not bound")
  let current ← validated (storedProvisionalPolicy sdk realm)
  Tx.refuseIf (expectedRevision = none)
    (.personConflict "access requires current person revision")
  let withheld := person.status ≠ .active ∨ person.recognitionState ≠ .active ∨
    person.isStaleCandidate env.now ttl = true
  return {
    ownerId := ownerId
    personId := personId
    personRevision := person.revision
    realmId := realm.realmId
    policy := if withheld then sdk.defaultProvisionalMemoryPolicy else current
    sessionId := sessionId }

/-- The `WHERE` of `Persons.provisional_runtime_realms`, for a realm joined
with its Person. -/
def runsProvisionally (now ttl : Timestamp) (ownerId flag : String) (realm : MemoryRealmRow)
    (person : PersonRow) : Bool :=
  realm.ownerId = ownerId && person.ownerId = ownerId && realm.status ≠ .deleting &&
    person.status = .active && person.recognitionState = .active &&
      (person.maturity = .established ||
        person.candidateActivityAt.any (fun activity => now - ttl < activity)) &&
        realm.hasFlag flag

/-- `Persons.provisional_runtime_realms`. -/
def provisionalRuntimeRealms (t : Tables) (now ttl : Timestamp) (ownerId : String)
    (sessionRecall : Bool) : List String :=
  let flag := if sessionRecall then "session_recall_allowed" else "save_allowed"
  (t.workspace.memoryRealms.select (fun realm =>
    ((realm.personId.bind t.people.persons.get?).any
      (runsProvisionally now ttl ownerId flag realm)))).map (fun realm => realm.realmId)

/-- `MemoryRuntimeRealm`. -/
structure MemoryRuntimeRealm where
  realmId : String
  ownerId : String
  engine : String
  engineConfig : JsonDict
  scope : String
  personId : Option String
  enabled : Bool
  managementEnabled : Bool
  provisionalIngestEnabled : Bool
  provisionalRecallEnabled : Bool
  erasurePending : Bool

/-- The entry of one realm in `get_memory_realm_catalog`. -/
def runtimeRealm (t : Tables) (now ttl : Timestamp) (owner : OwnerRow) (realm : MemoryRealmRow) :
    MemoryRuntimeRealm :=
  let provisional (sessionRecall : Bool) :=
    if owner.status = .active then provisionalRuntimeRealms t now ttl owner.ownerId sessionRecall
    else []
  { realmId := realm.realmId
    ownerId := realm.ownerId
    engine := realm.engine
    engineConfig := realm.engineConfigJson
    scope := if realm.personId.isSome then "person" else "owner"
    personId := realm.personId
    enabled := owner.status = .active && realm.status = .active
    managementEnabled := owner.status = .active && realm.status ≠ .deleting
    provisionalIngestEnabled := decide (realm.realmId ∈ provisional false)
    provisionalRecallEnabled := decide (realm.realmId ∈ provisional true)
    erasurePending := realm.status = .deleting &&
      (((realm.policyJson.get? "purge").bind Json.asDict?).getD []).get? "state" =
        some (.str "pending") }

/-- The entries of one Owner in `get_memory_realm_catalog`. -/
def memoryRealmCatalog (t : Tables) (now ttl : Timestamp) (owner : OwnerRow) :
    List MemoryRuntimeRealm :=
  (orderBy (fun realm => realm.createdAt)
    (t.workspace.memoryRealms.select (fun realm => realm.ownerId = owner.ownerId))).map
      (runtimeRealm t now ttl owner)

end EidolonData
