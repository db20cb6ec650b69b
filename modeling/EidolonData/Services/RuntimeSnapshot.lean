import EidolonData.Services.Workspace

/-!
# Runtime snapshots

The two endpoints a session starts from: the snapshot of one Companion, and
of the Companion an Owner's unaddressed requests go to.
-/

namespace EidolonData

open Relational

/-- An `HTTPException`, or the 500 of a response model that refuses its fields. -/
structure HttpRefusal where
  statusCode : Nat
  detail : String
  deriving DecidableEq, Repr

structure PersonaGenomeSnapshot where
  genomeId : String
  version : Int
  schemaVersion : String
  genomeHash : String
  realizerVersion : String
  genome : JsonDict
  deriving DecidableEq, Repr

/-- `CompanionRuntimeSnapshotResponse`. -/
structure RuntimeSnapshot where
  ownerId : String
  companionId : String
  runtimeConfig : JsonDict
  realmId : String
  personaGenome : PersonaGenomeSnapshot
  deriving DecidableEq, Repr

/-- `Field(min_length=1, max_length=limit)`. -/
def fieldFits (text : String) (limit : Nat) : Bool :=
  1 ≤ text.length && text.length ≤ limit

/-- The constraints of the response model and of the models inside it. -/
def RuntimeSnapshot.fits (snapshot : RuntimeSnapshot) : Bool :=
  fieldFits snapshot.ownerId 64 && fieldFits snapshot.companionId 64 &&
    fieldFits snapshot.realmId 64 && fieldFits snapshot.personaGenome.genomeId 64 &&
      decide (1 ≤ snapshot.personaGenome.version) &&
        fieldFits snapshot.personaGenome.schemaVersion 64 &&
          fieldFits snapshot.personaGenome.genomeHash 80 &&
            fieldFits snapshot.personaGenome.realizerVersion 64

def refuse (statusCode : Nat) (detail : String) : Except HttpRefusal α :=
  .error { statusCode := statusCode, detail := detail }

/-- The realm half of `_runtime_snapshot`. -/
def snapshotRealm (w : Workspace) (companion : CompanionRow) :
    Except HttpRefusal MemoryRealmRow :=
  if orDefault companion.defaultMemoryRealmId "" = "" then
    refuse 412 "companion has no default memory realm"
  else
    match w.memoryRealms.get? (companion.defaultMemoryRealmId.getD "") with
    | none => refuse 409 "default memory realm is missing"
    | some realm =>
        if realm.isShared companion.ownerId then .ok realm
        else refuse 412 "default memory realm is not active in scope"

/-- `(genome_id or companion.current_genome_id or "").strip()`. -/
def selectedGenomeId (companion : CompanionRow) (genomeId : Option String) : String :=
  strip (orDefault genomeId (orDefault companion.currentGenomeId ""))

/-- The genome half of `_runtime_snapshot`. -/
def snapshotGenome (w : Workspace) (companion : CompanionRow) (genomeId : Option String) :
    Except HttpRefusal PersonaGenomeRow :=
  if selectedGenomeId companion genomeId = "" then
    refuse 412 "companion has no current persona genome"
  else
    match w.personaGenomes.get? (selectedGenomeId companion genomeId) with
    | none => refuse 404 "persona genome not found"
    | some genome =>
        if genome.companionId = companion.companionId ∧ genome.status = .committed then
          .ok genome
        else refuse 412 "persona genome is not committed in scope"

/-- The response built from the rows that passed. -/
def snapshotResponse (companion : CompanionRow) (realm : MemoryRealmRow)
    (genome : PersonaGenomeRow) : RuntimeSnapshot :=
  { ownerId := companion.ownerId
    companionId := companion.companionId
    runtimeConfig := companion.runtimeConfigJson
    realmId := realm.realmId
    personaGenome :=
      { genomeId := genome.genomeId
        version := genome.version
        schemaVersion := genome.schemaVersion
        genomeHash := genome.genomeHash
        realizerVersion := genome.realizerVersion
        genome := genome.genomeJson } }

def incompatiblePreferences : String :=
  "stored conversation preferences are incompatible; " ++
    "migrate or repair the companion configuration"

/-- `_runtime_snapshot`. -/
def runtimeSnapshot (sdk : Sdk) (w : Workspace) (companion : CompanionRow)
    (genomeId : Option String) : Except HttpRefusal RuntimeSnapshot :=
  match w.owners.get? companion.ownerId with
  | none => refuse 409 "companion owner is missing"
  | some owner =>
      if owner.status ≠ .active ∨ companion.lifecycleState ≠ .active then
        refuse 412 "owner or companion is not active"
      else do
        let realm ← snapshotRealm w companion
        let genome ← snapshotGenome w companion genomeId
        match validateRuntimeConfig sdk companion.runtimeConfigJson with
        | .error _ => refuse 409 incompatiblePreferences
        | .ok _ =>
            let snapshot := snapshotResponse companion realm genome
            if snapshot.fits then .ok snapshot
            else refuse 500 "Internal Server Error"

/-- `CompanionsRepository.get_default_for_owner`. -/
def getDefaultForOwner (w : Workspace) (ownerId : String) : Option CompanionRow :=
  match w.owners.get? ownerId with
  | none => none
  | some owner =>
      if orDefault owner.defaultCompanionId "" = "" then none
      else
        (w.companions.get? (owner.defaultCompanionId.getD "")).filter
          (fun companion => companion.ownerId = ownerId && companion.lifecycleState = .active)

/-- `get_owner_default_runtime_snapshot`, of an authorized caller. -/
def ownerDefaultRuntimeSnapshot (sdk : Sdk) (w : Workspace) (ownerId : String) :
    Except HttpRefusal RuntimeSnapshot :=
  match w.owners.get? ownerId with
  | none => refuse 404 "owner not found"
  | some owner =>
      if owner.status ≠ .active then refuse 412 "owner is not active"
      else
        match getDefaultForOwner w ownerId with
        | none => refuse 412 "owner has no active default companion"
        | some companion => runtimeSnapshot sdk w companion none

end EidolonData
