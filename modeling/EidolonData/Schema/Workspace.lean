import EidolonData.Json
import EidolonData.Library.Table

/-!
# Owners, Companions and what belongs to them

The rows of the identity and catalogue aggregates and of the Guard bindings.
A column whose values a `CHECK` restricts is an enumeration here, so a row
outside the constraint cannot be built; the other constraints are stated in
the integrity module.
-/

namespace EidolonData

open Relational

/-- `utc_now()`, in microseconds. -/
abbrev Timestamp := Int

inductive OwnerKind where
  | person
  | family
  | team
  deriving DecidableEq, Repr

inductive OwnerStatus where
  | active
  | archived
  | deleting
  deriving DecidableEq, Repr

inductive CompanionKind where
  | conversational
  | guard
  | specialist
  | system
  deriving DecidableEq, Repr

inductive LifecycleState where
  | active
  | retiring
  | archived
  | deleting
  deriving DecidableEq, Repr

inductive GenomeStatus where
  | proposed
  | committed
  | rejected
  | stale
  deriving DecidableEq, Repr

inductive RealmStatus where
  | active
  | inactive
  | deleting
  deriving DecidableEq, Repr

inductive BindingState where
  | active
  | disabled
  | revoked
  deriving DecidableEq, Repr

def OwnerKind.text : OwnerKind → String
  | .person => "person"
  | .family => "family"
  | .team => "team"

def OwnerKind.ofText? : String → Option OwnerKind
  | "person" => some .person
  | "family" => some .family
  | "team" => some .team
  | _ => none

def OwnerStatus.text : OwnerStatus → String
  | .active => "active"
  | .archived => "archived"
  | .deleting => "deleting"

def CompanionKind.text : CompanionKind → String
  | .conversational => "conversational"
  | .guard => "guard"
  | .specialist => "specialist"
  | .system => "system"

/-- Membership in `COMPANION_KINDS`. -/
def CompanionKind.ofText? : String → Option CompanionKind
  | "conversational" => some .conversational
  | "guard" => some .guard
  | "specialist" => some .specialist
  | "system" => some .system
  | _ => none

def LifecycleState.text : LifecycleState → String
  | .active => "active"
  | .retiring => "retiring"
  | .archived => "archived"
  | .deleting => "deleting"

def GenomeStatus.text : GenomeStatus → String
  | .proposed => "proposed"
  | .committed => "committed"
  | .rejected => "rejected"
  | .stale => "stale"

def GenomeStatus.ofText? : String → Option GenomeStatus
  | "proposed" => some .proposed
  | "committed" => some .committed
  | "rejected" => some .rejected
  | "stale" => some .stale
  | _ => none

theorem GenomeStatus.text_of_ofText? {text : String} {status : GenomeStatus}
    (parsed : ofText? text = some status) : status.text = text := by
  unfold ofText? at parsed
  split at parsed
  all_goals cases parsed
  all_goals rfl

def BindingState.text : BindingState → String
  | .active => "active"
  | .disabled => "disabled"
  | .revoked => "revoked"

structure OwnerRow where
  ownerId : String
  displayName : String := ""
  kind : OwnerKind := .person
  status : OwnerStatus := .active
  /-- Which Companion answers when nothing named one. -/
  defaultCompanionId : Option String := none
  revision : Int := 1
  profileJson : JsonDict := []
  settingsJson : JsonDict := []
  deriving DecidableEq, Repr

structure CompanionRow where
  companionId : String
  ownerId : String
  displayName : String := ""
  kind : CompanionKind := .conversational
  lifecycleState : LifecycleState := .active
  revision : Int := 1
  currentGenomeId : Option String := none
  defaultMemoryRealmId : Option String := none
  profileJson : JsonDict := []
  runtimeConfigJson : JsonDict := []
  metadataJson : JsonDict := []
  createdAt : Timestamp := 0
  deriving DecidableEq, Repr

structure PersonaGenomeRow where
  genomeId : String
  companionId : String
  version : Int
  status : GenomeStatus := .committed
  baseGenomeId : Option String := none
  schemaVersion : String
  genomeHash : String
  realizerVersion : String
  appliedEventId : Option String := none
  sourceJson : JsonDict := []
  genomeJson : JsonDict := []
  changeSummary : String := ""
  deriving DecidableEq, Repr

/-- Catalogue pointer to Memory-owned storage; a realm without a person is the
Owner's shared one. -/
structure MemoryRealmRow where
  realmId : String
  ownerId : String
  personId : Option String := none
  engine : String := "mempalace"
  engineConfigJson : JsonDict := []
  policyJson : JsonDict := []
  status : RealmStatus := .active
  createdAt : Timestamp := 0
  deriving DecidableEq, Repr

structure GuardBindingRow where
  bindingId : String
  ownerId : String
  guardCompanionId : String
  deviceId : String
  state : BindingState := .active
  policyId : String := "silent_presence"
  policyRevision : Int := 1
  policyJson : JsonDict := []
  disabledAt : Option Timestamp := none
  revokedAt : Option Timestamp := none
  createdAt : Timestamp := 0
  deriving DecidableEq, Repr

instance : HasKey OwnerRow String := ⟨OwnerRow.ownerId⟩
instance : HasKey CompanionRow String := ⟨CompanionRow.companionId⟩
instance : HasKey PersonaGenomeRow String := ⟨PersonaGenomeRow.genomeId⟩
instance : HasKey MemoryRealmRow String := ⟨MemoryRealmRow.realmId⟩
instance : HasKey GuardBindingRow String := ⟨GuardBindingRow.bindingId⟩

@[simp] theorem key_owner (row : OwnerRow) : key row = row.ownerId := rfl
@[simp] theorem key_companion (row : CompanionRow) : key row = row.companionId := rfl
@[simp] theorem key_genome (row : PersonaGenomeRow) : key row = row.genomeId := rfl
@[simp] theorem key_realm (row : MemoryRealmRow) : key row = row.realmId := rfl
@[simp] theorem key_binding (row : GuardBindingRow) : key row = row.bindingId := rfl

/-- The tables of the Owner and Companion aggregates. -/
structure Workspace where
  owners : Table OwnerRow := ∅
  companions : Table CompanionRow := ∅
  personaGenomes : Table PersonaGenomeRow := ∅
  memoryRealms : Table MemoryRealmRow := ∅
  guardBindings : Table GuardBindingRow := ∅

/-- The Owner's one realm: active and of no Person. -/
def MemoryRealmRow.isShared (realm : MemoryRealmRow) (ownerId : String) : Bool :=
  realm.ownerId = ownerId && realm.personId.isNone && realm.status = .active

end EidolonData
