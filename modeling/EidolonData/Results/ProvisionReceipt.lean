import EidolonData.Results.DefaultPointer
import EidolonData.Invariants.Shared

/-!
# A provision happens once

The receipt a provision leaves on its Companion outlives every command that
spares the Companion and its active Owner, so the operation answers from it
ever after: the same request gets the same ids, any other is refused.
-/

namespace EidolonData

open Relational

/-- The receipt of a provision, and the rows its answer is rebuilt from. -/
structure Workspace.HasProvision (w : Workspace) (ownerId operationId fingerprint : String) :
    Prop where
  companion : ∃ companion,
    w.companions.get? (provisionIds ownerId operationId).companionId = some companion ∧
      companion.ownerId = ownerId ∧
      companion.Receipted provisionMetadataKey operationId fingerprint
  genome : ∃ genome,
    w.personaGenomes.get? (provisionIds ownerId operationId).genomeId = some genome ∧
      genome.companionId = (provisionIds ownerId operationId).companionId
  realm : ∃ realm, w.memoryRealms.get? realm.realmId = some realm ∧ realm.isShared ownerId = true

theorem CompanionRow.Precedes.receipted {old new : CompanionRow} (precedes : old.Precedes new)
    {name operationId fingerprint : String} (other : name ≠ personaOperationsKey)
    (receipted : old.Receipted name operationId fingerprint) :
    new.Receipted name operationId fingerprint := by
  obtain ⟨receipt, found, fields⟩ := receipted
  exact ⟨receipt, (precedes.metadata name other).trans found, fields⟩

section Run

variable {sdk : Sdk} {ownerId operationId fingerprint : String} {calls : List Call} {db : Database}

/-- The Owner is active and the Companion is stored before each call of a run,
and at its end. -/
structure WorkspaceLasts (sdk : Sdk) (ownerId companionId : String) (calls : List Call)
    (db : Database) : Prop where
  owner : Heeds sdk (fun w _ => w.OwnerActive ownerId) calls db
  ownerAfter : (replay sdk calls db).tables.workspace.OwnerActive ownerId
  companion : CompanionLasts sdk companionId calls db
  companionAfter : (replay sdk calls db).tables.workspace.companions.has companionId = true

instance (sdk : Sdk) (ownerId companionId : String) (calls : List Call) (db : Database) :
    Decidable (WorkspaceLasts sdk ownerId companionId calls db) :=
  decidable_of_iff
    (Heeds sdk (fun w _ => w.OwnerActive ownerId) calls db ∧
      (replay sdk calls db).tables.workspace.OwnerActive ownerId ∧
      CompanionLasts sdk companionId calls db ∧
      (replay sdk calls db).tables.workspace.companions.has companionId = true)
    ⟨fun ⟨owner, ownerAfter, companion, after⟩ => ⟨owner, ownerAfter, companion, after⟩,
      fun ⟨owner, ownerAfter, companion, after⟩ => ⟨owner, ownerAfter, companion, after⟩⟩

theorem Workspace.HasProvision.replay
    (has : db.tables.workspace.HasProvision ownerId operationId fingerprint)
    (lasts : WorkspaceLasts sdk ownerId (provisionIds ownerId operationId).companionId calls db) :
    (replay sdk calls db).tables.workspace.HasProvision ownerId operationId fingerprint := by
  obtain ⟨old, before, owned, receipted⟩ := has.companion
  obtain ⟨new, after⟩ := Table.has_iff.mp lasts.companionAfter
  have precedes := replay_companion_precedes lasts.companion before after
  obtain ⟨genome, genomeFound, own⟩ := has.genome
  obtain ⟨kept, keptFound, keeps⟩ :=
    replay_genome_stays lasts.companion lasts.companionAfter genomeFound own
  obtain ⟨realm, realmFound, shared⟩ := has.realm
  exact
    { companion := ⟨new, after, precedes.ownerId.trans owned,
        precedes.receipted (by decide) receipted⟩
      genome := ⟨kept, keptFound, keeps.companionId.trans own⟩
      realm := ⟨realm, replay_shared_stays lasts.owner lasts.ownerAfter realmFound shared, shared⟩ }

end Run

section Commands

variable {sdk : Sdk} {env : Env} {db db' : Database} {request : ProvisionRequest}
  {result : ProvisionResult}

theorem provisionCompanion_receipt
    (provisioned : db.transact (provisionCompanion sdk env request) = .ok (result, db'))
    (own : result.replayed = true →
      result.personaGenome.companionId = result.companion.companionId) :
    db'.tables.workspace.HasProvision request.ownerId request.operationId
      result.requestFingerprint ∧
    result.companion.companionId =
      (provisionIds request.ownerId request.operationId).companionId ∧
    result.personaGenome.genomeId =
      (provisionIds request.ownerId request.operationId).genomeId := by
  have effect := provisionCompanion_effect sdk .all env db.tables request result db'.tables
    (Database.transact_ok_iff.mp provisioned)
  rcases effect with ⟨unchanged, companion, found, loaded⟩ | planted
  · have named : companion.companionId = _ := Table.key_of_get? found
    have same := loaded.same
    rw [← unchanged] at found loaded
    refine ⟨?_, by rw [same]; exact named, Table.key_of_get? loaded.genome⟩
    exact
      { companion := ⟨companion, found, loaded.owner, loaded.receipt⟩
        genome := ⟨_, loaded.genome, by rw [own loaded.replayed, same]; exact named⟩
        realm := ⟨_, loaded.realm, loaded.realmShared⟩ }
  · refine ⟨?_, Table.key_of_get? planted.companion, Table.key_of_get? planted.genome⟩
    rw [planted.fingerprint]
    exact
      { companion := ⟨_, planted.companion, planted.companionOwner, _, planted.receipt, rfl, rfl⟩
        genome := ⟨_, planted.genome, planted.genomeCompanion⟩
        realm := ⟨_, planted.realm, planted.realmShared⟩ }

/-- The conflict of a request that is not the one the receipt is of. -/
def provisionConflict : Error :=
  .ownerWorkspaceConflict "operation_id is already in use for another request"

theorem provisionCompanion_unchanged (sdk : Sdk) (env : Env) (t : Tables)
    (request : ProvisionRequest)
    (taken : t.workspace.companions.has
      (provisionIds request.ownerId request.operationId).companionId = true) :
    (provisionCompanion sdk env request).Ensures t (fun _ t' => t' = t) := by
  obtain ⟨companion, found⟩ := Table.has_iff.mp taken
  simp only [provisionCompanion, Tx.ensures_bind, ensures_check, ensures_getCompanion, found]
  intro _ _
  refine (loadProvisionResult_effect t request companion).mono ?_
  intro result t' outcome
  obtain ⟨unchanged, _⟩ := outcome
  exact unchanged

theorem provisionCompanion_foreign (env : Env) {t : Tables} {companion : CompanionRow}
    (found : t.workspace.companions.get?
      (provisionIds request.ownerId request.operationId).companionId = some companion)
    (foreign : companion.ownerId ≠ request.ownerId) :
    (provisionCompanion sdk env request).Ensures t (fun _ _ => False) := by
  simp only [provisionCompanion, Tx.ensures_bind, ensures_check, ensures_getCompanion, found]
  intro _ _
  refine (loadProvisionResult_effect t request companion).mono ?_
  intro result t' outcome
  obtain ⟨_, loaded⟩ := outcome
  exact foreign loaded.owner

variable {t : Tables} {operationId fingerprint : String} {checked : CompanionKind × String}

theorem provisionCompanion_of_receipt (sdk : Sdk) (env : Env)
    (has : t.workspace.HasProvision request.ownerId operationId fingerprint)
    (operation : request.operationId = operationId) (valid : request.validate = .ok checked) :
    ∃ companion genome realm, companion.companionId =
        (provisionIds request.ownerId operationId).companionId ∧
      genome.genomeId = (provisionIds request.ownerId operationId).genomeId ∧
      (provisionCompanion sdk env request).run t =
        if fingerprint ∈ request.requestFingerprint :: request.replayFingerprints then
          .ok ({ operationId := operationId
                 requestFingerprint := fingerprint
                 companion := companion
                 personaGenome := genome
                 memoryRealm := realm
                 memoryRealmCreated := false
                 replayed := true }, t)
        else .error provisionConflict := by
  subst operation
  obtain ⟨companion, companionFound, owned, receipt, receiptFound, operation, stored⟩ :=
    has.companion
  obtain ⟨genome, genomeFound, own⟩ := has.genome
  obtain ⟨realm, realmFound, shared⟩ := has.realm
  have member : realm ∈ t.workspace.memoryRealms.select
      (fun row => row.isShared request.ownerId) := Table.mem_select.mpr ⟨realmFound, shared⟩
  obtain ⟨first, head⟩ : ∃ first, (t.workspace.memoryRealms.select
      (fun row => row.isShared request.ownerId)).head? = some first := by
    cases rows : t.workspace.memoryRealms.select (fun row => row.isShared request.ownerId) with
    | nil =>
        rw [rows] at member
        cases member
    | cons first rest => exact ⟨first, rfl⟩
  refine ⟨companion, genome, first, Table.key_of_get? companionFound,
    Table.key_of_get? genomeFound, ?_⟩
  by_cases listed : fingerprint ∈ request.requestFingerprint :: request.replayFingerprints
  · simp [provisionCompanion, check, valid, Tx.lift, getCompanion, companionFound, owned,
      loadProvisionResult, getGenome, genomeFound, receiptFound, Json.asDict?, operation, stored,
      Json.asString?, Option.filter_some, List.mem_cons.mp listed, activeRealmForOwner, head]
  · simp [provisionCompanion, check, valid, Tx.lift, getCompanion, companionFound, owned,
      loadProvisionResult, getGenome, genomeFound, receiptFound, Json.asDict?, operation, stored,
      Json.asString?, Option.filter_some, mt List.mem_cons.mpr listed, provisionConflict]

end Commands

/-- A provision that succeeded is not done again, as long as its Companion
and its active Owner last: no later provision of its operation changes a row,
the same request is answered with the same ids, and one with another
fingerprint or of another Owner is refused.  An answer that was itself
replayed counts when its genome is its Companion's own. -/
theorem provision_exactly_once (sdk : Sdk) (calls between : List Call) (env : Env)
    (request : ProvisionRequest) (result : ProvisionResult) (db' : Database)
    (provisioned : (replay sdk calls .empty).transact (provisionCompanion sdk env request) =
      .ok (result, db'))
    (own : result.replayed = true →
      result.personaGenome.companionId = result.companion.companionId)
    (lasts : WorkspaceLasts sdk request.ownerId result.companion.companionId between db') :
    (∀ env' again, again.operationId = request.operationId →
      Call.step sdk (replay sdk between db') { env := env', command := .provisionCompanion again } =
        replay sdk between db') ∧
    (∀ env' again checked, again.operationId = request.operationId →
      again.ownerId = request.ownerId → again.validate = .ok checked →
      (result.requestFingerprint ∈ again.requestFingerprint :: again.replayFingerprints →
        ∃ answer, (replay sdk between db').transact (provisionCompanion sdk env' again) =
            .ok (answer, replay sdk between db') ∧
          answer.companion.companionId = result.companion.companionId ∧
          answer.personaGenome.genomeId = result.personaGenome.genomeId ∧
          answer.replayed = true ∧ answer.memoryRealmCreated = false) ∧
      (result.requestFingerprint ∉ again.requestFingerprint :: again.replayFingerprints →
        (replay sdk between db').transact (provisionCompanion sdk env' again) =
          .error provisionConflict)) ∧
    (∀ env' again, again.operationId = request.operationId → again.ownerId ≠ request.ownerId →
      ∃ error, (replay sdk between db').transact (provisionCompanion sdk env' again) =
        .error error) := by
  obtain ⟨has, companionId, genomeId⟩ := provisionCompanion_receipt provisioned own
  rw [companionId] at lasts
  have kept := has.replay lasts
  obtain ⟨stored, found, owned, -⟩ := kept.companion
  refine ⟨?_, ?_, ?_⟩
  · intro env' again operation
    refine Call.step_unchanged { env := env', command := .provisionCompanion again } _ rfl
      (provisionCompanion_unchanged sdk env' _ again ?_)
    rw [operation]
    exact Table.has_of_get? found
  · intro env' again checked operation owner valid
    rw [← owner] at kept
    obtain ⟨companion, genome, realm, companionKey, genomeKey, ran⟩ :=
      provisionCompanion_of_receipt sdk env' kept operation valid
    constructor
    · intro listed
      rw [if_pos listed] at ran
      refine ⟨_, Database.transact_ok_iff.mpr ran, ?_, ?_, rfl, rfl⟩
      · exact companionKey.trans companionId.symm
      · exact genomeKey.trans genomeId.symm
    · intro unlisted
      rw [if_neg unlisted] at ran
      exact Database.transact_of_error ran
  · intro env' again operation foreign
    have refused : (provisionCompanion sdk env' again).Ensures
        (replay sdk between db').tables (fun _ _ => False) := by
      have foundAgain : (replay sdk between db').tables.workspace.companions.get?
          (provisionIds again.ownerId again.operationId).companionId = some stored := by
        rw [operation]
        exact found
      apply provisionCompanion_foreign env' foundAgain
      rw [owned]
      exact Ne.symm foreign
    cases transacted : (replay sdk between db').transact (provisionCompanion sdk env' again) with
    | error error => exact ⟨error, rfl⟩
    | ok finished => exact (refused _ _ (Database.transact_ok_iff.mp transacted)).elim

/-- A second Companion of the first Owner. -/
def secondProvision : ProvisionRequest :=
  { ownerId := "owner"
    operationId := "00000000-0000-4000-8000-000000000001"
    requestFingerprint :=
      "sha256:e3b0c44298fc1c149afbf4c8996fb92427ae41e4649b934ca495991b7852b855"
    companionDisplayName := "Second" }

def secondEnv : Env := { uuid := fun site => .ofNat (512 + site), now := 32 }

/-- The provisioned Companion gets another name. -/
def renamesSecond : Call :=
  { env := { uuid := fun site => .ofNat (1024 + site), now := 33 }
    command := .renameCompanion
      (provisionIds secondProvision.ownerId secondProvision.operationId).companionId "Luna" }

theorem provision_exactly_once_second :
    ∃ result db',
      (replay .plain (numbered firstDefaultCommands) .empty).transact
        (provisionCompanion .plain secondEnv secondProvision) = .ok (result, db') ∧
      let later := replay .plain [renamesSecond] db'
      (later.tables.workspace.companions.get? result.companion.companionId).map
          CompanionRow.displayName = some "Luna" ∧
        ∃ answer, later.transact (provisionCompanion .plain secondEnv secondProvision) =
            .ok (answer, later) ∧
          answer.companion.companionId = result.companion.companionId ∧
          answer.replayed = true := by
  have provisions : (((replay .plain (numbered firstDefaultCommands) .empty).transact
      (provisionCompanion .plain secondEnv secondProvision)).toOption.map (fun (result, db') =>
        (result.replayed, result.requestFingerprint,
          decide (WorkspaceLasts .plain "owner" result.companion.companionId [renamesSecond] db'),
          ((replay .plain [renamesSecond] db').tables.workspace.companions.get?
            result.companion.companionId).map CompanionRow.displayName))) =
      some (false, secondProvision.requestFingerprint, true, some "Luna") := by
    decide +kernel
  obtain ⟨⟨result, db'⟩, transacted, facts⟩ := Option.map_eq_some_iff.mp provisions
  simp only [Prod.mk.injEq] at facts
  obtain ⟨created, fingerprint, lasts, renamed⟩ := facts
  have provisioned := Tx.ok_of_toOption transacted
  refine ⟨result, db', provisioned, renamed, ?_⟩
  have once := provision_exactly_once .plain (numbered firstDefaultCommands) [renamesSecond]
    secondEnv secondProvision result db' provisioned (by simp [created]) (of_decide_eq_true lasts)
  obtain ⟨answer, again, companion, -, replayed, -⟩ :=
    (once.2.1 secondEnv secondProvision (.conversational, "Second") rfl rfl (by decide +kernel)).1
      (by simp [fingerprint])
  exact ⟨answer, again, companion, replayed⟩

end EidolonData
