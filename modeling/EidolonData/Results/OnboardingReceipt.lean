import EidolonData.Results.OwnerRevision
import EidolonData.Results.ProvisionReceipt

/-!
# An onboarding is answered as it was first

The four rows an onboarding is rebuilt from outlive every command that spares
its Owner and its first Companion, the archiving of the Owner included.
-/

namespace EidolonData

open Relational

/-- The rows and the receipt of an onboarding. -/
structure Workspace.HasOnboarding (w : Workspace) (operationId fingerprint : String) : Prop where
  owner : ∃ owner, w.owners.get? (onboardingIds operationId).ownerId = some owner
  companion : ∃ companion,
    w.companions.get? (onboardingIds operationId).companionId = some companion ∧
      companion.ownerId = (onboardingIds operationId).ownerId ∧
      companion.Receipted onboardingMetadataKey operationId fingerprint
  genome : ∃ genome, w.personaGenomes.get? (onboardingIds operationId).genomeId = some genome ∧
    genome.companionId = (onboardingIds operationId).companionId
  realm : w.SharesRealm (onboardingIds operationId).ownerId (onboardingIds operationId).realmId

section Run

variable {sdk : Sdk} {permits : Permits} {operationId fingerprint : String} {calls : List Call}
  {db : Database}

theorem Command.Effect.sharesRealm {command : Command} {w w' : Workspace}
    (effect : command.Effect sdk permits w w') {ownerId realmId : String}
    (stored : w'.owners.has ownerId = true) (shares : w.SharesRealm ownerId realmId) :
    w'.SharesRealm ownerId realmId := by
  obtain ⟨realm, found, owned, ownerless⟩ := shares
  obtain ⟨owner, ownerFound⟩ := Table.has_iff.mp stored
  rw [← owned] at ownerFound
  have stays : w'.memoryRealms.get? realmId = some realm → w'.SharesRealm ownerId realmId :=
    fun kept => ⟨realm, kept, owned, ownerless⟩
  cases command with
  | archiveOwner archived =>
      rcases effect with rfl | ⟨other, now, -, -, rfl⟩
      · exact stays found
      · simp only [Workspace.SharesRealm, Workspace.archiveOwner, Table.get?_update, found,
          Option.map_some, Option.some.injEq, exists_eq_left']
        split
        · exact ⟨owned, ownerless⟩
        · exact ⟨owned, ownerless⟩
  | deleteOwner deleted =>
      rcases effect with rfl | removal
      · exact stays found
      · exact stays (removal.realmStays found ownerFound)
  | deleteCompanion other deleted allowDefault =>
      exact stays (effect.1.realmStays found ownerFound)
  | _ => exact stays (Changes.outlives effect |>.realms ownerless found)

/-- The Owner and the Companion of an onboarding are stored before each call
of a run, and at its end. -/
structure OnboardingLasts (sdk : Sdk) (operationId : String) (calls : List Call)
    (db : Database) : Prop where
  owner : OwnerLasts sdk (onboardingIds operationId).ownerId calls db
  ownerAfter : (replay sdk calls db).tables.workspace.owners.has
    (onboardingIds operationId).ownerId = true
  companion : CompanionLasts sdk (onboardingIds operationId).companionId calls db
  companionAfter : (replay sdk calls db).tables.workspace.companions.has
    (onboardingIds operationId).companionId = true

instance (sdk : Sdk) (operationId : String) (calls : List Call) (db : Database) :
    Decidable (OnboardingLasts sdk operationId calls db) :=
  decidable_of_iff
    (OwnerLasts sdk (onboardingIds operationId).ownerId calls db ∧
      (replay sdk calls db).tables.workspace.owners.has (onboardingIds operationId).ownerId = true ∧
      CompanionLasts sdk (onboardingIds operationId).companionId calls db ∧
      (replay sdk calls db).tables.workspace.companions.has
        (onboardingIds operationId).companionId = true)
    ⟨fun ⟨owner, ownerAfter, companion, after⟩ => ⟨owner, ownerAfter, companion, after⟩,
      fun ⟨owner, ownerAfter, companion, after⟩ => ⟨owner, ownerAfter, companion, after⟩⟩

theorem Workspace.HasOnboarding.replay
    (has : db.tables.workspace.HasOnboarding operationId fingerprint)
    (lasts : OnboardingLasts sdk operationId calls db) :
    (replay sdk calls db).tables.workspace.HasOnboarding operationId fingerprint := by
  obtain ⟨old, before, owned, receipted⟩ := has.companion
  obtain ⟨new, after⟩ := Table.has_iff.mp lasts.companionAfter
  have precedes := replay_companion_precedes lasts.companion before after
  obtain ⟨genome, genomeFound, own⟩ := has.genome
  obtain ⟨kept, keptFound, keeps⟩ :=
    replay_genome_stays lasts.companion lasts.companionAfter genomeFound own
  have realm := replay_relates (fun w => w.owners.has (onboardingIds operationId).ownerId = true)
    (fun w w' => w.SharesRealm (onboardingIds operationId).ownerId
        (onboardingIds operationId).realmId →
      w'.SharesRealm (onboardingIds operationId).ownerId (onboardingIds operationId).realmId)
    (fun _ => id) (fun _ one two shares => two (one shares))
    (fun _ stored effect shares => effect.sharesRealm stored shares) lasts.owner lasts.ownerAfter
    has.realm
  exact
    { owner := Table.has_iff.mp lasts.ownerAfter
      companion := ⟨new, after, precedes.ownerId.trans owned,
        precedes.receipted (by decide) receipted⟩
      genome := ⟨kept, keptFound, keeps.companionId.trans own⟩
      realm := realm }

end Run

section Commands

variable {sdk : Sdk} {env : Env} {db db' : Database} {request : InitializationRequest}
  {result : InitializationResult}

/-- An onboarding that succeeds leaves its rows, or found them. -/
theorem initializeOwnerWorkspace_receipt
    (initialized : db.transact (initializeOwnerWorkspace sdk env request) = .ok (result, db'))
    (shared : db.tables.workspace.owners.has (onboardingIds request.operationId).ownerId = true →
      result.workspace.memoryRealm.personId = none) :
    db'.tables.workspace.HasOnboarding request.operationId result.requestFingerprint ∧
    result.owner.ownerId = (onboardingIds request.operationId).ownerId ∧
    result.workspace.companion.companionId = (onboardingIds request.operationId).companionId ∧
    result.workspace.personaGenome.genomeId = (onboardingIds request.operationId).genomeId ∧
    result.workspace.memoryRealm.realmId = (onboardingIds request.operationId).realmId := by
  have effect := initializeOwnerWorkspace_effect sdk .all env db.tables request result db'.tables
    (Database.transact_ok_iff.mp initialized)
  rcases effect with ⟨unchanged, owner, found, loaded⟩ | planted
  · have named : owner.ownerId = (onboardingIds request.operationId).ownerId :=
      Table.key_of_get? found
    have companionNamed : result.workspace.companion.companionId =
      (onboardingIds request.operationId).companionId := Table.key_of_get? loaded.companion
    have ownerless := shared (Table.has_of_get? found)
    have same := loaded.same
    rw [← unchanged] at found loaded
    refine ⟨?_, by rw [same]; exact named, companionNamed, Table.key_of_get? loaded.genome,
      Table.key_of_get? loaded.realm⟩
    exact
      { owner := ⟨owner, found⟩
        companion := ⟨_, loaded.companion, loaded.companionOwner.trans named, loaded.receipt⟩
        genome := ⟨_, loaded.genome, loaded.genomeCompanion.trans companionNamed⟩
        realm := ⟨_, loaded.realm, loaded.realmOwner.trans named, ownerless⟩ }
  · obtain ⟨realmOwned, realmOwnerless, -⟩ := MemoryRealmRow.isShared_iff.mp planted.realmShared
    -- an Owner that was not stored had no realm
    have realmNamed : result.workspace.memoryRealm.realmId =
        (onboardingIds request.operationId).realmId := by
      rcases planted.realmFound with found | named
      · have owned : db.tables.workspace.owners.has result.workspace.memoryRealm.ownerId = true :=
          db.property.workspace.realmOwner _ (Table.mem_of_get? found)
        rw [realmOwned] at owned
        obtain ⟨owner, ownerFound⟩ := Table.has_iff.mp owned
        rw [planted.ownerFresh] at ownerFound
        cases ownerFound
      · exact named
    refine ⟨?_, Table.key_of_get? planted.owner, Table.key_of_get? planted.companion,
      Table.key_of_get? planted.genome, realmNamed⟩
    have realm := planted.realm
    rw [realmNamed] at realm
    rw [planted.fingerprint]
    exact
      { owner := ⟨_, planted.owner⟩
        companion := ⟨_, planted.companion, planted.companionOwner, _, planted.receipt, rfl, rfl⟩
        genome := ⟨_, planted.genome, planted.genomeCompanion⟩
        realm := ⟨_, realm, realmOwned, realmOwnerless⟩ }

/-- The conflict of a request that is not the one the receipt is of. -/
def onboardingConflict : Error :=
  .ownerWorkspaceError "operation_id is already in use for another request"

structure InitializationResult.Named (answer : InitializationResult)
    (operationId fingerprint : String) : Prop where
  owner : answer.owner.ownerId = (onboardingIds operationId).ownerId
  companion : answer.workspace.companion.companionId = (onboardingIds operationId).companionId
  genome : answer.workspace.personaGenome.genomeId = (onboardingIds operationId).genomeId
  realm : answer.workspace.memoryRealm.realmId = (onboardingIds operationId).realmId
  fingerprint : answer.requestFingerprint = fingerprint

theorem loadOnboardingResult_of_receipt {t : Tables} {operationId fingerprint : String}
    (has : t.workspace.HasOnboarding operationId fingerprint) :
    ∃ owner answer, t.workspace.owners.get? (onboardingIds operationId).ownerId = some owner ∧
      answer.Named operationId fingerprint ∧
      ∀ requested, (loadOnboardingResult operationId requested owner).run t =
        if requested.any (fun requested => fingerprint ≠ requested) then .error onboardingConflict
        else .ok (answer, t) := by
  obtain ⟨owner, ownerFound⟩ := has.owner
  obtain ⟨companion, companionFound, companionOwner, receipt, receiptFound, operation, stored⟩ :=
    has.companion
  obtain ⟨genome, genomeFound, own⟩ := has.genome
  obtain ⟨realm, realmFound, realmOwner, -⟩ := has.realm
  have ownerNamed : owner.ownerId = (onboardingIds operationId).ownerId :=
    Table.key_of_get? ownerFound
  have companionNamed : companion.companionId = (onboardingIds operationId).companionId :=
    Table.key_of_get? companionFound
  refine ⟨owner,
    { operationId := operationId
      requestFingerprint := fingerprint
      owner := owner
      workspace :=
        { companion := companion
          personaGenome := genome
          memoryRealm := realm } }, ownerFound, ?_, ?_⟩
  · exact
      { owner := ownerNamed
        companion := companionNamed
        genome := Table.key_of_get? genomeFound
        realm := Table.key_of_get? realmFound
        fingerprint := rfl }
  · intro requested
    simp [loadOnboardingResult, getCompanion, companionFound, getGenome, genomeFound, getRealm,
      realmFound, receiptFound, Json.asDict?, operation, stored, Json.asString?, companionOwner,
      ownerNamed, own, companionNamed, realmOwner, onboardingConflict]

theorem initializeOwnerWorkspace_unchanged (sdk : Sdk) (env : Env) (t : Tables)
    (request : InitializationRequest)
    (taken : t.workspace.owners.has (onboardingIds request.operationId).ownerId = true) :
    (initializeOwnerWorkspace sdk env request).Ensures t (fun _ t' => t' = t) := by
  obtain ⟨owner, found⟩ := Table.has_iff.mp taken
  simp only [initializeOwnerWorkspace, Tx.ensures_bind, ensures_check, ensures_getOwner, found]
  intro _ _
  refine (loadOnboardingResult_effect t _ _ owner).mono ?_
  intro result t' outcome
  obtain ⟨unchanged, _⟩ := outcome
  exact unchanged

theorem initializeOwnerWorkspace_canonical
    (initialized : db.transact (initializeOwnerWorkspace sdk env request) = .ok (result, db')) :
    isCanonicalUuid request.operationId = true := by
  have runs : (initializeOwnerWorkspace sdk env request).Ensures db.tables (fun _ _ =>
      isCanonicalUuid request.operationId = true) := by
    simp only [initializeOwnerWorkspace, Tx.ensures_bind, ensures_check]
    intro names valid _ _ _ _ _ _
    exact InitializationRequest.canonical_of_validate valid
  exact runs _ _ (Database.transact_ok_iff.mp initialized)

structure InitializationResult.Repeats (answer first : InitializationResult) : Prop where
  owner : answer.owner.ownerId = first.owner.ownerId
  companion : answer.workspace.companion.companionId = first.workspace.companion.companionId
  genome : answer.workspace.personaGenome.genomeId = first.workspace.personaGenome.genomeId
  realm : answer.workspace.memoryRealm.realmId = first.workspace.memoryRealm.realmId
  fingerprint : answer.requestFingerprint = first.requestFingerprint

end Commands

/-- An onboarding that succeeded is answered with the same ids ever after, as
long as its Owner and its first Companion are stored: by the read and by the
same request; one with another fingerprint is refused, and none changes a row.
An answer that was itself replayed counts when its realm is of no Person. -/
theorem onboarding_receipt_stable (sdk : Sdk) (calls between : List Call) (env : Env)
    (request : InitializationRequest) (result : InitializationResult) (db' : Database)
    (initialized : (replay sdk calls .empty).transact (initializeOwnerWorkspace sdk env request) =
      .ok (result, db'))
    (shared : (replay sdk calls .empty).tables.workspace.owners.has
        (onboardingIds request.operationId).ownerId = true →
      result.workspace.memoryRealm.personId = none)
    (lasts : OnboardingLasts sdk request.operationId between db') :
    (∃ answer, (replay sdk between db').transact
        (getOwnerWorkspaceInitialization request.operationId) =
          .ok (some answer, replay sdk between db') ∧ answer.Repeats result) ∧
    (∀ env' again names, again.operationId = request.operationId → again.validate = .ok names →
      (again.requestFingerprint = result.requestFingerprint →
        ∃ answer, (replay sdk between db').transact (initializeOwnerWorkspace sdk env' again) =
          .ok (answer, replay sdk between db') ∧ answer.Repeats result) ∧
      (again.requestFingerprint ≠ result.requestFingerprint →
        (replay sdk between db').transact (initializeOwnerWorkspace sdk env' again) =
          .error onboardingConflict)) ∧
    (∀ env' again, again.operationId = request.operationId →
      Call.step sdk (replay sdk between db')
          { env := env', command := .initializeOwnerWorkspace again } =
        replay sdk between db') := by
  obtain ⟨has, ownerId, companionId, genomeId, realmId⟩ :=
    initializeOwnerWorkspace_receipt initialized shared
  have canonical := initializeOwnerWorkspace_canonical initialized
  obtain ⟨owner, answer, found, named, loads⟩ :=
    loadOnboardingResult_of_receipt (has.replay lasts)
  have repeats : answer.Repeats result :=
    { owner := named.owner.trans ownerId.symm
      companion := named.companion.trans companionId.symm
      genome := named.genome.trans genomeId.symm
      realm := named.realm.trans realmId.symm
      fingerprint := named.fingerprint }
  refine ⟨?_, ?_, ?_⟩
  · refine ⟨answer, Database.transact_ok_iff.mpr ?_, repeats⟩
    simp [getOwnerWorkspaceInitialization, check, validateOperationId, canonical, Tx.lift,
      getOwner, found, Tx.run_bind, loads]
  · intro env' again names operation valid
    have runs : (initializeOwnerWorkspace sdk env' again).run (replay sdk between db').tables =
        if (some again.requestFingerprint).any
          (fun requested => result.requestFingerprint ≠ requested) then .error onboardingConflict
        else .ok (answer, (replay sdk between db').tables) := by
      rw [← loads (some again.requestFingerprint)]
      simp [initializeOwnerWorkspace, check, valid, Tx.lift, getOwner, operation, found]
    constructor
    · intro same
      refine ⟨answer, Database.transact_ok_iff.mpr ?_, repeats⟩
      simpa [same] using runs
    · intro different
      apply Database.transact_of_error
      simpa [Ne.symm different] using runs
  · intro env' again operation
    refine Call.step_unchanged { env := env', command := .initializeOwnerWorkspace again } _ rfl
      (initializeOwnerWorkspace_unchanged sdk env' _ again ?_)
    rw [operation]
    exact Table.has_of_get? found

def firstOnboarding : InitializationRequest :=
  { operationId := "00000000-0000-4000-8000-000000000001"
    requestFingerprint :=
      "sha256:e3b0c44298fc1c149afbf4c8996fb92427ae41e4649b934ca495991b7852b855"
    ownerDisplayName := "Owner"
    companionDisplayName := "First" }

/-- The Owner and its first Companion get other names. -/
def renamesOnboarded : List Call :=
  numbered
    [.renameOwner (onboardingIds firstOnboarding.operationId).ownerId "Home",
     .renameCompanion (onboardingIds firstOnboarding.operationId).companionId "Luna"]

theorem onboarding_receipt_stable_first :
    ∃ result db',
      Database.empty.transact (initializeOwnerWorkspace .plain secondEnv firstOnboarding) =
        .ok (result, db') ∧
      let later := replay .plain renamesOnboarded db'
      (later.tables.workspace.owners.get?
          (onboardingIds firstOnboarding.operationId).ownerId).map OwnerRow.displayName =
            some "Home" ∧
        (later.tables.workspace.companions.get?
          (onboardingIds firstOnboarding.operationId).companionId).map CompanionRow.displayName =
            some "Luna" ∧
        ∃ answer, later.transact (getOwnerWorkspaceInitialization firstOnboarding.operationId) =
          .ok (some answer, later) ∧ answer.Repeats result := by
  have initializes : ((Database.empty.transact
      (initializeOwnerWorkspace .plain secondEnv firstOnboarding)).toOption.map
        (fun (_, db') =>
          (decide (OnboardingLasts .plain firstOnboarding.operationId renamesOnboarded db'),
            ((replay .plain renamesOnboarded db').tables.workspace.owners.get?
              (onboardingIds firstOnboarding.operationId).ownerId).map OwnerRow.displayName,
            ((replay .plain renamesOnboarded db').tables.workspace.companions.get?
              (onboardingIds firstOnboarding.operationId).companionId).map
                CompanionRow.displayName))) = some (true, some "Home", some "Luna") := by
    decide +kernel
  obtain ⟨⟨result, db'⟩, transacted, facts⟩ := Option.map_eq_some_iff.mp initializes
  simp only [Prod.mk.injEq] at facts
  obtain ⟨lasts, owner, companion⟩ := facts
  have initialized := Tx.ok_of_toOption transacted
  refine ⟨result, db', initialized, owner, companion, ?_⟩
  refine (onboarding_receipt_stable .plain [] renamesOnboarded secondEnv firstOnboarding result
    db' initialized ?_ (of_decide_eq_true lasts)).1
  intro taken
  cases taken

end EidolonData
