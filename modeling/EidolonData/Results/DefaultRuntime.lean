import EidolonData.Invariants.Runtime

/-!
# The runtime of a default

An active Owner with a default has a default runtime snapshot, in every run
that names its new genomes by plain ids.  The snapshot strips the current
genome id before it looks it up, while `create_genome` and the proposals store
the id as it was given, so a padded id leaves the default without a runtime.
-/

namespace EidolonData

open Relational

variable {sdk : Sdk} {permits : Permits} {w : Workspace}

theorem fieldFits_iff {text : String} {limit : Nat} :
    fieldFits text limit = true ↔ 1 ≤ text.length ∧ text.length ≤ limit := by
  simp [fieldFits]

theorem fieldFits_of_solid {text : String} {limit : Nat} (solid : text ≠ "")
    (short : text.length ≤ limit) : fieldFits text limit = true := by
  rw [fieldFits_iff]
  refine ⟨?_, short⟩
  rw [Nat.one_le_iff_ne_zero]
  intro empty
  exact solid (by rwa [String.length_eq_zero_iff] at empty)

theorem ne_empty_of_fieldFits {text : String} {limit : Nat} (fits : fieldFits text limit = true) :
    text ≠ "" := by
  rintro rfl
  cases fits

theorem getDefaultForOwner_pointed {ownerId companionId : String} {owner : OwnerRow}
    {companion : CompanionRow} (found : w.owners.get? ownerId = some owner)
    (pointed : owner.defaultCompanionId = some companionId)
    (companionFound : w.companions.get? companionId = some companion)
    (owned : companion.ownerId = ownerId) (active : companion.lifecycleState = .active)
    (solid : companionId ≠ "") : getDefaultForOwner w ownerId = some companion := by
  simp [getDefaultForOwner, found, pointed, orDefault, solid, companionFound, owned, active]

theorem snapshotRealm_shared {companion : CompanionRow} {realm : MemoryRealmRow}
    (found : w.memoryRealms.get? realm.realmId = some realm)
    (pointed : companion.defaultMemoryRealmId = some realm.realmId)
    (shared : realm.isShared companion.ownerId = true) (solid : realm.realmId ≠ "") :
    snapshotRealm w companion = .ok realm := by
  simp [snapshotRealm, pointed, orDefault, solid, found, shared]

theorem snapshotGenome_current {companion : CompanionRow} {genome : PersonaGenomeRow}
    (found : w.personaGenomes.get? genome.genomeId = some genome)
    (current : companion.currentGenomeId = some genome.genomeId)
    (own : genome.companionId = companion.companionId) (committed : genome.status = .committed)
    (plain : plainGenomeId genome.genomeId) : snapshotGenome w companion none = .ok genome := by
  obtain ⟨stripped, solid, -⟩ := plain
  have selected : selectedGenomeId companion none = genome.genomeId := by
    simp [selectedGenomeId, current, orDefault, solid, stripped]
  simp [snapshotGenome, selected, solid, found, own, committed]

theorem snapshotResponse_fits (integrity : w.Integrity)
    (sound : w.RuntimeSound sdk .namingPlainly)
    (hashes : ∀ document, fieldFits (sdk.personaGenomeHash document) 80 = true)
    {owner : OwnerRow} {companion : CompanionRow} {realm : MemoryRealmRow}
    {genome : PersonaGenomeRow} {companionId : String}
    (ownerFound : w.owners.get? companion.ownerId = some owner)
    (companionFound : w.companions.get? companionId = some companion)
    (realmNamed : matchesGeneratedId realm.realmId = true)
    (genomeFound : w.personaGenomes.get? genome.genomeId = some genome) :
    (snapshotResponse companion realm genome).fits = true := by
  have ownerFits := sound.ownerFits ownerFound
  have sameOwner : owner.ownerId = companion.ownerId := Table.key_of_get? ownerFound
  rw [sameOwner] at ownerFits
  have companionFits := sound.companionFits companionFound
  obtain ⟨-, realmSolid, realmShort⟩ := matchesGeneratedId_solid realmNamed
  obtain ⟨-, genomeSolid, genomeShort⟩ := sound.genomeNamed genomeFound
  obtain ⟨document, hashed⟩ := sound.genomeHashed genomeFound
  have versioned := integrity.genomeVersion genome (Table.mem_of_get? genomeFound)
  have current := integrity.genomeCurrent genome (Table.mem_of_get? genomeFound)
  simp only [Bool.and_eq_true, decide_eq_true_eq] at versioned current
  obtain ⟨schema, realizer⟩ := current
  have schemaFits : fieldFits "eidolon.persona_genome" 64 = true := by decide
  have realizerFits : fieldFits "eidolon.persona_realizer" 64 = true := by decide
  simp only [RuntimeSnapshot.fits, snapshotResponse, hashed, schema, realizer, Bool.and_eq_true,
    decide_eq_true_eq]
  exact ⟨⟨⟨⟨⟨⟨⟨ownerFits, companionFits⟩, fieldFits_of_solid realmSolid realmShort⟩,
    fieldFits_of_solid genomeSolid genomeShort⟩, versioned⟩, schemaFits⟩, hashes document⟩,
    realizerFits⟩

structure Workspace.AnsweredBy (w : Workspace) (ownerId companionId : String)
    (snapshot : RuntimeSnapshot) : Prop where
  owner : snapshot.ownerId = ownerId
  companion : snapshot.companionId = companionId
  realm : ∃ realm, w.OnlyShared ownerId realm ∧ snapshot.realmId = realm.realmId
  genome : ∃ genome, w.personaGenomes.get? snapshot.personaGenome.genomeId = some genome ∧
    genome.companionId = companionId ∧ genome.status = .committed

theorem ownerDefaultRuntimeSnapshot_ok (integrity : w.Integrity)
    (default : w.DefaultSound) (realms : w.RealmSound) (runtime : w.RuntimeSound sdk .namingPlainly)
    (hashes : ∀ document, fieldFits (sdk.personaGenomeHash document) 80 = true)
    {ownerId companionId : String} {owner : OwnerRow}
    (found : w.owners.get? ownerId = some owner) (active : owner.status = .active)
    (pointed : owner.defaultCompanionId = some companionId) :
    ∃ snapshot, ownerDefaultRuntimeSnapshot sdk w ownerId = .ok snapshot ∧
      w.AnsweredBy ownerId companionId snapshot := by
  obtain ⟨companion, companionFound, owned, -⟩ := default.owned found pointed
  have alive := default.active found pointed companionFound
  have sameId : companion.companionId = companionId := Table.key_of_get? companionFound
  have ownerFound : w.owners.get? companion.ownerId = some owner := by
    rw [owned]
    exact found
  obtain ⟨realm, realmFound, realmPointed, shared⟩ :=
    realms.pointed companionFound ownerFound active
  have realmNamed := realms.named realmFound (MemoryRealmRow.isShared_iff.mp shared).2.1
  obtain ⟨genome, genomeFound, current, own, committed⟩ := runtime.current companionFound
  obtain ⟨preferences, configured⟩ := runtime.configured companionFound
  have companionSolid : companionId ≠ "" := by
    rw [← sameId]
    exact ne_empty_of_fieldFits (runtime.companionFits companionFound)
  have answering := getDefaultForOwner_pointed found pointed companionFound owned alive
    companionSolid
  have realmOk := snapshotRealm_shared realmFound realmPointed shared
    (matchesGeneratedId_solid realmNamed).2.1
  have genomeOk := snapshotGenome_current genomeFound current own committed
    (runtime.genomeNamed genomeFound)
  have fits := snapshotResponse_fits integrity runtime hashes ownerFound companionFound realmNamed
    genomeFound
  have answered : ownerDefaultRuntimeSnapshot sdk w ownerId =
      .ok (snapshotResponse companion realm genome) := by
    simp only [ownerDefaultRuntimeSnapshot, found, active, answering, runtimeSnapshot, ownerFound,
      alive, realmOk, genomeOk, configured, ne_eq, not_true_eq_false, or_self, if_false]
    exact if_pos fits
  refine ⟨_, answered, ?_⟩
  exact
    { owner := owned
      companion := sameId
      realm := ⟨realm, integrity.onlyShared realmFound (owned ▸ shared), rfl⟩
      genome := ⟨genome, genomeFound, own.trans sameId, committed⟩ }

def Command.NamesPlainly : Command → Prop
  | createGenome request => plainGenomeId request.genomeId
  | createEvolutionProposal proposal => plainGenomeId proposal.proposedGenomeId
  | _ => True

theorem Command.permitted_namingPlainly (sdk : Sdk) (w : Workspace) (command : Command)
    (plainly : command.NamesPlainly) : command.Permitted sdk .namingPlainly w := by
  cases command with
  | createGenome => exact ⟨plainly, Or.inl trivial⟩
  | createEvolutionProposal => exact plainly
  | editPersona => exact Or.inl trivial
  | beginRetirement | archiveCompanion | putAwayCompanion | restoreCompanion =>
      intro companion _ _ _ _
      trivial
  | _ => trivial

/-- The default of an active Owner has a runtime in every run that names new
genomes plainly. -/
theorem default_runnable (sdk : Sdk) (eligible : sdk.defaultEligibleLifecycleStates = [.active])
    (hashes : ∀ document, fieldFits (sdk.personaGenomeHash document) 80 = true)
    (calls : List Call)
    (heeds : Heeds sdk (fun _ command => command.NamesPlainly) calls .empty)
    {ownerId companionId : String} {owner : OwnerRow}
    (found : (replay sdk calls .empty).tables.workspace.owners.get? ownerId = some owner)
    (active : owner.status = .active) (pointed : owner.defaultCompanionId = some companionId) :
    ∃ snapshot,
      ownerDefaultRuntimeSnapshot sdk (replay sdk calls .empty).tables.workspace ownerId =
        .ok snapshot ∧
      (replay sdk calls .empty).tables.workspace.AnsweredBy ownerId companionId snapshot := by
  have offers : sdk.OffersActive := by
    intro state member
    simpa [eligible] using member
  have permitted := heeds.mono (Command.permitted_namingPlainly sdk) calls .empty
  exact ownerDefaultRuntimeSnapshot_ok (replay sdk calls .empty).property.workspace
    ((defaultSound_invariant offers).replay calls .empty permitted defaultSound_empty)
    (realmSound_invariant.replay calls .empty permitted realmSound_empty)
    (runtimeSound_invariant.replay calls .empty permitted runtimeSound_empty)
    hashes found active pointed

/-- An Owner's first Companion, with a second genome. -/
def secondGenomeCommands (genomeId : String) : List Command :=
  [.createOwner "owner" "" "person" none none, .provisionWorkspace { ownerId := "owner" },
    .createGenome
      { genomeId := genomeId, companionId := "c_owner", ownerId := "owner", version := 2,
        eventId := "event" }]

theorem default_runnable_second :
    let w := (replay .plain (numbered (secondGenomeCommands "g_2")) .empty).tables.workspace
    ∃ snapshot, ownerDefaultRuntimeSnapshot .plain w "owner" = .ok snapshot ∧
      w.AnsweredBy "owner" "c_owner" snapshot := by
  intro w
  have stored : (w.owners.get? "owner").map (fun row => (row.status, row.defaultCompanionId)) =
      some (.active, some "c_owner") := by
    decide +kernel
  obtain ⟨owner, found, state⟩ := Option.map_eq_some_iff.mp stored
  obtain ⟨active, pointed⟩ := Prod.mk.inj state
  have hashes : ∀ document, fieldFits (Sdk.plain.personaGenomeHash document) 80 = true := by
    have constant : fieldFits (Sdk.plain.personaGenomeHash []) 80 = true := by decide
    intro document
    exact constant
  have plainly : plainGenomeId "g_2" := ⟨by decide, by decide, by decide⟩
  exact default_runnable .plain rfl hashes (numbered (secondGenomeCommands "g_2"))
    ⟨trivial, trivial, plainly, trivial⟩ found active pointed

/-- The second genome, named with a blank before it. -/
theorem padded_genome_not_runnable :
    ¬ ∀ calls : List Call, ∀ {ownerId companionId : String} {owner : OwnerRow},
      (replay .plain calls .empty).tables.workspace.owners.get? ownerId = some owner →
      owner.status = .active → owner.defaultCompanionId = some companionId →
      ∃ snapshot,
        ownerDefaultRuntimeSnapshot .plain (replay .plain calls .empty).tables.workspace ownerId =
          .ok snapshot := by
  intro runnable
  let w := (replay .plain (numbered (secondGenomeCommands " g_2")) .empty).tables.workspace
  have stored : (w.owners.get? "owner").map (fun row => (row.status, row.defaultCompanionId)) =
      some (.active, some "c_owner") := by
    decide +kernel
  have refused : (ownerDefaultRuntimeSnapshot .plain w "owner").toOption = none := by
    decide +kernel
  obtain ⟨owner, found, state⟩ := Option.map_eq_some_iff.mp stored
  obtain ⟨active, pointed⟩ := Prod.mk.inj state
  obtain ⟨snapshot, answered⟩ := runnable _ found active pointed
  have same : ownerDefaultRuntimeSnapshot .plain w "owner" = .ok snapshot := answered
  rw [same] at refused
  cases refused

end EidolonData
