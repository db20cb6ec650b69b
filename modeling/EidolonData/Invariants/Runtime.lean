import EidolonData.Invariants.Default
import EidolonData.Invariants.Realms

/-!
# What a runtime starts from

Every Companion has a committed genome of its own and a configuration that
validates, under identifiers the snapshot can carry.  With the shared realm
and the default pointer this is all the default snapshot of an Owner checks.
-/

namespace EidolonData

open Relational

/-- An id that `strip()` leaves alone and the response model accepts. -/
def plainGenomeId (genomeId : String) : Prop :=
  strip genomeId = genomeId ∧ genomeId ≠ "" ∧ genomeId.length ≤ 64

/-- New genomes are named by plain ids. -/
def Permits.namingPlainly : Permits :=
  { moves := fun _ _ _ => True
    genomeIds := plainGenomeId
    silent := True
    handed := fun _ _ _ => id
    retired := fun _ _ _ => trivial
    generated := fun _ => matchesGeneratedId_solid }

/-- A Companion's current genome is a committed one of its own. -/
def Workspace.HasGenome (w : Workspace) (companion : CompanionRow) : Prop :=
  ∃ genome, w.personaGenomes.get? genome.genomeId = some genome ∧
    companion.currentGenomeId = some genome.genomeId ∧
    genome.companionId = companion.companionId ∧ genome.status = .committed

structure Workspace.RuntimeSound (sdk : Sdk) (permits : Permits) (w : Workspace) : Prop where
  ownerFits : ∀ {ownerId owner}, w.owners.get? ownerId = some owner →
    fieldFits owner.ownerId 64 = true
  companionFits : ∀ {companionId companion}, w.companions.get? companionId = some companion →
    fieldFits companion.companionId 64 = true
  genomeNamed : ∀ {genomeId genome}, w.personaGenomes.get? genomeId = some genome →
    permits.genomeIds genomeId
  genomeHashed : ∀ {genomeId genome}, w.personaGenomes.get? genomeId = some genome →
    ∃ document, genome.genomeHash = sdk.personaGenomeHash document
  current : ∀ {companionId companion}, w.companions.get? companionId = some companion →
    w.HasGenome companion
  configured : ∀ {companionId companion}, w.companions.get? companionId = some companion →
    ∃ preferences, validateRuntimeConfig sdk companion.runtimeConfigJson = .ok preferences

variable {sdk : Sdk} {permits : Permits} {w w' : Workspace}

theorem Change.ownerFits (change : Change sdk permits w w') (sound : w.RuntimeSound sdk permits)
    {ownerId : String} {owner : OwnerRow} (found : w'.owners.get? ownerId = some owner) :
    fieldFits owner.ownerId 64 = true := by
  have before : ∀ {old : OwnerRow}, w.owners.get? owner.ownerId = some old →
      fieldFits owner.ownerId 64 = true := by
    intro old oldFound
    have same : old.ownerId = owner.ownerId := Table.key_of_get? oldFound
    rw [← same]
    exact sound.ownerFits oldFound
  cases change.owner_origin found with
  | stored old oldFound status default => exact before oldFound
  | created fresh active unset fits => exact fits
  | pointed old companion oldFound rewritten target answers => exact before oldFound

theorem Change.hasGenome (change : Change sdk permits w w') (sound : w.RuntimeSound sdk permits)
    {companionId : String} {companion : CompanionRow}
    (found : w'.companions.get? companionId = some companion) : w'.HasGenome companion := by
  -- the genome there was is committed, so the change left it
  have before : ∀ {old : CompanionRow}, w.companions.get? companion.companionId = some old →
      companion.currentGenomeId = old.currentGenomeId → w'.HasGenome companion := by
    intro old oldFound same
    obtain ⟨genome, stored, pointed, own, committed⟩ := sound.current oldFound
    have sameCompanion : old.companionId = companion.companionId := Table.key_of_get? oldFound
    exact ⟨genome, change.decided_stays stored (by rw [committed]; simp), same.trans pointed,
      own.trans sameCompanion, committed⟩
  cases change.companion_origin found with
  | stored old oldFound ownerId kind lifecycle realm config genome guarded =>
      cases genome with
      | same same => exact before oldFound same
      | advanced genome pointed stored own committed uncommitted =>
          exact ⟨genome, stored, pointed, own, committed⟩
  | moved old target oldFound rewritten notDefault permitted =>
      refine before oldFound ?_
      rw [rewritten]
      rfl
  | provisioned owner genome realm rows genomeStored realmStored realmShared =>
      exact ⟨genome, genomeStored, rows.companionGenome, rows.genomeCompanion,
        rows.genomeCommitted⟩

theorem Change.configured (change : Change sdk permits w w') (sound : w.RuntimeSound sdk permits)
    {companionId : String} {companion : CompanionRow}
    (found : w'.companions.get? companionId = some companion) :
    ∃ preferences, validateRuntimeConfig sdk companion.runtimeConfigJson = .ok preferences := by
  cases change.companion_origin found with
  | stored old oldFound ownerId kind lifecycle realm config genome guarded =>
      cases config with
      | same same =>
          rw [same]
          exact sound.configured oldFound
      | revised revision read written valid => exact valid
  | moved old target oldFound rewritten notDefault permitted =>
      have valid := sound.configured oldFound
      rw [rewritten]
      exact valid
  | provisioned owner genome realm rows genomeStored realmStored realmShared =>
      exact rows.companionConfig

theorem Change.companionFits (change : Change sdk permits w w')
    (sound : w.RuntimeSound sdk permits) {companionId : String} {companion : CompanionRow}
    (found : w'.companions.get? companionId = some companion) :
    fieldFits companion.companionId 64 = true := by
  have before : ∀ {old : CompanionRow}, w.companions.get? companion.companionId = some old →
      fieldFits companion.companionId 64 = true := by
    intro old oldFound
    have same : old.companionId = companion.companionId := Table.key_of_get? oldFound
    rw [← same]
    exact sound.companionFits oldFound
  cases change.companion_origin found with
  | stored old oldFound ownerId kind lifecycle realm config genome guarded => exact before oldFound
  | moved old target oldFound rewritten notDefault permitted => exact before oldFound
  | provisioned owner genome realm rows genomeStored realmStored realmShared =>
      exact rows.companionFits

theorem Change.runtimeSound (change : Change sdk permits w w')
    (sound : w.RuntimeSound sdk permits) : w'.RuntimeSound sdk permits := by
  refine
    { ownerFits := change.ownerFits sound
      companionFits := change.companionFits sound
      genomeNamed := ?_
      genomeHashed := ?_
      current := change.hasGenome sound
      configured := change.configured sound }
  · intro genomeId genome found
    have same : genome.genomeId = genomeId := Table.key_of_get? found
    subst same
    cases change.genome_origin found with
    | stored old oldFound precedes => exact sound.genomeNamed oldFound
    | added inserted => exact inserted.permitted
  · intro genomeId genome found
    cases change.genome_origin found with
    | stored old oldFound precedes =>
        rw [precedes.hash]
        exact sound.genomeHashed oldFound
    | added inserted => exact ⟨_, inserted.hashed⟩

theorem runtimeSound_archived {owner : OwnerRow} (now : Timestamp)
    (stored : w.owners.get? owner.ownerId = some owner) (sound : w.RuntimeSound sdk permits) :
    (w.archiveOwner now owner).RuntimeSound sdk permits := by
  refine
    { ownerFits := ?_
      companionFits := ?_
      genomeNamed := sound.genomeNamed
      genomeHashed := sound.genomeHashed
      current := ?_
      configured := ?_ }
  · intro ownerId row found
    rcases (archiveOwner_stores stored).of_get? found with ⟨-, rfl⟩ | ⟨-, before⟩
    · have fits := sound.ownerFits stored
      exact fits
    · exact sound.ownerFits before
  · intro companionId companion found
    obtain ⟨old, oldFound, ⟨-, -, rfl⟩ | ⟨-, rfl⟩⟩ := archiveOwner_companion found
    · have fits := sound.companionFits oldFound
      exact fits
    · exact sound.companionFits oldFound
  · intro companionId companion found
    obtain ⟨old, oldFound, ⟨-, -, rfl⟩ | ⟨-, rfl⟩⟩ := archiveOwner_companion found
    · have genome := sound.current oldFound
      exact genome
    · exact sound.current oldFound
  · intro companionId companion found
    obtain ⟨old, oldFound, ⟨-, -, rfl⟩ | ⟨-, rfl⟩⟩ := archiveOwner_companion found
    · have valid := sound.configured oldFound
      exact valid
    · exact sound.configured oldFound

theorem runtimeSound_removed {doomed : Doomed} (removal : Removal doomed w w')
    (sound : w.RuntimeSound sdk permits) : w'.RuntimeSound sdk permits := by
  refine
    { ownerFits := ?_
      companionFits := ?_
      genomeNamed := ?_
      genomeHashed := ?_
      current := ?_
      configured := ?_ }
  · intro ownerId owner found
    obtain ⟨old, oldFound, -⟩ := removal.owner found
    have same : owner.ownerId = ownerId := Table.key_of_get? found
    have sameOld : old.ownerId = ownerId := Table.key_of_get? oldFound
    rw [same, ← sameOld]
    exact sound.ownerFits oldFound
  · intro companionId companion found
    obtain ⟨old, oldFound, -⟩ := removal.companion found
    have same : companion.companionId = companionId := Table.key_of_get? found
    have sameOld : old.companionId = companionId := Table.key_of_get? oldFound
    rw [same, ← sameOld]
    exact sound.companionFits oldFound
  · intro genomeId genome found
    obtain ⟨old, oldFound, -⟩ := removal.genome found
    exact sound.genomeNamed oldFound
  · intro genomeId genome found
    obtain ⟨old, oldFound, kept⟩ := removal.genome found
    rw [kept.genomeHash]
    exact sound.genomeHashed oldFound
  · intro companionId companion found
    obtain ⟨old, oldFound, -, -, kept⟩ := removal.companion found
    obtain ⟨genome, stored, pointed, own, committed⟩ := sound.current oldFound
    have same : companion.companionId = companionId := Table.key_of_get? found
    have sameOld : old.companionId = companionId := Table.key_of_get? oldFound
    have stays : w'.companions.get? genome.companionId = some companion := by
      rw [own, sameOld]
      exact found
    obtain ⟨genome', genomeFound, genomeKept⟩ := removal.genomeStays stored stays
    refine ⟨genome', ?_, ?_, ?_, genomeKept.status.trans committed⟩
    · rw [genomeKept.genomeId]
      exact genomeFound
    · rw [genomeKept.genomeId]
      exact kept.genome pointed stored own
    · rw [genomeKept.companionId, own, sameOld, same]
  · intro companionId companion found
    obtain ⟨old, oldFound, -, -, kept⟩ := removal.companion found
    rw [kept.config]
    exact sound.configured oldFound

theorem runtimeSound_invariant :
    Invariant sdk permits (Workspace.RuntimeSound sdk permits) :=
  { change := Change.runtimeSound
    archived := fun now stored _ sound => runtimeSound_archived now stored sound
    removed := runtimeSound_removed }

theorem runtimeSound_empty : Database.empty.tables.workspace.RuntimeSound sdk permits := by
  refine
    { ownerFits := ?_
      companionFits := ?_
      genomeNamed := ?_
      genomeHashed := ?_
      current := ?_
      configured := ?_ }
  · intro ownerId owner found
    cases found
  · intro companionId companion found
    cases found
  · intro genomeId genome found
    cases found
  · intro genomeId genome found
    cases found
  · intro companionId companion found
    cases found
  · intro companionId companion found
    cases found

end EidolonData
