import EidolonData.Effects.Histories
import EidolonData.Invariants.Runtime

/-!
# The genome a Companion points at

A Companion moves to a genome that was not committed before, and the genome
it leaves stays committed, so it never moves there again.
-/

namespace EidolonData

open Relational

/-- A committed genome of a Companion that does not point at it. -/
structure Workspace.HasLeft (w : Workspace) (companionId genomeId : String) : Prop where
  genome : ∃ genome, w.personaGenomes.get? genomeId = some genome ∧
    genome.companionId = companionId ∧ genome.status = .committed
  apart : ¬ w.PointsAt companionId genomeId

section Effects

variable {sdk : Sdk} {permits : Permits} {w w' : Workspace} {companionId genomeId : String}

theorem Change.hasLeft (change : Change sdk permits w w') (left : w.HasLeft companionId genomeId) :
    w'.HasLeft companionId genomeId := by
  obtain ⟨genome, stored, own, committed⟩ := left.genome
  have named : genome.genomeId = genomeId := Table.key_of_get? stored
  subst named
  refine
    { genome := ⟨genome, change.decided_stays stored (by rw [committed]; simp), own, committed⟩
      apart := ?_ }
  rintro ⟨new, found, pointed⟩
  have sameNew : new.companionId = companionId := Table.key_of_get? found
  have oldApart : ∀ {old : CompanionRow}, w.companions.get? new.companionId = some old →
      old.currentGenomeId ≠ some genome.genomeId := by
    intro old oldFound oldPointed
    rw [sameNew] at oldFound
    exact left.apart ⟨old, oldFound, oldPointed⟩
  cases change.companion_origin found with
  | stored old oldFound _ _ _ _ _ pointer _ =>
      cases pointer with
      | same same => exact oldApart oldFound (same.symm.trans pointed)
      | advanced next nextPointed _ _ _ uncommitted =>
          rw [nextPointed, Option.some.injEq] at pointed
          obtain ⟨proposed, -⟩ := uncommitted genome (by rw [pointed]; exact stored)
          rw [committed] at proposed
          cases proposed
  | moved old target oldFound same _ _ =>
      rw [same] at pointed
      exact oldApart oldFound pointed
  | provisioned owner first realm rows _ _ _ =>
      have sameGenome : first.genomeId = genome.genomeId :=
        Option.some.inj (rows.companionGenome.symm.trans pointed)
      have fresh := rows.genomeInserted.fresh
      rw [sameGenome, stored] at fresh
      cases fresh

theorem Changes.hasLeft (changes : Changes sdk permits w w')
    (left : w.HasLeft companionId genomeId) : w'.HasLeft companionId genomeId :=
  changes.preserve Change.hasLeft left

theorem archiveOwner_pointsAt {owner : OwnerRow} {now : Timestamp}
    (points : (w.archiveOwner now owner).PointsAt companionId genomeId) :
    w.PointsAt companionId genomeId := by
  obtain ⟨new, found, pointed⟩ := points
  obtain ⟨old, stored, ⟨-, -, rfl⟩ | ⟨-, rfl⟩⟩ := archiveOwner_companion found
  · exact ⟨old, stored, pointed⟩
  · exact ⟨new, stored, pointed⟩

theorem Removal.pointsAt {doomed : Doomed} (removal : Removal doomed w w')
    (sound : w.RuntimeSound sdk permits) (points : w'.PointsAt companionId genomeId) :
    w.PointsAt companionId genomeId := by
  obtain ⟨new, found, pointed⟩ := points
  obtain ⟨old, stored, -, -, spared⟩ := removal.companion found
  obtain ⟨genome, genomeStored, current, own, -⟩ := sound.current stored
  have same := spared.genome current genomeStored own
  rw [pointed] at same
  exact ⟨old, stored, current.trans same.symm⟩

theorem Command.Effect.hasLeft {command : Command} (effect : command.Effect sdk permits w w')
    (sound : w.RuntimeSound sdk permits) (lasts : w'.companions.has companionId = true)
    (left : w.HasLeft companionId genomeId) : w'.HasLeft companionId genomeId := by
  have stays : ∃ genome, w'.personaGenomes.get? genomeId = some genome ∧
      genome.companionId = companionId ∧ genome.status = .committed := by
    obtain ⟨genome, stored, own, committed⟩ := left.genome
    rw [← own] at lasts
    obtain ⟨kept, found, keeps⟩ := effect.genome_stays stored lasts
    refine ⟨kept, found, keeps.companionId.trans own, ?_⟩
    rw [keeps.status (by rw [committed]; simp)]
    exact committed
  cases command with
  | archiveOwner ownerId =>
      rcases effect with rfl | ⟨owner, now, -, -, rfl⟩
      · exact left
      · exact ⟨stays, fun points => left.apart (archiveOwner_pointsAt points)⟩
  | deleteOwner ownerId =>
      rcases effect with rfl | removal
      · exact left
      · exact ⟨stays, fun points => left.apart (removal.pointsAt sound points)⟩
  | deleteCompanion ownerId other allowDefault =>
      exact ⟨stays, fun points => left.apart (effect.1.pointsAt sound points)⟩
  | _ => exact Changes.hasLeft effect left

theorem Command.Effect.pointed {command : Command} (effect : command.Effect sdk permits w w')
    (sound : w.RuntimeSound sdk permits) (lasts : w'.companions.has companionId = true)
    (points : w.PointsAt companionId genomeId) :
    w'.PointsAt companionId genomeId ∨ w'.HasLeft companionId genomeId := by
  by_cases still : w'.PointsAt companionId genomeId
  · exact Or.inl still
  · right
    obtain ⟨old, found, current⟩ := points
    obtain ⟨genome, stored, pointed, own, committed⟩ := sound.current found
    have named : old.companionId = companionId := Table.key_of_get? found
    have same : genome.genomeId = genomeId := Option.some.inj (pointed.symm.trans current)
    rw [named] at own
    rw [← own] at lasts
    obtain ⟨kept, keptFound, keeps⟩ := effect.genome_stays stored lasts
    rw [same] at keptFound
    refine ⟨⟨kept, keptFound, keeps.companionId.trans own, ?_⟩, still⟩
    rw [keeps.status (by rw [committed]; simp)]
    exact committed

end Effects

section Runs

variable {sdk : Sdk} {companionId genomeId : String} {calls : List Call} {db : Database}

/-- What a run makes of the genomes a Companion has been at. -/
structure Workspace.Advances (companionId genomeId : String) (w w' : Workspace) : Prop where
  left : w.HasLeft companionId genomeId → w'.HasLeft companionId genomeId
  pointed : w.PointsAt companionId genomeId →
    w'.PointsAt companionId genomeId ∨ w'.HasLeft companionId genomeId

theorem replay_advances (sound : db.tables.workspace.RuntimeSound sdk .all)
    (lasts : CompanionLasts sdk companionId calls db)
    (final : (replay sdk calls db).tables.workspace.companions.has companionId = true) :
    db.tables.workspace.Advances companionId genomeId (replay sdk calls db).tables.workspace := by
  refine Heeds.relates (fun w => w.companions.has companionId = true)
    (Workspace.Advances companionId genomeId) runtimeSound_invariant ?_ ?_
      (fun _ _ allowed => allowed)
    ?_ (heeds_all sdk calls db) lasts sound final
  · intro w
    exact ⟨id, Or.inl⟩
  · intro first second third _ one two
    refine ⟨fun left => two.left (one.left left), ?_⟩
    intro points
    rcases one.pointed points with still | left
    · exact two.pointed still
    · exact Or.inr (two.left left)
  · intro w w' command valid _ _ after effect
    exact ⟨effect.hasLeft valid after, effect.pointed valid after⟩

theorem replay_apart (sound : db.tables.workspace.RuntimeSound sdk .all)
    (lasts : CompanionLasts sdk companionId calls db)
    (left : db.tables.workspace.HasLeft companionId genomeId) :
    ¬ (replay sdk calls db).tables.workspace.PointsAt companionId genomeId := by
  intro points
  have final : (replay sdk calls db).tables.workspace.companions.has companionId = true := by
    obtain ⟨new, found, -⟩ := points
    exact Table.has_of_get? found
  exact ((replay_advances sound lasts final).left left).apart points

end Runs

end EidolonData
