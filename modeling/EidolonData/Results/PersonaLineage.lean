import EidolonData.Effects.ChapterCommands
import EidolonData.Invariants.Lineage

/-!
# Where the genomes come from

After every run of commands the base of a stored genome is stored and of the
same Companion, and no genome comes from itself.  So the walk of
`reset_to_origin` ends at one origin, however many steps it may take.
-/

namespace EidolonData

open Relational

/-- The bases of the stored genomes are stored with their Companion, no genome
descends from itself, and the walk back ends at the one origin it descends
from, however many steps it is given. -/
theorem genome_lineage (sdk : Sdk) (calls : List Call) :
    (∀ {genomeId genome baseGenomeId},
      (replay sdk calls .empty).tables.workspace.personaGenomes.get? genomeId = some genome →
      genome.baseGenomeId = some baseGenomeId →
      ∃ base,
        (replay sdk calls .empty).tables.workspace.personaGenomes.get? baseGenomeId = some base ∧
        base.companionId = genome.companionId) ∧
    (∀ genomeId, ¬ Relation.TransGen (Linked (replay sdk calls .empty).tables.chapters.base)
      genomeId genomeId) ∧
    ∀ {genome},
      (replay sdk calls .empty).tables.workspace.personaGenomes.get? genome.genomeId =
        some genome →
      ∃ origin,
        (replay sdk calls .empty).tables.workspace.personaGenomes.get? origin.genomeId =
          some origin ∧
        origin.companionId = genome.companionId ∧ origin.baseGenomeId.getD "" = "" ∧
        Relation.ReflTransGen (Linked (replay sdk calls .empty).tables.chapters.base)
          genome.genomeId origin.genomeId ∧
        ∀ steps,
          (replay sdk calls .empty).tables.workspace.personaGenomes.rows.length < steps →
          originOf (replay sdk calls .empty).tables.workspace.personaGenomes genome.companionId
            steps [] genome = origin := by
  have sound : (replay sdk calls .empty).tables.chapters.Sound sdk False :=
    replay_chaptersSound False.elim calls False.elim
  refine ⟨sound.based, sound.ranked.acyclic, ?_⟩
  intro genome stored
  have originates := originOf_originates sound stored
  refine ⟨_, originates.stored, originates.own, ?_, ?_, ?_⟩
  · have first := originates.first
    rw [Root, Chapters.onward_of_stored originates.stored] at first
    exact PersonaGenomeRow.noBase first
  · exact Relation.ReflTransGen.mono (fun _ _ link => (Chapters.onward_iff.mp link).1) _ _
      originates.path
  · intro steps enough
    refine Chapters.OriginatesIn.unique ?_ originates
    refine originOf_walks sound steps [] genome stored ?_ ?_ List.nodup_nil ?_
    · intro met member
      cases member
    · intro met member
      cases member
    · rw [List.length_nil, Nat.zero_add]
      exact enough

end EidolonData
