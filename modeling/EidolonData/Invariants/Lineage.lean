import EidolonData.Invariants.Chapters
import EidolonData.Services.Persona
import Mathlib.Data.List.Perm.Subperm

/-!
# The origin of a genome

The walk of `reset_to_origin` along the bases.  Where the links are sound it
never meets a genome twice and never leaves the Companion, so that it ends at
the one origin.
-/

namespace EidolonData

open Relational

/-- The base the walk goes on to; an empty id is none. -/
def Chapters.onward (c : Chapters) (genomeId : String) : Option String :=
  (c.base genomeId).filter (fun base => base ≠ "")

structure Chapters.OriginatesIn (c : Chapters) (start origin : PersonaGenomeRow) : Prop where
  stored : c.genomes.get? origin.genomeId = some origin
  own : origin.companionId = start.companionId
  path : Relation.ReflTransGen (Linked c.onward) start.genomeId origin.genomeId
  first : Root c.onward origin.genomeId

variable {sdk : Sdk} {trusted : Prop} {c : Chapters}

theorem Chapters.onward_iff {child above : String} :
    Linked c.onward child above ↔ Linked c.base child above ∧ above ≠ "" := by
  simp only [Linked, Chapters.onward, Option.filter_eq_some_iff, decide_eq_true_eq]

theorem Chapters.Sound.onward_ranked (sound : c.Sound sdk trusted) : Ranked c.onward :=
  sound.ranked.mono (fun _ _ link => (Chapters.onward_iff.mp link).1)

theorem Chapters.OriginatesIn.unique {start first second : PersonaGenomeRow}
    (fromFirst : c.OriginatesIn start first) (fromSecond : c.OriginatesIn start second) :
    first = second := by
  have same := Root.unique fromFirst.path fromSecond.path fromFirst.first fromSecond.first
  have stored := fromFirst.stored
  rw [same, fromSecond.stored, Option.some.injEq] at stored
  exact stored.symm

theorem Chapters.OriginatesIn.above {start base origin : PersonaGenomeRow}
    (fromBase : c.OriginatesIn base origin) (own : base.companionId = start.companionId)
    (link : Linked c.onward start.genomeId base.genomeId) : c.OriginatesIn start origin :=
  { stored := fromBase.stored
    own := fromBase.own.trans own
    path := .head link fromBase.path
    first := fromBase.first }

theorem Chapters.onward_of_stored {genome : PersonaGenomeRow}
    (stored : c.genomes.get? genome.genomeId = some genome) :
    c.onward genome.genomeId = genome.baseGenomeId.filter (fun base => base ≠ "") := by
  rw [Chapters.onward, Chapters.base, stored, Option.bind_some]

theorem Chapters.originatesIn_self {genome : PersonaGenomeRow}
    (stored : c.genomes.get? genome.genomeId = some genome)
    (first : genome.baseGenomeId.filter (fun base => base ≠ "") = none) :
    c.OriginatesIn genome genome :=
  { stored := stored
    own := rfl
    path := .refl
    first := (Chapters.onward_of_stored stored).trans first }

theorem PersonaGenomeRow.noBase {genome : PersonaGenomeRow}
    (first : genome.baseGenomeId.filter (fun base => base ≠ "") = none) :
    genome.baseGenomeId.getD "" = "" := by
  cases named : genome.baseGenomeId with
  | none => rfl
  | some base =>
      rw [named] at first
      simpa using first

/-- The walk has met stored genomes only, each of them once and each below the
one it is at; with a step for every genome it has not met it ends at the
origin. -/
theorem originOf_walks (sound : c.Sound sdk trusted) (steps : Nat) (visited : List String)
    (start : PersonaGenomeRow) (stored : c.genomes.get? start.genomeId = some start)
    (below : ∀ met ∈ visited, Relation.TransGen (Linked c.onward) met start.genomeId)
    (known : ∀ met ∈ visited, met ∈ c.genomes.rows.map key) (once : visited.Nodup)
    (enough : c.genomes.rows.length < visited.length + steps) :
    c.OriginatesIn start (originOf c.genomes start.companionId steps visited start) := by
  induction steps generalizing visited start with
  | zero =>
      have fits := (once.subperm known).length_le
      rw [List.length_map] at fits
      omega
  | succ steps induction =>
      have acyclic := sound.onward_ranked.acyclic
      have unmet : start.genomeId ∉ visited := fun met => acyclic _ (below _ met)
      unfold originOf
      split
      · next absent => exact Chapters.originatesIn_self stored (by rw [absent]; rfl)
      · next above named =>
          by_cases empty : above = ""
          · rw [if_pos (Or.inl empty)]
            exact Chapters.originatesIn_self stored (by simp [named, empty])
          · have link : Linked c.onward start.genomeId above := by
              show c.onward start.genomeId = some above
              rw [Chapters.onward_of_stored stored, named]
              simp [empty]
            have ahead : above ∉ visited := fun met => acyclic _ ((below _ met).tail link)
            obtain ⟨parent, found, own⟩ := sound.based stored named
            have parentNamed : parent.genomeId = above := Table.key_of_get? found
            rw [if_neg (by simp [empty, ahead]), found, Option.filter_some,
              if_pos (decide_eq_true own)]
            subst parentNamed
            rw [← own]
            refine Chapters.OriginatesIn.above ?_ own link
            apply induction (start.genomeId :: visited) parent found
            · intro met member
              rcases List.mem_cons.mp member with same | member
              · rw [same]
                exact .single link
              · exact (below met member).tail link
            · intro met member
              rcases List.mem_cons.mp member with same | member
              · rw [same]
                exact List.mem_map_of_mem (Table.mem_of_get? stored)
              · exact known met member
            · exact List.nodup_cons.mpr ⟨unmet, once⟩
            · rw [List.length_cons]
              omega

/-- The walk of `reset_to_origin` ends at the origin. -/
theorem originOf_originates (sound : c.Sound sdk trusted) {start : PersonaGenomeRow}
    (stored : c.genomes.get? start.genomeId = some start) :
    c.OriginatesIn start
      (originOf c.genomes start.companionId (c.genomes.rows.length + 1) [] start) := by
  refine originOf_walks sound _ [] start stored ?_ ?_ List.nodup_nil ?_
  · intro met member
    cases member
  · intro met member
    cases member
  · rw [List.length_nil]
    omega

end EidolonData
