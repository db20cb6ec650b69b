import EidolonData.Workspace.Chapters

/-!
# The links and the marks stay sound

A stored genome after a step was stored before, with its base, its source and
its document, or the step has added it with its guard; and it stays as long as
its Companion does.  Each part of `Chapters.Sound` is preserved by these two.
-/

namespace EidolonData

open Relational

variable {sdk : Sdk} {trusted : Prop} {c c' : Chapters}

/-- A genome row as later commands leave it. -/
structure PersonaGenomeRow.Stays (old new : PersonaGenomeRow) : Prop where
  genomeId : new.genomeId = old.genomeId
  companionId : new.companionId = old.companionId
  base : new.baseGenomeId = old.baseGenomeId
  source : new.sourceJson = old.sourceJson
  document : new.genomeJson = old.genomeJson
  status : new.status = old.status ∨ old.status = .proposed

namespace PersonaGenomeRow.Stays

variable {old new target target' : PersonaGenomeRow}

theorem refl (genome : PersonaGenomeRow) : genome.Stays genome :=
  { genomeId := rfl
    companionId := rfl
    base := rfl
    source := rfl
    document := rfl
    status := Or.inl rfl }

theorem restoredFrom (stays : old.Stays new) : new.restoredFrom = old.restoredFrom := by
  rw [PersonaGenomeRow.restoredFrom, stays.source, PersonaGenomeRow.restoredFrom]

theorem committed (stays : old.Stays new) (committed : old.status = .committed) :
    new.status = .committed := by
  rcases stays.status with same | proposed
  · exact same.trans committed
  · rw [committed] at proposed
    cases proposed

theorem restores {name : String} (stays : old.Stays new) (kept : target.Stays target')
    (restores : old.Restores target sdk name) : new.Restores target' sdk name := by
  obtain ⟨own, mark, told, again, read, reread, same⟩ := restores
  refine
    { own := ?_
      mark := ?_
      retells := ⟨told, again, ?_, ?_, same⟩ }
  · rw [kept.companionId, own, stays.companionId]
  · rw [stays.restoredFrom, mark, kept.genomeId]
  · rw [kept.document]
    exact read
  · rw [stays.document]
    exact reread

end PersonaGenomeRow.Stays

structure ChapterAdded (sdk : Sdk) (trusted : Prop) (c : Chapters) (genome : PersonaGenomeRow) :
    Prop where
  fresh : c.genomes.get? genome.genomeId = none
  based : ∀ base, genome.baseGenomeId = some base →
    ∃ parent, c.genomes.get? base = some parent ∧ parent.companionId = genome.companionId
  committed : trusted → genome.restoredFrom ≠ none → genome.status = .committed
  restored : trusted → genome.restoredFrom ≠ none → genome.baseGenomeId ≠ none →
    ∃ target name, c.genomes.get? target.genomeId = some target ∧ genome.Restores target sdk name

inductive ChapterOrigin (sdk : Sdk) (trusted : Prop) (c : Chapters) (genomeId : String)
    (new : PersonaGenomeRow) : Prop where
  | stored (old : PersonaGenomeRow) (found : c.genomes.get? genomeId = some old)
      (stays : old.Stays new)
  | added (named : new.genomeId = genomeId) (added : ChapterAdded sdk trusted c new)

theorem ChapterOrigin.of_stores {genomeId : String} {new genome : PersonaGenomeRow}
    (genomes : Table.Stores c.genomes c'.genomes genome) (added : ChapterAdded sdk trusted c genome)
    (found : c'.genomes.get? genomeId = some new) : ChapterOrigin sdk trusted c genomeId new := by
  rcases genomes.of_get? found with ⟨named, same⟩ | ⟨-, before⟩
  · rw [same]
    exact .added named.symm added
  · exact .stored new before (.refl new)

theorem PersonaGenomeRow.Stays.decided {old new : PersonaGenomeRow}
    (proposed : old.status = .proposed)
    (rewritten : new =
      { old with
        status := new.status
        changeSummary := new.changeSummary
        appliedEventId := new.appliedEventId }) : old.Stays new := by
  rw [rewritten]
  exact
    { genomeId := rfl
      companionId := rfl
      base := rfl
      source := rfl
      document := rfl
      status := Or.inr proposed }

theorem Chapters.Sound.stays_removed (sound : c.Sound sdk trusted)
    (stays : ∀ {genomeId old}, c.genomes.get? genomeId = some old →
      c'.personas old.companionId ≠ none → c'.genomes.has genomeId = true)
    {genomeId : String} {old : PersonaGenomeRow} (found : c.genomes.get? genomeId = some old)
    (spared : c'.personas old.companionId ≠ none) :
    old.Stays { old with baseGenomeId := old.baseGenomeId.filter c'.genomes.has } := by
  refine
    { PersonaGenomeRow.Stays.refl old with
      base := ?_ }
  cases base : old.baseGenomeId with
  | none => rfl
  | some base' =>
      obtain ⟨parent, stored, own⟩ := sound.based found base
      have kept : c'.genomes.has base' = true := by
        apply stays stored
        rw [own]
        exact spared
      simp [kept]

theorem ChapterStep.genome_origin (step : ChapterStep sdk trusted c c')
    (sound : c.Sound sdk trusted)
    (housed : c'.Housed) {genomeId : String} {new : PersonaGenomeRow}
    (found : c'.genomes.get? genomeId = some new) : ChapterOrigin sdk trusted c genomeId new := by
  cases step with
  | kept same =>
      rw [same] at found
      exact .stored new found (.refl new)
  | provisioned persona genome newcomer fresh first committed points genomes personas =>
      refine .of_stores genomes ?_ found
      refine
        { fresh := fresh
          based := ?_
          committed := fun _ _ => committed
          restored := fun _ _ based => absurd first based }
      intro base named
      rw [first] at named
      cases named
  | added genome fresh based unmarked genomes follows =>
      refine .of_stores genomes ?_ found
      exact
        { fresh := fresh
          based := based
          committed := fun trust marked => absurd (unmarked trust) marked
          restored := fun trust marked => absurd (unmarked trust) marked }
  | decided old decided oldFound proposed rewritten genomes follows =>
      rcases genomes.of_get? found with ⟨named, same⟩ | ⟨-, before⟩
      · have stays := PersonaGenomeRow.Stays.decided proposed rewritten
        rw [same]
        refine .stored old ?_ stays
        rw [named, key_genome, stays.genomeId]
        exact oldFound
      · exact .stored new before (.refl new)
  | appended persona current genome name known points stored own fresh base committed marked
      genomes personas =>
      refine .of_stores genomes ?_ found
      refine
        { fresh := fresh
          based := ?_
          committed := fun _ _ => committed
          restored := ?_ }
      · intro other named
        rw [base] at named
        cases named
        exact ⟨current, stored, own⟩
      · intro trust mark _
        obtain ⟨target, targetFound, restores⟩ := (marked trust).resolve_left mark
        exact ⟨target, name, targetFound, restores⟩
  | renamed persona current name content known points stored reads named genomes personas =>
      rw [genomes] at found
      exact .stored new found (.refl new)
  | removed genome stays persona =>
      obtain ⟨old, stored, rewritten⟩ := genome found
      have spared : c'.personas old.companionId ≠ none := by
        have present := housed.genome found
        rw [rewritten] at present
        exact present
      rw [rewritten]
      exact .stored old stored (sound.stays_removed stays stored spared)

theorem Chapters.stays_of_stores {genomeId : String} {old genome : PersonaGenomeRow}
    (genomes : Table.Stores c.genomes c'.genomes genome)
    (fresh : c.genomes.get? genome.genomeId = none)
    (found : c.genomes.get? genomeId = some old) :
    ∃ new, c'.genomes.get? genomeId = some new ∧ old.Stays new :=
  ⟨old, genomes.kept fresh found, .refl old⟩

theorem ChapterStep.genome_stays (step : ChapterStep sdk trusted c c') (sound : c.Sound sdk trusted)
    {genomeId : String} {old : PersonaGenomeRow} (found : c.genomes.get? genomeId = some old)
    (spared : c'.personas old.companionId ≠ none) :
    ∃ new, c'.genomes.get? genomeId = some new ∧ old.Stays new := by
  cases step with
  | kept same =>
      rw [same]
      exact ⟨old, found, .refl old⟩
  | provisioned persona genome newcomer fresh first committed points genomes personas =>
      exact Chapters.stays_of_stores genomes fresh found
  | added genome fresh based unmarked genomes follows =>
      exact Chapters.stays_of_stores genomes fresh found
  | decided proposal new proposalFound proposed rewritten genomes follows =>
      have stays := PersonaGenomeRow.Stays.decided proposed rewritten
      by_cases same : genomeId = proposal.genomeId
      · rw [same, proposalFound, Option.some.injEq] at found
        rw [← found, same]
        refine ⟨new, ?_, stays⟩
        rw [← stays.genomeId]
        exact genomes.self
      · refine ⟨old, ?_, .refl old⟩
        rw [genomes.other (by rw [key_genome, stays.genomeId]; exact same)]
        exact found
  | appended persona current genome name known points stored own fresh base committed marked
      genomes personas =>
      exact Chapters.stays_of_stores genomes fresh found
  | renamed persona current name content known points stored reads named genomes personas =>
      rw [genomes]
      exact ⟨old, found, .refl old⟩
  | removed genome stays persona =>
      obtain ⟨new, stored⟩ := Table.has_iff.mp (stays found spared)
      obtain ⟨before, beforeFound, rewritten⟩ := genome stored
      rw [found, Option.some.injEq] at beforeFound
      subst beforeFound
      refine ⟨new, stored, ?_⟩
      rw [rewritten]
      exact sound.stays_removed stays found spared

inductive PersonaOrigin (sdk : Sdk) (trusted : Prop) (c c' : Chapters) (companionId : String)
    (new : Persona) : Prop where
  | stored (old : Persona) (found : c.personas companionId = some old)
      (current : ∀ genomeId, new.currentGenomeId = some genomeId →
        old.currentGenomeId = some genomeId)
      (named : new.displayName = old.displayName ∨
        ∃ genome content, old.currentGenomeId = some genome.genomeId ∧
          c.genomes.get? genome.genomeId = some genome ∧
          sdk.normalizePersonaGenome genome.genomeJson = .ok content ∧
          content.name = some new.displayName)
      (settled : ∀ {genomeId genome}, c'.genomes.get? genomeId = some genome →
        genome.companionId = companionId → genome.status = .committed →
        ∃ before, c.genomes.get? genomeId = some before ∧ before.companionId = companionId ∧
          before.status = .committed)
  | moved (genome : PersonaGenomeRow) (points : new.currentGenomeId = some genome.genomeId)
      (found : c'.genomes.get? genome.genomeId = some genome)
      (alone : trusted → genome.restoredFrom ≠ none → genome.baseGenomeId = none →
        ∀ {otherId other}, c'.genomes.get? otherId = some other →
          other.companionId = companionId → otherId = genome.genomeId)
      (named : trusted → genome.restoredFrom ≠ none → genome.baseGenomeId ≠ none →
        ∃ content, sdk.normalizePersonaGenome genome.genomeJson = .ok content ∧
          content.name = some new.displayName)

theorem PersonaOrigin.untouched {companionId : String} {persona : Persona}
    (found : c.personas companionId = some persona)
    (settled : ∀ {genomeId genome}, c'.genomes.get? genomeId = some genome →
      genome.companionId = companionId → genome.status = .committed →
      ∃ before, c.genomes.get? genomeId = some before ∧ before.companionId = companionId ∧
        before.status = .committed) : PersonaOrigin sdk trusted c c' companionId persona :=
  .stored persona found (fun _ => id) (Or.inl rfl) settled

/-- The committed genomes of a Companion around the write of a genome that is
not a committed one of its own. -/
theorem Chapters.settled_of_stores {companionId : String} {written : PersonaGenomeRow}
    (genomes : Table.Stores c.genomes c'.genomes written)
    (apart : written.companionId = companionId → written.status ≠ .committed)
    {genomeId : String} {genome : PersonaGenomeRow}
    (found : c'.genomes.get? genomeId = some genome) (own : genome.companionId = companionId)
    (committed : genome.status = .committed) :
    ∃ before, c.genomes.get? genomeId = some before ∧ before.companionId = companionId ∧
      before.status = .committed := by
  rcases genomes.of_get? found with ⟨-, same⟩ | ⟨-, before⟩
  · rw [same] at own committed
    exact absurd committed (apart own)
  · exact ⟨genome, before, own, committed⟩

theorem Chapters.Follows.origin {genome : PersonaGenomeRow} (follows : c.Follows c' genome)
    (genomes : Table.Stores c.genomes c'.genomes genome)
    (unmarked : trusted → genome.restoredFrom = none)
    {companionId : String} {new : Persona} (found : c'.personas companionId = some new) :
    PersonaOrigin sdk trusted c c' companionId new := by
  rcases follows with ⟨uncommitted, same⟩ | ⟨committed, persona, before, moved⟩
  · rw [same] at found
    exact .untouched found (Chapters.settled_of_stores genomes (fun _ => uncommitted))
  · rw [moved] at found
    by_cases own : companionId = genome.companionId
    · rw [own, Function.update_self, Option.some.injEq] at found
      refine .moved genome ?_ genomes.self ?_ ?_
      · rw [← found]
      · intro trust marked
        exact absurd (unmarked trust) marked
      · intro trust marked
        exact absurd (unmarked trust) marked
    · rw [Function.update_of_ne own] at found
      refine .untouched found (Chapters.settled_of_stores genomes ?_)
      intro same
      exact absurd same.symm own

theorem ChapterStep.persona_origin (step : ChapterStep sdk trusted c c')
    (sound : c.Sound sdk trusted)
    (housed : c.Housed) {companionId : String} {new : Persona}
    (found : c'.personas companionId = some new) :
    PersonaOrigin sdk trusted c c' companionId new := by
  have unchanged : c'.genomes = c.genomes → ∀ {genomeId genome},
      c'.genomes.get? genomeId = some genome → genome.companionId = companionId →
      genome.status = .committed →
      ∃ before, c.genomes.get? genomeId = some before ∧ before.companionId = companionId ∧
        before.status = .committed := by
    intro same genomeId genome stored own committed
    rw [same] at stored
    exact ⟨genome, stored, own, committed⟩
  cases step with
  | kept same =>
      rw [same] at found
      exact .untouched found (unchanged (by rw [same]))
  | provisioned persona genome newcomer fresh first committed points genomes personas =>
      rw [personas] at found
      by_cases own : companionId = genome.companionId
      · rw [own, Function.update_self, Option.some.injEq] at found
        refine .moved genome ?_ genomes.self ?_ ?_
        · rw [← found]
          exact points
        · intro _ _ _ otherId other stored ownToo
          rcases genomes.of_get? stored with ⟨same, -⟩ | ⟨-, before⟩
          · exact same
          · have present := housed.genome before
            rw [ownToo, own, newcomer] at present
            exact absurd rfl present
        · intro _ _ based
          exact absurd first based
      · rw [Function.update_of_ne own] at found
        refine .untouched found (Chapters.settled_of_stores genomes ?_)
        intro same
        exact absurd same.symm own
  | added genome fresh based unmarked genomes follows =>
      exact follows.origin genomes unmarked found
  | decided old decided oldFound proposed rewritten genomes follows =>
      have stays := PersonaGenomeRow.Stays.decided proposed rewritten
      refine follows.origin genomes ?_ found
      intro trust
      rw [stays.restoredFrom]
      by_contra marked
      have committed := sound.marked trust oldFound marked
      rw [proposed] at committed
      cases committed
  | appended persona current genome name known points stored own fresh base committed marked
      genomes personas =>
      rw [personas] at found
      by_cases same : companionId = genome.companionId
      · rw [same, Function.update_self, Option.some.injEq] at found
        refine .moved genome ?_ genomes.self ?_ ?_
        · rw [← found]
        · intro _ _ first
          rw [base] at first
          cases first
        · intro trust mark _
          obtain ⟨target, -, -, -, told, again, -, reread, content⟩ :=
            (marked trust).resolve_left mark
          refine ⟨again, reread, ?_⟩
          rw [Genome.name_of_content content, Genome.name_withName, ← found]
      · rw [Function.update_of_ne same] at found
        refine .untouched found (Chapters.settled_of_stores genomes ?_)
        intro owned
        exact absurd owned.symm same
  | renamed persona current name content known points stored reads named genomes personas =>
      rw [personas] at found
      by_cases same : companionId = current.companionId
      · rw [same, Function.update_self, Option.some.injEq] at found
        rw [same]
        refine .stored persona known ?_ (Or.inr ⟨current, content, points, stored, reads, ?_⟩) ?_
        · intro genomeId pointed
          rw [← found] at pointed
          exact pointed
        · rw [← found]
          exact named
        · rw [← same]
          exact unchanged genomes
      · rw [Function.update_of_ne same] at found
        exact .untouched found (unchanged genomes)
  | removed genome stays persona =>
      obtain ⟨old, stored, rewritten⟩ := persona found
      refine .stored old stored ?_ (Or.inl ?_) ?_
      · intro genomeId pointed
        rw [rewritten] at pointed
        exact (Option.filter_eq_some_iff.mp pointed).1
      · rw [rewritten]
      · intro genomeId other otherFound own committed
        obtain ⟨before, beforeFound, same⟩ := genome otherFound
        rw [same] at own committed
        exact ⟨before, beforeFound, own, committed⟩

theorem Chapters.linked_iff {child above : String} :
    Linked c.base child above ↔
      ∃ genome, c.genomes.get? child = some genome ∧ genome.baseGenomeId = some above :=
  Option.bind_eq_some_iff

theorem ChapterStep.current_stays (step : ChapterStep sdk trusted c c')
    (sound : c.Sound sdk trusted)
    (housed : c.Housed) (housed' : c'.Housed) {companionId : String} {old : Persona}
    {genome : PersonaGenomeRow} (found : c.personas companionId = some old)
    (points : old.currentGenomeId = some genome.genomeId)
    (stored : c'.genomes.get? genome.genomeId = some genome) :
    ∃ before, c.genomes.get? before.genomeId = some before ∧
      before.genomeId = genome.genomeId ∧ before.Stays genome := by
  cases step.genome_origin sound housed' stored with
  | stored before beforeFound stays =>
      rw [stays.genomeId] at beforeFound
      exact ⟨before, beforeFound, stays.genomeId.symm, stays⟩
  | added named added => exact absurd added.fresh (housed.pointer found points)

theorem ChapterStep.sound (step : ChapterStep sdk trusted c c') (sound : c.Sound sdk trusted)
    (housed : c.Housed) (housed' : c'.Housed) : c'.Sound sdk trusted := by
  have present : ∀ {genomeId genome companionId}, c'.genomes.get? genomeId = some genome →
      companionId = genome.companionId → c'.personas companionId ≠ none := by
    intro genomeId genome companionId found same
    rw [same]
    exact housed'.genome found
  have parents : ∀ {genomeId genome base}, c'.genomes.get? genomeId = some genome →
      genome.baseGenomeId = some base →
      ∃ parent, c.genomes.get? base = some parent ∧ parent.companionId = genome.companionId := by
    intro genomeId genome base found named
    cases step.genome_origin sound housed' found with
    | stored old oldFound stays =>
        rw [stays.base] at named
        rw [stays.companionId]
        exact sound.based oldFound named
    | added _ added => exact added.based base named
  refine
    { based := ?_
      ranked := ?_
      marked := ?_
      restored := ?_
      alone := ?_
      named := ?_ }
  · intro genomeId genome base found named
    obtain ⟨parent, stored, own⟩ := parents found named
    obtain ⟨new, newFound, stays⟩ := step.genome_stays sound stored (present found own)
    exact ⟨new, newFound, stays.companionId.trans own⟩
  · apply sound.ranked.extend (fun genomeId => c.genomes.get? genomeId ≠ none)
    · intro child above stored link
      obtain ⟨genome, found, named⟩ := Chapters.linked_iff.mp link
      cases step.genome_origin sound housed' found with
      | stored old oldFound stays =>
          exact Chapters.linked_iff.mpr ⟨old, oldFound, stays.base.symm.trans named⟩
      | added same added =>
          rw [← same] at stored
          exact absurd added.fresh stored
    · intro child above link
      obtain ⟨genome, found, named⟩ := Chapters.linked_iff.mp link
      obtain ⟨parent, stored, -⟩ := parents found named
      rw [stored]
      exact Option.some_ne_none parent
  · intro trust genomeId genome found marked
    cases step.genome_origin sound housed' found with
    | stored old oldFound stays =>
        rw [stays.restoredFrom] at marked
        exact stays.committed (sound.marked trust oldFound marked)
    | added _ added => exact added.committed trust marked
  · intro trust genomeId genome found marked based
    cases step.genome_origin sound housed' found with
    | stored old oldFound stays =>
        rw [stays.restoredFrom] at marked
        rw [stays.base] at based
        obtain ⟨target, name, targetFound, restores⟩ := sound.restored trust oldFound marked based
        obtain ⟨target', stored, kept⟩ := step.genome_stays sound targetFound
          (present found (restores.own.trans stays.companionId.symm))
        refine ⟨target', name, ?_, stays.restores kept restores⟩
        rw [kept.genomeId]
        exact stored
    | added _ added =>
        obtain ⟨target, name, targetFound, restores⟩ := added.restored trust marked based
        obtain ⟨target', stored, kept⟩ := step.genome_stays sound targetFound
          (present found restores.own)
        refine ⟨target', name, ?_, (PersonaGenomeRow.Stays.refl genome).restores kept restores⟩
        rw [kept.genomeId]
        exact stored
  · intro trust companionId persona genome found points stored marked first otherId other otherFound
      own committed
    cases step.persona_origin sound housed found with
    | stored old oldFound current named settled =>
        have pointed := current _ points
        obtain ⟨before, beforeFound, same, stays⟩ :=
          step.current_stays sound housed housed' oldFound pointed stored
        rw [← same] at pointed
        rw [stays.restoredFrom] at marked
        rw [stays.base] at first
        obtain ⟨earlier, earlierFound, earlierOwn, earlierCommitted⟩ :=
          settled otherFound own committed
        exact (sound.alone trust oldFound pointed beforeFound marked first earlierFound earlierOwn
          earlierCommitted).trans same
    | moved moved movedPoints movedFound alone named =>
        have same : moved = genome := by
          rw [points, Option.some.injEq] at movedPoints
          rw [← movedPoints, stored, Option.some.injEq] at movedFound
          exact movedFound.symm
        subst same
        exact alone trust marked first otherFound own
  · intro trust companionId persona genome found points stored marked based
    cases step.persona_origin sound housed found with
    | stored old oldFound current named settled =>
        have pointed := current _ points
        obtain ⟨before, beforeFound, same, stays⟩ :=
          step.current_stays sound housed housed' oldFound pointed stored
        rw [← same] at pointed
        rw [stays.document]
        rcases named with sameName | ⟨renamed, content, renamedPoints, renamedFound, reads, name⟩
        · rw [stays.restoredFrom] at marked
          rw [stays.base] at based
          rw [sameName]
          exact sound.named trust oldFound pointed beforeFound marked based
        · rw [pointed, Option.some.injEq] at renamedPoints
          rw [← renamedPoints, beforeFound, Option.some.injEq] at renamedFound
          rw [renamedFound]
          exact ⟨content, reads, name⟩
    | moved moved movedPoints movedFound alone named =>
        have same : moved = genome := by
          rw [points, Option.some.injEq] at movedPoints
          rw [← movedPoints, stored, Option.some.injEq] at movedFound
          exact movedFound.symm
        subst same
        exact named trust marked based

end EidolonData
