import EidolonData.Results.DefaultPointer
import EidolonData.Effects.Integrity
import EidolonData.Invariants.Pointer

/-!
# Evolution approvals

An approval moves the Companion away from the base of its proposal for good,
so no other proposal of that base is approved after it.  The one error that
leaves something behind is the one of an approval that comes too late.
-/

namespace EidolonData

open Relational

/-- The error of an approval overtaken by another change. -/
def Error.IsCurrentChanged : Error → Prop
  | .personaGenomeConflict _ .currentChanged _ => True
  | _ => False

/-- What an approval raises: before its commit, which it then rolls back, or
after it. -/
def approvalRaised : Except Error (Except Error PersonaGenomeRow × Database) → Option Error
  | .ok (.ok _, _) => none
  | .ok (.error error, _) => some error
  | .error error => some error

section Commands

variable {sdk : Sdk} {db db' : Database} {env : Env} {companionId ownerId proposedGenomeId : String}
  {expectedBaseGenomeId : Option String}

theorem approveEvolution_raises (sdk : Sdk) (env : Env) (t : Tables)
    (companionId ownerId proposedGenomeId : String) (expectedBaseGenomeId : Option String) :
    (approveEvolution sdk env companionId ownerId proposedGenomeId expectedBaseGenomeId).Raises t
      (fun error => ¬ error.IsCurrentChanged) := by
  simp [approveEvolution, personaCompanion, writeGenome, writePersona, getCompanion, getGenome,
    validated, addFact, updateGenomeRow, updateCompanionRow, Error.IsCurrentChanged]

/-- The genome a proposal is made on, once the proposal is approved, is left
for good. -/
theorem EvolutionApproved.hasLeft {w w' : Workspace} {companion : CompanionRow}
    {proposal : PersonaGenomeRow} (sound : w.RuntimeSound sdk .all)
    (read : EvolutionRead w companionId proposedGenomeId companion proposal)
    (approved : EvolutionApproved sdk .all w w' companion proposal expectedBaseGenomeId) :
    ∃ base, proposal.baseGenomeId = some base ∧ w'.HasLeft companionId base := by
  obtain ⟨base, stored, pointed, own, committed⟩ := sound.current read.companionFound
  have named : companion.companionId = companionId := Table.key_of_get? read.companionFound
  obtain ⟨new, newFound, newPointed⟩ := approved.pointed
  rw [named] at newFound
  refine ⟨base.genomeId, approved.base.symm.trans pointed, ?_⟩
  have effect : (Command.approveEvolution companionId "" proposedGenomeId none).Effect sdk .all w
      w' := .single approved.change
  refine (effect.pointed sound (Table.has_of_get? newFound)
    ⟨companion, read.companionFound, pointed⟩).resolve_left ?_
  rintro ⟨row, rowFound, current⟩
  rw [newFound, Option.some.injEq] at rowFound
  subst rowFound
  -- the proposal is not committed before, its base is
  rw [newPointed, Option.some.injEq] at current
  have proposalStored := read.found
  rw [← Table.key_of_get? read.found, key_genome, current, stored, Option.some.injEq]
    at proposalStored
  have proposed := read.proposed
  rw [← proposalStored, committed] at proposed
  cases proposed

theorem approveEvolution_approved {approved : PersonaGenomeRow}
    (transacted : db.transact (approveEvolution sdk env companionId ownerId proposedGenomeId
      expectedBaseGenomeId) = .ok (.ok approved, db')) :
    ∃ companion proposal,
      EvolutionRead db.tables.workspace companionId proposedGenomeId companion proposal ∧
        EvolutionApproved sdk .all db.tables.workspace db'.tables.workspace companion proposal
          expectedBaseGenomeId := by
  obtain ⟨companion, proposal, read, ⟨-, approves⟩ | ⟨other, -⟩⟩ :=
    approveEvolution_effect sdk .all env db.tables companionId ownerId proposedGenomeId
      expectedBaseGenomeId _ _ (Database.transact_ok_iff.mp transacted)
  · exact ⟨companion, proposal, read, approves⟩
  · cases other

theorem approveEvolution_left {base : String} {proposal : PersonaGenomeRow}
    (left : db.tables.workspace.HasLeft companionId base)
    (found : db.tables.workspace.personaGenomes.get? proposedGenomeId = some proposal)
    (named : proposal.baseGenomeId = some base) (approved : PersonaGenomeRow) :
    db.transact (approveEvolution sdk env companionId ownerId proposedGenomeId
      expectedBaseGenomeId) ≠ .ok (.ok approved, db') := by
  intro transacted
  obtain ⟨companion, stored, read, approves⟩ := approveEvolution_approved transacted
  have same : stored = proposal := Option.some.inj (read.found.symm.trans found)
  apply left.apart
  refine ⟨companion, read.companionFound, ?_⟩
  rw [approves.base, same, named]

theorem approveEvolution_late {error : Error}
    (raised : approvalRaised (db.transact (approveEvolution sdk env companionId ownerId
      proposedGenomeId expectedBaseGenomeId)) = some error) (changed : error.IsCurrentChanged) :
    ∃ companion proposal,
      EvolutionRead db.tables.workspace companionId proposedGenomeId companion proposal ∧
        EvolutionDenied sdk .all env db.tables
          (db.after (approveEvolution sdk env companionId ownerId proposedGenomeId
            expectedBaseGenomeId)).tables ownerId companion proposal expectedBaseGenomeId := by
  cases transacted : db.transact (approveEvolution sdk env companionId ownerId proposedGenomeId
      expectedBaseGenomeId) with
  | error failure =>
      rw [transacted, approvalRaised, Option.some.injEq] at raised
      subst raised
      exfalso
      rcases Database.transact_error transacted with ran | integrity
      · exact approveEvolution_raises sdk env db.tables companionId ownerId proposedGenomeId
          expectedBaseGenomeId failure ran changed
      · rw [integrity] at changed
        exact changed
  | ok finished =>
      obtain ⟨outcome, db'⟩ := finished
      rw [Database.after_of_ok transacted]
      obtain ⟨companion, proposal, read, ⟨⟨approved, other⟩, -⟩ | ⟨-, denied⟩⟩ :=
        approveEvolution_effect sdk .all env db.tables companionId ownerId proposedGenomeId
          expectedBaseGenomeId _ _ (Database.transact_ok_iff.mp transacted)
      · rw [transacted, other] at raised
        cases raised
      · exact ⟨companion, proposal, read, denied⟩

/-- The proposal is not made on what is current, or not on what the approval
expects. -/
def EvolutionOvertaken (companion : CompanionRow) (proposal : PersonaGenomeRow)
    (expectedBaseGenomeId : Option String) : Prop :=
  companion.currentGenomeId ≠ proposal.baseGenomeId ∨
    ∃ expected, expectedBaseGenomeId = some expected ∧ some expected ≠ proposal.baseGenomeId

theorem approveEvolution_run_overtaken {t : Tables} {companion : CompanionRow}
    {proposal : PersonaGenomeRow}
    (read : EvolutionRead t.workspace companionId proposedGenomeId companion proposal)
    (owned : companion.ownerId = ownerId)
    (overtaken : EvolutionOvertaken companion proposal expectedBaseGenomeId) :
    (approveEvolution sdk env companionId ownerId proposedGenomeId expectedBaseGenomeId).run t =
      .ok (.error (evolutionConflict proposedGenomeId),
        (t.mapWorkspace (fun w => w.decideGenome { proposal with status := .stale })).addFact
          env.now (evolutionDenial env ownerId companionId proposedGenomeId
            expectedBaseGenomeId)) := by
  have owning : (some companion).filter (fun row => row.ownerId = ownerId) = some companion := by
    simp [owned]
  have own : (some proposal).filter (fun row => row.companionId = companionId) =
      some proposal := by
    simp [read.own]
  have mismatch : companion.currentGenomeId ≠ proposal.baseGenomeId ∨
      expectedBaseGenomeId.any (fun expected => some expected ≠ proposal.baseGenomeId) = true := by
    refine overtaken.imp_right ?_
    rintro ⟨expected, rfl, other⟩
    exact decide_eq_true other
  have companionRead : (personaCompanion ownerId companionId).run t = .ok (companion, t) := by
    simp [personaCompanion, getCompanion, read.companionFound, owning, Tx.require]
  rw [approveEvolution, Tx.run_bind_ok companionRead]
  simp only [getGenome, Tx.run_read_bind, read.found, own, Tx.run_require_some,
    Tx.run_refuseIf_bind, read.proposed, ne_eq, not_true_eq_false, if_false]
  rw [if_pos mismatch]
  rfl

theorem approveEvolution_overtaken {companion : CompanionRow} {proposal : PersonaGenomeRow}
    (read : EvolutionRead db.tables.workspace companionId proposedGenomeId companion proposal)
    (owned : companion.ownerId = ownerId)
    (overtaken : EvolutionOvertaken companion proposal expectedBaseGenomeId) :
    (¬ db.tables.HasEvent ("audit-" ++ (env.uuid 0).hex) →
      ∃ db', db.transact (approveEvolution sdk env companionId ownerId proposedGenomeId
          expectedBaseGenomeId) = .ok (.error (evolutionConflict proposedGenomeId), db') ∧
        EvolutionDenied sdk .all env db.tables db'.tables ownerId companion proposal
          expectedBaseGenomeId) ∧
    (db.tables.HasEvent ("audit-" ++ (env.uuid 0).hex) →
      db.transact (approveEvolution sdk env companionId ownerId proposedGenomeId
        expectedBaseGenomeId) = .error .integrityError) := by
  have ran : (approveEvolution sdk env companionId ownerId proposedGenomeId
      expectedBaseGenomeId).run db.tables = _ :=
    approveEvolution_run_overtaken read owned overtaken
  have accepts := (db.property.decideGenome { proposal with status := .stale }).addFact_iff env.now
    (evolutionDenial env ownerId companionId proposedGenomeId expectedBaseGenomeId)
  constructor
  · intro unused
    have accepted := accepts.mpr unused
    have transacted : db.transact (approveEvolution sdk env companionId ownerId proposedGenomeId
        expectedBaseGenomeId) = .ok (.error (evolutionConflict proposedGenomeId), ⟨_, accepted⟩) :=
      Database.transact_ok_iff.mpr ran
    refine ⟨_, transacted, ?_⟩
    obtain ⟨stored, proposal', read', ⟨⟨_, other⟩, -⟩ | ⟨-, denied⟩⟩ :=
      approveEvolution_effect sdk .all env db.tables companionId ownerId proposedGenomeId
        expectedBaseGenomeId _ _ ran
    · cases other
    · have sameCompanion : stored = companion :=
        Option.some.inj (read'.companionFound.symm.trans read.companionFound)
      have sameProposal : proposal' = proposal :=
        Option.some.inj (read'.found.symm.trans read.found)
      subst sameCompanion sameProposal
      exact denied
  · intro used
    have refused := fun accepted => accepts.mp accepted used
    simp only [Database.transact, Tx.commit, ran, dif_neg refused]

theorem EvolutionApproved.notStale {w w' : Workspace} {companion : CompanionRow}
    {proposal marked : PersonaGenomeRow} (sound : w.RuntimeSound sdk .all)
    (approved : EvolutionApproved sdk .all w w' companion proposal expectedBaseGenomeId)
    (after : w'.personaGenomes.get? proposal.genomeId = some marked) : marked.status ≠ .stale := by
  obtain ⟨row, rowFound, pointed⟩ := approved.pointed
  obtain ⟨genome, stored, current, -, committed⟩ :=
    (approved.change.runtimeSound sound).current rowFound
  rw [pointed, Option.some.injEq] at current
  rw [← current, after, Option.some.injEq] at stored
  rw [stored, committed]
  simp

/-- An approval that leaves its proposal stale raises the current-changed
error. -/
theorem approveEvolution_stale (sound : db.tables.workspace.RuntimeSound sdk .all)
    {proposal marked : PersonaGenomeRow}
    (found : db.tables.workspace.personaGenomes.get? proposedGenomeId = some proposal)
    (proposed : proposal.status = .proposed)
    (after : (db.after (approveEvolution sdk env companionId ownerId proposedGenomeId
      expectedBaseGenomeId)).tables.workspace.personaGenomes.get? proposedGenomeId = some marked)
    (stale : marked.status = .stale) :
    ∃ error, approvalRaised (db.transact (approveEvolution sdk env companionId ownerId
      proposedGenomeId expectedBaseGenomeId)) = some error ∧ error.IsCurrentChanged := by
  cases transacted : db.transact (approveEvolution sdk env companionId ownerId proposedGenomeId
      expectedBaseGenomeId) with
  | error failure =>
      rw [Database.after_of_error transacted, found, Option.some.injEq] at after
      rw [after, stale] at proposed
      cases proposed
  | ok finished =>
      obtain ⟨outcome, db'⟩ := finished
      rw [Database.after_of_ok transacted] at after
      obtain ⟨companion, stored, read, ⟨-, approves⟩ | ⟨other, -⟩⟩ :=
        approveEvolution_effect sdk .all env db.tables companionId ownerId proposedGenomeId
          expectedBaseGenomeId _ _ (Database.transact_ok_iff.mp transacted)
      · have named : stored.genomeId = proposedGenomeId := Table.key_of_get? read.found
        rw [← named] at after
        exact absurd stale (approves.notStale sound after)
      · subst other
        exact ⟨_, rfl, trivial⟩

theorem approveEvolution_refused {error : Error}
    (raised : approvalRaised (db.transact (approveEvolution sdk env companionId ownerId
      proposedGenomeId expectedBaseGenomeId)) = some error)
    (notChanged : ¬ error.IsCurrentChanged) :
    db.after (approveEvolution sdk env companionId ownerId proposedGenomeId
      expectedBaseGenomeId) = db := by
  cases transacted : db.transact (approveEvolution sdk env companionId ownerId proposedGenomeId
      expectedBaseGenomeId) with
  | error failure => exact Database.after_of_error transacted
  | ok finished =>
      obtain ⟨outcome, db'⟩ := finished
      exfalso
      obtain ⟨companion, proposal, -, ⟨⟨approved, other⟩, -⟩ | ⟨other, -⟩⟩ :=
        approveEvolution_effect sdk .all env db.tables companionId ownerId proposedGenomeId
          expectedBaseGenomeId _ _ (Database.transact_ok_iff.mp transacted)
      · rw [transacted, other] at raised
        cases raised
      · rw [transacted, other, approvalRaised, Option.some.injEq] at raised
        rw [← raised] at notChanged
        exact notChanged trivial

end Commands

/-- An approval commits only on the base of its proposal, and then no later
approval of a proposal of that base does; it raises the current-changed error
exactly when it leaves the proposal stale, and then it has recorded the denial
and written nothing else; so it does on every proposal that is overtaken, unless
its event is there already; an approval or a rejection refused otherwise leaves
the database as it was. -/
theorem evolution_approval_safe (sdk : Sdk) (calls between : List Call) (env : Env)
    (companionId ownerId proposedGenomeId : String) (expectedBaseGenomeId : Option String) :
    (∀ approved db', (replay sdk calls .empty).transact (approveEvolution sdk env companionId
        ownerId proposedGenomeId expectedBaseGenomeId) = .ok (.ok approved, db') →
      ∃ companion proposal,
        EvolutionRead (replay sdk calls .empty).tables.workspace companionId proposedGenomeId
          companion proposal ∧
        companion.currentGenomeId = proposal.baseGenomeId ∧
        (CompanionLasts sdk companionId between db' →
          ∀ env' ownerId' genomeId' expected' approved' proposal' db'',
            (replay sdk between db').tables.workspace.personaGenomes.get? genomeId' =
              some proposal' → proposal'.baseGenomeId = proposal.baseGenomeId →
            (replay sdk between db').transact (approveEvolution sdk env' companionId ownerId'
              genomeId' expected') ≠ .ok (.ok approved', db''))) ∧
    ((∃ error, approvalRaised ((replay sdk calls .empty).transact (approveEvolution sdk env
          companionId ownerId proposedGenomeId expectedBaseGenomeId)) = some error ∧
        error.IsCurrentChanged) →
      ∃ companion proposal,
        EvolutionRead (replay sdk calls .empty).tables.workspace companionId proposedGenomeId
          companion proposal ∧
        EvolutionDenied sdk .all env (replay sdk calls .empty).tables
          ((replay sdk calls .empty).after (approveEvolution sdk env companionId ownerId
            proposedGenomeId expectedBaseGenomeId)).tables
          ownerId companion proposal expectedBaseGenomeId) ∧
    (∀ companion proposal,
      EvolutionRead (replay sdk calls .empty).tables.workspace companionId proposedGenomeId
        companion proposal → companion.ownerId = ownerId →
      EvolutionOvertaken companion proposal expectedBaseGenomeId →
      (¬ (replay sdk calls .empty).tables.HasEvent ("audit-" ++ (env.uuid 0).hex) →
        ∃ db', (replay sdk calls .empty).transact (approveEvolution sdk env companionId ownerId
            proposedGenomeId expectedBaseGenomeId) =
              .ok (.error (evolutionConflict proposedGenomeId), db') ∧
          EvolutionDenied sdk .all env (replay sdk calls .empty).tables db'.tables ownerId
            companion proposal expectedBaseGenomeId) ∧
      ((replay sdk calls .empty).tables.HasEvent ("audit-" ++ (env.uuid 0).hex) →
        (replay sdk calls .empty).transact (approveEvolution sdk env companionId ownerId
          proposedGenomeId expectedBaseGenomeId) = .error .integrityError)) ∧
    (∀ proposal marked,
      (replay sdk calls .empty).tables.workspace.personaGenomes.get? proposedGenomeId =
        some proposal → proposal.status = .proposed →
      ((replay sdk calls .empty).after (approveEvolution sdk env companionId ownerId
        proposedGenomeId expectedBaseGenomeId)).tables.workspace.personaGenomes.get?
          proposedGenomeId = some marked → marked.status = .stale →
      ∃ error, approvalRaised ((replay sdk calls .empty).transact (approveEvolution sdk env
          companionId ownerId proposedGenomeId expectedBaseGenomeId)) = some error ∧
        error.IsCurrentChanged) ∧
    (∀ error, approvalRaised ((replay sdk calls .empty).transact (approveEvolution sdk env
        companionId ownerId proposedGenomeId expectedBaseGenomeId)) = some error →
      ¬ error.IsCurrentChanged →
      (replay sdk calls .empty).after (approveEvolution sdk env companionId ownerId
        proposedGenomeId expectedBaseGenomeId) = replay sdk calls .empty) ∧
    (∀ genomeId companion reason error,
      (replay sdk calls .empty).transact (rejectEvolution env ownerId genomeId companion reason) =
        .error error →
      (replay sdk calls .empty).after (rejectEvolution env ownerId genomeId companion reason) =
        replay sdk calls .empty) := by
  have sound : (replay sdk calls .empty).tables.workspace.RuntimeSound sdk .all :=
    runtimeSound_invariant.replay calls .empty (heeds_all sdk calls .empty) runtimeSound_empty
  refine ⟨?_, ?_, ?_, ?_, ?_, ?_⟩
  · intro approved db' transacted
    obtain ⟨companion, proposal, read, approves⟩ := approveEvolution_approved transacted
    refine ⟨companion, proposal, read, approves.base, ?_⟩
    intro lasts env' ownerId' genomeId' expected' approved' proposal' db'' found same
    obtain ⟨base, named, left⟩ := approves.hasLeft sound read
    have soundAfter := approves.change.runtimeSound sound
    by_cases stored : (replay sdk between db').tables.workspace.companions.has companionId = true
    · have still := (replay_advances soundAfter lasts stored).left left
      exact approveEvolution_left still found (same.trans named) approved'
    · intro again
      obtain ⟨row, _, read', -⟩ := approveEvolution_approved again
      exact stored (Table.has_of_get? read'.companionFound)
  · rintro ⟨error, raised, changed⟩
    exact approveEvolution_late raised changed
  · intro companion proposal read owned overtaken
    exact approveEvolution_overtaken read owned overtaken
  · intro proposal marked found proposed after stale
    exact approveEvolution_stale sound found proposed after stale
  · intro error raised notChanged
    exact approveEvolution_refused raised notChanged
  · intro genomeId companion reason error refused
    exact Database.after_of_error refused

/-- A proposal on the first genome, and a rename before it is approved. -/
def overtakenCommands : List Command :=
  firstDefaultCommands ++
    [.createEvolutionProposal
      { proposalId := "proposal", ownerId := "owner", companionId := "c_owner",
        baseGenomeId := "g_31000000000000000000000000000000", baseGenomeHash := "",
        proposedGenomeId := "g_proposed", proposedGenome := Sdk.plainGenome "Calm",
        rationale := "calmer" },
      .renameCompanion "c_owner" "Sunny"]

def approvalEnv : Env := { uuid := fun site => .ofNat (512 + site), now := 32 }

/-- The approval raises and leaves its proposal stale, the denial in the outbox
and the Companions as they were. -/
theorem evolution_approval_safe_overtaken : ∃ db',
    (replay .plain (numbered overtakenCommands) .empty).transact (approveEvolution .plain
        approvalEnv "c_owner" "owner" "g_proposed" none) =
      .ok (.error (evolutionConflict "g_proposed"), db') ∧
    (db'.tables.workspace.personaGenomes.get? "g_proposed").map (fun row => row.status) =
      some .stale ∧
    (∃ row ∈ db'.tables.auditOutbox.rows,
      row.fact = evolutionDenial approvalEnv "owner" "c_owner" "g_proposed" none) ∧
    db'.tables.workspace.companions =
      (replay .plain (numbered overtakenCommands) .empty).tables.workspace.companions := by
  have shown : ((replay .plain (numbered overtakenCommands)
      .empty).tables.workspace.companions.get? "c_owner").bind (fun companion =>
        ((replay .plain (numbered overtakenCommands)
          .empty).tables.workspace.personaGenomes.get? "g_proposed").map (fun proposal =>
            decide (companion.ownerId = "owner" ∧ proposal.companionId = "c_owner" ∧
              proposal.status = .proposed ∧
              companion.currentGenomeId ≠ proposal.baseGenomeId))) = some true := by
    decide +kernel
  have unused : ¬ (replay .plain (numbered overtakenCommands) .empty).tables.HasEvent
      ("audit-" ++ (approvalEnv.uuid 0).hex) := by
    unfold Tables.HasEvent
    decide +kernel
  obtain ⟨companion, companionFound, shown⟩ := Option.bind_eq_some_iff.mp shown
  obtain ⟨proposal, found, shown⟩ := Option.map_eq_some_iff.mp shown
  obtain ⟨owned, own, proposed, late⟩ := of_decide_eq_true shown
  obtain ⟨db', transacted, denied⟩ := ((evolution_approval_safe .plain
    (numbered overtakenCommands) [] approvalEnv "c_owner" "owner" "g_proposed" none).2.2.1
      companion proposal ⟨companionFound, found, own, proposed⟩ owned (Or.inl late)).1 unused
  have named : proposal.genomeId = "g_proposed" := Table.key_of_get? found
  have marked : db'.tables.workspace.personaGenomes.get? proposal.genomeId =
      some { proposal with status := .stale } := denied.marked.self
  have sameCompanion : companion.companionId = "c_owner" := Table.key_of_get? companionFound
  refine ⟨db', transacted, ?_, ?_, ?_⟩
  · rw [← named, marked]
    rfl
  · rw [denied.written, Tables.rows_addFact]
    refine ⟨_, List.mem_append_right _ List.mem_cons_self, ?_⟩
    rw [← named, ← sameCompanion]
  · rw [denied.written]
    rfl

end EidolonData
