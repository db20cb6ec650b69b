import EidolonData.Results.EditReceipt
import EidolonData.Invariants.Pointer

/-!
# Persona edits lose no update

An edit that is no replay finds the two tokens it names.  Appending a genome
moves the Companion away from the first for good, and changing the
preferences moves it past the second.
-/

namespace EidolonData

open Relational

def Sdk.ReadsRevisions (sdk : Sdk) : Prop :=
  ∀ {value revision}, sdk.validatePreferenceRevision (.int value) = .ok revision →
    revision = value

/-- The runtime configuration stays, or moves past its preference revision. -/
structure CompanionRow.Configures (sdk : Sdk) (old new : CompanionRow) : Prop where
  later : new.runtimeConfigJson = old.runtimeConfigJson ∨
    ∃ revision, preferenceRevision sdk old.runtimeConfigJson = .ok revision ∧
      ∀ next, preferenceRevision sdk new.runtimeConfigJson = .ok next → revision < next

section Preferences

variable {sdk : Sdk} {permits : Permits} {w w' : Workspace}

theorem CompanionRow.Configures.refl (companion : CompanionRow) :
    companion.Configures sdk companion :=
  ⟨Or.inl rfl⟩

theorem CompanionRow.Configures.trans {first second third : CompanionRow}
    (one : first.Configures sdk second) (two : second.Configures sdk third) :
    first.Configures sdk third := by
  constructor
  rcases two.later with same | ⟨middle, middleRead, beyond⟩
  · rw [same]
    exact one.later
  · right
    rcases one.later with same | ⟨revision, read, beyondFirst⟩
    · rw [same] at middleRead
      exact ⟨middle, middleRead, beyond⟩
    · refine ⟨revision, read, ?_⟩
      intro next nextRead
      have first := beyondFirst middle middleRead
      have second := beyond next nextRead
      omega

theorem CompanionRow.Configures.beyond {old new last : CompanionRow} {revision next : Int}
    (first : old.Configures sdk new)
    (changed : new.runtimeConfigJson ≠ old.runtimeConfigJson)
    (read : preferenceRevision sdk old.runtimeConfigJson = .ok revision)
    (rest : new.Configures sdk last)
    (lastRead : preferenceRevision sdk last.runtimeConfigJson = .ok next) : revision < next := by
  obtain ⟨named, namedRead, beyond⟩ := first.later.resolve_left changed
  rw [read, Except.ok.injEq] at namedRead
  subst namedRead
  rcases rest.later with same | ⟨middle, middleRead, beyondMiddle⟩
  · rw [same] at lastRead
    exact beyond next lastRead
  · have below := beyond middle middleRead
    have above := beyondMiddle next lastRead
    omega

theorem ConfigWritten.configures (reads : sdk.ReadsRevisions) {old new : CompanionRow}
    (written : ConfigWritten sdk old.runtimeConfigJson new.runtimeConfigJson) :
    old.Configures sdk new := by
  constructor
  cases written with
  | same same => exact Or.inl same
  | revised revision read stored valid =>
      refine Or.inr ⟨revision, read, ?_⟩
      intro next nextRead
      rw [preferenceRevision, stored] at nextRead
      have same := reads nextRead
      omega

theorem Command.Effect.configures {command : Command} (reads : sdk.ReadsRevisions)
    (effect : command.Effect sdk permits w w') {companionId : String} {old new : CompanionRow}
    (before : w.companions.get? companionId = some old)
    (after : w'.companions.get? companionId = some new) : old.Configures sdk new := by
  refine Command.Effect.companion_related CompanionRow.Configures.refl CompanionRow.Configures.trans
    ?_ ?_ ?_ effect before after
  · intro w w' change
    refine change.companions_related (fun row target => ⟨Or.inl rfl⟩) ?_
    intro old new written _ _
    exact written.configures reads
  · intro row target
    exact ⟨Or.inl rfl⟩
  · intro doomed removal
    obtain ⟨row, stored, -, -, spared⟩ := removal.companion after
    rw [before] at stored
    cases stored
    exact ⟨Or.inl spared.config⟩

theorem replay_configures (reads : sdk.ReadsRevisions) {companionId : String} {calls : List Call}
    {db : Database} (lasts : CompanionLasts sdk companionId calls db) {old new : CompanionRow}
    (before : db.tables.workspace.companions.get? companionId = some old)
    (after : (replay sdk calls db).tables.workspace.companions.get? companionId = some new) :
    old.Configures sdk new := by
  have everywhere : Invariant sdk .all (fun _ => True) :=
    { change := fun _ _ => trivial
      archived := fun _ _ _ _ => trivial
      removed := fun _ _ => trivial }
  exact Heeds.companion_relates everywhere CompanionRow.Configures.refl
    CompanionRow.Configures.trans (fun _ _ allowed => allowed)
    (fun _ _ effect before after => effect.configures reads before after) (heeds_all sdk calls db)
    lasts trivial before after

end Preferences

section Commands

variable {sdk : Sdk} {w w' : Workspace} {companion new : CompanionRow}
  {request : PersonaEditRequest} {result : PersonaEditSnapshot} {genome : PersonaGenomeRow}

theorem EditCommitted.pointsAt {permits : Permits} (sound : w.RuntimeSound sdk permits)
    (found : w.companions.get? companion.companionId = some companion)
    (committed : EditCommitted sdk permits w w' companion request result new genome) :
    companion.currentGenomeId = some request.expectedBaseGenomeId := by
  obtain ⟨current, -, pointed, -⟩ := sound.current found
  have base := committed.base
  rw [pointed, Option.getD_some] at base
  rw [pointed, base]

theorem EditCommitted.hasLeft (sound : w.RuntimeSound sdk .all)
    (found : w.companions.get? companion.companionId = some companion)
    (committed : EditCommitted sdk .all w w' companion request result new genome)
    (appended : w'.personaGenomes ≠ w.personaGenomes) :
    w'.HasLeft companion.companionId request.expectedBaseGenomeId := by
  obtain ⟨fresh, pointed⟩ := committed.chapter.resolve_left appended
  have effect : (Command.editPersona companion.companionId request).Effect sdk .all w w' :=
    .single committed.change
  refine (effect.pointed sound (Table.has_of_get? committed.stored)
    ⟨companion, found, committed.pointsAt sound found⟩).resolve_left ?_
  rintro ⟨row, stored, current⟩
  rw [committed.stored, Option.some.injEq] at stored
  subst stored
  -- the genome moved to was not there before, the one named was
  obtain ⟨base, baseStored, basePointed, -⟩ := sound.current found
  rw [committed.pointsAt sound found, Option.some.injEq] at basePointed
  rw [pointed, Option.some.injEq, basePointed] at current
  rw [current, baseStored] at fresh
  cases fresh

/-- A successful edit is a replay that changes nothing, or found both tokens
it names. -/
theorem editPersona_tokens {db db' : Database} {env : Env} {companionId changeSummary : String}
    (sound : db.tables.workspace.RuntimeSound sdk .all)
    (edited : db.transact (editPersona sdk env companionId request changeSummary) =
      .ok (result, db')) :
    ∃ companion, db.tables.workspace.companions.get? companionId = some companion ∧
      (db' = db ∨ companion.currentGenomeId = some request.expectedBaseGenomeId ∧
        preferenceRevision sdk companion.runtimeConfigJson =
          .ok request.expectedPreferenceRevision) := by
  obtain ⟨companion, found, ⟨-, same⟩ | ⟨-, new, genome, committed⟩⟩ :=
    editPersona_effect sdk .all env db.tables companionId request changeSummary (Or.inl trivial)
      result db'.tables (Database.transact_ok_iff.mp edited)
  · exact ⟨companion, found, Or.inl (Subtype.ext same)⟩
  · have named : companion.companionId = companionId := Table.key_of_get? found
    subst named
    exact ⟨companion, found, Or.inr ⟨committed.pointsAt sound found, committed.preference⟩⟩

end Commands

/-- An edit that succeeds without a receipt finds the Companion at the genome
and at the preference revision it names, and leaves its receipt.  If it appends
a genome, every later edit naming that base is a replay or is refused; if it
changes the runtime configuration, so is every later edit naming that
preference revision.  A refused edit leaves the database as it was. -/
theorem edit_tokens_guard (sdk : Sdk) (reads : sdk.ReadsRevisions) (calls between : List Call)
    (env : Env) (companionId changeSummary : String) (request : PersonaEditRequest)
    (result : PersonaEditSnapshot) (db' : Database)
    (edited : (replay sdk calls .empty).transact
      (editPersona sdk env companionId request changeSummary) = .ok (result, db'))
    (unused : ∀ companion,
      (replay sdk calls .empty).tables.workspace.companions.get? companionId = some companion →
      companion.receipt? request.operationId = none)
    (lasts : CompanionLasts sdk companionId between db') :
    (∃ old new, (replay sdk calls .empty).tables.workspace.companions.get? companionId = some old ∧
      db'.tables.workspace.companions.get? companionId = some new ∧
      old.currentGenomeId = some request.expectedBaseGenomeId ∧
      preferenceRevision sdk old.runtimeConfigJson = .ok request.expectedPreferenceRevision ∧
      new.receipt? request.operationId =
        some (editReceipt (sdk.editFingerprint request) result) ∧
      (db'.tables.workspace.personaGenomes ≠
          (replay sdk calls .empty).tables.workspace.personaGenomes →
        ∀ env' summary again answer db'',
          again.expectedBaseGenomeId = request.expectedBaseGenomeId →
          (replay sdk between db').transact (editPersona sdk env' companionId again summary) =
            .ok (answer, db'') → db'' = replay sdk between db') ∧
      (new.runtimeConfigJson ≠ old.runtimeConfigJson →
        ∀ env' summary again answer db'',
          again.expectedPreferenceRevision = request.expectedPreferenceRevision →
          (replay sdk between db').transact (editPersona sdk env' companionId again summary) =
            .ok (answer, db'') → db'' = replay sdk between db')) ∧
    (∀ env' summary again error,
      (replay sdk calls .empty).transact (editPersona sdk env' companionId again summary) =
        .error error →
      (replay sdk calls .empty).after (editPersona sdk env' companionId again summary) =
        replay sdk calls .empty) := by
  have sound : (replay sdk calls .empty).tables.workspace.RuntimeSound sdk .all :=
    runtimeSound_invariant.replay calls .empty (heeds_all sdk calls .empty) runtimeSound_empty
  refine ⟨?_, ?_⟩
  · obtain ⟨companion, found, ⟨receipted, -⟩ | ⟨-, new, genome, committed⟩⟩ :=
      editPersona_effect sdk .all env _ companionId request changeSummary (Or.inl trivial)
        result db'.tables (Database.transact_ok_iff.mp edited)
    · exact absurd (unused companion found) receipted
    have named : companion.companionId = companionId := Table.key_of_get? found
    subst named
    have soundAfter := committed.change.runtimeSound sound
    have soundLater : (replay sdk between db').tables.workspace.RuntimeSound sdk .all :=
      runtimeSound_invariant.replay between db' (heeds_all sdk between db') soundAfter
    refine ⟨companion, new, found, committed.stored, committed.pointsAt sound found,
      committed.preference, committed.receipt, ?_, ?_⟩
    · intro appended env' summary again answer db'' sameBase editedAgain
      obtain ⟨row, rowFound, unchanged | ⟨pointed, -⟩⟩ := editPersona_tokens soundLater editedAgain
      · exact unchanged
      · rw [sameBase] at pointed
        exact absurd ⟨row, rowFound, pointed⟩
          (replay_apart soundAfter lasts (committed.hasLeft sound found appended))
    · intro changed env' summary again answer db'' sameRevision editedAgain
      obtain ⟨row, rowFound, unchanged | ⟨-, read⟩⟩ := editPersona_tokens soundLater editedAgain
      · exact unchanged
      · rw [sameRevision] at read
        have advanced := (committed.written.config.configures reads).beyond changed
          committed.preference (replay_configures reads lasts committed.stored rowFound) read
        omega
  · intro env' summary again error refused
    simp only [Database.after, refused]

/-- The first edit under another operation: a writer that lost the race. -/
def lateEdit : PersonaEditRequest :=
  { firstEdit with operationId := "late" }

theorem edit_tokens_guard_late :
    ∃ result db', (replay .plain (numbered firstDefaultCommands) .empty).transact
        (editPersona .plain secondEnv "c_owner" firstEdit "calmer") = .ok (result, db') ∧
      (db'.tables.workspace.companions.get? "c_owner").bind (fun companion =>
        companion.receipt? "edit") =
          some (editReceipt (Sdk.plain.editFingerprint firstEdit) result) ∧
      let later := replay .plain [renamesCompanion] db'
      later ≠ db' ∧ ∀ answer db'',
        later.transact (editPersona .plain secondEnv "c_owner" lateEdit "calmer") =
          .ok (answer, db'') → db'' = later := by
  have edits : ((replay .plain (numbered firstDefaultCommands) .empty).transact
      (editPersona .plain secondEnv "c_owner" firstEdit "calmer")).toOption.map
        (fun (_, db') => (db'.tables.workspace.personaGenomes.rows.length,
          decide (CompanionLasts .plain "c_owner" [renamesCompanion] db'),
          (replay .plain [renamesCompanion] db').tables.workspace.personaGenomes.rows.length)) =
      some (2, true, 3) := by
    decide +kernel
  have before : ((replay .plain (numbered firstDefaultCommands)
      .empty).tables.workspace.companions.get? "c_owner").map
        (fun companion => companion.receipt? firstEdit.operationId) = some none := by
    decide +kernel
  have stored : (replay .plain (numbered firstDefaultCommands)
      .empty).tables.workspace.personaGenomes.rows.length = 1 := by
    decide +kernel
  obtain ⟨⟨result, db'⟩, transacted, facts⟩ := Option.map_eq_some_iff.mp edits
  simp only [Prod.mk.injEq] at facts
  obtain ⟨two, lasts, three⟩ := facts
  have edited := Tx.ok_of_toOption transacted
  have reads : Sdk.plain.ReadsRevisions := by
    intro value revision read
    cases read
    rfl
  obtain ⟨⟨old, new, -, found, -, -, receipted, appended, -⟩, -⟩ := edit_tokens_guard .plain reads
    (numbered firstDefaultCommands) [renamesCompanion] secondEnv "c_owner" "calmer" firstEdit
    result db' edited
    (by
      intro companion found
      rw [found] at before
      exact Option.some.inj before)
    (of_decide_eq_true lasts)
  refine ⟨result, db', edited, ?_, ?_, ?_⟩
  · rw [found]
    exact receipted
  · intro same
    rw [same, two] at three
    cases three
  · intro answer db'' editedAgain
    refine appended ?_ secondEnv "calmer" lateEdit answer db'' rfl editedAgain
    intro same
    rw [same, stored] at two
    cases two

end EidolonData
