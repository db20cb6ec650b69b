import EidolonData.Effects.Commands
import EidolonData.Workspace.Origins

/-!
# Two states of a run

What every effect says of a row before and after it, a run says of the row at
its two ends, as long as the row stays stored in between.
-/

namespace EidolonData

open Relational

def CompanionLasts (sdk : Sdk) (companionId : String) : List Call → Database → Prop :=
  Heeds sdk (fun w _ => w.companions.has companionId = true)

instance (sdk : Sdk) (companionId : String) (calls : List Call) (db : Database) :
    Decidable (CompanionLasts sdk companionId calls db) :=
  inferInstanceAs (Decidable (Heeds _ _ calls db))

/-- A genome before and after a command: its base may be gone, its content is
not touched. -/
structure PersonaGenomeRow.Keeps (old new : PersonaGenomeRow) : Prop where
  companionId : new.companionId = old.companionId
  version : new.version = old.version
  document : new.genomeJson = old.genomeJson
  hash : new.genomeHash = old.genomeHash
  status : old.status ≠ .proposed → new.status = old.status

theorem PersonaGenomeRow.Keeps.trans {first second third : PersonaGenomeRow}
    (one : first.Keeps second) (two : second.Keeps third) : first.Keeps third := by
  refine
    { companionId := two.companionId.trans one.companionId
      version := two.version.trans one.version
      document := two.document.trans one.document
      hash := two.hash.trans one.hash
      status := ?_ }
  intro decided
  have same := one.status decided
  exact (two.status (by rw [same]; exact decided)).trans same

theorem PersonaGenomeRow.Precedes.keeps {old new : PersonaGenomeRow}
    (precedes : old.Precedes new) : old.Keeps new := by
  refine
    { companionId := precedes.companionId
      version := precedes.version
      document := precedes.document
      hash := precedes.hash
      status := ?_ }
  intro decided
  rcases precedes.status with same | ⟨proposed, -⟩
  · exact same
  · exact absurd proposed decided

theorem PersonaGenomeRow.Spared.keeps {old new : PersonaGenomeRow} (spared : old.Spared new) :
    old.Keeps new :=
  { companionId := spared.companionId
    version := spared.version
    document := spared.genomeJson
    hash := spared.genomeHash
    status := fun _ => spared.status }

theorem CompanionRow.Spared.precedes {w : Workspace} {old new : CompanionRow}
    (spared : old.Spared w new) : old.Precedes new := by
  refine
    { ownerId := spared.ownerId
      kind := spared.kind
      revision := le_of_eq spared.revision.symm
      metadata := fun name _ => by rw [spared.metadata]
      receipts := ?_ }
  intro operationId receipt found
  rw [CompanionRow.receipt?, spared.metadata]
  exact found

section Effects

variable {sdk : Sdk} {permits : Permits} {command : Command} {w w' : Workspace}

/-- What holds between the rows of a Companion around every change that
writes it, and around every lifecycle move, a change carries. -/
theorem Change.companions_related {related : CompanionRow → CompanionRow → Prop}
    (change : Change sdk permits w w')
    (moved : ∀ (row : CompanionRow) target, related row (row.moveTo target))
    (written : ∀ {old new : CompanionRow},
      ConfigWritten sdk old.runtimeConfigJson new.runtimeConfigJson → old.Precedes new →
      (permits.silent ∨ (new.revision = old.revision → old.Agrees new)) → related old new) :
    Table.Carries related w.companions w'.companions := by
  intro companionId old found
  obtain ⟨new, stays, precedes⟩ := change.outlives.companions companionId old found
  refine ⟨new, stays, ?_⟩
  have named : new.companionId = companionId := Table.key_of_get? stays
  have stored : ∀ {row}, w.companions.get? new.companionId = some row → row = old := by
    intro row rowFound
    rw [named, found] at rowFound
    exact (Option.some.inj rowFound).symm
  cases change.companion_origin stays with
  | stored row rowFound ownerId kind lifecycle realm config genome guarded =>
      cases stored rowFound
      exact written config precedes guarded
  | moved row target rowFound rewritten notDefault permitted =>
      cases stored rowFound
      rw [rewritten]
      exact moved old target
  | provisioned owner genome realm rows genomeStored realmStored realmShared =>
      have fresh := rows.companionFresh
      rw [named, found] at fresh
      cases fresh

theorem Changes.companions_related {related : CompanionRow → CompanionRow → Prop}
    (refl : ∀ row, related row row)
    (trans : ∀ {first second third}, related first second → related second third →
      related first third)
    (changed : ∀ {w w'}, Change sdk permits w w' →
      Table.Carries related w.companions w'.companions)
    (changes : Changes sdk permits w w') : Table.Carries related w.companions w'.companions := by
  induction changes with
  | refl => exact .refl refl _
  | tail _ change induction => exact induction.trans trans (changed change)

/-- What every change carries, a lifecycle move and a removal keep, every
command keeps of the Companions it leaves stored. -/
theorem Command.Effect.companion_related {related : CompanionRow → CompanionRow → Prop}
    (refl : ∀ row, related row row)
    (trans : ∀ {first second third}, related first second → related second third →
      related first third)
    (changed : ∀ {w w'}, Change sdk permits w w' →
      Table.Carries related w.companions w'.companions)
    (moved : ∀ (row : CompanionRow) target, related row (row.moveTo target))
    {companionId : String} {old new : CompanionRow}
    (removed : ∀ {doomed}, Removal doomed w w' → related old new)
    (effect : command.Effect sdk permits w w')
    (before : w.companions.get? companionId = some old)
    (after : w'.companions.get? companionId = some new) : related old new := by
  have unchanged : w' = w → related old new := by
    rintro rfl
    rw [before] at after
    cases after
    exact refl old
  cases command with
  | archiveOwner ownerId =>
      rcases effect with same | ⟨owner, now, found, -, rfl⟩
      · exact unchanged same
      · obtain ⟨row, stored, archived⟩ := archiveOwner_companion after
        rw [before] at stored
        cases stored
        rcases archived with ⟨-, -, rfl⟩ | ⟨-, rfl⟩
        · exact moved old .archived
        · exact refl _
  | deleteOwner ownerId =>
      rcases effect with same | removal
      · exact unchanged same
      · exact removed removal
  | deleteCompanion ownerId other allowDefault => exact removed effect.1
  | _ =>
      obtain ⟨row, stored, kept⟩ := Changes.companions_related refl trans changed effect _ _ before
      rw [after] at stored
      cases stored
      exact kept

theorem Command.Effect.companion_precedes (effect : command.Effect sdk permits w w')
    {companionId : String} {old new : CompanionRow}
    (before : w.companions.get? companionId = some old)
    (after : w'.companions.get? companionId = some new) : old.Precedes new := by
  refine Command.Effect.companion_related CompanionRow.Precedes.refl CompanionRow.Precedes.trans
    (fun change => change.outlives.companions) CompanionRow.precedes_moveTo ?_ effect before after
  intro doomed removal
  obtain ⟨row, stored, -, -, spared⟩ := removal.companion after
  rw [before] at stored
  cases stored
  exact spared.precedes

theorem Command.Effect.genome_stays (effect : command.Effect sdk permits w w')
    {genomeId : String} {old : PersonaGenomeRow}
    (before : w.personaGenomes.get? genomeId = some old)
    (stored : w'.companions.has old.companionId = true) :
    ∃ new, w'.personaGenomes.get? genomeId = some new ∧ old.Keeps new := by
  have carried : Table.Carries PersonaGenomeRow.Precedes w.personaGenomes w'.personaGenomes →
      ∃ new, w'.personaGenomes.get? genomeId = some new ∧ old.Keeps new := by
    intro carries
    obtain ⟨new, after, precedes⟩ := carries _ _ before
    exact ⟨new, after, precedes.keeps⟩
  have removed : ∀ {doomed}, Removal doomed w w' →
      ∃ new, w'.personaGenomes.get? genomeId = some new ∧ old.Keeps new := by
    intro doomed removal
    obtain ⟨companion, found⟩ := Table.has_iff.mp stored
    obtain ⟨new, after, spared⟩ := removal.genomeStays before found
    exact ⟨new, after, spared.keeps⟩
  cases command with
  | archiveOwner ownerId =>
      rcases effect with rfl | ⟨owner, now, -, -, rfl⟩
      · exact carried (.refl PersonaGenomeRow.Precedes.refl _)
      · exact carried (.refl PersonaGenomeRow.Precedes.refl _)
  | deleteOwner ownerId =>
      rcases effect with rfl | removal
      · exact carried (.refl PersonaGenomeRow.Precedes.refl _)
      · exact removed removal
  | deleteCompanion ownerId other allowDefault => exact removed effect.1
  | _ => exact carried (Changes.outlives effect).genomes

end Effects

section Histories

variable {sdk : Sdk} {permits : Permits}

theorem Heeds.at_start {lasting : Workspace → Prop} {calls : List Call} {db : Database}
    (lasts : Heeds sdk (fun w _ => lasting w) calls db)
    (final : lasting (replay sdk calls db).tables.workspace) : lasting db.tables.workspace := by
  cases calls with
  | nil => exact final
  | cons call calls => exact lasts.1

/-- A relation between the states around every effect relates the ends of a
run in which something lasts. -/
theorem Heeds.relates {sound : Workspace → Prop} {condition : Workspace → Command → Prop}
    (lasting : Workspace → Prop) (related : Workspace → Workspace → Prop)
    (invariant : Invariant sdk permits sound)
    (refl : ∀ w, related w w)
    (trans : ∀ {first second third}, lasting second → related first second →
      related second third → related first third)
    (permitted : ∀ w command, condition w command → command.Permitted sdk permits w)
    (step : ∀ {w w' command}, sound w → condition w command → lasting w → lasting w' →
      command.Effect sdk permits w w' → related w w')
    {calls : List Call} {db : Database} (heeds : Heeds sdk condition calls db)
    (lasts : Heeds sdk (fun w _ => lasting w) calls db) (start : sound db.tables.workspace)
    (final : lasting (replay sdk calls db).tables.workspace) :
    related db.tables.workspace (replay sdk calls db).tables.workspace := by
  induction calls generalizing db with
  | nil => exact refl _
  | cons call calls induction =>
      obtain ⟨heeded, rest⟩ := heeds
      obtain ⟨lasted, restLasts⟩ := lasts
      have allowed := permitted _ _ heeded
      have stays : lasting (call.step sdk db).tables.workspace := restLasts.at_start final
      have next : sound (call.step sdk db).tables.workspace :=
        invariant.replay [call] db ⟨allowed, trivial⟩ start
      have first : related db.tables.workspace (call.step sdk db).tables.workspace := by
        rcases call.step_effect db allowed with same | effect
        · rw [same]
          exact refl _
        · exact step start heeded lasted stays effect
      exact trans stays first (induction rest restLasts next final)

theorem replay_relates (lasting : Workspace → Prop) (related : Workspace → Workspace → Prop)
    (refl : ∀ w, related w w)
    (trans : ∀ {first second third}, lasting second → related first second →
      related second third → related first third)
    (step : ∀ {w w'} {command : Command}, lasting w → lasting w' →
      command.Effect sdk .all w w' → related w w')
    {calls : List Call} {db : Database} (lasts : Heeds sdk (fun w _ => lasting w) calls db)
    (final : lasting (replay sdk calls db).tables.workspace) :
    related db.tables.workspace (replay sdk calls db).tables.workspace := by
  have everywhere : Invariant sdk .all (fun _ => True) :=
    { change := fun _ _ => trivial
      archived := fun _ _ _ _ => trivial
      removed := fun _ _ => trivial }
  exact Heeds.relates lasting related everywhere refl trans (fun _ _ allowed => allowed)
    (fun _ _ before after effect => step before after effect) (heeds_all sdk calls db) lasts trivial
    final

theorem Heeds.companion_relates {sound : Workspace → Prop}
    {related : CompanionRow → CompanionRow → Prop} {condition : Workspace → Command → Prop}
    (invariant : Invariant sdk permits sound) (refl : ∀ row, related row row)
    (trans : ∀ {first second third}, related first second → related second third →
      related first third)
    (permitted : ∀ w command, condition w command → command.Permitted sdk permits w)
    {companionId : String}
    (step : ∀ {w w' command old new}, sound w → condition w command →
      command.Effect sdk permits w w' → w.companions.get? companionId = some old →
      w'.companions.get? companionId = some new → related old new)
    {calls : List Call} {db : Database} (heeds : Heeds sdk condition calls db)
    (lasts : CompanionLasts sdk companionId calls db) (start : sound db.tables.workspace)
    {old new : CompanionRow} (before : db.tables.workspace.companions.get? companionId = some old)
    (after : (replay sdk calls db).tables.workspace.companions.get? companionId = some new) :
    related old new := by
  refine Heeds.relates (fun w => w.companions.has companionId = true)
    (fun w w' => ∀ old new, w.companions.get? companionId = some old →
      w'.companions.get? companionId = some new → related old new)
    invariant ?_ ?_ permitted ?_ heeds lasts start (Table.has_of_get? after) old new before after
  · intro w old new before after
    rw [before] at after
    cases after
    exact refl old
  · intro first second third lasting one two old new before after
    obtain ⟨middle, found⟩ := Table.has_iff.mp lasting
    exact trans (one old middle before found) (two middle new found after)
  · intro w w' command valid heeded _ _ effect old new before after
    exact step valid heeded effect before after

theorem replay_companion_precedes {companionId : String} {calls : List Call} {db : Database}
    (lasts : CompanionLasts sdk companionId calls db) {old new : CompanionRow}
    (before : db.tables.workspace.companions.get? companionId = some old)
    (after : (replay sdk calls db).tables.workspace.companions.get? companionId = some new) :
    old.Precedes new := by
  refine replay_relates (fun w => w.companions.has companionId = true)
    (fun w w' => ∀ old new, w.companions.get? companionId = some old →
      w'.companions.get? companionId = some new → old.Precedes new)
    ?_ ?_ ?_ lasts (Table.has_of_get? after) old new before after
  · intro w old new before after
    rw [before] at after
    cases after
    exact .refl old
  · intro first second third lasting one two old new before after
    obtain ⟨middle, found⟩ := Table.has_iff.mp lasting
    exact (one old middle before found).trans (two middle new found after)
  · intro w w' command _ _ effect old new before after
    exact effect.companion_precedes before after

theorem replay_genome_stays {companionId : String} {calls : List Call} {db : Database}
    (lasts : CompanionLasts sdk companionId calls db)
    (final : (replay sdk calls db).tables.workspace.companions.has companionId = true)
    {genomeId : String} {old : PersonaGenomeRow}
    (before : db.tables.workspace.personaGenomes.get? genomeId = some old)
    (own : old.companionId = companionId) :
    ∃ new, (replay sdk calls db).tables.workspace.personaGenomes.get? genomeId = some new ∧
      old.Keeps new := by
  refine replay_relates (fun w => w.companions.has companionId = true)
    (fun w w' => ∀ old, w.personaGenomes.get? genomeId = some old → old.companionId = companionId →
      ∃ new, w'.personaGenomes.get? genomeId = some new ∧ old.Keeps new)
    ?_ ?_ ?_ lasts final old before own
  · intro w old before _
    exact ⟨old, before, (PersonaGenomeRow.Precedes.refl old).keeps⟩
  · intro first second third _ one two old before own
    obtain ⟨middle, found, kept⟩ := one old before own
    obtain ⟨new, after, keptOn⟩ := two middle found (kept.companionId.trans own)
    exact ⟨new, after, kept.trans keptOn⟩
  · intro w w' command _ stored effect old before own
    rw [← own] at stored
    exact effect.genome_stays before stored

end Histories

end EidolonData
