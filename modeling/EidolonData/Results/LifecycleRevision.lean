import EidolonData.Effects.Integrity
import EidolonData.Effects.Commands

/-!
# The revision of a Companion

A lifecycle call that names a stale revision changes nothing, except one: on a
Companion that is retiring already, `put_away_companion` skips the check of
its first half and archives with no expected revision in its second.
-/

namespace EidolonData

open Relational

def Command.Expects (companionId : String) (revision : Int) : Command → Prop
  | beginRetirement _ companion expected _ => companion = companionId ∧ expected = some revision
  | archiveCompanion _ companion expected => companion = companionId ∧ expected = some revision
  | putAwayCompanion _ companion expected _ => companion = companionId ∧ expected = some revision
  | restoreCompanion _ companion expected => companion = companionId ∧ expected = some revision
  | _ => False

/-- A lifecycle call changes the state only from the revision it names, and
changes nothing from another one. -/
def Call.ComparesAndSets (sdk : Sdk) (db : Database) (call : Call) : Prop :=
  ∀ companionId revision companion, call.command.Expects companionId revision →
    db.tables.workspace.companions.get? companionId = some companion →
    (∀ moved, (call.step sdk db).tables.workspace.companions.get? companionId = some moved →
      moved.lifecycleState ≠ companion.lifecycleState → companion.revision = revision) ∧
    (companion.revision ≠ revision → call.step sdk db = db)

/-- The Companion that a stale `put_away_companion` archives: a retiring one
that is not the default, where the event id of its fact is new. -/
def Database.PutAwayStale (sdk : Sdk) (db : Database) (env : Env) (ownerId companionId : String)
    (revision : Int) : Prop :=
  ∃ companion, db.tables.workspace.companions.get? companionId = some companion ∧
    companion.ownerId = ownerId ∧ companion.lifecycleState = .retiring ∧
    companion.revision ≠ revision ∧ .archived ∈ sdk.lifecycleTransitions .retiring ∧
    (∀ owner, db.tables.workspace.owners.get? ownerId = some owner →
      owner.defaultCompanionId ≠ some companionId) ∧
    ¬ db.tables.HasEvent ("audit-" ++ (env.uuid 2).hex)

def Call.SkipsRevision (sdk : Sdk) (db : Database) (call : Call) : Prop :=
  match call.command with
  | .putAwayCompanion ownerId companionId (some revision) _ =>
      db.PutAwayStale sdk call.env ownerId companionId revision
  | _ => False

section Stale

variable {sdk : Sdk} {companion : CompanionRow} {target : LifecycleState} {revision : Int}

theorem requireTransition_stale (stale : companion.revision ≠ revision) :
    requireTransition sdk companion target (some revision) ≠ .ok () := by
  unfold requireTransition
  split
  · simp
  · have moved : revision ≠ companion.revision := fun same => stale same.symm
    simp [moved]

theorem requireTransition_unchecked :
    requireTransition sdk companion target none = .ok () ↔
      target ∈ sdk.lifecycleTransitions companion.lifecycleState := by
  unfold requireTransition
  split
  · next excluded => simp [excluded]
  · next allowed => simpa using allowed

end Stale

section Unchanged

variable (sdk : Sdk) (env : Env) (t : Tables) (ownerId companionId : String) (revision : Int)
  {companion : CompanionRow}

theorem retire_stale (stored : CompanionRow) (replacementId : Option String)
    (stale : stored.revision ≠ revision) :
    (retire sdk env ownerId stored (some revision) replacementId).Ensures t (fun result t' =>
      t' = t ∧ result = (stored, none) ∧ stored.lifecycleState = .retiring) := by
  simp only [retire, Tx.ensures_ite, Tx.ensures_bind, Tx.pure_eq, Tx.ensures_done, ensures_check]
  constructor
  · intro retiring
    exact ⟨trivial, trivial, retiring⟩
  · intro _ _ accepted
    exact absurd accepted (requireTransition_stale stale)

theorem beginRetirement_stale (replacementId : Option String)
    (found : t.workspace.companions.get? companionId = some companion)
    (stale : companion.revision ≠ revision) :
    (beginRetirement sdk env ownerId companionId (some revision) replacementId).Ensures t
      (fun _ t' => t' = t) := by
  simp only [beginRetirement, Tx.ensures_bind, Tx.pure_eq, Tx.ensures_done]
  refine (ownedCompanion_effect t ownerId companionId).mono ?_
  intro stored t₁ outcome
  obtain ⟨unchanged, storedFound, named, owned⟩ := outcome
  subst unchanged named
  rw [found] at storedFound
  cases storedFound
  refine (retire_stale sdk env t₁ ownerId revision _ replacementId stale).mono ?_
  intro _ t₂ outcome
  obtain ⟨same, _⟩ := outcome
  exact same

theorem archiveCompanion_stale
    (found : t.workspace.companions.get? companionId = some companion)
    (stale : companion.revision ≠ revision) :
    (archiveCompanion sdk env ownerId companionId (some revision)).Ensures t
      (fun _ t' => t' = t) := by
  simp only [archiveCompanion, Tx.ensures_bind]
  refine (ownedCompanion_effect t ownerId companionId).mono ?_
  intro stored t₁ ⟨unchanged, storedFound, named, owned⟩
  subst unchanged named
  rw [found] at storedFound
  cases storedFound
  simp only [archive, Tx.ensures_ite, Tx.ensures_bind, Tx.pure_eq, Tx.ensures_done, ensures_check]
  refine ⟨fun _ => trivial, ?_⟩
  intro _ _ accepted
  exact absurd accepted (requireTransition_stale stale)

theorem restoreCompanion_stale
    (found : t.workspace.companions.get? companionId = some companion)
    (stale : companion.revision ≠ revision) :
    (restoreCompanion sdk env ownerId companionId (some revision)).Ensures t
      (fun _ t' => t' = t) := by
  simp only [restoreCompanion, Tx.ensures_bind]
  refine (ownedCompanion_effect t ownerId companionId).mono ?_
  intro stored t₁ ⟨unchanged, storedFound, named, owned⟩
  subst unchanged named
  rw [found] at storedFound
  cases storedFound
  simp only [Tx.ensures_ite, Tx.ensures_bind, Tx.pure_eq, Tx.ensures_done, ensures_check]
  refine ⟨fun _ => trivial, ?_⟩
  intro _ _ accepted
  exact absurd accepted (requireTransition_stale stale)

end Unchanged

section PutAway

variable (sdk : Sdk) (env : Env) (t : Tables) (ownerId companionId : String) (revision : Int)
  (replacementId : Option String) {companion : CompanionRow}

/-- The Companion archived, with its fact. -/
def Tables.putAway (t : Tables) (env : Env) (ownerId : String) (companion : CompanionRow) :
    Tables :=
  (t.mapWorkspace (fun w => w.moveLifecycle companion .archived)).addFact env.now
    (governanceFact (env.uuid 2) env.now ownerId "companion" companion.companionId
      "companion.archived")

/-- A stale `put_away_companion` leaves everything as it was, or archives a
retiring Companion. -/
theorem putAwayCompanion_stale (found : t.workspace.companions.get? companionId = some companion)
    (stale : companion.revision ≠ revision) :
    (putAwayCompanion sdk env ownerId companionId (some revision) replacementId).Ensures t
      (fun _ t' => t' = t ∨
        (companion.ownerId = ownerId ∧ companion.lifecycleState = .retiring ∧
          .archived ∈ sdk.lifecycleTransitions .retiring ∧
          (∀ owner, t.workspace.owners.get? ownerId = some owner →
            owner.defaultCompanionId ≠ some companionId) ∧
          t' = t.putAway env ownerId companion)) := by
  simp only [putAwayCompanion, Tx.ensures_bind, Tx.ensures_ite, Tx.pure_eq, Tx.ensures_done]
  refine (ownedCompanion_effect t ownerId companionId).mono ?_
  intro stored t₁ outcome
  obtain ⟨unchanged, storedFound, named, owned⟩ := outcome
  subst unchanged named
  rw [found] at storedFound
  cases storedFound
  refine ⟨?_, fun _ => Or.inl rfl⟩
  intro _
  refine (retire_stale sdk env t₁ ownerId revision _ replacementId stale).mono ?_
  intro reply t₂ outcome
  obtain ⟨retired, held⟩ := reply
  obtain ⟨same, result, retiring⟩ := outcome
  cases result
  subst same
  simp only [archive, Tx.ensures_ite, Tx.ensures_bind, Tx.pure_eq, Tx.ensures_done, ensures_check,
    getLoadedOwner, ensures_getOwner, Tx.ensures_refuseIf, writeLifecycle,
    ensures_updateCompanionRow, ensures_addFact]
  refine ⟨fun _ => Or.inl trivial, ?_⟩
  intro _ _ accepted notDefault
  have allowed := requireTransition_unchecked.mp accepted
  rw [retiring] at allowed
  refine Or.inr ⟨owned, retiring, allowed, ?_, rfl⟩
  intro owner ownerFound pointed
  exact notDefault (by simp [ownerFound, pointed])

/-- A retiring Companion that is not the default is archived whatever the
caller expected. -/
theorem putAwayCompanion_retiring
    (found : t.workspace.companions.get? companionId = some companion)
    (owned : companion.ownerId = ownerId) (retiring : companion.lifecycleState = .retiring)
    (allowed : .archived ∈ sdk.lifecycleTransitions .retiring)
    (notDefault : ∀ owner, t.workspace.owners.get? ownerId = some owner →
      owner.defaultCompanionId ≠ some companionId) (expectedRevision : Option Int) :
    (putAwayCompanion sdk env ownerId companionId expectedRevision replacementId).run t =
      .ok (companion.moveTo .archived, t.putAway env ownerId companion) := by
  have named : companion.companionId = companionId := Table.key_of_get? found
  subst named
  have accepted : requireTransition sdk companion .archived none = .ok () := by
    rw [requireTransition_unchecked, retiring]
    exact allowed
  have other : (t.workspace.owners.get? ownerId).any
      (fun row => row.defaultCompanionId = some companion.companionId) = false := by
    cases stored : t.workspace.owners.get? ownerId with
    | none => rfl
    | some owner => simpa using notDefault owner stored
  have read := ownedCompanion_run t found owned
  have kept : (retire sdk env ownerId companion expectedRevision replacementId).run t =
      .ok ((companion, none), t) := by
    simp [retire, retiring]
  have archived : (archive sdk env ownerId companion none none).run t =
      .ok (companion.moveTo .archived, t.putAway env ownerId companion) := by
    simp [archive, retiring, accepted, check, Tx.lift, getLoadedOwner, getOwner, other,
      writeLifecycle, updateCompanionRow, addFact, Tables.putAway, Workspace.moveLifecycle,
      CompanionRow.moveTo]
  have notArchived : companion.lifecycleState ≠ .archived := by
    rw [retiring]
    simp
  rw [putAwayCompanion, Tx.run_bind_ok read, if_pos notArchived, Tx.run_bind_ok kept]
  exact archived

theorem putAway_companion (found : t.workspace.companions.get? companionId = some companion) :
    (t.putAway env ownerId companion).workspace.companions.get? companionId =
      some (companion.moveTo .archived) := by
  have named : companion.companionId = companionId := Table.key_of_get? found
  subst named
  simp [Tables.putAway, Workspace.moveLifecycle, found, CompanionRow.moveTo]

end PutAway

/-- A stale lifecycle call changes nothing, unless it puts a retiring
Companion away. -/
theorem Call.stale_unchanged {sdk : Sdk} {db : Database} {call : Call}
    (checked : ¬ call.SkipsRevision sdk db) {companionId : String} {revision : Int}
    {companion : CompanionRow} (expects : call.command.Expects companionId revision)
    (found : db.tables.workspace.companions.get? companionId = some companion)
    (stale : companion.revision ≠ revision) : call.step sdk db = db := by
  obtain ⟨env, command⟩ := call
  have unchanged : ∀ {program : Session CompanionRow},
      command.session sdk env = effect program →
      program.Ensures db.tables (fun _ t' => t' = db.tables) →
      Call.step sdk db ⟨env, command⟩ = db := by
    intro program runs ensures
    rcases Call.step_ensures ⟨env, command⟩ db runs ensures with same | same
    · exact same
    · exact Subtype.ext same
  cases command with
  | beginRetirement ownerId named expected replacementId =>
      obtain ⟨rfl, rfl⟩ := expects
      exact unchanged rfl
        (beginRetirement_stale sdk env db.tables ownerId named revision replacementId found stale)
  | archiveCompanion ownerId named expected =>
      obtain ⟨rfl, rfl⟩ := expects
      exact unchanged rfl
        (archiveCompanion_stale sdk env db.tables ownerId named revision found stale)
  | restoreCompanion ownerId named expected =>
      obtain ⟨rfl, rfl⟩ := expects
      exact unchanged rfl
        (restoreCompanion_stale sdk env db.tables ownerId named revision found stale)
  | putAwayCompanion ownerId named expected replacementId =>
      obtain ⟨rfl, rfl⟩ := expects
      let call : Call := ⟨env, .putAwayCompanion ownerId named (some revision) replacementId⟩
      rcases call.step_ensures db rfl (putAwayCompanion_stale sdk env db.tables ownerId named
        revision replacementId found stale) with same | same | archived
      · exact same
      · exact Subtype.ext same
      · -- the commit accepted the fact, so its event was new
        obtain ⟨owned, retiring, allowed, notDefault, final⟩ := archived
        have same : companion.companionId = named := Table.key_of_get? found
        have stored : db.tables.workspace.companions.get? companion.companionId =
            some companion := by
          rw [same]
          exact found
        have accepted : (db.tables.putAway env ownerId companion).Integrity := by
          rw [← final]
          exact (call.step sdk db).property
        have fresh := ((db.property.moveLifecycle .archived stored).addFact_iff env.now _).mp
          accepted
        exact absurd ⟨companion, found, owned, retiring, stale, allowed, notDefault, fresh⟩ checked
  | _ => cases expects

/-- A lifecycle call is a compare-and-set exactly when it does not put away a
retiring Companion under a stale revision. -/
theorem lifecycle_compares_and_sets_iff (sdk : Sdk) (db : Database) (call : Call) :
    call.ComparesAndSets sdk db ↔ ¬ call.SkipsRevision sdk db := by
  constructor
  · intro compares skips
    obtain ⟨env, command⟩ := call
    cases command with
    | putAwayCompanion ownerId companionId expected replacementId =>
        cases expected with
        | none => exact skips
        | some revision =>
            obtain ⟨companion, found, owned, retiring, stale, allowed, notDefault, fresh⟩ := skips
            have named : companion.companionId = companionId := Table.key_of_get? found
            subst named
            have accepted := ((db.property.moveLifecycle .archived found).addFact_iff env.now
              (governanceFact (env.uuid 2) env.now ownerId "companion" companion.companionId
                "companion.archived")).mpr fresh
            have stepped := Call.step_of_run
              ⟨env, .putAwayCompanion ownerId companion.companionId (some revision) replacementId⟩
                db
              rfl (putAwayCompanion_retiring sdk env db.tables ownerId companion.companionId
                replacementId found owned retiring allowed notDefault (some revision)) accepted
            have unchanged := (compares companion.companionId revision companion ⟨rfl, rfl⟩ found).2
              stale
            have archived := putAway_companion env db.tables ownerId companion.companionId found
            rw [unchanged] at stepped
            have same : db.tables = db.tables.putAway env ownerId companion :=
              congrArg Subtype.val stepped
            rw [← same, found] at archived
            have state := congrArg CompanionRow.lifecycleState (Option.some.inj archived)
            rw [retiring] at state
            cases state
    | _ => exact skips
  · intro checked companionId revision companion expects found
    have stale := Call.stale_unchanged checked expects found
    refine ⟨?_, stale⟩
    intro moved movedFound different
    by_contra other
    rw [stale other, found] at movedFound
    cases movedFound
    exact different rfl

/-- An Owner whose second Companion is retiring, at its second revision. -/
def retiringCommands : List Command :=
  [.createOwner "owner" "" "person" none none,
    .provisionWorkspace { ownerId := "owner", companionId := some "c_a" },
    .provisionWorkspace { ownerId := "owner", companionId := some "c_b" },
    .beginRetirement "owner" "c_b" (some 1) none]

/-- It is put away by a caller that read it before it was retiring. -/
theorem put_away_at_stale_revision :
    ¬ ∀ (calls : List Call) (call : Call),
      call.ComparesAndSets .plain (replay .plain calls .empty) := by
  intro compares
  let db := replay .plain (numbered retiringCommands) .empty
  let call : Call :=
    { env := { uuid := fun site => .ofNat (512 + site), now := 32 }
      command := .putAwayCompanion "owner" "c_b" (some 1) none }
  have stored : (db.tables.workspace.companions.get? "c_b").map
      (fun row => (row.revision, row.lifecycleState)) = some (2, .retiring) := by
    decide +kernel
  have archived : ((call.step .plain db).tables.workspace.companions.get? "c_b").map
      (fun row => row.lifecycleState) = some .archived := by
    decide +kernel
  obtain ⟨companion, found, state⟩ := Option.map_eq_some_iff.mp stored
  obtain ⟨revision, retiring⟩ := Prod.mk.inj state
  obtain ⟨moved, movedFound, final⟩ := Option.map_eq_some_iff.mp archived
  have same := (compares _ call "c_b" 1 companion ⟨rfl, rfl⟩ found).1 moved movedFound
    (by rw [final, retiring]; simp)
  rw [revision] at same
  cases same

end EidolonData
