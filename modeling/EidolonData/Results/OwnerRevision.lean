import EidolonData.Results.ArchivedOwner
import EidolonData.Invariants.Default
import EidolonData.Invariants.Realms

/-!
# The revision of an Owner

Every write of the default pointer advances the Owner's revision, so a caller
that names the revision it read replaces the default it read.  Choosing the
default again changes nothing, in every run that restores no Companion of an
archived Owner; after such a restore the default may point at an old realm.
-/

namespace EidolonData

open Relational

/-- An equal revision means an equal default. -/
structure OwnerRow.Guards (old new : OwnerRow) : Prop where
  revision : old.revision ≤ new.revision
  default : old.revision = new.revision → old.defaultCompanionId = new.defaultCompanionId

theorem OwnerRow.Guards.refl (owner : OwnerRow) : owner.Guards owner :=
  { revision := le_refl _
    default := fun _ => rfl }

theorem OwnerRow.Guards.trans {first second third : OwnerRow} (one : first.Guards second)
    (two : second.Guards third) : first.Guards third := by
  refine ⟨le_trans one.revision two.revision, ?_⟩
  intro same
  have middle : first.revision = second.revision := le_antisymm one.revision (same ▸ two.revision)
  exact (one.default middle).trans (two.default (middle ▸ same))

theorem OwnerRow.guards_of_advance {old new : OwnerRow}
    (advanced : new.revision = old.revision + 1) :
    old.Guards new := by
  refine ⟨by omega, ?_⟩
  intro same
  omega

theorem Removal.guards {doomed : Doomed} {w w' : Workspace} (removal : Removal doomed w w')
    (owned : w.DefaultOwned) {ownerId : String} {old new : OwnerRow}
    (before : w.owners.get? ownerId = some old) (after : w'.owners.get? ownerId = some new) :
    old.Guards new := by
  obtain ⟨same, found, -, spared⟩ := removal.owner after
  rw [before] at found
  cases found
  cases spared with
  | same => exact .refl old
  | released => exact OwnerRow.guards_of_advance rfl
  | foreign companionId pointed notOwn =>
      obtain ⟨companion, companionFound, own, -⟩ := owned before pointed
      have named : old.ownerId = ownerId := Table.key_of_get? before
      exact absurd (own.trans named.symm) (notOwn companion companionFound)

theorem Command.Effect.guards {sdk : Sdk} {permits : Permits} {command : Command}
    {w w' : Workspace} (effect : command.Effect sdk permits w w') (owned : w.DefaultOwned)
    {ownerId : String} {old new : OwnerRow} (before : w.owners.get? ownerId = some old)
    (after : w'.owners.get? ownerId = some new) : old.Guards new := by
  have unchanged : w' = w → old.Guards new := by
    rintro rfl
    rw [before] at after
    cases after
    exact .refl old
  cases command with
  | archiveOwner archived =>
      rcases effect with same | ⟨owner, now, found, -, rfl⟩
      · exact unchanged same
      · have key : owner.ownerId = archived := Table.key_of_get? found
        subst key
        rcases (archiveOwner_stores found).of_get? after with ⟨rfl, rfl⟩ | ⟨-, stored⟩
        · have same : w.owners.get? owner.ownerId = some old := before
          rw [found] at same
          cases same
          exact OwnerRow.guards_of_advance rfl
        · rw [before] at stored
          cases stored
          exact .refl old
  | deleteOwner =>
      rcases effect with same | removal
      · exact unchanged same
      · exact removal.guards owned before after
  | deleteCompanion => exact effect.1.guards owned before after
  | _ =>
      obtain ⟨row, stored, precedes⟩ := Changes.outlives effect |>.owners _ _ before
      rw [after] at stored
      cases stored
      exact ⟨precedes.revision, precedes.guarded⟩

theorem Call.step_guards {sdk : Sdk} (call : Call) (db : Database)
    (owned : db.tables.workspace.DefaultOwned) {ownerId : String} {old new : OwnerRow}
    (before : db.tables.workspace.owners.get? ownerId = some old)
    (after : (call.step sdk db).tables.workspace.owners.get? ownerId = some new) :
    old.Guards new := by
  rcases call.step_effect db (call.command.permitted_all sdk _) with same | effect
  · rw [same, before] at after
    cases after
    exact .refl old
  · exact effect.guards owned before after

def OwnerLasts (sdk : Sdk) (ownerId : String) : List Call → Database → Prop :=
  Heeds sdk (fun w _ => w.owners.has ownerId = true)

instance (sdk : Sdk) (ownerId : String) (calls : List Call) (db : Database) :
    Decidable (OwnerLasts sdk ownerId calls db) :=
  inferInstanceAs (Decidable (Heeds _ _ calls db))

theorem replay_guards {sdk : Sdk} {ownerId : String} {old new : OwnerRow} (calls : List Call)
    (db : Database) (owned : db.tables.workspace.DefaultOwned)
    (lasts : OwnerLasts sdk ownerId calls db)
    (before : db.tables.workspace.owners.get? ownerId = some old)
    (after : (replay sdk calls db).tables.workspace.owners.get? ownerId = some new) :
    old.Guards new := by
  induction calls generalizing db old with
  | nil =>
      rw [replay_nil, before] at after
      cases after
      exact .refl _
  | cons call calls induction =>
      obtain ⟨-, rest⟩ := lasts
      have next : (call.step sdk db).tables.workspace.DefaultOwned :=
        defaultOwned_invariant.replay [call] db (heeds_all sdk [call] db) owned
      have stored : ∃ middle,
          (call.step sdk db).tables.workspace.owners.get? ownerId = some middle := by
        cases calls with
        | nil => exact ⟨new, after⟩
        | cons => exact Table.has_iff.mp rest.1
      obtain ⟨middle, middleFound⟩ := stored
      exact (call.step_guards db owned before middleFound).trans
        (induction (call.step sdk db) next rest middleFound after)

/-- Every Owner is active or archived. -/
def Workspace.OwnersSettled (w : Workspace) : Prop :=
  ∀ {ownerId owner}, w.owners.get? ownerId = some owner →
    owner.status = .active ∨ owner.status = .archived

theorem ownersSettled_invariant {sdk : Sdk} {permits : Permits} :
    Invariant sdk permits Workspace.OwnersSettled := by
  refine { change := ?_, archived := ?_, removed := ?_ }
  · intro w w' change settled ownerId owner found
    cases change.owner_origin found with
    | stored old oldFound status default =>
        rw [status]
        exact settled oldFound
    | created fresh active unset fits => exact Or.inl active
    | pointed old companion oldFound rewritten target answers =>
        have before := settled oldFound
        rw [rewritten]
        exact before
  · intro w owner now stored active settled ownerId row found
    rcases (archiveOwner_stores stored).of_get? found with ⟨-, rfl⟩ | ⟨-, before⟩
    · exact Or.inr rfl
    · exact settled before
  · intro doomed w w' removal settled ownerId owner found
    obtain ⟨old, oldFound, -, spared⟩ := removal.owner found
    rw [spared.status]
    exact settled oldFound

section SetDefault

variable (env : Env) (t : Tables)

theorem setDefaultCompanion_moves (ownerId companionId : String) (expectedRevision : Option Int)
    {old : OwnerRow} (before : t.workspace.owners.get? ownerId = some old) :
    (setDefaultCompanion env ownerId companionId expectedRevision).Ensures t (fun _ t' =>
      ∀ new, t'.workspace.owners.get? ownerId = some new →
        new.defaultCompanionId ≠ old.defaultCompanionId →
        (∀ revision, expectedRevision = some revision → revision = old.revision) ∧
          new.defaultCompanionId = some companionId) := by
  refine (setDefaultCompanion_owner env t ownerId companionId expectedRevision).mono ?_
  rintro _ t' ⟨owner, found, chosen⟩ new newFound different
  rw [before] at found
  cases found
  rcases chosen with ⟨-, kept⟩ | ⟨-, current, stored⟩
  · rw [kept] at newFound
    cases newFound
    exact absurd rfl different
  · rw [stored] at newFound
    cases newFound
    exact ⟨current, rfl⟩

theorem setDefaultCompanion_again (ownerId companionId : String) (expectedRevision : Option Int)
    (integrity : t.workspace.Integrity) (realms : t.workspace.RealmSound) {owner : OwnerRow}
    (found : t.workspace.owners.get? ownerId = some owner) (alive : owner.status = .active)
    (pointed : owner.defaultCompanionId = some companionId) :
    (setDefaultCompanion env ownerId companionId expectedRevision).Ensures t
      (fun _ t' => t' = t) := by
  simp only [setDefaultCompanion, Tx.ensures_bind, Tx.ensures_refuseIf, ensures_getOwner,
    Tx.ensures_require]
  refine (ownedActiveCompanion_effect t ownerId companionId).mono ?_
  intro companion t₁ outcome notGuard _ ownerFound _
  obtain ⟨unchanged, companionFound, named, owned, active⟩ := outcome
  subst unchanged named
  rw [found] at ownerFound
  cases ownerFound
  obtain ⟨realm, realmFound, realmPointed, shared⟩ :=
    realms.pointed companionFound (by rw [owned]; exact found) alive
  have oldest : oldestSharedRealm t₁.workspace.memoryRealms companion.ownerId = some realm :=
    (integrity.onlyShared realmFound shared).oldest
  have rewritten : t₁.workspace.companions.modify companion.companionId (fun row =>
      { row with defaultMemoryRealmId := some realm.realmId }) = t₁.workspace.companions := by
    refine Table.modify_eq_self companionFound ?_
    rw [← realmPointed]
  simp [moveDefault, pointed, ensureMemoryRealmInSession, oldest, pointAtRealm,
    Tables.mapWorkspace, rewritten]

end SetDefault

theorem ownersSettled_empty : Database.empty.tables.workspace.OwnersSettled := by
  intro ownerId owner found
  cases found

/-- A default of an Owner that is not active comes from a restore under an
archived Owner. -/
theorem active_of_default {sdk : Sdk} {calls : List Call}
    (heeds : Heeds sdk (fun w command => ¬ command.RestoresArchived sdk w) calls .empty)
    {ownerId companionId : String} {owner : OwnerRow}
    (found : (replay sdk calls .empty).tables.workspace.owners.get? ownerId = some owner)
    (pointed : owner.defaultCompanionId = some companionId) : owner.status = .active := by
  have settled : (replay sdk calls .empty).tables.workspace.OwnersSettled :=
    ownersSettled_invariant.replay calls .empty (heeds_all sdk calls .empty) ownersSettled_empty
  have sound := archivedSound_invariant.replay calls .empty
    (heeds.mono (Command.permitted_keepingArchived sdk) calls .empty) archivedSound_empty
  rcases settled found with active | archived
  · exact active
  · rw [sound.unset found archived] at pointed
    cases pointed

/-- Along every run the revision of an Owner guards its default: equal
revisions have equal defaults, a choice that names a revision replaces the
default read with it, and choosing the default of an active Owner again
changes nothing. -/
theorem owner_revision_guards_default (sdk : Sdk) (calls between : List Call) (ownerId : String)
    (owner owner' : OwnerRow)
    (before : (replay sdk calls .empty).tables.workspace.owners.get? ownerId = some owner)
    (lasts : OwnerLasts sdk ownerId between (replay sdk calls .empty))
    (after : (replay sdk (calls ++ between) .empty).tables.workspace.owners.get? ownerId =
      some owner') :
    (owner.revision = owner'.revision →
      owner.defaultCompanionId = owner'.defaultCompanionId) ∧
    (∀ env companionId chosen,
      (Call.step sdk (replay sdk (calls ++ between) .empty)
          { env := env
            command := .setDefaultCompanion ownerId companionId
              (some owner.revision) }).tables.workspace.owners.get? ownerId = some chosen →
      chosen.defaultCompanionId ≠ owner'.defaultCompanionId →
      owner'.defaultCompanionId = owner.defaultCompanionId ∧
        chosen.defaultCompanionId = some companionId) ∧
    (∀ env companionId expectedRevision, owner'.defaultCompanionId = some companionId →
      (owner'.status = .active ∨
        Heeds sdk (fun w command => ¬ command.RestoresArchived sdk w) (calls ++ between) .empty) →
      Call.step sdk (replay sdk (calls ++ between) .empty)
          { env := env
            command := .setDefaultCompanion ownerId companionId expectedRevision } =
        replay sdk (calls ++ between) .empty) := by
  have owned : (replay sdk calls .empty).tables.workspace.DefaultOwned :=
    defaultOwned_invariant.replay calls .empty (heeds_all sdk calls .empty)
      defaultOwned_empty
  have guards : owner.Guards owner' := by
    have final := after
    rw [replay_append] at final
    exact replay_guards between _ owned lasts before final
  refine ⟨guards.default, ?_, ?_⟩
  · intro env companionId chosen found moved
    let call : Call :=
      { env := env
        command := .setDefaultCompanion ownerId companionId (some owner.revision) }
    rcases call.step_ensures _ rfl (setDefaultCompanion_moves env _ ownerId companionId
      (some owner.revision) after) with same | moves
    · rw [same, after] at found
      cases found
      exact absurd rfl moved
    · obtain ⟨current, target⟩ := moves chosen found moved
      exact ⟨(guards.default (current _ rfl)).symm, target⟩
  · intro env companionId expectedRevision pointed condition
    have alive : owner'.status = .active := by
      rcases condition with alive | heeds
      · exact alive
      · exact active_of_default heeds after pointed
    have realms := realmSound_invariant.replay (calls ++ between) .empty
      (heeds_all sdk (calls ++ between) .empty) realmSound_empty
    let call : Call :=
      { env := env
        command := .setDefaultCompanion ownerId companionId expectedRevision }
    rcases call.step_ensures _ rfl (setDefaultCompanion_again env _ ownerId companionId
      expectedRevision (replay sdk (calls ++ between) .empty).property.workspace realms after
      alive pointed) with same | same
    · exact same
    · exact Subtype.ext same

def twoCompanionsCommands : List Command :=
  [.createOwner "owner" "" "person" none none,
    .provisionWorkspace { ownerId := "owner", companionId := some "c_a" },
    .provisionWorkspace { ownerId := "owner", companionId := some "c_b" }]

/-- The first Companion, the default, chosen again. -/
theorem owner_revision_guards_default_moved :
    let db := replay .plain (numbered twoCompanionsCommands) .empty
    ∃ owner, db.tables.workspace.owners.get? "owner" = some owner ∧
      owner.defaultCompanionId = some "c_a" ∧
      ∀ env, Call.step .plain db
        { env := env, command := .setDefaultCompanion "owner" "c_a" none } = db := by
  intro db
  have stored : (db.tables.workspace.owners.get? "owner").map
      (fun row => (row.status, row.defaultCompanionId)) = some (.active, some "c_a") := by
    decide +kernel
  obtain ⟨owner, found, state⟩ := Option.map_eq_some_iff.mp stored
  obtain ⟨active, pointed⟩ := Prod.mk.inj state
  refine ⟨owner, found, pointed, ?_⟩
  intro env
  have after : (replay .plain (numbered twoCompanionsCommands ++ [])
      .empty).tables.workspace.owners.get? "owner" = some owner := by
    rw [List.append_nil]
    exact found
  exact (owner_revision_guards_default .plain (numbered twoCompanionsCommands) [] "owner" owner
    owner found trivial after).2.2 env "c_a" none pointed (Or.inl active)

/-- A default handed over to a Companion that an archived Owner got back. -/
def restoredDefaultCommands : List Command :=
  twoCompanionsCommands ++
    [.archiveOwner "owner", .restoreCompanion "owner" "c_a" none,
      .setDefaultCompanion "owner" "c_a" none, .restoreCompanion "owner" "c_b" none,
      .beginRetirement "owner" "c_a" none (some "c_b")]

/-- Choosing it again moves its realm. -/
theorem default_chosen_again_moves_realm :
    ¬ ∀ (calls : List Call) (ownerId companionId : String) (owner : OwnerRow) (call : Call),
      (replay .plain calls .empty).tables.workspace.owners.get? ownerId = some owner →
      owner.defaultCompanionId = some companionId →
      call.command = .setDefaultCompanion ownerId companionId none →
      call.step .plain (replay .plain calls .empty) = replay .plain calls .empty := by
  intro unchanged
  let calls := numbered restoredDefaultCommands
  let call : Call :=
    { env := { uuid := fun site => .ofNat (512 + site), now := 32 }
      command := .setDefaultCompanion "owner" "c_b" none }
  have stored : ((replay .plain calls .empty).tables.workspace.owners.get? "owner").map
      (fun row => row.defaultCompanionId) = some (some "c_b") := by
    decide +kernel
  have moved :
      ((call.step .plain (replay .plain calls .empty)).tables.workspace.companions.get? "c_b").map
          (fun row => row.defaultMemoryRealmId) ≠
        ((replay .plain calls .empty).tables.workspace.companions.get? "c_b").map
          (fun row => row.defaultMemoryRealmId) := by
    decide +kernel
  obtain ⟨owner, found, pointed⟩ := Option.map_eq_some_iff.mp stored
  rw [unchanged calls "owner" "c_b" owner call found pointed rfl] at moved
  exact moved rfl

end EidolonData
