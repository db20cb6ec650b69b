import EidolonData.Library.Onward
import EidolonData.Schema.Database
import EidolonData.Sdk

/-!
# Sessions

The errors the services raise, what a command takes from its surroundings,
and the statements its session issues.  An `UPDATE` writes the columns the
command changed by primary key; an `INSERT` is refused by the database when
the key is taken.
-/

namespace EidolonData

open Relational

inductive Error where
  | ownerWorkspaceError (message : String)
  | ownerWorkspaceNotFound (message : String)
  | ownerWorkspaceConflict (message : String)
  | companionLifecycleConflict (message : String) (code : LifecycleConflictCode)
  | companionDeletionError (message : String)
  | personaGenomeConflict (message : String) (code : PersonaConflictCode)
      (staleGenomeId : Option String)
  | personConflict (message : String)
  | personFaceInvalid (message : String)
  | voiceprintConflict (message : String)
  | teamAssetError (message : String)
  | smartHomeRegistryConflict (expectedRevision currentRevision : Int)
  | smartHomeRegistryNotFound (message : String)
  | smartHomeRegistryRefused (message code : String)
  | smartHomeRegistryInvalid (message code : String)
  | lookupError (message : String)
  | keyError (message : String)
  | valueError (message : String)
  /-- A pydantic refusal, or a value of the wrong type met on the way. -/
  | validationError (detail : String)
  | integrityError
  deriving DecidableEq, Repr

/-- What one command draws from outside: the values of `uuid4()`, by call
site, and the clock. -/
structure Env where
  uuid : Nat → Uuid
  now : Timestamp

/-- A service command on the session it opened. -/
abbrev Session := Tx Tables Error

/-- A command run for its effect. -/
def effect (program : Session α) : Session Unit := do
  let _ ← program
  return ()

/-- A check that does not read the database. -/
def check (outcome : Except Error α) : Session α := Tx.lift id outcome

/-- A validation by the SDK. -/
def validated (outcome : Except String α) : Session α := Tx.lift .validationError outcome

def Tables.mapWorkspace (t : Tables) (change : Workspace → Workspace) : Tables :=
  { t with workspace := change t.workspace }

def Tables.addFact (t : Tables) (now : Timestamp) (fact : AuditFact) : Tables :=
  { t with
    auditOutbox := t.auditOutbox.insert
      { outboxId := nextOutboxId t.auditOutbox
        fact := fact
        nextAttemptAt := now } }

def Tables.mapHome (t : Tables) (change : SmartHome → SmartHome) : Tables :=
  { t with home := change t.home }

def Tables.mapPeople (t : Tables) (change : People → People) : Tables :=
  { t with people := change t.people }

def Tables.mapTeams (t : Tables) (change : Teams → Teams) : Tables :=
  { t with teams := change t.teams }

@[simp] theorem Tables.workspace_mapWorkspace (t : Tables) (change : Workspace → Workspace) :
    (t.mapWorkspace change).workspace = change t.workspace := rfl

@[simp] theorem Tables.workspace_addFact (t : Tables) (now : Timestamp) (fact : AuditFact) :
    (t.addFact now fact).workspace = t.workspace := rfl

@[simp] theorem Tables.workspace_mapHome (t : Tables) (change : SmartHome → SmartHome) :
    (t.mapHome change).workspace = t.workspace := rfl

@[simp] theorem Tables.workspace_mapPeople (t : Tables) (change : People → People) :
    (t.mapPeople change).workspace = t.workspace := rfl

@[simp] theorem Tables.workspace_mapTeams (t : Tables) (change : Teams → Teams) :
    (t.mapTeams change).workspace = t.workspace := rfl

section Statements

def getOwner (ownerId : String) : Session (Option OwnerRow) :=
  Tx.read (fun t => t.workspace.owners.get? ownerId)

def getCompanion (companionId : String) : Session (Option CompanionRow) :=
  Tx.read (fun t => t.workspace.companions.get? companionId)

def getGenome (genomeId : String) : Session (Option PersonaGenomeRow) :=
  Tx.read (fun t => t.workspace.personaGenomes.get? genomeId)

def getRealm (realmId : String) : Session (Option MemoryRealmRow) :=
  Tx.read (fun t => t.workspace.memoryRealms.get? realmId)

def getBinding (bindingId : String) : Session (Option GuardBindingRow) :=
  Tx.read (fun t => t.workspace.guardBindings.get? bindingId)

def insertOwner (row : OwnerRow) : Session Unit :=
  Tx.attempt (fun t =>
    if t.workspace.owners.has row.ownerId then .error .integrityError
    else .ok (t.mapWorkspace (fun w => { w with owners := w.owners.insert row })))

def insertCompanion (row : CompanionRow) : Session Unit :=
  Tx.attempt (fun t =>
    if t.workspace.companions.has row.companionId then .error .integrityError
    else .ok (t.mapWorkspace (fun w => { w with companions := w.companions.insert row })))

def insertGenome (row : PersonaGenomeRow) : Session Unit :=
  Tx.attempt (fun t =>
    if t.workspace.personaGenomes.has row.genomeId then .error .integrityError
    else .ok (t.mapWorkspace (fun w =>
      { w with personaGenomes := w.personaGenomes.insert row })))

def insertRealm (row : MemoryRealmRow) : Session Unit :=
  Tx.attempt (fun t =>
    if t.workspace.memoryRealms.has row.realmId then .error .integrityError
    else .ok (t.mapWorkspace (fun w => { w with memoryRealms := w.memoryRealms.insert row })))

/-- `UPDATE owners SET ... WHERE owner_id = ...`. -/
def updateOwnerRow (ownerId : String) (change : OwnerRow → OwnerRow)
    (keeps : ∀ row, key (change row) = key row := by intro _; rfl) : Session Unit :=
  Tx.modify (fun t => t.mapWorkspace (fun w =>
    { w with owners := w.owners.modify ownerId change keeps }))

/-- `UPDATE companions SET ... WHERE companion_id = ...`. -/
def updateCompanionRow (companionId : String) (change : CompanionRow → CompanionRow)
    (keeps : ∀ row, key (change row) = key row := by intro _; rfl) : Session Unit :=
  Tx.modify (fun t => t.mapWorkspace (fun w =>
    { w with companions := w.companions.modify companionId change keeps }))

/-- `UPDATE persona_genomes SET ... WHERE genome_id = ...`. -/
def updateGenomeRow (genomeId : String) (change : PersonaGenomeRow → PersonaGenomeRow)
    (keeps : ∀ row, key (change row) = key row := by intro _; rfl) : Session Unit :=
  Tx.modify (fun t => t.mapWorkspace (fun w =>
    { w with personaGenomes := w.personaGenomes.modify genomeId change keeps }))

/-- `UPDATE memory_realms SET ... WHERE realm_id = ...`. -/
def updateRealmRow (realmId : String) (change : MemoryRealmRow → MemoryRealmRow)
    (keeps : ∀ row, key (change row) = key row := by intro _; rfl) : Session Unit :=
  Tx.modify (fun t => t.mapWorkspace (fun w =>
    { w with memoryRealms := w.memoryRealms.modify realmId change keeps }))

/-- `UPDATE guard_bindings SET ... WHERE binding_id = ...`. -/
def updateBindingRow (bindingId : String) (change : GuardBindingRow → GuardBindingRow)
    (keeps : ∀ row, key (change row) = key row := by intro _; rfl) : Session Unit :=
  Tx.modify (fun t => t.mapWorkspace (fun w =>
    { w with guardBindings := w.guardBindings.modify bindingId change keeps }))

/-- `session.add(governance_fact(...))`. -/
def addFact (env : Env) (fact : AuditFact) : Session Unit :=
  Tx.modify (fun t => t.addFact env.now fact)

end Statements

section Rules

variable {α : Type} (t : Tables)

@[simp] theorem ensures_check (outcome : Except Error α) (post : α → Tables → Prop) :
    (check outcome).Ensures t post ↔ ∀ value, outcome = .ok value → post value t :=
  Tx.ensures_lift id outcome t post

@[simp] theorem ensures_validated (outcome : Except String α) (post : α → Tables → Prop) :
    (validated outcome).Ensures t post ↔ ∀ value, outcome = .ok value → post value t :=
  Tx.ensures_lift Error.validationError outcome t post

@[simp] theorem ensures_getOwner (ownerId : String) (post : Option OwnerRow → Tables → Prop) :
    (getOwner ownerId).Ensures t post ↔ post (t.workspace.owners.get? ownerId) t :=
  Tx.ensures_read _ t post

@[simp] theorem ensures_getCompanion (companionId : String)
    (post : Option CompanionRow → Tables → Prop) :
    (getCompanion companionId).Ensures t post ↔
      post (t.workspace.companions.get? companionId) t :=
  Tx.ensures_read _ t post

@[simp] theorem ensures_getGenome (genomeId : String)
    (post : Option PersonaGenomeRow → Tables → Prop) :
    (getGenome genomeId).Ensures t post ↔ post (t.workspace.personaGenomes.get? genomeId) t :=
  Tx.ensures_read _ t post

@[simp] theorem ensures_getRealm (realmId : String)
    (post : Option MemoryRealmRow → Tables → Prop) :
    (getRealm realmId).Ensures t post ↔ post (t.workspace.memoryRealms.get? realmId) t :=
  Tx.ensures_read _ t post

@[simp] theorem ensures_getBinding (bindingId : String)
    (post : Option GuardBindingRow → Tables → Prop) :
    (getBinding bindingId).Ensures t post ↔ post (t.workspace.guardBindings.get? bindingId) t :=
  Tx.ensures_read _ t post

theorem ensures_insert {ρ κ : Type} [HasKey ρ κ] [DecidableEq κ] {table : Tables → Table ρ}
    {k : κ} {error : Error} {inserted : Tables → Tables} {post : Unit → Tables → Prop} :
    (Tx.attempt (fun t =>
        if (table t).has k then .error error else .ok (inserted t)) : Session Unit).Ensures t post ↔
      ((table t).get? k = none → post () (inserted t)) := by
  rw [Tx.ensures_attempt]
  cases taken : (table t).has k with
  | true =>
      obtain ⟨row, found⟩ := Table.has_iff.mp taken
      simp [found]
  | false =>
      have fresh := Table.has_eq_false_iff.mp taken
      simp [fresh]

@[simp] theorem ensures_insertOwner (row : OwnerRow) (post : Unit → Tables → Prop) :
    (insertOwner row).Ensures t post ↔ (t.workspace.owners.get? row.ownerId = none →
      post () (t.mapWorkspace (fun w => { w with owners := w.owners.insert row }))) :=
  ensures_insert t

@[simp] theorem ensures_insertCompanion (row : CompanionRow) (post : Unit → Tables → Prop) :
    (insertCompanion row).Ensures t post ↔ (t.workspace.companions.get? row.companionId = none →
      post () (t.mapWorkspace (fun w => { w with companions := w.companions.insert row }))) :=
  ensures_insert t

@[simp] theorem ensures_insertGenome (row : PersonaGenomeRow) (post : Unit → Tables → Prop) :
    (insertGenome row).Ensures t post ↔ (t.workspace.personaGenomes.get? row.genomeId = none →
      post () (t.mapWorkspace (fun w =>
        { w with personaGenomes := w.personaGenomes.insert row }))) :=
  ensures_insert t

@[simp] theorem ensures_insertRealm (row : MemoryRealmRow) (post : Unit → Tables → Prop) :
    (insertRealm row).Ensures t post ↔ (t.workspace.memoryRealms.get? row.realmId = none →
      post () (t.mapWorkspace (fun w => { w with memoryRealms := w.memoryRealms.insert row }))) :=
  ensures_insert t

@[simp] theorem ensures_updateOwnerRow (ownerId : String) (change : OwnerRow → OwnerRow)
    (keeps : ∀ row, key (change row) = key row) (post : Unit → Tables → Prop) :
    (updateOwnerRow ownerId change keeps).Ensures t post ↔
      post () (t.mapWorkspace (fun w =>
        { w with owners := w.owners.modify ownerId change keeps })) :=
  Tx.ensures_modify _ t post

@[simp] theorem ensures_updateCompanionRow (companionId : String)
    (change : CompanionRow → CompanionRow) (keeps : ∀ row, key (change row) = key row)
    (post : Unit → Tables → Prop) :
    (updateCompanionRow companionId change keeps).Ensures t post ↔
      post () (t.mapWorkspace (fun w =>
        { w with companions := w.companions.modify companionId change keeps })) :=
  Tx.ensures_modify _ t post

@[simp] theorem ensures_updateGenomeRow (genomeId : String)
    (change : PersonaGenomeRow → PersonaGenomeRow) (keeps : ∀ row, key (change row) = key row)
    (post : Unit → Tables → Prop) :
    (updateGenomeRow genomeId change keeps).Ensures t post ↔
      post () (t.mapWorkspace (fun w =>
        { w with personaGenomes := w.personaGenomes.modify genomeId change keeps })) :=
  Tx.ensures_modify _ t post

@[simp] theorem ensures_updateRealmRow (realmId : String)
    (change : MemoryRealmRow → MemoryRealmRow) (keeps : ∀ row, key (change row) = key row)
    (post : Unit → Tables → Prop) :
    (updateRealmRow realmId change keeps).Ensures t post ↔
      post () (t.mapWorkspace (fun w =>
        { w with memoryRealms := w.memoryRealms.modify realmId change keeps })) :=
  Tx.ensures_modify _ t post

@[simp] theorem ensures_updateBindingRow (bindingId : String)
    (change : GuardBindingRow → GuardBindingRow) (keeps : ∀ row, key (change row) = key row)
    (post : Unit → Tables → Prop) :
    (updateBindingRow bindingId change keeps).Ensures t post ↔
      post () (t.mapWorkspace (fun w =>
        { w with guardBindings := w.guardBindings.modify bindingId change keeps })) :=
  Tx.ensures_modify _ t post

@[simp] theorem ensures_addFact (env : Env) (fact : AuditFact) (post : Unit → Tables → Prop) :
    (addFact env fact).Ensures t post ↔ post () (t.addFact env.now fact) :=
  Tx.ensures_modify _ t post

@[simp] theorem onward_validated_bind {β : Type} {post : Tables → β → Tables → Prop}
    (outcome : Except String α) (rest : α → Session β) :
    (validated outcome >>= rest).Onward post ↔
      ∀ value, outcome = .ok value → (rest value).Onward post :=
  Tx.onward_lift_bind Error.validationError outcome rest

@[simp] theorem onward_getOwner_bind {post : Tables → α → Tables → Prop} (ownerId : String)
    (rest : Option OwnerRow → Session α) :
    (getOwner ownerId >>= rest).Onward post ↔ ∀ stored, (rest stored).Onward post := Iff.rfl

end Rules

/-- One command in a transaction of its own: its result with the state its
commit leaves, or its error with the state unchanged. -/
def Database.transact (db : Database) (command : Session α) : Except Error (α × Database) :=
  command.commit Tables.Integrity .integrityError db.tables

/-- The state after a command, whether it committed or was rolled back. -/
def Database.after (db : Database) (command : Session α) : Database :=
  match db.transact command with
  | .ok (_, db') => db'
  | .error _ => db

theorem Database.transact_ok_iff {db db' : Database} {command : Session α} {value : α} :
    db.transact command = .ok (value, db') ↔
      command.run db.tables = .ok (value, db'.tables) :=
  Tx.commit_ok_iff

theorem Database.transact_of_error {db : Database} {command : Session α} {error : Error}
    (ran : command.run db.tables = .error error) : db.transact command = .error error := by
  simp only [Database.transact, Tx.commit, ran]

theorem Database.transact_error {db : Database} {command : Session α} {error : Error}
    (refused : db.transact command = .error error) :
    command.run db.tables = .error error ∨ error = .integrityError := by
  unfold Database.transact Tx.commit at refused
  cases ran : command.run db.tables with
  | error failure =>
      rw [ran] at refused
      cases refused
      exact Or.inl rfl
  | ok finished =>
      obtain ⟨value, t⟩ := finished
      simp only [ran] at refused
      split at refused
      · cases refused
      · cases refused
        exact Or.inr rfl

theorem Database.after_of_error {db : Database} {command : Session α} {error : Error}
    (refused : db.transact command = .error error) : db.after command = db := by
  simp only [Database.after, refused]

theorem Database.after_of_ok {db db' : Database} {command : Session α} {value : α}
    (transacted : db.transact command = .ok (value, db')) : db.after command = db' := by
  simp only [Database.after, transacted]

/-- A run whose final state the constraints accept is committed. -/
theorem Database.after_of_run {db : Database} {command : Session α} {value : α} {t : Tables}
    (ran : command.run db.tables = .ok (value, t)) (accepted : t.Integrity) :
    db.after command = ⟨t, accepted⟩ := by
  have transacted : db.transact command = .ok (value, ⟨t, accepted⟩) :=
    Database.transact_ok_iff.mpr ran
  simp [Database.after, transacted]

theorem Database.after_induct {db : Database} {command : Session α}
    {motive : Database → Prop} (rolledBack : motive db)
    (committed : ∀ value db', command.run db.tables = .ok (value, db'.tables) → motive db') :
    motive (db.after command) := by
  unfold Database.after
  cases transacted : db.transact command with
  | error error => exact rolledBack
  | ok finished =>
      obtain ⟨value, db'⟩ := finished
      exact committed value db' (Database.transact_ok_iff.mp transacted)

/-- A command run for its effect leads to the same state. -/
theorem Database.after_effect (db : Database) (program : Session α) :
    db.after (effect program) = db.after program := by
  unfold Database.after Database.transact Tx.commit
  simp only [effect, Tx.run_bind]
  cases ran : program.run db.tables with
  | error error => rfl
  | ok finished =>
      obtain ⟨value, t⟩ := finished
      simp only [Tx.pure_eq, Tx.run_done]
      by_cases accepted : t.Integrity
      · simp only [dif_pos accepted]
      · simp only [dif_neg accepted]

/-- The command is refused, and nothing is written. -/
def Database.Refuses {α : Type} (db : Database) (command : Session α) : Prop :=
  (∃ error, db.transact command = .error error) ∧ db.after command = db

theorem Database.refuses_of_ensures {db : Database} {command : Session α}
    (never : command.Ensures db.tables (fun _ _ => False)) : db.Refuses command := by
  cases transacted : db.transact command with
  | error error => exact ⟨⟨error, transacted⟩, Database.after_of_error transacted⟩
  | ok finished =>
      obtain ⟨value, db'⟩ := finished
      exact (never value db'.tables (Database.transact_ok_iff.mp transacted)).elim

end EidolonData
