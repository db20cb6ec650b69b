import EidolonData.Effects.Provisioning
import EidolonData.Services.Persons

/-!
# Effects of the Person commands

The Person commands reach the workspace in three ways: the private realms,
the Owner's settings, and the pointers an erased realm leaves behind.
-/

namespace EidolonData

open Relational

variable (sdk : Sdk) (permits : Permits) (env : Env) (t : Tables)

theorem RealmsAside.of_stores {w : Workspace} {realms' : Table MemoryRealmRow}
    {row : MemoryRealmRow} {owner : OwnerRow}
    (stores : Table.Stores w.memoryRealms realms' row) (personal : row.personId ≠ none)
    (before : ∀ old, w.memoryRealms.get? row.realmId = some old → old.personId ≠ none)
    (found : w.owners.get? row.ownerId = some owner) (active : owner.status = .active) :
    RealmsAside w realms' := by
  refine ⟨?_, ?_⟩
  · intro realmId other shared
    by_cases same : realmId = row.realmId
    · subst same
      constructor
      · intro stored
        have self : realms'.get? row.realmId = some row := stores.self
        rw [self] at stored
        cases stored
        exact absurd shared personal
      · intro stored
        exact absurd shared (before other stored)
    · rw [stores.other same]
  · intro realmId other stored alive
    by_cases same : realmId = row.realmId
    · subst same
      have self : realms'.get? row.realmId = some row := stores.self
      rw [self] at stored
      cases stored
      exact Or.inr ⟨owner, found, active⟩
    · rw [stores.other same] at stored
      exact Or.inl ⟨other, stored, alive, rfl⟩

theorem requireActiveOwner_effect (ownerId : String) :
    (requireActiveOwner ownerId).Ensures t (fun owner t' =>
      t' = t ∧ t.workspace.owners.get? ownerId = some owner ∧ owner.status = .active ∧
        owner.ownerId = ownerId) := by
  simp [requireActiveOwner]
  intro owner found active
  have stored : owner.ownerId = ownerId := Table.key_of_get? found
  exact ⟨found, active, stored⟩

theorem requireActiveOwner_run {t : Tables} {ownerId : String} {owner : OwnerRow}
    (stored : t.workspace.owners.get? ownerId = some owner) (active : owner.status = .active) :
    (requireActiveOwner ownerId).run t = .ok (owner, t) := by
  have found : (some owner).filter (fun owner => owner.status = .active) = some owner := by
    simp [Option.filter, active]
  simp only [requireActiveOwner, getOwner, Tx.run_read_bind, stored]
  rw [found]
  rfl

theorem requirePerson_effect (ownerId personId : String) (includeDeleted : Bool) :
    (requirePerson ownerId personId includeDeleted).Ensures t (fun person t' =>
      t' = t ∧ person.ownerId = ownerId ∧
        ∃ owner, t.workspace.owners.get? ownerId = some owner ∧ owner.status = .active) := by
  simp only [requirePerson, getPerson, Tx.ensures_bind, Tx.ensures_read, Tx.ensures_require]
  refine (requireActiveOwner_effect t ownerId).mono ?_
  intro owner t₁ outcome person personFound
  obtain ⟨unchanged, found, active, _⟩ := outcome
  subst unchanged
  obtain ⟨-, accepted⟩ := Option.filter_eq_some_iff.mp personFound
  simp only [Bool.and_eq_true, decide_eq_true_eq] at accepted
  exact ⟨rfl, accepted.1, owner, found, active⟩

theorem personRealm_effect (ownerId personId : String) :
    (personRealm ownerId personId).Ensures t (fun stored t' =>
      t' = t ∧ ∀ realm, stored = some realm →
        t.workspace.memoryRealms.get? realm.realmId = some realm ∧ realm.ownerId = ownerId ∧
          realm.personId = some personId) := by
  simp only [personRealm, Tx.ensures_read]
  refine ⟨trivial, ?_⟩
  intro realm first
  obtain ⟨stored, wanted⟩ := Table.mem_select.mp (List.mem_of_head? first)
  simp only [Bool.and_eq_true, decide_eq_true_eq] at wanted
  exact ⟨stored, wanted.1, wanted.2⟩

theorem writeRealm_change (old new : MemoryRealmRow) {ownerId personId : String}
    (found : t.workspace.memoryRealms.get? old.realmId = some old)
    (owned : old.ownerId = ownerId) (personal : old.personId = some personId)
    (active : ∃ owner, t.workspace.owners.get? ownerId = some owner ∧ owner.status = .active)
    (sameId : new.realmId = old.realmId) :
    (writeRealm new).Ensures t (fun _ t' => Change sdk permits t.workspace t'.workspace) := by
  obtain ⟨owner, ownerFound, ownerActive⟩ := active
  subst owned
  simp only [writeRealm, ensures_updateRealmRow, sameId]
  refine .realmsAside _ (RealmsAside.of_stores (Table.stores_modify found) ?_ ?_ ownerFound
    ownerActive)
  · simp [personal]
  · intro other stored
    have same : some old = some other := found.symm.trans stored
    cases same
    simp [personal]

@[simp] theorem ensures_writePerson (person : PersonRow) (post : Unit → Tables → Prop) :
    (writePerson person).Ensures t post ↔
      post () (t.mapPeople (fun p =>
        { p with
          persons := p.persons.modify person.personId (fun row =>
            { row with
              displayName := person.displayName
              status := person.status
              deleted := person.deleted
              recognitionState := person.recognitionState
              isNamed := person.isNamed
              archivedAt := person.archivedAt
              revision := person.revision
              profileJson := person.profileJson }) })) :=
  Tx.ensures_modify _ t post

@[simp] theorem ensures_auditPerson (uuid : Nat) (person : PersonRow) (action : String)
    (post : Unit → Tables → Prop) :
    (auditPerson env uuid person action).Ensures t post ↔
      post () (t.addFact env.now (governanceFact (env.uuid uuid) env.now person.ownerId "person"
        person.personId action [("revision", .int person.revision)])) :=
  ensures_addFact t env _ post

theorem checkPersonRevision_readOnly (person : PersonRow) (revision : Int) :
    (checkPersonRevision person revision).Ensures t (fun _ t' => t' = t) := by
  simp [checkPersonRevision]

theorem candidateCapacity_readOnly (ttl : Timestamp) (ownerId : String) :
    (candidateCapacity sdk env ttl ownerId).Ensures t (fun _ t' => t' = t) := by
  simp [candidateCapacity]

theorem checkMemoryEligible_readOnly (person : PersonRow) :
    (checkMemoryEligible person).Ensures t (fun _ t' => t' = t) := by
  simp [checkMemoryEligible]

theorem bindMemory_change (ownerId : String) (person : PersonRow) (policy : JsonDict)
    (owned : person.ownerId = ownerId)
    (active : ∃ owner, t.workspace.owners.get? ownerId = some owner ∧ owner.status = .active) :
    (bindMemory env person policy).Ensures t
      (fun _ t' => Change sdk permits t.workspace t'.workspace) := by
  obtain ⟨owner, ownerFound, ownerActive⟩ := active
  subst owned
  simp only [bindMemory, Tx.ensures_bind, ensures_insertRealm, ensures_auditPerson, Tx.pure_eq,
    Tx.ensures_done, Tables.workspace_addFact]
  intro fresh
  refine .realmsAside _ (RealmsAside.of_stores (Table.stores_insert fresh) ?_ ?_ ownerFound
    ownerActive)
  · simp [boundRealm]
  · intro old stored
    rw [fresh] at stored
    cases stored

theorem deactivateMemory_changes (ownerId personId : String)
    (active : ∃ owner, t.workspace.owners.get? ownerId = some owner ∧ owner.status = .active) :
    (deactivateMemory sdk ownerId personId).Ensures t
      (fun _ t' => Changes sdk permits t.workspace t'.workspace) := by
  simp only [deactivateMemory, Tx.ensures_bind]
  refine (personRealm_effect t ownerId personId).mono ?_
  intro stored t₁ outcome
  obtain ⟨unchanged, realmFound⟩ := outcome
  subst unchanged
  cases stored with
  | none =>
      simp only [Tx.ensures_done]
      exact .refl
  | some realm =>
      obtain ⟨found, owned, personal⟩ := realmFound realm rfl
      refine (writeRealm_change sdk permits t₁ realm _ found owned personal active ?_).mono ?_
      · rfl
      intro _ t₂ change
      exact .single change

theorem insertNewPerson_changes (owner : OwnerRow) (request : PersonCreateRequest)
    (found : t.workspace.owners.get? owner.ownerId = some owner)
    (active : owner.status = .active) :
    (insertNewPerson sdk env owner request).Ensures t
      (fun _ t' => Changes sdk permits t.workspace t'.workspace) := by
  simp only [insertNewPerson, insertPerson, Tx.ensures_bind, Tx.ensures_attempt,
    ensures_auditPerson, ensures_validated, Tx.pure_eq, Tx.ensures_done]
  intro t₁ inserted defaults _
  have workspace₁ : t₁.workspace = t.workspace := by
    split at inserted
    · cases inserted
    · cases inserted
      rfl
  refine (bindMemory_change sdk permits env _ owner.ownerId _ _ rfl ?_).mono ?_
  · refine ⟨owner, ?_, active⟩
    rw [Tables.workspace_addFact, workspace₁]
    exact found
  intro _ t₂ change
  rw [Tables.workspace_addFact, workspace₁] at change
  exact .single change

theorem createPerson_changes (ttl : Timestamp) (ownerId : String) (request : PersonCreateRequest) :
    (createPerson sdk env ttl ownerId request).Ensures t
      (fun _ t' => Changes sdk permits t.workspace t'.workspace) := by
  simp only [createPerson, getPersonDeletion, getPerson, Tx.ensures_bind, Tx.ensures_read,
    Tx.ensures_refuseIf]
  refine (requireActiveOwner_effect t ownerId).mono ?_
  intro owner t₁ outcome _
  obtain ⟨unchanged, found, active, stored⟩ := outcome
  subst unchanged stored
  have inserts := insertNewPerson_changes sdk permits env t₁ owner request found active
  cases t₁.people.persons.get? request.personId with
  | some row =>
      simp only [Tx.ensures_bind, Tx.ensures_refuseIf, Tx.pure_eq, Tx.ensures_done]
      intros
      exact .refl
  | none =>
      simp only [Tx.ensures_bind, Tx.ensures_read, Tx.ensures_refuseIf, Tx.ensures_ite]
      intro _
      refine ⟨?_, fun _ => inserts⟩
      intro _
      refine (candidateCapacity_readOnly sdk env t₁ ttl owner.ownerId).mono ?_
      intro _ t₂ unchanged
      subst unchanged
      exact inserts

theorem updatePerson_changes (ttl : Timestamp) (ownerId personId : String)
    (request : PersonUpdateRequest) :
    (updatePerson sdk env ttl ownerId personId request).Ensures t
      (fun _ t' => Changes sdk permits t.workspace t'.workspace) := by
  simp only [updatePerson, Tx.ensures_bind, Tx.ensures_ite, Tx.ensures_done, Tx.pure_eq,
    ensures_writePerson, ensures_auditPerson, Tables.workspace_addFact, Tables.workspace_mapPeople]
  refine (requirePerson_effect t ownerId personId false).mono ?_
  intro person t₁ outcome
  obtain ⟨unchanged, _, active⟩ := outcome
  subst unchanged
  refine (checkPersonRevision_readOnly t₁ person _).mono ?_
  intro _ t₂ unchanged
  subst unchanged
  have deactivates := deactivateMemory_changes sdk permits t₂ ownerId personId active
  constructor
  · intro _
    refine (candidateCapacity_readOnly sdk env t₂ ttl ownerId).mono ?_
    intro _ t₃ unchanged
    subst unchanged
    exact ⟨fun _ => deactivates, fun _ => .refl⟩
  · intro _
    exact ⟨fun _ => deactivates, fun _ => .refl⟩

theorem retireCandidate_workspace (ownerId personId : String) (expectedRevision : Int) :
    (retireCandidate env ownerId personId expectedRevision).Ensures t
      (fun _ t' => t'.workspace = t.workspace) := by
  simp only [retireCandidate, Tx.ensures_bind, Tx.ensures_refuseIf, Tx.ensures_ite, Tx.pure_eq,
    Tx.ensures_done, ensures_writePerson, ensures_auditPerson, Tables.workspace_addFact,
    Tables.workspace_mapPeople]
  refine (requirePerson_effect t ownerId personId false).mono ?_
  intro person t₁ outcome
  obtain ⟨unchanged, _⟩ := outcome
  subst unchanged
  refine (checkPersonRevision_readOnly t₁ person _).mono ?_
  intro _ t₂ unchanged _
  subst unchanged
  exact ⟨fun _ => rfl, fun _ => rfl⟩

theorem archivePerson_changes (ownerId personId : String) (expectedRevision : Int) :
    (archivePerson sdk env ownerId personId expectedRevision).Ensures t
      (fun _ t' => Changes sdk permits t.workspace t'.workspace) := by
  simp only [archivePerson, Tx.ensures_bind, ensures_auditPerson, Tx.ensures_modify,
    ensures_writePerson, Tables.workspace_mapPeople]
  refine (requirePerson_effect t ownerId personId false).mono ?_
  intro person t₁ outcome
  obtain ⟨unchanged, _, active⟩ := outcome
  subst unchanged
  refine (checkPersonRevision_readOnly t₁ person _).mono ?_
  intro _ t₂ unchanged
  subst unchanged
  exact deactivateMemory_changes sdk permits _ ownerId personId active

theorem restorePerson_changes (ownerId personId : String) (expectedRevision : Int) :
    (restorePerson sdk env ownerId personId expectedRevision).Ensures t
      (fun _ t' => Changes sdk permits t.workspace t'.workspace) := by
  simp only [restorePerson, Tx.ensures_bind, Tx.ensures_refuseIf, Tx.ensures_read,
    ensures_writePerson, ensures_auditPerson, Tx.pure_eq, Tx.ensures_done,
    Tables.workspace_addFact]
  refine (requirePerson_effect t ownerId personId true).mono ?_
  intro person t₁ outcome
  obtain ⟨unchanged, _, active⟩ := outcome
  subst unchanged
  refine (checkPersonRevision_readOnly t₁ person _).mono ?_
  intro _ t₂ unchanged _ _ _
  subst unchanged
  exact deactivateMemory_changes sdk permits _ ownerId personId active

theorem requestDeletion_changes (ownerId personId : String) (expectedRevision : Int) :
    (requestDeletion env ownerId personId expectedRevision).Ensures t
      (fun _ t' => Changes sdk permits t.workspace t'.workspace) := by
  simp only [requestDeletion, Tx.ensures_bind, Tx.ensures_refuseIf, Tx.ensures_require,
    Tx.ensures_attempt, ensures_writePerson, ensures_auditPerson, Tx.pure_eq, Tx.ensures_done,
    Tables.workspace_addFact, Tables.workspace_mapPeople]
  refine (requirePerson_effect t ownerId personId true).mono ?_
  intro person t₁ outcome
  obtain ⟨unchanged, _, active⟩ := outcome
  subst unchanged
  refine (checkPersonRevision_readOnly t₁ person _).mono ?_
  intro _ t₂ unchanged _
  subst unchanged
  refine (personRealm_effect t₂ ownerId personId).mono ?_
  intro stored t₃ outcome realm isRealm t₄ inserted
  obtain ⟨unchanged, realmFound⟩ := outcome
  subst unchanged
  obtain ⟨found, owned, personal⟩ := realmFound realm isRealm
  have workspace₄ : t₄.workspace = t₃.workspace := by
    split at inserted
    · cases inserted
    · cases inserted
      rfl
  rw [← workspace₄] at found active
  refine (writeRealm_change sdk permits t₄ realm _ found owned personal active ?_).mono ?_
  · rfl
  intro _ t₅ change
  rw [workspace₄] at change
  exact .single change

theorem completeDeletion_change (ownerId personId : String) (receipt : PersonDeletionRow)
    (row : PersonRow) :
    (completeDeletion env ownerId personId receipt row).Ensures t
      (fun _ t' => Change sdk permits t.workspace t'.workspace) := by
  simp only [completeDeletion, Tx.ensures_bind, ensures_auditPerson, Tx.ensures_modify, Tx.pure_eq,
    Tx.ensures_done, Tables.workspace_mapPeople, Tables.workspace_mapWorkspace,
    Tables.workspace_addFact]
  refine .realmErased _ ?_
  intro realm erased
  simp only [Bool.and_eq_true, decide_eq_true_eq] at erased
  simp [erased.2]

theorem permanentlyDelete_changes (ownerId personId : String) (expectedRevision : Int)
    (complete : Bool) :
    (permanentlyDelete env ownerId personId expectedRevision complete).Ensures t
      (fun _ t' => Changes sdk permits t.workspace t'.workspace) := by
  simp only [permanentlyDelete, getPersonDeletion, getPerson, Tx.ensures_bind, Tx.ensures_read]
  refine (requireActiveOwner_effect t ownerId).mono ?_
  intro owner t₁ ⟨unchanged, _⟩
  subst unchanged
  cases t₁.people.personDeletions.get? personId with
  | none =>
      simp only [Tx.ensures_bind, Tx.ensures_refuseIf]
      intro _
      exact requestDeletion_changes sdk permits env t₁ ownerId personId expectedRevision
  | some receipt =>
      simp only [Tx.ensures_bind, Tx.ensures_refuseIf, Tx.ensures_read, Tx.ensures_ite,
        Tx.ensures_require, Tx.pure_eq, Tx.ensures_done]
      intro _ _
      refine ⟨fun _ => .refl, ?_⟩
      intro _
      refine ⟨?_, fun _ => .refl⟩
      intro _ row _
      refine (completeDeletion_change sdk permits env t₁ ownerId personId receipt row).mono ?_
      intro _ t₂ change
      exact .single change

theorem writeMemoryDefaults_changes (ownerId : String) (expectedRevision : Option Int)
    (policy : Json) :
    (writeMemoryDefaults sdk env ownerId expectedRevision policy).Ensures t
      (fun _ t' => Changes sdk permits t.workspace t'.workspace) := by
  simp only [writeMemoryDefaults, Tx.ensures_bind, ensures_validated, Tx.ensures_refuseIf,
    Tx.ensures_ite, ensures_updateOwnerRow, ensures_addFact, Tx.pure_eq, Tx.ensures_done,
    Tables.workspace_addFact]
  refine (requireActiveOwner_effect t ownerId).mono ?_
  intro owner t₁ outcome _ _ _ policy _
  obtain ⟨unchanged, found, _, stored⟩ := outcome
  subst unchanged stored
  refine ⟨?_, fun _ => .refl⟩
  intro _
  refine .single (.ownerEdited owner _ _ found ?_ ?_ ?_ ?_ (Table.stores_modify found))
  · rfl
  · rfl
  · rfl
  · show owner.revision ≤ owner.revision + 1
    omega

theorem writeProvisionalPolicy_changes (ownerId personId : String)
    (expectedRevision : Option Int) (policy : Json) :
    (writeProvisionalPolicy sdk env ownerId personId expectedRevision policy).Ensures t
      (fun _ t' => Changes sdk permits t.workspace t'.workspace) := by
  simp only [writeProvisionalPolicy, Tx.ensures_bind, Tx.ensures_refuseIf, Tx.ensures_require,
    ensures_validated, Tx.ensures_ite, ensures_writePerson, ensures_auditPerson, Tx.pure_eq,
    Tx.ensures_done, Tables.workspace_addFact, Tables.workspace_mapPeople]
  refine (requirePerson_effect t ownerId personId false).mono ?_
  intro person t₁ outcome _
  obtain ⟨unchanged, _, active⟩ := outcome
  subst unchanged
  refine (personRealm_effect t₁ ownerId personId).mono ?_
  intro stored t₂ outcome realm isRealm _ _ _ policy _ _
  obtain ⟨unchanged, realmFound⟩ := outcome
  subst unchanged
  obtain ⟨found, owned, personal⟩ := realmFound realm isRealm
  refine ⟨?_, fun _ => .refl⟩
  intro _
  refine (writeRealm_change sdk permits t₂ realm _ found owned personal active ?_).mono ?_
  · rfl
  intro _ t₃ change
  exact .single change

theorem resolveMemoryRealm_changes (ownerId personId : String) (create : Bool) :
    (resolveMemoryRealm env ownerId personId create).Ensures t
      (fun _ t' => Changes sdk permits t.workspace t'.workspace) := by
  simp only [resolveMemoryRealm, Tx.ensures_bind]
  refine (requirePerson_effect t ownerId personId false).mono ?_
  intro person t₁ ⟨unchanged, owned, active⟩
  subst unchanged
  refine (checkMemoryEligible_readOnly t₁ person).mono ?_
  intro _ t₂ unchanged
  subst unchanged
  refine (personRealm_effect t₂ ownerId personId).mono ?_
  intro stored t₃ ⟨unchanged, _⟩
  subst unchanged
  cases stored with
  | some realm =>
      simp only [Tx.ensures_bind, Tx.ensures_refuseIf, Tx.pure_eq, Tx.ensures_done]
      intro _
      exact .refl
  | none =>
      simp only [Tx.ensures_bind, Tx.ensures_refuseIf, Tx.pure_eq, Tx.ensures_done]
      intro _
      refine (bindMemory_change sdk permits env t₃ ownerId person [] owned active).mono ?_
      intro realm t₄ change _
      exact .single change

theorem suspendMemory_changes (ownerId personId : String) (expectedRevision : Int) :
    (suspendMemory sdk env ownerId personId expectedRevision).Ensures t
      (fun _ t' => Changes sdk permits t.workspace t'.workspace) := by
  simp only [suspendMemory, Tx.ensures_bind, Tx.ensures_require, Tx.ensures_ite,
    ensures_writePerson, ensures_auditPerson, Tx.pure_eq, Tx.ensures_done,
    Tables.workspace_addFact, Tables.workspace_mapPeople]
  refine (requirePerson_effect t ownerId personId false).mono ?_
  intro person t₁ outcome
  obtain ⟨unchanged, _, active⟩ := outcome
  subst unchanged
  refine (checkPersonRevision_readOnly t₁ person _).mono ?_
  intro _ t₂ unchanged
  subst unchanged
  refine (personRealm_effect t₂ ownerId personId).mono ?_
  intro stored t₃ outcome realm isRealm
  obtain ⟨unchanged, realmFound⟩ := outcome
  subst unchanged
  obtain ⟨found, owned, personal⟩ := realmFound realm isRealm
  refine ⟨?_, fun _ => .refl⟩
  intro _
  refine (writeRealm_change sdk permits t₃ realm _ found owned personal active ?_).mono ?_
  · rfl
  intro _ t₄ change
  exact .single change

theorem restoreMemory_changes (ownerId personId : String) (expectedRevision : Int) :
    (restoreMemory env ownerId personId expectedRevision).Ensures t
      (fun _ t' => Changes sdk permits t.workspace t'.workspace) := by
  simp only [restoreMemory, Tx.ensures_bind, Tx.ensures_require, Tx.ensures_ite,
    ensures_writePerson, ensures_auditPerson, Tx.pure_eq, Tx.ensures_done,
    Tables.workspace_addFact, Tables.workspace_mapPeople]
  refine (requirePerson_effect t ownerId personId false).mono ?_
  intro person t₁ outcome
  obtain ⟨unchanged, _, active⟩ := outcome
  subst unchanged
  refine (checkPersonRevision_readOnly t₁ person _).mono ?_
  intro _ t₂ unchanged
  subst unchanged
  refine (checkMemoryEligible_readOnly t₂ person).mono ?_
  intro _ t₃ unchanged
  subst unchanged
  refine (personRealm_effect t₃ ownerId personId).mono ?_
  intro stored t₄ outcome realm isRealm
  obtain ⟨unchanged, realmFound⟩ := outcome
  subst unchanged
  obtain ⟨found, owned, personal⟩ := realmFound realm isRealm
  refine ⟨?_, fun _ => .refl⟩
  intro _
  refine (writeRealm_change sdk permits t₄ realm _ found owned personal active ?_).mono ?_
  · rfl
  intro _ t₅ change
  exact .single change

end EidolonData
