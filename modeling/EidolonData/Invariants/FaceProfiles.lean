import EidolonData.Library.Constraint
import EidolonData.Services.OwnerFaceProfiles

/-!
# What the face profile commands keep

A command either adds the next revision of a profile, makes a draft the
desired one, or changes references that no desired revision holds.
-/

namespace EidolonData

open Relational

/-- A set of references an activation accepts. -/
def FaceProfileRules.Complete (rules : FaceProfileRules) (references : List OwnerFaceReferenceRow) :
    Prop :=
  rules.minReferences ≤ references.length ∧ references.length ≤ rules.maxReferences ∧
    rules.requiredPoses ⊆ references.map (fun row => row.pose)

def Faces.Numbered (f : Faces) (ownerId profileId : String) (revision : Int) : Prop :=
  ∀ row ∈ f.ownerFaceProfileRevisions.rows, row.ownerId = ownerId →
    row.profileId = profileId ∧ row.revision < revision

/-- What one command can do to the profiles. -/
inductive Faces.Moves (rules : FaceProfileRules) (f f' : Faces) : Prop where
  | same (unchanged : f' = f)
  | revised (row : OwnerFaceProfileRevisionRow) (states : List FaceProfileState)
      (numbered : f.Numbered row.ownerId row.profileId row.revision)
      (fresh : f.ownerFaceProfileRevisions.get? row.profileRevisionId = none)
      (drafts : .draft ∈ states)
      (kind : (row.state = .draft ∧ .desired ∉ states) ∨
        (row.state = .desired ∧ row.desiredState = .cleared ∧ .desired ∈ states))
      (revisions : f'.ownerFaceProfileRevisions =
        (f.supersede row.ownerId states).ownerFaceProfileRevisions.insert row)
      (references : f'.ownerFaceReferences = f.ownerFaceReferences)
  | activated (profile : OwnerFaceProfileRevisionRow) (now : Timestamp)
      (stored : f.ownerFaceProfileRevisions.get? profile.profileRevisionId = some profile)
      (draft : profile.state = .draft)
      (complete : rules.Complete (f.references profile.profileRevisionId))
      (revisions : f'.ownerFaceProfileRevisions =
        (f.supersede profile.ownerId [.desired]).ownerFaceProfileRevisions.modify
          profile.profileRevisionId (fun row =>
            { row with
              state := .desired
              activatedAt := some now }) (by intro _; rfl))
      (references : f'.ownerFaceReferences = f.ownerFaceReferences)
  | referenced (profile : OwnerFaceProfileRevisionRow) (row : OwnerFaceReferenceRow)
      (stored : f.ownerFaceProfileRevisions.get? row.profileRevisionId = some profile)
      (draft : profile.state = .draft)
      (revisions : f'.ownerFaceProfileRevisions = f.ownerFaceProfileRevisions)
      (references : f'.ownerFaceReferences = f.ownerFaceReferences.insert row)
      (fresh : f.ownerFaceReferences.get? row.referenceId = none)
  | cleaned (ownerId : String) (referenceIds : List String)
      (revisions : f'.ownerFaceProfileRevisions = f.ownerFaceProfileRevisions)
      (references : f'.ownerFaceReferences = f.ownerFaceReferences.retain
        (fun row => !f.isSupersededReference ownerId referenceIds row))

theorem Faces.get?_supersede (f : Faces) (ownerId : String) (states : List FaceProfileState)
    (profileRevisionId : String) :
    (f.supersede ownerId states).ownerFaceProfileRevisions.get? profileRevisionId =
      (f.ownerFaceProfileRevisions.get? profileRevisionId).map
        (OwnerFaceProfileRevisionRow.supersede ownerId states) :=
  Table.get?_update f.ownerFaceProfileRevisions
    (OwnerFaceProfileRevisionRow.supersede ownerId states) (fun _ => rfl) _

section Effects

variable (rules : FaceProfileRules) (env : Env) (t : Tables)

theorem Faces.numbered_next (f : Faces) (ownerId fallback : String)
    (same : ∀ left ∈ f.ownerFaceProfileRevisions.rows, ∀ right ∈ f.ownerFaceProfileRevisions.rows,
      left.ownerId = right.ownerId → left.profileId = right.profileId) :
    f.Numbered ownerId
      (((f.profileRevisionsOf ownerId).head?.map (fun row => row.profileId)).getD fallback)
      (((f.profileRevisionsOf ownerId).head?.map (fun row => row.revision)).getD 0 + 1) := by
  intro row member owned
  have selected : row ∈ f.ownerFaceProfileRevisions.select (fun row => row.ownerId = ownerId) :=
    List.mem_filter.mpr ⟨member, by simpa using owned⟩
  cases latest : (f.profileRevisionsOf ownerId).head? with
  | none =>
      rw [List.head?_eq_none_iff, Faces.profileRevisionsOf, orderBy_eq_nil] at latest
      rw [latest] at selected
      cases selected
  | some first =>
      obtain ⟨firstSelected, least⟩ := first_of_orderBy latest
      obtain ⟨firstMember, firstOwned⟩ := List.mem_filter.mp firstSelected
      have sameOwner : row.ownerId = first.ownerId := by
        rw [owned]
        exact (of_decide_eq_true firstOwned).symm
      refine ⟨same row member first firstMember sameOwner, ?_⟩
      have bounded := least row selected
      simp only [Option.map_some, Option.getD_some]
      omega

variable {t}

/-- The rows of one Owner share one profile id. -/
def Faces.OneProfile (f : Faces) : Prop :=
  ∀ left ∈ f.ownerFaceProfileRevisions.rows, ∀ right ∈ f.ownerFaceProfileRevisions.rows,
    left.ownerId = right.ownerId → left.profileId = right.profileId

theorem createDraft_moves (one : t.faces.OneProfile)
    (ownerId modelId preprocessingVersion : String) :
    (createDraft env ownerId modelId preprocessingVersion).Ensures t
      (fun _ t' => t.faces.Moves rules t'.faces) := by
  simp only [createDraft, Tx.ensures_bind, Tx.ensures_refuseIf, ensures_getOwner,
    Tx.ensures_require, ensures_latestProfileRevision, ensures_supersedeProfiles,
    ensures_insertProfileRevision, ensures_addFact, Tx.ensures_read, Tx.pure_eq, Tx.ensures_done,
    Tables.faces_addFact, Tables.faces_mapFaces]
  intro _ owner _ fresh _
  refine .revised _ [.draft] (t.faces.numbered_next ownerId _ one) ?_ (by simp)
    (.inl ⟨rfl, by decide⟩) rfl rfl
  simpa [Faces.get?_supersede] using fresh

theorem clearProfile_moves (one : t.faces.OneProfile) (ownerId : String) :
    (clearProfile env ownerId).Ensures t (fun _ t' => t.faces.Moves rules t'.faces) := by
  simp only [clearProfile, Tx.ensures_bind, Tx.ensures_refuseIf, ensures_getOwner,
    Tx.ensures_require, ensures_latestProfileRevision, ensures_supersedeProfiles,
    ensures_insertProfileRevision, ensures_addFact, Tx.ensures_read, Tx.pure_eq, Tx.ensures_done,
    Tables.faces_addFact, Tables.faces_mapFaces]
  intro owner _ fresh _
  refine .revised _ [.draft, .desired] (t.faces.numbered_next ownerId _ one) ?_ (by simp)
    (.inr ⟨rfl, rfl, by simp⟩) rfl rfl
  simpa [Faces.get?_supersede] using fresh

theorem addReference_moves (profileRevisionId pose contentType : String) (sizeBytes : Int)
    (sha256 storageKey : String) :
    (addReference rules env profileRevisionId pose contentType sizeBytes sha256
      storageKey).Ensures t (fun _ t' => t.faces.Moves rules t'.faces) := by
  simp only [addReference, Tx.ensures_bind, ensures_check, Tx.ensures_refuseIf,
    ensures_getProfileRevision, Tx.ensures_require, ensures_insertReference, ensures_addFact,
    Tx.ensures_read, Tx.pure_eq, Tx.ensures_done, Tables.faces_addFact, Tables.faces_mapFaces]
  intro _ _ profile found draft _ fresh _
  exact .referenced profile _ found (by simpa using draft) rfl rfl fresh

theorem activateProfile_moves (profileRevisionId : String) :
    (activateProfile rules env profileRevisionId).Ensures t
      (fun _ t' => t.faces.Moves rules t'.faces) := by
  simp only [activateProfile, Tx.ensures_bind, Tx.ensures_refuseIf, ensures_getProfileRevision,
    Tx.ensures_require, ensures_supersedeProfiles, Tx.ensures_modify, ensures_addFact,
    Tx.ensures_read, Tx.pure_eq, Tx.ensures_done, Tables.faces_addFact, Tables.faces_mapFaces]
  intro profile found state counted required
  have stored : profile.profileRevisionId = profileRevisionId := Table.key_of_get? found
  subst stored
  refine .activated profile env.now found (by simp_all) ?_ rfl rfl
  exact ⟨(not_not.mp counted).1, (not_not.mp counted).2, not_not.mp required⟩

theorem deleteSupersededReferences_moves (ownerId : String) (referenceIds : List String) :
    (deleteSupersededReferences ownerId referenceIds).Ensures t
      (fun _ t' => t.faces.Moves rules t'.faces) := by
  simp only [deleteSupersededReferences, Tx.ensures_ite, Tx.pure_eq, Tx.ensures_done,
    Tx.ensures_bind, Tx.ensures_read, Tx.ensures_modify, Tables.faces_mapFaces]
  exact ⟨fun _ => .same rfl, fun _ => .cleaned ownerId referenceIds rfl rfl⟩

theorem FaceProfileCall.moves (call : FaceProfileCall) (one : t.faces.OneProfile) :
    (call.session rules).Ensures t (fun _ t' => t.faces.Moves rules t'.faces) := by
  unfold FaceProfileCall.session
  cases call.command with
  | createDraft ownerId modelId preprocessingVersion =>
      simpa [effect] using createDraft_moves rules call.env one ownerId modelId preprocessingVersion
  | addReference profileRevisionId pose contentType sizeBytes sha256 storageKey =>
      simpa [effect] using addReference_moves rules call.env (t := t) profileRevisionId pose
        contentType sizeBytes sha256 storageKey
  | activate profileRevisionId =>
      simpa [effect] using activateProfile_moves rules call.env (t := t) profileRevisionId
  | clear ownerId => simpa [effect] using clearProfile_moves rules call.env one ownerId
  | deleteSupersededReferences ownerId referenceIds =>
      simpa [effect] using
        deleteSupersededReferences_moves rules (t := t) ownerId referenceIds

end Effects

section Rows

variable {f f' : Faces} {ownerId : String} {states : List FaceProfileState}

theorem OwnerFaceProfileRevisionRow.of_supersede_state {row : OwnerFaceProfileRevisionRow}
    {state : FaceProfileState} (other : state ≠ .superseded)
    (found : (row.supersede ownerId states).state = state) :
    row.state = state ∧ ¬ (row.ownerId = ownerId ∧ state ∈ states) := by
  unfold OwnerFaceProfileRevisionRow.supersede at found
  split at found
  · exact absurd found.symm other
  · next spared =>
      change row.state = state at found
      rw [found] at spared
      exact ⟨found, spared⟩

theorem Faces.mem_supersede {row : OwnerFaceProfileRevisionRow} :
    row ∈ (f.supersede ownerId states).ownerFaceProfileRevisions.rows ↔
      ∃ old ∈ f.ownerFaceProfileRevisions.rows, old.supersede ownerId states = row := by
  exact List.mem_map

theorem Faces.mem_activated {profile row : OwnerFaceProfileRevisionRow}
    {change : OwnerFaceProfileRevisionRow → OwnerFaceProfileRevisionRow}
    {keeps : ∀ row, key (change row) = key row}
    (stored : f.ownerFaceProfileRevisions.get? profile.profileRevisionId = some profile)
    (member : row ∈ ((f.supersede ownerId states).ownerFaceProfileRevisions.modify
      profile.profileRevisionId change keeps).rows) :
    row = change (profile.supersede ownerId states) ∨
      ∃ old ∈ f.ownerFaceProfileRevisions.rows,
        old.profileRevisionId ≠ profile.profileRevisionId ∧
          old.supersede ownerId states = row := by
  rw [Table.modify, Table.mem_update] at member
  obtain ⟨moved, movedMember, rfl⟩ := member
  obtain ⟨old, oldMember, rfl⟩ := Faces.mem_supersede.mp movedMember
  by_cases same : old.profileRevisionId = profile.profileRevisionId
  · have found : f.ownerFaceProfileRevisions.get? profile.profileRevisionId = some old :=
      Table.get?_eq_some_iff.mpr ⟨oldMember, same⟩
    rw [stored] at found
    cases found
    left
    exact if_pos rfl
  · right
    exact ⟨old, oldMember, same, (if_neg same).symm⟩

end Rows

/-- What the profiles satisfy whatever commands ran. -/
structure Faces.Governed (rules : FaceProfileRules) (f : Faces) : Prop where
  one : f.OneProfile
  draftLast : ∀ draft ∈ f.ownerFaceProfileRevisions.rows, draft.state = .draft →
    ∀ row ∈ f.ownerFaceProfileRevisions.rows, row.ownerId = draft.ownerId →
      row.revision ≤ draft.revision
  complete : ∀ row ∈ f.ownerFaceProfileRevisions.rows, row.state = .desired →
    row.desiredState = .active → rules.Complete (f.references row.profileRevisionId)

section Moves

variable {rules : FaceProfileRules} {f f' : Faces}

/-- Each row of the new tables was a revision before, under the same number
and profile, but for one that took the next number. -/
theorem Faces.Moves.rows (moves : f.Moves rules f') :
    ∃ added : Option OwnerFaceProfileRevisionRow, ∀ row ∈ f'.ownerFaceProfileRevisions.rows,
      (∃ old ∈ f.ownerFaceProfileRevisions.rows, old.ownerId = row.ownerId ∧
        old.profileId = row.profileId ∧ old.revision = row.revision) ∨
      (added = some row ∧ f.Numbered row.ownerId row.profileId row.revision) := by
  cases moves with
  | same unchanged =>
      refine ⟨none, fun row member => ?_⟩
      rw [unchanged] at member
      exact .inl ⟨row, member, rfl, rfl, rfl⟩
  | referenced profile reference stored draft revisions references fresh =>
      refine ⟨none, fun row member => ?_⟩
      rw [revisions] at member
      exact .inl ⟨row, member, rfl, rfl, rfl⟩
  | cleaned ownerId referenceIds revisions references =>
      refine ⟨none, fun row member => ?_⟩
      rw [revisions] at member
      exact .inl ⟨row, member, rfl, rfl, rfl⟩
  | revised added states numbered fresh drafts kind revisions references =>
      refine ⟨some added, fun row member => ?_⟩
      rw [revisions] at member
      rcases Table.mem_insert member with rfl | kept
      · exact .inr ⟨rfl, numbered⟩
      · obtain ⟨old, oldMember, rfl⟩ := Faces.mem_supersede.mp kept
        exact .inl ⟨old, oldMember, rfl, rfl, rfl⟩
  | activated profile now stored draft complete revisions references =>
      refine ⟨none, fun row member => ?_⟩
      rw [revisions] at member
      rcases Faces.mem_activated stored member with rfl | ⟨old, oldMember, -, rfl⟩
      · exact .inl ⟨profile, Table.mem_of_get? stored, rfl, rfl, rfl⟩
      · exact .inl ⟨old, oldMember, rfl, rfl, rfl⟩

theorem Faces.Moves.kept (moves : f.Moves rules f') {old : OwnerFaceProfileRevisionRow}
    (member : old ∈ f.ownerFaceProfileRevisions.rows) :
    ∃ row ∈ f'.ownerFaceProfileRevisions.rows,
      row.ownerId = old.ownerId ∧ row.profileId = old.profileId := by
  cases moves with
  | same unchanged => exact ⟨old, by rwa [unchanged], rfl, rfl⟩
  | referenced profile reference stored draft revisions references fresh =>
      exact ⟨old, by rwa [revisions], rfl, rfl⟩
  | cleaned ownerId referenceIds revisions references => exact ⟨old, by rwa [revisions], rfl, rfl⟩
  | revised added states numbered fresh drafts kind revisions references =>
      refine ⟨old.supersede added.ownerId states, ?_, rfl, rfl⟩
      rw [revisions]
      exact Table.mem_insert_of_mem _ (Faces.mem_supersede.mpr ⟨old, member, rfl⟩)
  | activated profile now stored draft complete revisions references =>
      have moved : old.supersede profile.ownerId [.desired] ∈
          (f.supersede profile.ownerId [.desired]).ownerFaceProfileRevisions.rows :=
        Faces.mem_supersede.mpr ⟨old, member, rfl⟩
      rw [revisions]
      refine ⟨_, Table.mem_update.mpr ⟨_, moved, rfl⟩, ?_⟩
      split
      · exact ⟨rfl, rfl⟩
      · exact ⟨rfl, rfl⟩

theorem Faces.Moves.one (moves : f.Moves rules f') (one : f.OneProfile) : f'.OneProfile := by
  obtain ⟨added, rows⟩ := moves.rows
  intro left leftMember right rightMember same
  rcases rows left leftMember with ⟨old, oldMember, owner, profile, -⟩ | ⟨first, numbered⟩
  · rcases rows right rightMember with
      ⟨other, otherMember, otherOwner, otherProfile, -⟩ | ⟨-, numbered⟩
    · rw [← profile, ← otherProfile]
      exact one old oldMember other otherMember (by rw [owner, otherOwner, same])
    · rw [← profile]
      exact (numbered old oldMember (by rw [owner, same])).1
  · rcases rows right rightMember with
      ⟨other, otherMember, otherOwner, otherProfile, -⟩ | ⟨second, -⟩
    · rw [← otherProfile]
      exact (numbered other otherMember (by rw [otherOwner, same])).1.symm
    · rw [first] at second
      cases second
      rfl

theorem Faces.Moves.draftLast (moves : f.Moves rules f') (governed : f.Governed rules) :
    ∀ draft ∈ f'.ownerFaceProfileRevisions.rows, draft.state = .draft →
      ∀ row ∈ f'.ownerFaceProfileRevisions.rows, row.ownerId = draft.ownerId →
        row.revision ≤ draft.revision := by
  intro draft draftMember state row member owner
  cases moves with
  | same unchanged =>
      rw [unchanged] at draftMember member
      exact governed.draftLast draft draftMember state row member owner
  | referenced profile reference stored drafted revisions references fresh =>
      rw [revisions] at draftMember member
      exact governed.draftLast draft draftMember state row member owner
  | cleaned ownerId referenceIds revisions references =>
      rw [revisions] at draftMember member
      exact governed.draftLast draft draftMember state row member owner
  | revised added states numbered fresh drafts kind revisions references =>
      rw [revisions] at draftMember member
      rcases Table.mem_insert draftMember with rfl | draftKept
      · -- The new draft took the number after all the others.
        rcases Table.mem_insert member with rfl | kept
        · exact le_refl _
        · obtain ⟨old, oldMember, rfl⟩ := Faces.mem_supersede.mp kept
          exact (numbered old oldMember owner).2.le
      · obtain ⟨old, oldMember, rfl⟩ := Faces.mem_supersede.mp draftKept
        obtain ⟨oldState, spared⟩ :=
          OwnerFaceProfileRevisionRow.of_supersede_state (by decide) state
        have elsewhere : old.ownerId ≠ added.ownerId := fun same => spared ⟨same, drafts⟩
        rcases Table.mem_insert member with rfl | kept
        · exact absurd owner.symm elsewhere
        · obtain ⟨other, otherMember, rfl⟩ := Faces.mem_supersede.mp kept
          exact governed.draftLast old oldMember oldState other otherMember owner
  | activated profile now stored drafted complete revisions references =>
      rw [revisions] at draftMember member
      rcases Faces.mem_activated stored draftMember with rfl | ⟨old, oldMember, -, rfl⟩
      · cases state
      · obtain ⟨oldState, -⟩ := OwnerFaceProfileRevisionRow.of_supersede_state (by decide) state
        rcases Faces.mem_activated stored member with rfl | ⟨other, otherMember, -, rfl⟩
        · exact governed.draftLast old oldMember oldState profile (Table.mem_of_get? stored) owner
        · exact governed.draftLast old oldMember oldState other otherMember owner

theorem Faces.references_congr {profileRevisionId : String}
    (same : f'.ownerFaceReferences = f.ownerFaceReferences) :
    f'.references profileRevisionId = f.references profileRevisionId := by
  rw [Faces.references, same, Faces.references]

theorem Faces.Moves.complete (moves : f.Moves rules f') (governed : f.Governed rules) :
    ∀ row ∈ f'.ownerFaceProfileRevisions.rows, row.state = .desired →
      row.desiredState = .active → rules.Complete (f'.references row.profileRevisionId) := by
  intro row member state active
  cases moves with
  | same unchanged =>
      rw [unchanged] at member ⊢
      exact governed.complete row member state active
  | referenced profile reference stored draft revisions references fresh =>
      rw [revisions] at member
      -- The reference hangs off a draft, so off another revision.
      have other : reference.profileRevisionId ≠ row.profileRevisionId := by
        intro same
        have found : f.ownerFaceProfileRevisions.get? reference.profileRevisionId = some row :=
          Table.get?_eq_some_iff.mpr ⟨member, same.symm⟩
        rw [stored] at found
        cases found
        rw [draft] at state
        cases state
      have kept : f'.references row.profileRevisionId = f.references row.profileRevisionId := by
        unfold Faces.references Table.select
        rw [references, Table.rows_insert fresh, List.filter_append]
        simp [other]
      rw [kept]
      exact governed.complete row member state active
  | cleaned ownerId referenceIds revisions references =>
      rw [revisions] at member
      have kept : f'.references row.profileRevisionId = f.references row.profileRevisionId := by
        unfold Faces.references
        rw [references, Table.select_retain, List.filter_eq_self]
        intro reference selected
        have hangs : reference.profileRevisionId = row.profileRevisionId := by
          simpa using (List.mem_filter.mp selected).2
        have found : f.ownerFaceProfileRevisions.get? reference.profileRevisionId = some row :=
          Table.get?_eq_some_iff.mpr ⟨member, hangs.symm⟩
        simp [Faces.isSupersededReference, found, state]
      rw [kept]
      exact governed.complete row member state active
  | revised added states numbered fresh drafts kind revisions references =>
      rw [Faces.references_congr references]
      rw [revisions] at member
      rcases Table.mem_insert member with rfl | keptRow
      · rcases kind with ⟨draft, -⟩ | ⟨-, cleared, -⟩
        · rw [draft] at state
          cases state
        · rw [cleared] at active
          cases active
      · obtain ⟨old, oldMember, rfl⟩ := Faces.mem_supersede.mp keptRow
        exact governed.complete old oldMember
          (OwnerFaceProfileRevisionRow.of_supersede_state (by decide) state).1 active
  | activated profile now stored draft complete revisions references =>
      rw [Faces.references_congr references]
      rw [revisions] at member
      rcases Faces.mem_activated stored member with rfl | ⟨old, oldMember, -, rfl⟩
      · exact complete
      · exact governed.complete old oldMember
          (OwnerFaceProfileRevisionRow.of_supersede_state (by decide) state).1 active

theorem Faces.Governed.moves (governed : f.Governed rules) (moves : f.Moves rules f') :
    f'.Governed rules :=
  { one := moves.one governed.one
    draftLast := moves.draftLast governed
    complete := moves.complete governed }

def Faces.Desires (f : Faces) (ownerId : String) (revision : Int) : Prop :=
  ∃ row ∈ f.ownerFaceProfileRevisions.rows,
    row.ownerId = ownerId ∧ row.state = .desired ∧ row.revision = revision

/-- What an Owner desires after a command is what it desired before, or a
revision after it. -/
theorem Faces.Moves.desires (moves : f.Moves rules f') (governed : f.Governed rules)
    (numbers : f.ownerFaceProfileRevisions.UniqueOn (fun row => some (row.ownerId, row.revision)))
    {ownerId : String} {after : Int} (desired : f'.Desires ownerId after) :
    f.Desires ownerId after ∨ ∀ before, f.Desires ownerId before → before < after := by
  obtain ⟨row, member, owned, state, rfl⟩ := desired
  cases moves with
  | same unchanged =>
      rw [unchanged] at member
      exact .inl ⟨row, member, owned, state, rfl⟩
  | referenced profile reference stored draft revisions references fresh =>
      rw [revisions] at member
      exact .inl ⟨row, member, owned, state, rfl⟩
  | cleaned ownerId referenceIds revisions references =>
      rw [revisions] at member
      exact .inl ⟨row, member, owned, state, rfl⟩
  | revised added states numbered fresh drafts kind revisions references =>
      rw [revisions] at member
      rcases Table.mem_insert member with rfl | kept
      · right
        rintro before ⟨old, oldMember, oldOwned, -, rfl⟩
        exact (numbered old oldMember (oldOwned.trans owned.symm)).2
      · obtain ⟨old, oldMember, rfl⟩ := Faces.mem_supersede.mp kept
        exact .inl ⟨old, oldMember, owned,
          (OwnerFaceProfileRevisionRow.of_supersede_state (by decide) state).1, rfl⟩
  | activated profile now stored draft complete revisions references =>
      rw [revisions] at member
      rcases Faces.mem_activated stored member with rfl | ⟨old, oldMember, -, rfl⟩
      · right
        rintro before ⟨old, oldMember, oldOwned, oldState, rfl⟩
        have profileMember := Table.mem_of_get? stored
        have bounded := governed.draftLast profile profileMember draft old oldMember
          (oldOwned.trans owned.symm)
        -- The draft and the desired revision are two rows, so two numbers.
        have different : old.revision ≠ profile.revision := by
          intro same
          have equal := numbers.eq_of_mem oldMember profileMember rfl (by
            rw [same, oldOwned.trans owned.symm]
            rfl)
          rw [equal, draft] at oldState
          cases oldState
        exact lt_of_le_of_ne bounded different
      · exact .inl ⟨old, oldMember, owned,
          (OwnerFaceProfileRevisionRow.of_supersede_state (by decide) state).1, rfl⟩

theorem Faces.Moves.desiresOn (moves : f.Moves rules f') (governed : f.Governed rules)
    {ownerId : String} {before : Int} (desired : f.Desires ownerId before) :
    ∃ after, before ≤ after ∧ f'.Desires ownerId after := by
  obtain ⟨old, oldMember, owned, state, rfl⟩ := desired
  cases moves with
  | same unchanged => exact ⟨_, le_refl _, old, by rwa [unchanged], owned, state, rfl⟩
  | referenced profile reference stored draft revisions references fresh =>
      exact ⟨_, le_refl _, old, by rwa [revisions], owned, state, rfl⟩
  | cleaned ownerId referenceIds revisions references =>
      exact ⟨_, le_refl _, old, by rwa [revisions], owned, state, rfl⟩
  | revised added states numbered fresh drafts kind revisions references =>
      by_cases superseded : old.ownerId = added.ownerId ∧ old.state ∈ states
      · -- Only a clearing supersedes what is desired, and it is desired itself.
        rcases kind with ⟨-, spared⟩ | ⟨addedState, -, -⟩
        · rw [state] at superseded
          exact absurd superseded.2 spared
        · refine ⟨added.revision, (numbered old oldMember superseded.1).2.le, added, ?_,
            superseded.1.symm.trans owned, addedState, rfl⟩
          rw [revisions]
          exact Table.mem_insert_self
            ((f.get?_supersede _ _ added.profileRevisionId).trans (by rw [fresh, Option.map_none]))
      · refine ⟨_, le_refl _, old.supersede added.ownerId states, ?_, owned, ?_, rfl⟩
        · rw [revisions]
          exact Table.mem_insert_of_mem _ (Faces.mem_supersede.mpr ⟨old, oldMember, rfl⟩)
        · exact (if_neg superseded).trans state
  | activated profile now stored draft complete revisions references =>
      have moved : ∀ row ∈ f.ownerFaceProfileRevisions.rows,
          row.supersede profile.ownerId [.desired] ∈
            (f.supersede profile.ownerId [.desired]).ownerFaceProfileRevisions.rows :=
        fun row member => Faces.mem_supersede.mpr ⟨row, member, rfl⟩
      have profileMember := Table.mem_of_get? stored
      by_cases same : old.ownerId = profile.ownerId
      · refine ⟨profile.revision,
          governed.draftLast profile profileMember draft old oldMember same, ?_⟩
        rw [Faces.Desires, revisions]
        exact ⟨_, Table.mem_update.mpr ⟨_, moved profile profileMember, if_pos rfl⟩,
          same.symm.trans owned, rfl, rfl⟩
      · refine ⟨_, le_refl _, ?_⟩
        rw [Faces.Desires, revisions]
        have other : (old.supersede profile.ownerId [.desired]).profileRevisionId ≠
            profile.profileRevisionId := by
          intro equal
          have found := Table.get?_eq_some_iff.mpr ⟨oldMember, equal⟩
          rw [stored] at found
          cases found
          exact same rfl
        exact ⟨_, Table.mem_update.mpr ⟨_, moved old oldMember, if_neg other⟩, owned,
          (if_neg (fun both => same both.1)).trans state, rfl⟩

end Moves

end EidolonData
