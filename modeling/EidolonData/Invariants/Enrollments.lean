import EidolonData.Effects.PeopleRuns

/-!
# The stored enrollments

An enrollment was opened against the profile its Person has, or has none; its
samples are kept while it collects and as long as a profile rests on them.
-/

namespace EidolonData

open Relational

def People.HasProfile (p : People) (profileId ownerId personId : String) : Prop :=
  ∃ profile, p.speakerProfiles.get? profileId = some profile ∧ profile.ownerId = ownerId ∧
    profile.personId = personId

def People.RestsOn (p : People) (row : VoiceEnrollmentRow) : Prop :=
  ∃ profile, p.speakerProfiles.get? row.profileId = some profile ∧
    profile.enrollmentId = some row.enrollmentId ∧ profile.ownerId = row.ownerId ∧
      profile.personId = row.personId

/-- The revision of the profile an enrollment was opened against, stored as
long as the enrollment is. -/
def People.Targets (p : People) (row : VoiceEnrollmentRow) : Prop :=
  ∃ revision : Int, row.requestJson.get? "_target_revision" = some (.int revision) ∧
    0 ≤ revision ∧ (0 < revision → p.HasProfile row.profileId row.ownerId row.personId)

/-- The samples of an enrollment are gone, or have a use. -/
def People.Keeps (p : People) (row : VoiceEnrollmentRow) : Prop :=
  row.samplesJson ≠ [] → row.state = "collecting" ∨ row.state = "ready" ∧ p.RestsOn row

structure People.Enrolled (p : People) : Prop where
  revised : ∀ profileId profile, p.speakerProfiles.get? profileId = some profile →
    1 ≤ profile.revision
  targets : ∀ enrollmentId row, p.voiceEnrollments.get? enrollmentId = some row → p.Targets row
  keeps : ∀ enrollmentId row, p.voiceEnrollments.get? enrollmentId = some row → p.Keeps row

section Rows

variable {p p' : People} {row row' : VoiceEnrollmentRow}

theorem People.Targets.congr (targets : p.Targets row)
    (request : row'.requestJson = row.requestJson) (profileId : row'.profileId = row.profileId)
    (ownerId : row'.ownerId = row.ownerId) (personId : row'.personId = row.personId) :
    p.Targets row' := by
  obtain ⟨revision, target, bound, stored⟩ := targets
  refine ⟨revision, request ▸ target, bound, ?_⟩
  rw [profileId, ownerId, personId]
  exact stored

theorem People.Targets.stays (targets : p.Targets row)
    (profiles : p.HasProfile row.profileId row.ownerId row.personId →
      p'.HasProfile row.profileId row.ownerId row.personId) : p'.Targets row := by
  obtain ⟨revision, target, bound, stored⟩ := targets
  exact ⟨revision, target, bound, fun positive => profiles (stored positive)⟩

theorem People.Keeps.stays (keeps : p.Keeps row)
    (profiles : p.speakerProfiles.get? row.profileId = p'.speakerProfiles.get? row.profileId) :
    p'.Keeps row := by
  intro samples
  rcases keeps samples with collecting | ⟨ready, profile, stored, rests⟩
  · exact Or.inl collecting
  · exact Or.inr ⟨ready, profile, profiles ▸ stored, rests⟩

theorem People.keeps_of_empty (empty : row.samplesJson = []) : p.Keeps row :=
  fun samples => absurd empty samples

end Rows

section Made

variable {sdk : Sdk} {env : Env} {ownerId : String} {p p' : People} {command : VoiceprintCommand}

theorem People.Enrolled.stores {row : VoiceEnrollmentRow} (enrolled : p.Enrolled)
    (enrollments : Table.Stores p.voiceEnrollments p'.voiceEnrollments row)
    (profiles : p'.speakerProfiles = p.speakerProfiles) (targets : p'.Targets row)
    (keeps : p'.Keeps row) : p'.Enrolled := by
  have same : ∀ profileId, p.speakerProfiles.get? profileId =
      p'.speakerProfiles.get? profileId := by
    intro profileId
    rw [profiles]
  refine { revised := ?_, targets := ?_, keeps := ?_ }
  · rw [profiles]
    exact enrolled.revised
  · intro enrollmentId other stored
    rcases enrollments.of_get? stored with ⟨-, rfl⟩ | ⟨-, before⟩
    · exact targets
    · refine (enrolled.targets enrollmentId other before).stays ?_
      rintro ⟨profile, found, owned⟩
      exact ⟨profile, (same _) ▸ found, owned⟩
  · intro enrollmentId other stored
    rcases enrollments.of_get? stored with ⟨-, rfl⟩ | ⟨-, before⟩
    · exact keeps
    · exact (enrolled.keeps enrollmentId other before).stays (same _)

theorem ProfileEnrolled.owned {row : VoiceEnrollmentRow} {profile : SpeakerProfileRow}
    (made : ProfileEnrolled p row profile) (enrolled : p.Enrolled) (targets : p.Targets row)
    (target : row.requestJson.get? "_target_revision" = some (.int
      (((p.speakerProfiles.get? row.profileId).map (fun stored => stored.revision)).getD 0))) :
    profile.ownerId = row.ownerId ∧ profile.personId = row.personId ∧ 1 ≤ profile.revision := by
  cases found : p.speakerProfiles.get? row.profileId with
  | none =>
      obtain ⟨owned, person, first⟩ := made.first found
      exact ⟨owned, person, by omega⟩
  | some stored =>
      have revised := enrolled.revised _ _ found
      obtain ⟨revision, again, -, has⟩ := targets
      rw [found, again] at target
      have same : revision = stored.revision := by simpa using target
      obtain ⟨profile', found', owned', person'⟩ := has (by omega)
      rw [found] at found'
      cases found'
      obtain ⟨owned, person, next⟩ := made.next stored found
      exact ⟨owned.trans owned', person.trans person', by omega⟩

theorem VoiceMade.enrolled (made : VoiceMade sdk env ownerId p command p')
    (enrolled : p.Enrolled) : p'.Enrolled := by
  cases made with
  | unchanged => exact enrolled
  | @opened request row _ person personStored personActive fresh identity owned named collecting
      empty targets enrollments profiles recordings =>
      refine enrolled.stores enrollments profiles ?_ (People.keeps_of_empty empty)
      cases targets with
      | current profile stored profileOwned profilePerson same revision =>
          have revised := enrolled.revised _ _ stored
          refine ⟨profile.revision, revision, by omega, fun _ => ⟨profile, ?_, profileOwned,
            profilePerson⟩⟩
          rw [profiles, same]
          exact stored
      | first _ _ revision =>
          exact ⟨0, revision, le_refl _, fun positive => absurd positive (by decide)⟩
  | @edited _ row row' _ found owned edit enrollments profiles recordings =>
      have has : ∀ {profileId ownerId personId}, p.HasProfile profileId ownerId personId →
          p'.HasProfile profileId ownerId personId := by
        rintro _ _ _ ⟨profile, stored, named⟩
        exact ⟨profile, profiles ▸ stored, named⟩
      have targets := (enrolled.targets _ _ found).stays has
      cases edit with
      | sampled samples collecting current =>
          exact enrolled.stores enrollments profiles (targets.congr rfl rfl rfl rfl)
            (fun _ => Or.inl collecting)
      | lapsed | cancelled =>
          exact enrolled.stores enrollments profiles (targets.congr rfl rfl rfl rfl)
            (People.keeps_of_empty rfl)
  | expired enrollments profiles recordings =>
      refine { revised := ?_, targets := ?_, keeps := ?_ }
      · rw [profiles]
        exact enrolled.revised
      · intro enrollmentId row stored
        rw [enrollments, Option.map_eq_some_iff] at stored
        obtain ⟨old, before, rfl⟩ := stored
        have targets := enrolled.targets _ _ before
        have stays : p'.Targets old := targets.stays (by
          rintro ⟨profile, stored, named⟩
          exact ⟨profile, profiles ▸ stored, named⟩)
        unfold VoiceEnrollmentRow.expire
        split
        · exact stays.congr rfl rfl rfl rfl
        · exact stays
      · intro enrollmentId row stored
        rw [enrollments, Option.map_eq_some_iff] at stored
        obtain ⟨old, before, rfl⟩ := stored
        unfold VoiceEnrollmentRow.expire
        split
        · exact People.keeps_of_empty rfl
        · exact (enrolled.keeps _ _ before).stays (by rw [profiles])
  | @completed request row profile pcm _ person found owned collecting personStored personActive
      sole target made profiles recordings enrollments =>
      have rowTargets := enrolled.targets _ _ found
      obtain ⟨profileOwned, profilePerson, positive⟩ := made.owned enrolled rowTargets target
      have stored : p'.speakerProfiles.get? row.profileId = some profile := by
        rw [← made.profileId]
        exact profiles.self
      have others : ∀ profileId, profileId ≠ row.profileId →
          p'.speakerProfiles.get? profileId = p.speakerProfiles.get? profileId := by
        intro profileId different
        exact profiles.other (fun same => different (same.trans made.profileId))
      have has : ∀ {profileId ownerId personId}, p.HasProfile profileId ownerId personId →
          p'.HasProfile profileId ownerId personId := by
        rintro profileId ownerId personId ⟨other, before, otherOwned, otherPerson⟩
        by_cases same : profileId = row.profileId
        · subst same
          obtain ⟨sameOwner, samePerson, -⟩ := made.next other before
          exact ⟨profile, stored, sameOwner.trans otherOwned, samePerson.trans otherPerson⟩
        · exact ⟨other, (others _ same).trans before, otherOwned, otherPerson⟩
      refine { revised := ?_, targets := ?_, keeps := ?_ }
      · intro profileId other found
        rcases profiles.of_get? found with ⟨-, rfl⟩ | ⟨-, before⟩
        · exact positive
        · exact enrolled.revised _ _ before
      · intro enrollmentId other found
        rw [enrollments] at found
        split at found
        · cases found
          exact (rowTargets.stays has).congr rfl rfl rfl rfl
        · rw [Option.map_eq_some_iff] at found
          obtain ⟨old, before, rfl⟩ := found
          have stays := (enrolled.targets _ _ before).stays has
          unfold VoiceEnrollmentRow.supersede
          split
          · exact stays.congr rfl rfl rfl rfl
          · exact stays
      · intro enrollmentId other found samples
        rw [enrollments] at found
        split at found
        · cases found
          exact Or.inr ⟨rfl, profile, stored, made.enrollmentId, profileOwned, profilePerson⟩
        · next different =>
          rw [Option.map_eq_some_iff] at found
          obtain ⟨old, before, rfl⟩ := found
          have named : old.enrollmentId = enrollmentId := Table.key_of_get? before
          unfold VoiceEnrollmentRow.supersede at samples ⊢
          split at samples
          · exact absurd rfl samples
          · next kept =>
            rw [if_neg kept]
            rcases enrolled.keeps _ _ before samples with collects | ⟨ready, rests⟩
            · exact Or.inl collects
            · refine Or.inr ⟨ready, ?_⟩
              have elsewhere : old.profileId ≠ row.profileId := by
                intro same
                exact kept ⟨same, named ▸ different, ready⟩
              obtain ⟨profile', before', rest⟩ := rests
              exact ⟨profile', (others _ elsewhere).trans before', rest⟩
  | @deleted profile _ found owned profiles recordings enrollments =>
      have kept : ∀ {profileId}, profileId ≠ profile.profileId →
          p'.speakerProfiles.get? profileId = p.speakerProfiles.get? profileId := by
        intro profileId different
        rw [profiles, Table.get?_retain]
        cases before : p.speakerProfiles.get? profileId with
        | none => rfl
        | some other =>
            have named : other.profileId = profileId := Table.key_of_get? before
            exact Option.filter_some_pos (by simpa [named] using different)
      have left : ∀ {enrollmentId row}, p'.voiceEnrollments.get? enrollmentId = some row →
          p.voiceEnrollments.get? enrollmentId = some row ∧ row.profileId ≠ profile.profileId := by
        intro enrollmentId row stored
        rw [enrollments, Table.get?_retain, Option.filter_eq_some_iff] at stored
        exact ⟨stored.1, of_decide_eq_true stored.2⟩
      refine { revised := ?_, targets := ?_, keeps := ?_ }
      · intro profileId other stored
        rw [profiles, Table.get?_retain, Option.filter_eq_some_iff] at stored
        exact enrolled.revised _ _ stored.1
      · intro enrollmentId row stored
        obtain ⟨before, different⟩ := left stored
        refine (enrolled.targets _ _ before).stays ?_
        rintro ⟨other, otherStored, named⟩
        exact ⟨other, (kept different).trans otherStored, named⟩
      · intro enrollmentId row stored
        obtain ⟨before, different⟩ := left stored
        exact (enrolled.keeps _ _ before).stays (kept different).symm

end Made

section Moved

variable {sdk : Sdk} {env : Env} {t t' : Tables} {command : Command}

theorem People.Enrolled.retained {p p' : People} (left : String → Bool) (enrolled : p.Enrolled)
    (profiles : p'.speakerProfiles = p.speakerProfiles.retain (fun row => left row.personId))
    (enrollments : p'.voiceEnrollments =
      p.voiceEnrollments.retain (fun row => left row.personId)) : p'.Enrolled := by
  have kept : ∀ {profileId profile}, p.speakerProfiles.get? profileId = some profile →
      left profile.personId = true → p'.speakerProfiles.get? profileId = some profile := by
    intro profileId profile stored spared
    rw [profiles, Table.get?_retain, stored]
    exact Option.filter_some_pos spared
  have before : ∀ {enrollmentId row}, p'.voiceEnrollments.get? enrollmentId = some row →
      p.voiceEnrollments.get? enrollmentId = some row ∧ left row.personId = true := by
    intro enrollmentId row stored
    rw [enrollments, Table.get?_retain, Option.filter_eq_some_iff] at stored
    exact stored
  refine { revised := ?_, targets := ?_, keeps := ?_ }
  · intro profileId profile stored
    rw [profiles, Table.get?_retain, Option.filter_eq_some_iff] at stored
    exact enrolled.revised _ _ stored.1
  · intro enrollmentId row stored
    obtain ⟨found, spared⟩ := before stored
    refine (enrolled.targets _ _ found).stays ?_
    rintro ⟨profile, profileStored, owned, named⟩
    exact ⟨profile, kept profileStored (named ▸ spared), owned, named⟩
  · intro enrollmentId row stored samples
    obtain ⟨found, spared⟩ := before stored
    rcases enrolled.keeps _ _ found samples with collects | ⟨ready, profile, rests⟩
    · exact Or.inl collects
    · obtain ⟨profileStored, names, owned, named⟩ := rests
      exact Or.inr ⟨ready, profile, kept profileStored (named ▸ spared), names, owned, named⟩

theorem People.Enrolled.added {p p' : People} {profile : SpeakerProfileRow}
    (enrolled : p.Enrolled) (fresh : p.speakerProfiles.get? profile.profileId = none)
    (first : 1 ≤ profile.revision)
    (profiles : p'.speakerProfiles = p.speakerProfiles.insert profile)
    (enrollments : p'.voiceEnrollments = p.voiceEnrollments) : p'.Enrolled := by
  have stores : Table.Stores p.speakerProfiles p'.speakerProfiles profile := by
    rw [profiles]
    exact Table.stores_insert fresh
  have kept : ∀ {profileId other}, p.speakerProfiles.get? profileId = some other →
      p'.speakerProfiles.get? profileId = some other := by
    intro profileId other stored
    rw [stores.other, stored]
    rintro rfl
    exact absurd (fresh.symm.trans stored) (by simp)
  refine { revised := ?_, targets := ?_, keeps := ?_ }
  · intro profileId other stored
    rcases stores.of_get? stored with ⟨-, rfl⟩ | ⟨-, before⟩
    · exact first
    · exact enrolled.revised _ _ before
  · intro enrollmentId row stored
    rw [enrollments] at stored
    refine (enrolled.targets _ _ stored).stays ?_
    rintro ⟨other, otherStored, named⟩
    exact ⟨other, kept otherStored, named⟩
  · intro enrollmentId row stored samples
    rw [enrollments] at stored
    rcases enrolled.keeps _ _ stored samples with collects | ⟨ready, other, otherStored, rests⟩
    · exact Or.inl collects
    · exact Or.inr ⟨ready, other, kept otherStored, rests⟩

theorem VoicesMoved.enrolled (moved : VoicesMoved sdk env t t' command)
    (enrolled : t.people.Enrolled) : t'.people.Enrolled := by
  have same : ∀ {voices : Voices}, t'.voices = voices →
      t'.people.speakerProfiles = voices.profiles ∧
        t'.people.voiceEnrollments = voices.enrollments := by
    rintro _ rfl
    exact ⟨rfl, rfl⟩
  have unwritten : t'.people.speakerProfiles = t.people.speakerProfiles →
      t'.people.voiceEnrollments = t.people.voiceEnrollments → t'.people.Enrolled := by
    intro profiles enrollments
    refine enrolled.retained (fun _ => true) ?_ ?_
    · rw [profiles, Table.retain_eq_self (fun _ _ => rfl)]
    · rw [enrollments, Table.retain_eq_self (fun _ _ => rfl)]
  cases moved with
  | kept _ voices | faced _ voices => exact unwritten (same voices).1 (same voices).2
  | recorded recorded => exact unwritten (same recorded.voices).1 (same recorded.voices).2
  | made aside made => exact made.enrolled enrolled
  | discovered discovered =>
      obtain ⟨displayName, voices⟩ := discovered.voices
      exact enrolled.added discovered.unprofiled (by exact le_refl 1) (same voices).1
        (same voices).2
  | @erased ownerId personId _ voices =>
      exact enrolled.retained (fun id => id ≠ personId) (same voices).1 (same voices).2
  | pruned _ pruned => exact enrolled.retained _ pruned.profiles pruned.enrollments

theorem enrolled_empty : Database.empty.tables.people.Enrolled := by
  refine { revised := ?_, targets := ?_, keeps := ?_ }
  · intro _ _ stored
    cases stored
  · intro _ _ stored
    cases stored
  · intro _ _ stored
    cases stored

end Moved

section Erased

variable {sdk : Sdk} {env : Env} {t t' : Tables} {command : Command} {personId : String}

/-- No profile, no enrollment and no photo slot is of this Person. -/
structure People.Bare (p : People) (personId : String) : Prop where
  profiles : ∀ profileId row, p.speakerProfiles.get? profileId = some row →
    row.personId ≠ personId
  enrollments : ∀ enrollmentId row, p.voiceEnrollments.get? enrollmentId = some row →
    row.personId ≠ personId
  faces : ∀ other row, p.personFaces.get? other = some row → row.personId ≠ personId

theorem bare_of_erased (voices : t'.voices = (t.people.eraseBiometrics personId).voices) :
    t'.people.Bare personId := by
  have profiles : t'.people.speakerProfiles = _ := congrArg Voices.profiles voices
  have enrollments : t'.people.voiceEnrollments = _ := congrArg Voices.enrollments voices
  have faces : t'.people.personFaces = _ := congrArg Voices.faces voices
  refine { profiles := ?_, enrollments := ?_, faces := ?_ }
  · intro profileId row stored
    rw [profiles] at stored
    exact of_decide_eq_true (Option.filter_eq_some_iff.mp
      ((Table.get?_retain _ _ _).symm.trans stored)).2
  · intro enrollmentId row stored
    rw [enrollments] at stored
    exact of_decide_eq_true (Option.filter_eq_some_iff.mp
      ((Table.get?_retain _ _ _).symm.trans stored)).2
  · intro other row stored
    rw [faces] at stored
    exact of_decide_eq_true (Option.filter_eq_some_iff.mp
      ((Table.get?_retain _ _ _).symm.trans stored)).2

theorem VoiceMade.bare {ownerId : String} {p p' : People} {command : VoiceprintCommand}
    (made : VoiceMade sdk env ownerId p command p') (faces : p'.personFaces = p.personFaces)
    (asleep : ∀ person, p.persons.get? personId = some person → person.status = .inactive)
    (bare : p.Bare personId) : p'.Bare personId := by
  have awake : ∀ {other person}, p.persons.get? other = some person → person.status = .active →
      other ≠ personId := by
    rintro _ person stored active rfl
    rw [asleep person stored] at active
    cases active
  have unfaced : ∀ other row, p'.personFaces.get? other = some row → row.personId ≠ personId := by
    rw [faces]
    exact bare.faces
  cases made with
  | unchanged => exact bare
  | opened personStored personActive fresh identity owned named collecting empty targets
      enrollments profiles =>
      refine { profiles := profiles ▸ bare.profiles, enrollments := ?_, faces := unfaced }
      intro enrollmentId other stored
      rcases enrollments.of_get? stored with ⟨-, rfl⟩ | ⟨-, before⟩
      · rw [named]
        exact awake personStored personActive
      · exact bare.enrollments _ _ before
  | edited found owned edit enrollments profiles =>
      refine { profiles := profiles ▸ bare.profiles, enrollments := ?_, faces := unfaced }
      intro enrollmentId other stored
      rcases enrollments.of_get? stored with ⟨-, rfl⟩ | ⟨-, before⟩
      · have was := bare.enrollments _ _ found
        cases edit with
        | sampled | lapsed | cancelled => exact was
      · exact bare.enrollments _ _ before
  | expired enrollments profiles =>
      refine { profiles := profiles ▸ bare.profiles, enrollments := ?_, faces := unfaced }
      intro enrollmentId row stored
      rw [enrollments, Option.map_eq_some_iff] at stored
      obtain ⟨old, before, rfl⟩ := stored
      have was := bare.enrollments _ _ before
      unfold VoiceEnrollmentRow.expire
      split
      · exact was
      · exact was
  | @completed request row profile pcm _ person found owned collecting personStored personActive
      sole target enrolled profiles recordings enrollments =>
      refine { profiles := ?_, enrollments := ?_, faces := unfaced }
      · intro profileId other stored
        rcases profiles.of_get? stored with ⟨-, rfl⟩ | ⟨-, before⟩
        · cases before : p.speakerProfiles.get? row.profileId with
          | none =>
              rw [(enrolled.first before).2.1]
              exact awake personStored personActive
          | some old =>
              rw [(enrolled.next old before).2.1]
              exact bare.profiles _ _ before
        · exact bare.profiles _ _ before
      · intro enrollmentId other stored
        rw [enrollments] at stored
        split at stored
        · cases stored
          exact awake personStored personActive
        · rw [Option.map_eq_some_iff] at stored
          obtain ⟨old, before, rfl⟩ := stored
          have was := bare.enrollments _ _ before
          unfold VoiceEnrollmentRow.supersede
          split
          · exact was
          · exact was
  | deleted found owned profiles recordings enrollments =>
      refine { profiles := ?_, enrollments := ?_, faces := unfaced }
      · intro profileId other stored
        rw [profiles, Table.get?_retain, Option.filter_eq_some_iff] at stored
        exact bare.profiles _ _ stored.1
      · intro enrollmentId other stored
        rw [enrollments, Table.get?_retain, Option.filter_eq_some_iff] at stored
        exact bare.enrollments _ _ stored.1

theorem VoicesMoved.bare (moved : VoicesMoved sdk env t t' command) {person : PersonRow}
    (stored : t.people.persons.get? personId = some person) (archived : person.deleted = true)
    (asleep : person.status = .inactive) (bare : t.people.Bare personId) :
    t'.people.Bare personId := by
  have same : ∀ {voices : Voices}, t'.voices = voices →
      t'.people.speakerProfiles = voices.profiles ∧
        t'.people.voiceEnrollments = voices.enrollments ∧
          t'.people.personFaces = voices.faces := by
    rintro _ rfl
    exact ⟨rfl, rfl, rfl⟩
  have unwritten : t'.people.speakerProfiles = t.people.speakerProfiles →
      t'.people.voiceEnrollments = t.people.voiceEnrollments →
        t'.people.personFaces = t.people.personFaces → t'.people.Bare personId :=
    fun profiles enrollments faces =>
      ⟨profiles ▸ bare.profiles, enrollments ▸ bare.enrollments, faces ▸ bare.faces⟩
  have retained : ∀ left : String → Bool,
      t'.people.speakerProfiles = t.people.speakerProfiles.retain (fun row => left row.personId) →
      t'.people.voiceEnrollments = t.people.voiceEnrollments.retain
        (fun row => left row.personId) →
      t'.people.personFaces = t.people.personFaces.retain (fun row => left row.personId) →
        t'.people.Bare personId := by
    intro left profiles enrollments faces
    refine { profiles := ?_, enrollments := ?_, faces := ?_ }
    · intro profileId row found
      rw [profiles, Table.get?_retain, Option.filter_eq_some_iff] at found
      exact bare.profiles _ _ found.1
    · intro enrollmentId row found
      rw [enrollments, Table.get?_retain, Option.filter_eq_some_iff] at found
      exact bare.enrollments _ _ found.1
    · intro other row found
      rw [faces, Table.get?_retain, Option.filter_eq_some_iff] at found
      exact bare.faces _ _ found.1
  cases moved with
  | kept _ voices => exact unwritten (same voices).1 (same voices).2.1 (same voices).2.2
  | recorded recorded =>
      obtain ⟨profiles, enrollments, faces⟩ := same recorded.voices
      exact unwritten profiles enrollments faces
  | made aside made =>
      refine made.bare aside.faces ?_ bare
      intro other found
      rw [stored] at found
      cases found
      exact asleep
  | discovered discovered =>
      obtain ⟨displayName, voices⟩ := discovered.voices
      obtain ⟨profiles, enrollments, faces⟩ := same voices
      refine
        { profiles := ?_
          enrollments := enrollments ▸ bare.enrollments
          faces := faces ▸ bare.faces }
      intro profileId row found
      rw [profiles] at found
      rcases (Table.stores_insert discovered.unprofiled).of_get? found with ⟨-, rfl⟩ | ⟨-, before⟩
      · -- The discovered Person was not stored before.
        rintro rfl
        have absent := congrArg PersonFile.person discovered.absent
        exact absurd (stored.symm.trans absent) (by simp [PersonFile.absent])
      · exact bare.profiles _ _ before
  | @erased ownerId other _ voices =>
      obtain ⟨profiles, enrollments, faces⟩ := same voices
      exact retained (fun id => id ≠ other) profiles enrollments faces
  | pruned _ pruned => exact retained _ pruned.profiles pruned.enrollments pruned.faces
  | @faced _ row alive faces voices personStored _ active stores =>
      obtain ⟨profiles, enrollments, written⟩ := same voices
      refine
        { profiles := profiles ▸ bare.profiles
          enrollments := enrollments ▸ bare.enrollments
          faces := ?_ }
      intro other face found
      rw [written] at found
      rcases stores.of_get? found with ⟨-, rfl⟩ | ⟨-, before⟩
      · rintro rfl
        rw [stored] at personStored
        cases personStored
        rw [archived] at active
        cases active
      · exact bare.faces _ _ before

end Erased

end EidolonData
