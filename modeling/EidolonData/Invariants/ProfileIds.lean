import EidolonData.Invariants.Enrollments

/-!
# The ids of speaker profiles

A profile id is drawn by the enrollment or the discovery it is for, and is
used for one Person from then on.
-/

namespace EidolonData

open Relational

section Drawn

/-- The profile id a command draws, should it need a new one. -/
def Command.drawnProfile (env : Env) : Command → Option String
  | .runVoiceprint _ _ (.createEnrollment _) => some ("sp_" ++ (env.uuid 0).hex)
  | .runVoiceprint _ _ (.discoverCandidate _) => some ("sp_" ++ (env.uuid 4).hex)
  | _ => none

def Command.drawnFor (sdk : Sdk) : Command → Option (String × String)
  | .runVoiceprint _ ownerId (.createEnrollment request) => some (ownerId, request.personId)
  | .runVoiceprint _ ownerId (.discoverCandidate request) =>
      some (ownerId, sdk.discoveryPersonId ownerId request.observation.sessionId
        request.observation.turnId)
  | _ => none

def People.Uses (p : People) (profileId ownerId personId : String) : Prop :=
  p.HasProfile profileId ownerId personId ∨
  ∃ enrollmentId row, p.voiceEnrollments.get? enrollmentId = some row ∧
    row.profileId = profileId ∧ row.ownerId = ownerId ∧ row.personId = personId

variable {sdk : Sdk} {env : Env} {p p' : People} {profileId ownerId personId : String}

theorem People.Uses.personStored {w : Workspace} (uses : p.Uses profileId ownerId personId)
    (integrity : p.Integrity w) : ∃ person, p.persons.get? personId = some person := by
  have named : p.hasOwnedPerson ownerId personId = true := by
    rcases uses with ⟨profile, stored, rfl, rfl⟩ | ⟨enrollmentId, row, stored, -, rfl, rfl⟩
    · exact integrity.profileOf profile (Table.mem_of_get? stored)
    · exact integrity.enrollmentOf row (Table.mem_of_get? stored)
  cases stored : p.persons.get? personId with
  | none => simp [People.hasOwnedPerson, stored] at named
  | some person => exact ⟨person, rfl⟩

theorem People.Uses.of_fewer (uses : p'.Uses profileId ownerId personId)
    (profiles : ∀ profileId row, p'.speakerProfiles.get? profileId = some row →
      p.speakerProfiles.get? profileId = some row)
    (enrollments : ∀ enrollmentId row, p'.voiceEnrollments.get? enrollmentId = some row →
      p.voiceEnrollments.get? enrollmentId = some row) : p.Uses profileId ownerId personId := by
  rcases uses with ⟨profile, stored, named⟩ | ⟨enrollmentId, row, stored, named⟩
  · exact Or.inl ⟨profile, profiles _ _ stored, named⟩
  · exact Or.inr ⟨enrollmentId, row, enrollments _ _ stored, named⟩

/-- The columns of an enrollment that no command rewrites. -/
structure VoiceEnrollmentRow.Continues (row row' : VoiceEnrollmentRow) : Prop where
  enrollmentId : row'.enrollmentId = row.enrollmentId
  ownerId : row'.ownerId = row.ownerId
  personId : row'.personId = row.personId
  profileId : row'.profileId = row.profileId
  requestJson : row'.requestJson = row.requestJson

theorem VoiceEnrollmentRow.continues_refl (row : VoiceEnrollmentRow) : row.Continues row :=
  ⟨rfl, rfl, rfl, rfl, rfl⟩

theorem EnrollmentEdited.continues {row row' : VoiceEnrollmentRow} {command : VoiceprintCommand}
    (edit : EnrollmentEdited env row command row') : row.Continues row' := by
  cases edit with
  | sampled | lapsed | cancelled => exact ⟨rfl, rfl, rfl, rfl, rfl⟩

theorem continues_expire (row : VoiceEnrollmentRow) (now : Timestamp) :
    row.Continues (row.expire now) := by
  unfold VoiceEnrollmentRow.expire
  split
  · exact ⟨rfl, rfl, rfl, rfl, rfl⟩
  · exact row.continues_refl

theorem continues_supersede (other row : VoiceEnrollmentRow) :
    other.Continues (other.supersede row) := by
  unfold VoiceEnrollmentRow.supersede
  split
  · exact ⟨rfl, rfl, rfl, rfl, rfl⟩
  · exact other.continues_refl

theorem VoiceMade.continues {command : VoiceprintCommand} {enrollmentId : String}
    {row' : VoiceEnrollmentRow} (made : VoiceMade sdk env ownerId p command p')
    (stored : p'.voiceEnrollments.get? enrollmentId = some row') :
    (∃ row, p.voiceEnrollments.get? enrollmentId = some row ∧ row.Continues row') ∨
    EnrollmentTargets p env row' ∧ ∃ request, command = .createEnrollment request ∧
      row'.ownerId = ownerId ∧ row'.personId = request.personId := by
  cases made with
  | unchanged => exact Or.inl ⟨row', stored, row'.continues_refl⟩
  | @opened request _ _ _ _ _ _ _ owned named _ _ targets enrollments =>
      rcases enrollments.of_get? stored with ⟨-, rfl⟩ | ⟨-, before⟩
      · exact Or.inr ⟨targets, request, rfl, owned, named⟩
      · exact Or.inl ⟨row', before, row'.continues_refl⟩
  | edited found _ edit enrollments =>
      rcases enrollments.of_get? stored with ⟨rfl, rfl⟩ | ⟨-, before⟩
      · refine Or.inl ⟨_, ?_, edit.continues⟩
        have sameId : key row' = _ := edit.continues.enrollmentId
        rw [sameId]
        exact found
      · exact Or.inl ⟨row', before, row'.continues_refl⟩
  | expired enrollments =>
      rw [enrollments, Option.map_eq_some_iff] at stored
      obtain ⟨row, before, rfl⟩ := stored
      exact Or.inl ⟨row, before, continues_expire row _⟩
  | completed found _ _ _ _ _ _ _ _ _ enrollments =>
      rw [enrollments] at stored
      split at stored
      · next same =>
        rw [same]
        cases stored
        exact Or.inl ⟨_, found, ⟨rfl, rfl, rfl, rfl, rfl⟩⟩
      · rw [Option.map_eq_some_iff] at stored
        obtain ⟨row, before, rfl⟩ := stored
        exact Or.inl ⟨row, before, continues_supersede row _⟩
  | deleted _ _ _ _ enrollments =>
      rw [enrollments, Table.get?_retain, Option.filter_eq_some_iff] at stored
      exact Or.inl ⟨row', stored.1, row'.continues_refl⟩

theorem VoiceMade.uses {command : VoiceprintCommand} {policies : VoicePolicies} {acting : String}
    (made : VoiceMade sdk env acting p command p') (uses : p'.Uses profileId ownerId personId) :
    p.Uses profileId ownerId personId ∨
      (Command.runVoiceprint policies acting command).drawnProfile env = some profileId ∧
        (Command.runVoiceprint policies acting command).drawnFor sdk =
          some (ownerId, personId) := by
  rcases uses with
    ⟨profile, stored, owned, named⟩ | ⟨enrollmentId, row', stored, same, owned, named⟩
  · have before : p.speakerProfiles.get? profileId = some profile →
        p.Uses profileId ownerId personId := fun found => Or.inl ⟨profile, found, owned, named⟩
    cases made with
    | unchanged => exact Or.inl (before stored)
    | opened _ _ _ _ _ _ _ _ _ _ profiles | edited _ _ _ _ profiles | expired _ profiles =>
        rw [profiles] at stored
        exact Or.inl (before stored)
    | completed found _ _ _ _ _ _ made profiles =>
        rcases profiles.of_get? stored with ⟨rfl, rfl⟩ | ⟨-, kept⟩
        · have rowNamed : key profile = _ := made.profileId
          rw [rowNamed]
          cases existing : p.speakerProfiles.get? _ with
          | none =>
              obtain ⟨firstOwner, firstPerson, -⟩ := made.first existing
              exact Or.inl (Or.inr ⟨_, _, found, rfl, firstOwner.symm.trans owned,
                firstPerson.symm.trans named⟩)
          | some old =>
              obtain ⟨sameOwner, samePerson, -⟩ := made.next old existing
              exact Or.inl (Or.inl ⟨old, existing, sameOwner.symm.trans owned,
                samePerson.symm.trans named⟩)
        · exact Or.inl (before kept)
    | deleted _ _ profiles =>
        rw [profiles, Table.get?_retain, Option.filter_eq_some_iff] at stored
        exact Or.inl (before stored.1)
  · rcases made.continues stored with ⟨row, before, continues⟩ |
      ⟨targets, request, rfl, rowOwned, rowNamed⟩
    · exact Or.inl (Or.inr ⟨enrollmentId, row, before, continues.profileId.symm.trans same,
        continues.ownerId.symm.trans owned, continues.personId.symm.trans named⟩)
    · cases targets with
      | current profile found profileOwned profilePerson target =>
          rw [← same, target]
          exact Or.inl (Or.inl ⟨profile, found, profileOwned.trans owned,
            profilePerson.trans named⟩)
      | first _ drawn =>
          rw [← same, drawn, ← owned, rowOwned, ← named, rowNamed]
          exact Or.inr ⟨rfl, rfl⟩

end Drawn

section Moved

variable {sdk : Sdk} {env : Env} {t t' : Tables} {command : Command}
  {profileId ownerId personId : String}

theorem VoicesMoved.uses (moved : VoicesMoved sdk env t t' command)
    (uses : t'.people.Uses profileId ownerId personId) :
    t.people.Uses profileId ownerId personId ∨
      command.drawnProfile env = some profileId ∧
        command.drawnFor sdk = some (ownerId, personId) := by
  have same : ∀ {voices : Voices}, t'.voices = voices →
      t'.people.speakerProfiles = voices.profiles ∧
        t'.people.voiceEnrollments = voices.enrollments := by
    rintro _ rfl
    exact ⟨rfl, rfl⟩
  have unwritten : t'.people.speakerProfiles = t.people.speakerProfiles →
      t'.people.voiceEnrollments = t.people.voiceEnrollments →
        t.people.Uses profileId ownerId personId := by
    intro profiles enrollments
    refine uses.of_fewer ?_ ?_
    · intro _ _ stored
      exact profiles ▸ stored
    · intro _ _ stored
      exact enrollments ▸ stored
  have retained : ∀ left : String → Bool, t'.people.speakerProfiles =
        t.people.speakerProfiles.retain (fun row => left row.personId) →
      t'.people.voiceEnrollments =
        t.people.voiceEnrollments.retain (fun row => left row.personId) →
          t.people.Uses profileId ownerId personId := by
    intro left profiles enrollments
    refine uses.of_fewer ?_ ?_
    · intro _ _ stored
      rw [profiles, Table.get?_retain, Option.filter_eq_some_iff] at stored
      exact stored.1
    · intro _ _ stored
      rw [enrollments, Table.get?_retain, Option.filter_eq_some_iff] at stored
      exact stored.1
  cases moved with
  | kept _ voices | faced _ voices => exact Or.inl (unwritten (same voices).1 (same voices).2)
  | recorded recorded =>
      exact Or.inl (unwritten (same recorded.voices).1 (same recorded.voices).2)
  | made aside made => exact made.uses uses
  | discovered discovered =>
      obtain ⟨displayName, voices⟩ := discovered.voices
      obtain ⟨profiles, enrollments⟩ := same voices
      rcases uses with ⟨profile, stored, named⟩ | ⟨enrollmentId, row, stored, named⟩
      · rw [profiles, Table.get?_insert discovered.unprofiled] at stored
        split at stored
        · next found =>
          obtain rfl := Option.some.inj stored
          obtain ⟨rfl, rfl⟩ := named
          exact Or.inr ⟨congrArg some found.symm, rfl⟩
        · exact Or.inl (Or.inl ⟨profile, stored, named⟩)
      · rw [enrollments] at stored
        exact Or.inl (Or.inr ⟨enrollmentId, row, stored, named⟩)
  | @erased _ erasedId _ voices =>
      exact Or.inl (retained (fun id => id ≠ erasedId) (same voices).1 (same voices).2)
  | pruned _ pruned => exact Or.inl (retained _ pruned.profiles pruned.enrollments)

end Moved

end EidolonData
