import EidolonData.Invariants.VoiceRuns

/-!
# Enrollments and profiles along a run

A profile id is used for one Person, its revision only grows while the profile
is stored, and once the profile is gone the id is out of use.  An enrollment
goes no sooner than its profile id does.
-/

namespace EidolonData

open Relational

/-- The ids in use were drawn, each for one Person of one Owner. -/
structure People.IdsDrawn (p : People) (drawn : List String) : Prop where
  drawn : ∀ {profileId ownerId personId}, p.Uses profileId ownerId personId → profileId ∈ drawn
  sole : ∀ {profileId ownerId personId ownerId' personId'},
    p.Uses profileId ownerId personId → p.Uses profileId ownerId' personId' →
      ownerId = ownerId' ∧ personId = personId'

/-- Nobody uses the id. -/
def People.Unused (p : People) (profileId : String) : Prop :=
  ∀ ownerId personId, ¬ p.Uses profileId ownerId personId

/-- The enrollment goes on: it is the same one, and one that has ended does
not collect again. -/
structure VoiceEnrollmentRow.Onward (row row' : VoiceEnrollmentRow) : Prop where
  continues : row.Continues row'
  ended : row.state ≠ "collecting" → row'.state ≠ "collecting"
  ready : row.state = "ready" → row'.state = "ready"

namespace VoiceEnrollmentRow

variable {row row' : VoiceEnrollmentRow}

theorem Continues.trans {row'' : VoiceEnrollmentRow} (first : row.Continues row')
    (second : row'.Continues row'') : row.Continues row'' :=
  { enrollmentId := second.enrollmentId.trans first.enrollmentId
    ownerId := second.ownerId.trans first.ownerId
    personId := second.personId.trans first.personId
    profileId := second.profileId.trans first.profileId
    requestJson := second.requestJson.trans first.requestJson }

theorem Onward.refl (row : VoiceEnrollmentRow) : row.Onward row :=
  ⟨row.continues_refl, id, id⟩

theorem Onward.trans {row'' : VoiceEnrollmentRow} (first : row.Onward row')
    (second : row'.Onward row'') : row.Onward row'' :=
  { continues := first.continues.trans second.continues
    ended := fun ended => second.ended (first.ended ended)
    ready := fun ready => second.ready (first.ready ready) }

theorem onward_expire (row : VoiceEnrollmentRow) (now : Timestamp) :
    row.Onward (row.expire now) := by
  refine ⟨continues_expire row now, ?_, ?_⟩
  · unfold expire
    intro ended
    rw [if_neg (fun lapsed => ended lapsed.1)]
    exact ended
  · unfold expire
    intro ready
    rw [if_neg (by simp [ready])]
    exact ready

theorem expire_unready (row : VoiceEnrollmentRow) (now : Timestamp)
    (collecting : row.state = "collecting") : (row.expire now).state ≠ "ready" := by
  unfold expire
  split
  · simp
  · simp [collecting]

theorem state_supersede (other row : VoiceEnrollmentRow) :
    (other.supersede row).state = other.state := by
  unfold supersede
  split
  · rfl
  · rfl

theorem onward_supersede (other row : VoiceEnrollmentRow) : other.Onward (other.supersede row) := by
  refine ⟨continues_supersede other row, ?_, ?_⟩
  · rw [state_supersede]
    exact id
  · rw [state_supersede]
    exact id

theorem onward_close (row : VoiceEnrollmentRow) (evaluation : EnrollmentEvaluation) :
    row.Onward (row.close evaluation) := by
  refine ⟨⟨rfl, rfl, rfl, rfl, rfl⟩, ?_, fun _ => rfl⟩
  intro _
  simp [close]

end VoiceEnrollmentRow

theorem EnrollmentEdited.onward {env : Env} {row row' : VoiceEnrollmentRow}
    {command : VoiceprintCommand} (edit : EnrollmentEdited env row command row') :
    row.Onward row' := by
  refine ⟨edit.continues, ?_, ?_⟩
  · cases edit with
    | sampled => exact id
    | lapsed | cancelled =>
        intro _
        simp
  · cases edit with
    | sampled => exact id
    | lapsed collecting =>
        intro ready
        rw [ready] at collecting
        exact absurd collecting (by decide)
    | cancelled unfinished => exact fun ready => absurd ready unfinished

section Steps

variable {sdk : Sdk} {env : Env} {t t' : Tables} {command : Command} {drawn : List String}
  {profileId : String}

theorem VoicesMoved.idsDrawn (moved : VoicesMoved sdk env t t' command)
    (ids : t.people.IdsDrawn drawn) (fresh : ∀ drawnId, command.drawnProfile env = some drawnId →
      drawnId ∉ drawn) :
    t'.people.IdsDrawn (drawn ++ (command.drawnProfile env).toList) := by
  constructor
  · intro profileId ownerId personId uses
    rcases moved.uses uses with before | ⟨now, -⟩
    · exact List.mem_append_left _ (ids.drawn before)
    · exact List.mem_append_right _ (Option.mem_toList.mpr now)
  · intro profileId ownerId personId ownerId' personId' uses uses'
    rcases moved.uses uses with before | ⟨now, drawnFor⟩
    · rcases moved.uses uses' with before' | ⟨now', -⟩
      · exact ids.sole before before'
      · exact absurd (ids.drawn before) (fresh profileId now')
    · rcases moved.uses uses' with before' | ⟨-, drawnFor'⟩
      · exact absurd (ids.drawn before') (fresh profileId now)
      · rw [drawnFor] at drawnFor'
        exact Prod.mk.inj (Option.some.inj drawnFor')

/-- An id that is out of use and not drawn stays out of use. -/
theorem VoicesMoved.unused (moved : VoicesMoved sdk env t t' command)
    (unused : t.people.Unused profileId) (undrawn : command.drawnProfile env ≠ some profileId) :
    t'.people.Unused profileId := by
  intro ownerId personId uses
  rcases moved.uses uses with before | ⟨now, -⟩
  · exact unused ownerId personId before
  · exact undrawn now

theorem unused_of_removed {p p' : People} {left : String → Bool} {ownerId personId : String}
    (ids : p.IdsDrawn drawn)
    (profiles : p'.speakerProfiles = p.speakerProfiles.retain (fun row => left row.personId))
    (enrollments : p'.voiceEnrollments = p.voiceEnrollments.retain (fun row => left row.personId))
    (uses : p.Uses profileId ownerId personId) (gone : left personId = false) :
    p'.Unused profileId := by
  intro ownerId' personId' still
  have before : p.Uses profileId ownerId' personId' := by
    refine still.of_fewer ?_ ?_
    · intro _ _ stored
      rw [profiles, Table.get?_retain, Option.filter_eq_some_iff] at stored
      exact stored.1
    · intro _ _ stored
      rw [enrollments, Table.get?_retain, Option.filter_eq_some_iff] at stored
      exact stored.1
  obtain ⟨-, rfl⟩ := ids.sole uses before
  rcases still with ⟨profile, stored, -, named⟩ | ⟨enrollmentId, row, stored, -, -, named⟩
  · rw [profiles, Table.get?_retain, Option.filter_eq_some_iff, named, gone] at stored
    exact absurd stored.2 (by decide)
  · rw [enrollments, Table.get?_retain, Option.filter_eq_some_iff, named, gone] at stored
    exact absurd stored.2 (by decide)

theorem unused_of_deleted {p p' : People} {profileId : String}
    (profiles : p'.speakerProfiles =
    p.speakerProfiles.retain (fun row => row.profileId ≠ profileId))
    (enrollments : p'.voiceEnrollments =
      p.voiceEnrollments.retain (fun row => row.profileId ≠ profileId)) :
    p'.Unused profileId := by
  rintro ownerId personId (⟨profile, stored, -⟩ | ⟨enrollmentId, row, stored, same, -⟩)
  · have named : profile.profileId = profileId := Table.key_of_get? stored
    rw [profiles, Table.get?_retain, Option.filter_eq_some_iff, named] at stored
    exact absurd rfl (of_decide_eq_true stored.2)
  · rw [enrollments, Table.get?_retain, Option.filter_eq_some_iff, same] at stored
    exact absurd rfl (of_decide_eq_true stored.2)

theorem VoiceMade.onward {p p' : People} {ownerId : String} {command : VoiceprintCommand}
    {enrollmentId : String} {row : VoiceEnrollmentRow}
    (made : VoiceMade sdk env ownerId p command p')
    (stored : p.voiceEnrollments.get? enrollmentId = some row) :
    (∃ row', p'.voiceEnrollments.get? enrollmentId = some row' ∧ row.Onward row') ∨
      p'.Unused row.profileId := by
  have named : row.enrollmentId = enrollmentId := Table.key_of_get? stored
  cases made with
  | unchanged => exact Or.inl ⟨row, stored, .refl row⟩
  | opened _ _ fresh _ _ _ _ _ _ enrollments =>
      refine Or.inl ⟨row, ?_, .refl row⟩
      rw [enrollments.other, stored]
      rintro rfl
      exact absurd (stored.symm.trans fresh) (by simp)
  | @edited _ old new _ found _ edit enrollments =>
      by_cases same : enrollmentId = old.enrollmentId
      · rw [same, found] at stored
        cases stored
        refine Or.inl ⟨new, ?_, edit.onward⟩
        have kept : key new = enrollmentId := edit.continues.enrollmentId.trans same.symm
        rw [← kept]
        exact enrollments.self
      · refine Or.inl ⟨row, ?_, .refl row⟩
        rw [enrollments.other, stored]
        have kept : key new = old.enrollmentId := edit.continues.enrollmentId
        rw [kept]
        exact same
  | expired enrollments =>
      refine Or.inl ⟨row.expire env.now, ?_, row.onward_expire env.now⟩
      rw [enrollments, stored]
      rfl
  | @completed request closing _ _ _ _ found _ _ _ _ _ _ _ _ _ enrollments =>
      by_cases same : enrollmentId = closing.enrollmentId
      · rw [same, found] at stored
        cases stored
        refine Or.inl ⟨row.close request.evaluation, ?_, row.onward_close request.evaluation⟩
        rw [enrollments, if_pos same]
      · refine Or.inl ⟨row.supersede closing, ?_, row.onward_supersede closing⟩
        rw [enrollments, if_neg same, stored]
        rfl
  | @deleted profile _ _ _ profiles _ enrollments =>
      by_cases same : row.profileId = profile.profileId
      · rw [same]
        exact Or.inr (unused_of_deleted profiles enrollments)
      · refine Or.inl ⟨row, ?_, .refl row⟩
        rw [enrollments, Table.get?_retain, stored, Option.filter_some,
          if_pos (decide_eq_true same)]

/-- A stored profile stays that of its Person and its revision does not fall,
or its id is out of use. -/
theorem VoiceMade.profile_stays {p p' : People} {ownerId : String} {command : VoiceprintCommand}
    {profile : SpeakerProfileRow} (made : VoiceMade sdk env ownerId p command p')
    (stored : p.speakerProfiles.get? profileId = some profile) :
    (∃ profile', p'.speakerProfiles.get? profileId = some profile' ∧
      profile'.ownerId = profile.ownerId ∧ profile'.personId = profile.personId ∧
        profile.revision ≤ profile'.revision) ∨ p'.Unused profileId := by
  have kept : p'.speakerProfiles = p.speakerProfiles →
      ∃ profile', p'.speakerProfiles.get? profileId = some profile' ∧
        profile'.ownerId = profile.ownerId ∧ profile'.personId = profile.personId ∧
          profile.revision ≤ profile'.revision := by
    intro same
    rw [same]
    exact ⟨profile, stored, rfl, rfl, le_refl _⟩
  cases made with
  | unchanged => exact Or.inl (kept rfl)
  | opened _ _ _ _ _ _ _ _ _ _ profiles | edited _ _ _ _ profiles | expired _ profiles =>
      exact Or.inl (kept profiles)
  | @completed _ row new _ _ _ _ _ _ _ _ _ _ enrolled profiles =>
      have named : key new = row.profileId := enrolled.profileId
      by_cases same : profileId = row.profileId
      · rw [same] at stored
        obtain ⟨owned, person, next⟩ := enrolled.next profile stored
        refine Or.inl ⟨new, ?_, owned, person, by omega⟩
        rw [same, ← named]
        exact profiles.self
      · refine Or.inl ⟨profile, ?_, rfl, rfl, le_refl _⟩
        rw [profiles.other (by rw [named]; exact same), stored]
  | @deleted doomed _ _ _ profiles _ enrollments =>
      by_cases same : profileId = doomed.profileId
      · rw [same]
        exact Or.inr (unused_of_deleted profiles enrollments)
      · refine Or.inl ⟨profile, ?_, rfl, rfl, le_refl _⟩
        have key : profile.profileId = profileId := Table.key_of_get? stored
        rw [profiles, Table.get?_retain, stored, Option.filter_some,
          if_pos (decide_eq_true (by rw [key]; exact same))]

/-- What the commands do to the profiles and the enrollments. -/
inductive ProfilesMoved (sdk : Sdk) (env : Env) (p p' : People) : Prop where
  | kept (profiles : p'.speakerProfiles = p.speakerProfiles)
      (enrollments : p'.voiceEnrollments = p.voiceEnrollments)
  | made {ownerId : String} {command : VoiceprintCommand}
      (made : VoiceMade sdk env ownerId p command p')
  | added (profile : SpeakerProfileRow)
      (fresh : p.speakerProfiles.get? profile.profileId = none)
      (profiles : p'.speakerProfiles = p.speakerProfiles.insert profile)
      (enrollments : p'.voiceEnrollments = p.voiceEnrollments)
  | removed (left : String → Bool)
      (profiles : p'.speakerProfiles = p.speakerProfiles.retain (fun row => left row.personId))
      (enrollments : p'.voiceEnrollments =
        p.voiceEnrollments.retain (fun row => left row.personId))

theorem VoicesMoved.profiles (moved : VoicesMoved sdk env t t' command) :
    ProfilesMoved sdk env t.people t'.people := by
  have same : ∀ {voices : Voices}, t'.voices = voices →
      t'.people.speakerProfiles = voices.profiles ∧
        t'.people.voiceEnrollments = voices.enrollments := by
    rintro _ rfl
    exact ⟨rfl, rfl⟩
  cases moved with
  | kept _ voices | faced _ voices => exact .kept (same voices).1 (same voices).2
  | recorded recorded => exact .kept (same recorded.voices).1 (same recorded.voices).2
  | made _ made => exact .made made
  | discovered discovered =>
      obtain ⟨displayName, voices⟩ := discovered.voices
      exact .added _ discovered.unprofiled (same voices).1 (same voices).2
  | @erased _ erasedId _ voices =>
      exact .removed (fun personId => personId ≠ erasedId) (same voices).1 (same voices).2
  | pruned _ pruned => exact .removed _ pruned.profiles pruned.enrollments

theorem ProfilesMoved.onward {p p' : People} {enrollmentId : String} {row : VoiceEnrollmentRow}
    (moved : ProfilesMoved sdk env p p') (ids : p.IdsDrawn drawn)
    (stored : p.voiceEnrollments.get? enrollmentId = some row) :
    (∃ row', p'.voiceEnrollments.get? enrollmentId = some row' ∧ row.Onward row') ∨
      p'.Unused row.profileId := by
  cases moved with
  | kept _ enrollments | added _ _ _ enrollments =>
      rw [enrollments]
      exact Or.inl ⟨row, stored, .refl row⟩
  | made made => exact made.onward stored
  | removed left profiles enrollments =>
      cases gone : left row.personId with
      | true =>
          refine Or.inl ⟨row, ?_, .refl row⟩
          rw [enrollments, Table.get?_retain, stored, Option.filter_some, if_pos gone]
      | false =>
          have uses : p.Uses row.profileId row.ownerId row.personId :=
            Or.inr ⟨enrollmentId, row, stored, rfl, rfl, rfl⟩
          exact Or.inr (unused_of_removed ids profiles enrollments uses gone)

theorem ProfilesMoved.profile_stays {p p' : People} {profile : SpeakerProfileRow}
    (moved : ProfilesMoved sdk env p p') (ids : p.IdsDrawn drawn)
    (stored : p.speakerProfiles.get? profileId = some profile) :
    (∃ profile', p'.speakerProfiles.get? profileId = some profile' ∧
      profile'.ownerId = profile.ownerId ∧ profile'.personId = profile.personId ∧
        profile.revision ≤ profile'.revision) ∨ p'.Unused profileId := by
  cases moved with
  | kept profiles _ =>
      rw [profiles]
      exact Or.inl ⟨profile, stored, rfl, rfl, le_refl _⟩
  | made made => exact made.profile_stays stored
  | added new fresh profiles _ =>
      refine Or.inl ⟨profile, ?_, rfl, rfl, le_refl _⟩
      rw [profiles, Table.get?_insert fresh, if_neg, stored]
      rintro rfl
      exact absurd (stored.symm.trans fresh) (by simp)
  | removed left profiles enrollments =>
      cases gone : left profile.personId with
      | true =>
          refine Or.inl ⟨profile, ?_, rfl, rfl, le_refl _⟩
          rw [profiles, Table.get?_retain, stored, Option.filter_some, if_pos gone]
      | false =>
          have uses : p.Uses profileId profile.ownerId profile.personId :=
            Or.inl ⟨profile, stored, rfl, rfl⟩
          exact Or.inr (unused_of_removed ids profiles enrollments uses gone)

theorem ProfilesMoved.completes {p p' : People} {row row' : VoiceEnrollmentRow}
    (moved : ProfilesMoved sdk env p p')
    (stored : p.voiceEnrollments.get? row.enrollmentId = some row)
    (collecting : row.state = "collecting")
    (stored' : p'.voiceEnrollments.get? row.enrollmentId = some row')
    (ready : row'.state = "ready") :
    ∃ profile, ProfileEnrolled p row profile ∧
      Table.Stores p.speakerProfiles p'.speakerProfiles profile ∧
      row.requestJson.get? "_target_revision" = some (.int
        (((p.speakerProfiles.get? row.profileId).map (fun stored => stored.revision)).getD 0)) ∧
      ∀ profileId other, p.speakerProfiles.get? profileId = some other →
        other.ownerId = row.ownerId → other.personId = row.personId →
          profileId = row.profileId := by
  have unfinished : ∀ {state : String}, state = "ready" → state ≠ "collecting" := by
    rintro _ rfl
    simp
  have unchanged : p'.voiceEnrollments.get? row.enrollmentId = some row → False := by
    intro same
    rw [same] at stored'
    cases stored'
    exact unfinished ready collecting
  cases moved with
  | kept _ enrollments | added _ _ _ enrollments =>
      rw [enrollments] at unchanged
      exact absurd stored unchanged
  | removed left profiles enrollments =>
      rw [enrollments, Table.get?_retain, stored, Option.filter_eq_some_iff] at stored'
      cases stored'.1
      exact absurd collecting (unfinished ready)
  | made made =>
      cases made with
      | unchanged => exact absurd stored unchanged
      | opened _ _ fresh _ _ _ _ _ _ enrollments =>
          rcases enrollments.of_get? stored' with ⟨same, rfl⟩ | ⟨-, before⟩
          · have taken : row.enrollmentId = row'.enrollmentId := same
            rw [taken, fresh] at stored
            cases stored
          · rw [stored] at before
            cases before
            exact absurd collecting (unfinished ready)
      | @edited _ old new _ found _ edit enrollments =>
          rcases enrollments.of_get? stored' with ⟨same, rfl⟩ | ⟨-, before⟩
          · have named : row.enrollmentId = old.enrollmentId :=
              same.trans edit.continues.enrollmentId
            rw [named, found] at stored
            cases stored
            cases edit with
            | sampled => exact absurd collecting (unfinished ready)
            | lapsed | cancelled => simp at ready
          · rw [stored] at before
            cases before
            exact absurd collecting (unfinished ready)
      | expired enrollments =>
          rw [enrollments, stored] at stored'
          obtain rfl := Option.some.inj stored'
          exact absurd ready (row.expire_unready env.now collecting)
      | @completed _ closing profile _ _ _ found owned _ _ _ sole target enrolled profiles _
          enrollments =>
          by_cases same : row.enrollmentId = closing.enrollmentId
          · rw [same, found] at stored
            cases stored
            refine ⟨profile, enrolled, profiles, target, ?_⟩
            rw [owned]
            exact sole
          · rw [enrollments, if_neg same, stored] at stored'
            obtain rfl := Option.some.inj stored'
            have state : row.state = "ready" := (row.state_supersede closing).symm.trans ready
            exact absurd collecting (unfinished state)
      | deleted _ _ _ _ enrollments =>
          rw [enrollments, Table.get?_retain, stored, Option.filter_eq_some_iff] at stored'
          cases stored'.1
          exact absurd collecting (unfinished ready)

end Steps

section Runs

variable {sdk : Sdk} {profileId : String}

def drawnProfiles (calls : List Call) : List String :=
  calls.filterMap (fun call => call.command.drawnProfile call.env)

theorem drawnProfiles_append (first second : List Call) :
    drawnProfiles (first ++ second) = drawnProfiles first ++ drawnProfiles second :=
  List.filterMap_append

theorem drawnProfiles_singleton (call : Call) :
    drawnProfiles [call] = (call.command.drawnProfile call.env).toList := by
  unfold drawnProfiles
  cases drawn : call.command.drawnProfile call.env with
  | none => simp [drawn]
  | some profileId => simp [drawn]

theorem idsDrawn_replay (calls : List Call) (fresh : (drawnProfiles calls).Nodup) :
    (replay sdk calls .empty).tables.people.IdsDrawn (drawnProfiles calls) := by
  induction calls using List.reverseRecOn with
  | nil =>
      constructor
      · rintro _ _ _ (⟨_, stored, -⟩ | ⟨_, _, stored, -⟩)
        · cases stored
        · cases stored
      · rintro _ _ _ _ _ (⟨_, stored, -⟩ | ⟨_, _, stored, -⟩) -
        · cases stored
        · cases stored
  | append_singleton calls call induction =>
      rw [drawnProfiles_append, drawnProfiles_singleton] at fresh ⊢
      obtain ⟨earlier, -, apart⟩ := List.nodup_append.mp fresh
      have ids := induction earlier
      rw [replay_snoc]
      rcases call.step_people _ (peopleSound_replay sdk calls) with same | stepped
      · rw [same]
        exact
          { drawn := fun uses => List.mem_append_left _ (ids.drawn uses)
            sole := ids.sole }
      · refine stepped.moved.voices.idsDrawn ids ?_
        intro drawnId drawn known
        exact apart drawnId known drawnId (Option.mem_toList.mpr drawn) rfl

theorem drawnProfiles_first {first rest : List Call}
    (fresh : (drawnProfiles (first ++ rest)).Nodup) : (drawnProfiles first).Nodup := by
  rw [drawnProfiles_append] at fresh
  exact (List.nodup_append.mp fresh).1

theorem undrawn_after {first rest : List Call} (fresh : (drawnProfiles (first ++ rest)).Nodup)
    (drawn : profileId ∈ drawnProfiles first) :
    ∀ call ∈ rest, call.command.drawnProfile call.env ≠ some profileId := by
  intro call member again
  rw [drawnProfiles_append] at fresh
  have later : profileId ∈ drawnProfiles rest := List.mem_filterMap.mpr ⟨call, member, again⟩
  exact (List.nodup_append.mp fresh).2.2 profileId drawn profileId later rfl

/-- What holds until the id is out of use, at each step, holds so along a run
that does not draw it again. -/
theorem replay_until_unused (holds : People → Prop) {first between : List Call}
    (fresh : (drawnProfiles (first ++ between)).Nodup) (drawn : profileId ∈ drawnProfiles first)
    (step : ∀ {env : Env} {p p' : People} {drawn : List String}, ProfilesMoved sdk env p p' →
      p.IdsDrawn drawn → holds p → holds p' ∨ p'.Unused profileId)
    (start : holds (replay sdk first .empty).tables.people) :
    holds (replay sdk (first ++ between) .empty).tables.people ∨
      (replay sdk (first ++ between) .empty).tables.people.Unused profileId := by
  induction between using List.reverseRecOn with
  | nil =>
      rw [List.append_nil]
      exact Or.inl start
  | append_singleton between call induction =>
      have undrawn := undrawn_after fresh drawn call (List.mem_append_right _ List.mem_cons_self)
      rw [← List.append_assoc] at fresh ⊢
      have earlier := drawnProfiles_first fresh
      rw [replay_snoc]
      rcases call.step_people _ (peopleSound_replay sdk (first ++ between)) with same | stepped
      · rw [same]
        exact induction earlier
      · rcases induction earlier with kept | unused
        · exact step stepped.moved.voices.profiles (idsDrawn_replay _ earlier) kept
        · exact Or.inr (stepped.moved.voices.unused unused undrawn)

theorem replay_enrollment {first between : List Call}
    (fresh : (drawnProfiles (first ++ between)).Nodup) {enrollmentId : String}
    {row : VoiceEnrollmentRow}
    (stored : (replay sdk first .empty).tables.people.voiceEnrollments.get? enrollmentId =
      some row) :
    (∃ row', (replay sdk (first ++ between) .empty).tables.people.voiceEnrollments.get?
        enrollmentId = some row' ∧ row.Onward row') ∨
      (replay sdk (first ++ between) .empty).tables.people.Unused row.profileId := by
  have earlier := drawnProfiles_first fresh
  have uses : (replay sdk first .empty).tables.people.Uses row.profileId row.ownerId
      row.personId := Or.inr ⟨enrollmentId, row, stored, rfl, rfl, rfl⟩
  refine replay_until_unused (fun p => ∃ row', p.voiceEnrollments.get? enrollmentId =
    some row' ∧ row.Onward row') fresh ((idsDrawn_replay first earlier).drawn uses) ?_
    ⟨row, stored, .refl row⟩
  rintro env p p' drawn moved ids ⟨row', stored', onward⟩
  rcases moved.onward ids stored' with ⟨row'', stored'', again⟩ | unused
  · exact Or.inl ⟨row'', stored'', onward.trans again⟩
  · rw [onward.continues.profileId] at unused
    exact Or.inr unused

/-- A profile stays that of its Person and its revision does not fall, until
its id is out of use. -/
theorem replay_profile {first between : List Call}
    (fresh : (drawnProfiles (first ++ between)).Nodup) {profile : SpeakerProfileRow}
    (stored : (replay sdk first .empty).tables.people.speakerProfiles.get? profileId =
      some profile) :
    (∃ profile', (replay sdk (first ++ between) .empty).tables.people.speakerProfiles.get?
        profileId = some profile' ∧ profile'.ownerId = profile.ownerId ∧
        profile'.personId = profile.personId ∧ profile.revision ≤ profile'.revision) ∨
      (replay sdk (first ++ between) .empty).tables.people.Unused profileId := by
  have earlier := drawnProfiles_first fresh
  have uses : (replay sdk first .empty).tables.people.Uses profileId profile.ownerId
      profile.personId := Or.inl ⟨profile, stored, rfl, rfl⟩
  refine replay_until_unused (fun p => ∃ profile', p.speakerProfiles.get? profileId =
    some profile' ∧ profile'.ownerId = profile.ownerId ∧ profile'.personId = profile.personId ∧
      profile.revision ≤ profile'.revision) fresh ((idsDrawn_replay first earlier).drawn uses) ?_
    ⟨profile, stored, rfl, rfl, le_refl _⟩
  rintro env p p' drawn moved ids ⟨profile', stored', owned, person, revision⟩
  rcases moved.profile_stays ids stored' with ⟨profile'', stored'', owned', person', next⟩ | unused
  · exact Or.inl ⟨profile'', stored'', owned'.trans owned, person'.trans person,
      le_trans revision next⟩
  · exact Or.inr unused

end Runs

end EidolonData
