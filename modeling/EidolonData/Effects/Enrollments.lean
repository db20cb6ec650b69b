import EidolonData.Effects.Voiceprints

/-!
# What the enrollment commands do

The outcomes of the commands on enrollments and speaker profiles, each with
the conditions under which it is reached and the rows it leaves.  Beside these
rows, the enrollment commands write only the audit outbox.
-/

namespace EidolonData

open Relational

/-- The tables the enrollment commands leave alone. -/
structure VoicesAside (t t' : Tables) : Prop where
  workspace : t'.workspace = t.workspace
  persons : t'.people.persons = t.people.persons
  receipts : t'.people.personDeletions = t.people.personDeletions
  faces : t'.people.personFaces = t.people.personFaces
  observations : t'.people.candidateVoiceObservations = t.people.candidateVoiceObservations

/-- The profile an enrollment was opened against, or a new one. -/
inductive EnrollmentTargets (p : People) (env : Env) (row : VoiceEnrollmentRow) : Prop where
  | current (profile : SpeakerProfileRow)
      (stored : p.speakerProfiles.get? profile.profileId = some profile)
      (owned : profile.ownerId = row.ownerId) (person : profile.personId = row.personId)
      (same : row.profileId = profile.profileId)
      (revision : row.requestJson.get? "_target_revision" = some (.int profile.revision))
  | first
      (none : ∀ profileId profile, p.speakerProfiles.get? profileId = some profile →
        profile.ownerId = row.ownerId → profile.personId ≠ row.personId)
      (drawn : row.profileId = "sp_" ++ (env.uuid 0).hex)
      (revision : row.requestJson.get? "_target_revision" = some (.int 0))

/-- An enrollment of one Person rewritten by a command that names it. -/
inductive EnrollmentEdited (env : Env) (row : VoiceEnrollmentRow) :
    VoiceprintCommand → VoiceEnrollmentRow → Prop where
  | sampled {sampleId : String} {sample : ExtractedSample} (samples : JsonDict)
      (collecting : row.state = "collecting") (current : env.now ≤ row.expiresAt) :
      EnrollmentEdited env row (.addSample row.enrollmentId sampleId sample)
        { row with samplesJson := samples }
  | lapsed (collecting : row.state = "collecting") (past : row.expiresAt < env.now) :
      EnrollmentEdited env row (.readEnrollment row.enrollmentId)
        { row with state := "expired", samplesJson := [] }
  | cancelled (unfinished : row.state ≠ "ready") :
      EnrollmentEdited env row (.cancelEnrollment row.enrollmentId)
        { row with state := "cancelled", samplesJson := [] }

def VoiceEnrollmentRow.expire (row : VoiceEnrollmentRow) (now : Timestamp) : VoiceEnrollmentRow :=
  if row.state = "collecting" ∧ row.expiresAt < now then
    { row with state := "expired", samplesJson := [] }
  else row

/-- What the completion of an enrollment does to another one. -/
def VoiceEnrollmentRow.supersede (other row : VoiceEnrollmentRow) : VoiceEnrollmentRow :=
  if other.profileId = row.profileId ∧ other.enrollmentId ≠ row.enrollmentId ∧
      other.state = "ready" then { other with samplesJson := [] }
  else other

theorem VoiceEnrollmentRow.key_supersede (other row : VoiceEnrollmentRow) :
    key (other.supersede row) = key other := by
  unfold supersede
  split
  · rfl
  · rfl

def VoiceEnrollmentRow.close (row : VoiceEnrollmentRow) (evaluation : EnrollmentEvaluation) :
    VoiceEnrollmentRow :=
  { row with
    state := "ready"
    samplesJson :=
      [("registration", .obj row.samplesJson), ("evaluation", .obj evaluation.document)] }

theorem VoiceEnrollmentRow.key_close (row : VoiceEnrollmentRow)
    (evaluation : EnrollmentEvaluation) : key (row.close evaluation) = key row := rfl

/-- The profile a completion leaves: the stored one with its next revision, or
the first. -/
structure ProfileEnrolled (p : People) (row : VoiceEnrollmentRow) (profile : SpeakerProfileRow) :
    Prop where
  profileId : profile.profileId = row.profileId
  enrollmentId : profile.enrollmentId = some row.enrollmentId
  unsourced : profile.sourceObservationId = none
  next : ∀ stored, p.speakerProfiles.get? row.profileId = some stored →
    profile.ownerId = stored.ownerId ∧ profile.personId = stored.personId ∧
      profile.revision = stored.revision + 1
  first : p.speakerProfiles.get? row.profileId = none →
    profile.ownerId = row.ownerId ∧ profile.personId = row.personId ∧ profile.revision = 1

/-- The outcomes of the enrollment commands. -/
inductive VoiceMade (sdk : Sdk) (env : Env) (ownerId : String) (p : People) :
    VoiceprintCommand → People → Prop where
  | unchanged (command : VoiceprintCommand) : VoiceMade sdk env ownerId p command p
  | opened {request : EnrollmentCreate} {row : VoiceEnrollmentRow} {p' : People}
      {person : PersonRow} (personStored : p.persons.get? request.personId = some person)
      (personActive : person.status = .active)
      (fresh : p.voiceEnrollments.get? row.enrollmentId = none)
      (identity : row.enrollmentId =
        "ve_" ++ sdk.enrollmentDigest ownerId request.operationId)
      (owned : row.ownerId = ownerId) (named : row.personId = request.personId)
      (collecting : row.state = "collecting") (empty : row.samplesJson = [])
      (targets : EnrollmentTargets p env row)
      (enrollments : Table.Stores p.voiceEnrollments p'.voiceEnrollments row)
      (profiles : p'.speakerProfiles = p.speakerProfiles)
      (recordings : p'.speakerRecordings = p.speakerRecordings) :
      VoiceMade sdk env ownerId p (.createEnrollment request) p'
  | edited {command : VoiceprintCommand} {row row' : VoiceEnrollmentRow} {p' : People}
      (found : p.voiceEnrollments.get? row.enrollmentId = some row) (owned : row.ownerId = ownerId)
      (edit : EnrollmentEdited env row command row')
      (enrollments : Table.Stores p.voiceEnrollments p'.voiceEnrollments row')
      (profiles : p'.speakerProfiles = p.speakerProfiles)
      (recordings : p'.speakerRecordings = p.speakerRecordings) :
      VoiceMade sdk env ownerId p command p'
  | expired {p' : People}
      (enrollments : ∀ enrollmentId, p'.voiceEnrollments.get? enrollmentId =
        (p.voiceEnrollments.get? enrollmentId).map (fun row => row.expire env.now))
      (profiles : p'.speakerProfiles = p.speakerProfiles)
      (recordings : p'.speakerRecordings = p.speakerRecordings) :
      VoiceMade sdk env ownerId p .expireEnrollments p'
  | completed {request : EnrollmentCompletion} {row : VoiceEnrollmentRow}
      {profile : SpeakerProfileRow} {pcm : List UInt8} {p' : People} {person : PersonRow}
      (found : p.voiceEnrollments.get? row.enrollmentId = some row) (owned : row.ownerId = ownerId)
      (collecting : row.state = "collecting")
      (personStored : p.persons.get? row.personId = some person)
      (personActive : person.status = .active)
      (sole : ∀ profileId other, p.speakerProfiles.get? profileId = some other →
        other.ownerId = ownerId → other.personId = row.personId → profileId = row.profileId)
      (target : row.requestJson.get? "_target_revision" = some (.int
        (((p.speakerProfiles.get? row.profileId).map (fun stored => stored.revision)).getD 0)))
      (enrolled : ProfileEnrolled p row profile)
      (profiles : Table.Stores p.speakerProfiles p'.speakerProfiles profile)
      (recordings : Table.Stores p.speakerRecordings p'.speakerRecordings
        { profileId := profile.profileId, pcm := pcm })
      (enrollments : ∀ enrollmentId, p'.voiceEnrollments.get? enrollmentId =
        if enrollmentId = row.enrollmentId then some (row.close request.evaluation)
        else (p.voiceEnrollments.get? enrollmentId).map (fun other => other.supersede row)) :
      VoiceMade sdk env ownerId p (.completeEnrollment row.enrollmentId request) p'
  | deleted {profile : SpeakerProfileRow} {p' : People}
      (found : p.speakerProfiles.get? profile.profileId = some profile)
      (owned : profile.ownerId = ownerId)
      (profiles : p'.speakerProfiles =
        p.speakerProfiles.retain (fun row => row.profileId ≠ profile.profileId))
      (recordings : p'.speakerRecordings =
        p.speakerRecordings.retain (fun row => row.profileId ≠ profile.profileId))
      (enrollments : p'.voiceEnrollments =
        p.voiceEnrollments.retain (fun row => row.profileId ≠ profile.profileId)) :
      VoiceMade sdk env ownerId p (.deleteProfile profile.profileId) p'

section Commands

variable (sdk : Sdk) (env : Env) (t : Tables) (ownerId : String)

abbrev Session.Makes {α : Type} (program : Session α) (sdk : Sdk) (env : Env) (ownerId : String)
    (t : Tables) (command : VoiceprintCommand) : Prop :=
  program.Ensures t (fun _ t' =>
    VoicesAside t t' ∧ VoiceMade sdk env ownerId t.people command t'.people)

theorem VoicesAside.refl : VoicesAside t t := ⟨rfl, rfl, rfl, rfl, rfl⟩

/-- Nothing is written. -/
theorem made_unchanged (command : VoiceprintCommand) :
    VoicesAside t t ∧ VoiceMade sdk env ownerId t.people command t.people :=
  ⟨.refl t, .unchanged command⟩

theorem ownedEnrollment_effect (enrollmentId : String) :
    (ownedEnrollment ownerId enrollmentId).Ensures t (fun row t' =>
      t' = t ∧ t.people.voiceEnrollments.get? row.enrollmentId = some row ∧
        row.enrollmentId = enrollmentId ∧ row.ownerId = ownerId) := by
  simp only [ownedEnrollment, getEnrollment, Tx.ensures_bind, Tx.ensures_read, Tx.ensures_require]
  refine (requireActiveOwner_effect t ownerId).mono ?_
  rintro owner t₁ ⟨unchanged, -⟩ row named
  rw [unchanged] at named
  obtain ⟨stored, owned⟩ := Option.filter_eq_some_iff.mp named
  have key : row.enrollmentId = enrollmentId := Table.key_of_get? stored
  exact ⟨unchanged, key ▸ stored, key, of_decide_eq_true owned⟩

theorem createEnrollment_made (request : EnrollmentCreate) :
    (createEnrollment sdk env ownerId request).Makes sdk env ownerId t
      (.createEnrollment request) := by
  simp only [Session.Makes, createEnrollment, getEnrollment, Tx.ensures_bind]
  refine (requireActiveOwner_effect t ownerId).mono ?_
  rintro owner t₁ ⟨unchanged, -⟩
  rw [unchanged]
  refine (requireVoicePerson_effect t ownerId request.personId).mono ?_
  rintro person t₂ ⟨unchanged, personStored, -, personActive, -⟩
  rw [unchanged, Tx.ensures_read]
  cases existing : t.people.voiceEnrollments.get?
      ("ve_" ++ sdk.enrollmentDigest ownerId request.operationId) with
  | some row =>
      simp only [Tx.ensures_bind, Tx.ensures_refuseIf, Tx.pure_eq, Tx.ensures_done]
      intro _
      exact made_unchanged sdk env t ownerId _
  | none =>
      simp only [profileOfPerson, insertEnrollment, Tx.ensures_bind, Tx.ensures_read,
        Tx.ensures_refuseIf, ensures_insert, Tx.pure_eq, Tx.ensures_done]
      intro _ fresh
      refine ⟨⟨rfl, rfl, rfl, rfl, rfl⟩, ?_⟩
      refine .opened personStored personActive ?_ rfl rfl rfl rfl rfl ?_
        (Table.stores_insert ?_) rfl rfl
      · exact fresh
      · cases original : (t.people.speakerProfiles.select (fun row =>
            row.ownerId = ownerId && row.personId = request.personId)).head? with
        | some profile =>
            obtain ⟨stored, wanted⟩ := Table.mem_select.mp (List.mem_of_head? original)
            rw [Bool.and_eq_true, decide_eq_true_eq, decide_eq_true_eq] at wanted
            refine .current profile stored wanted.1 wanted.2 rfl ?_
            rw [JsonDict.get?_set, if_pos rfl]
            rfl
        | none =>
            refine .first ?_ rfl ?_
            · intro profileId profile stored owned named
              rw [List.head?_eq_none_iff] at original
              have member : profile ∈ t.people.speakerProfiles.select (fun row =>
                  row.ownerId = ownerId && row.personId = request.personId) :=
                List.mem_filter.mpr ⟨Table.mem_of_get? stored, by simpa using ⟨owned, named⟩⟩
              rw [original] at member
              cases member
            · rw [JsonDict.get?_set, if_pos rfl]
              rfl
      · exact fresh

theorem readEnrollment_made (enrollmentId : String) :
    (readEnrollment env ownerId enrollmentId).Makes sdk env ownerId t
      (.readEnrollment enrollmentId) := by
  simp only [Session.Makes, readEnrollment, updateEnrollmentRow, Tx.ensures_bind, Tx.ensures_ite,
    Tx.ensures_modify, Tx.pure_eq, Tx.ensures_done]
  refine (ownedEnrollment_effect t ownerId enrollmentId).mono ?_
  rintro row t₁ ⟨unchanged, found, rfl, owned⟩
  rw [unchanged]
  refine ⟨?_, fun _ => made_unchanged sdk env t ownerId _⟩
  rintro ⟨collecting, past⟩
  exact ⟨⟨rfl, rfl, rfl, rfl, rfl⟩,
    .edited found owned (.lapsed collecting past) (Table.stores_modify found) rfl rfl⟩

theorem cancelEnrollment_made (enrollmentId : String) :
    (cancelEnrollment ownerId enrollmentId).Makes sdk env ownerId t
      (.cancelEnrollment enrollmentId) := by
  simp only [Session.Makes, cancelEnrollment, updateEnrollmentRow, Tx.ensures_bind, Tx.ensures_ite,
    Tx.ensures_modify, Tx.pure_eq, Tx.ensures_done]
  refine (ownedEnrollment_effect t ownerId enrollmentId).mono ?_
  rintro row t₁ ⟨unchanged, found, rfl, owned⟩
  rw [unchanged]
  refine ⟨fun _ => made_unchanged sdk env t ownerId _, ?_⟩
  intro unfinished
  exact ⟨⟨rfl, rfl, rfl, rfl, rfl⟩,
    .edited found owned (.cancelled unfinished) (Table.stores_modify found) rfl rfl⟩

theorem addSample_made (enrollmentId sampleId : String) (sample : ExtractedSample) :
    (addSample sdk env ownerId enrollmentId sampleId sample).Makes sdk env ownerId t
      (.addSample enrollmentId sampleId sample) := by
  simp only [Session.Makes, addSample, checkCollecting, Tx.ensures_bind, Tx.ensures_refuseIf]
  refine (ownedEnrollment_effect t ownerId enrollmentId).mono ?_
  rintro row t₁ ⟨unchanged, found, rfl, owned⟩
  rw [unchanged, not_or, not_not, Int.not_lt]
  rintro ⟨collecting, current⟩
  cases row.samplesJson.get? sampleId with
  | some stored =>
      simp only [Tx.ensures_bind, Tx.ensures_refuseIf, Tx.pure_eq, Tx.ensures_done]
      intro _
      exact made_unchanged sdk env t ownerId _
  | none =>
      simp only [updateEnrollmentRow, Tx.ensures_bind, Tx.ensures_refuseIf, ensures_validated,
        Tx.ensures_modify, Tx.pure_eq, Tx.ensures_done]
      intros
      exact ⟨⟨rfl, rfl, rfl, rfl, rfl⟩,
        .edited found owned (.sampled _ collecting current) (Table.stores_modify found) rfl rfl⟩

theorem expireEnrollments_made :
    (expireEnrollments env).Makes sdk env ownerId t .expireEnrollments := by
  simp only [Session.Makes, expireEnrollments, Tx.ensures_modify]
  refine ⟨⟨rfl, rfl, rfl, rfl, rfl⟩, .expired ?_ rfl rfl⟩
  intro enrollmentId
  simp only [Tables.mapPeople, Table.get?_update]
  rfl

theorem deleteProfile_made (profileId : String) :
    (deleteProfile env ownerId profileId).Makes sdk env ownerId t (.deleteProfile profileId) := by
  simp only [Session.Makes, deleteProfile, getProfile, Tx.ensures_bind, Tx.ensures_read,
    Tx.ensures_refuseIf]
  refine (requireActiveOwner_effect t ownerId).mono ?_
  rintro owner t₁ ⟨unchanged, -⟩
  rw [unchanged]
  cases found : t.people.speakerProfiles.get? profileId with
  | none =>
      simp only [Tx.ensures_done]
      intro _
      exact made_unchanged sdk env t ownerId _
  | some profile =>
      have named : profile.profileId = profileId := Table.key_of_get? found
      subst named
      simp only [Option.any_some, decide_eq_true_eq, not_not, auditVoiceprint, Tx.ensures_bind,
        Tx.ensures_modify, ensures_addFact]
      intro owned
      exact ⟨⟨rfl, rfl, rfl, rfl, rfl⟩, .deleted found owned rfl rfl rfl⟩

theorem storeEnrolled_effect (row : VoiceEnrollmentRow) (displayName : String)
    (template : ExtractedSample) :
    (storeEnrolled row (t.people.speakerProfiles.get? row.profileId) displayName template).Ensures t
      (fun profile t' => ∃ profiles,
        t' = t.mapPeople (fun p => { p with speakerProfiles := profiles }) ∧
          ProfileEnrolled t.people row profile ∧
            Table.Stores t.people.speakerProfiles profiles profile) := by
  unfold storeEnrolled
  cases found : t.people.speakerProfiles.get? row.profileId with
  | some stored =>
      have same : stored.profileId = row.profileId := Table.key_of_get? found
      simp only [Tx.ensures_bind, Tx.ensures_modify, Tx.pure_eq, Tx.ensures_done]
      refine ⟨_, rfl, ?_, Table.stores_modify found⟩
      refine ⟨same, rfl, rfl, ?_, ?_⟩
      · intro other again
        rw [found] at again
        cases again
        exact ⟨rfl, rfl, rfl⟩
      · intro none
        rw [found] at none
        cases none
  | none =>
      simp only [insertProfile, Tx.ensures_bind, ensures_insert, Tx.pure_eq, Tx.ensures_done]
      intro fresh
      refine ⟨_, rfl, ⟨rfl, rfl, rfl, ?_, ?_⟩, Table.stores_insert fresh⟩
      · intro stored again
        rw [found] at again
        cases again
      · intro _
        exact ⟨rfl, rfl, rfl⟩

theorem stores_recording (recordings : Table SpeakerRecordingRow) (profileId : String)
    (pcm : List UInt8) :
    Table.Stores recordings
      (if recordings.has profileId then
        recordings.modify profileId (fun row => { row with pcm := pcm })
      else recordings.insert { profileId := profileId, pcm := pcm })
      { profileId := profileId, pcm := pcm } := by
  cases taken : recordings.has profileId with
  | true =>
      obtain ⟨row, found⟩ := Table.has_iff.mp taken
      have named : row.profileId = profileId := Table.key_of_get? found
      intro other
      rw [if_pos rfl, Table.get?_modify]
      by_cases same : other = profileId
      · subst same
        rw [if_pos rfl, found, Option.map_some, named]
        exact (if_pos rfl).symm
      · rw [if_neg same]
        exact (if_neg same).symm
  | false =>
      rw [if_neg Bool.false_ne_true]
      exact Table.stores_insert (Table.has_eq_false_iff.mp taken)

theorem get?_closed {enrollments : Table VoiceEnrollmentRow} {row : VoiceEnrollmentRow}
    (evaluation : EnrollmentEvaluation)
    (found : enrollments.get? row.enrollmentId = some row)
    (enrollmentId : String) :
    ((enrollments.update (fun other => other.supersede row)
      (fun other => other.key_supersede row)).modify row.enrollmentId
        (fun row => row.close evaluation) (fun row => row.key_close evaluation)).get? enrollmentId =
        if enrollmentId = row.enrollmentId then some (row.close evaluation)
        else (enrollments.get? enrollmentId).map (fun other => other.supersede row) := by
  have unsuperseded : row.supersede row = row := by
    simp [VoiceEnrollmentRow.supersede]
  rw [Table.get?_modify, Table.get?_update]
  by_cases same : enrollmentId = row.enrollmentId
  · rw [if_pos same, if_pos same, same, found, Option.map_some, Option.map_some, unsuperseded]
  · rw [if_neg same, if_neg same]

theorem checkSamples_readOnly (row : VoiceEnrollmentRow) (evaluation : EnrollmentEvaluation) :
    (checkSamples sdk row evaluation).Ensures t (fun _ t' => t' = t) := by
  simp [checkSamples]

theorem completeEnrollment_made
    (one : t.people.speakerProfiles.UniqueOn (fun row => some (row.ownerId, row.personId)))
    (enrollmentId : String) (request : EnrollmentCompletion) :
    (completeEnrollment sdk env ownerId enrollmentId request).Makes sdk env ownerId t
      (.completeEnrollment enrollmentId request) := by
  simp only [Session.Makes, completeEnrollment, Tx.ensures_bind, Tx.ensures_require,
    Tx.ensures_refuseIf, Tx.ensures_ite]
  intro pcm _ _ _
  refine (ownedEnrollment_effect t ownerId enrollmentId).mono ?_
  rintro row t₁ ⟨unchanged, found, rfl, owned⟩
  rw [unchanged]
  refine ⟨?_, ?_⟩
  · intro _
    simp only [getProfile, Tx.ensures_read, Tx.pure_eq, Tx.ensures_done]
    intros
    exact made_unchanged sdk env t ownerId _
  · intro _
    simp only [checkCollecting, Tx.ensures_refuseIf]
    rw [not_or, not_not]
    rintro ⟨collecting, -⟩
    refine (requireVoicePerson_effect t ownerId row.personId).mono ?_
    rintro person t₂ ⟨unchanged, personStored, -, personActive, -⟩
    rw [unchanged]
    refine (checkSamples_readOnly sdk t row request.evaluation).mono ?_
    intro _ t₃ unchanged
    rw [unchanged]
    simp only [getProfile, profileOfPerson, Tx.ensures_read]
    intro target targeted notMoved displayName _
    refine (storeEnrolled_effect t row displayName _).mono ?_
    rintro profile t₄ ⟨profiles, rfl, enrolled, stored⟩
    simp only [storeRecording, closeEnrollments, updateEnrollmentRow, auditVoiceprint,
      Tx.ensures_bind, Tx.ensures_modify, ensures_addFact, Tx.pure_eq, Tx.ensures_done]
    rw [not_or, not_not, Bool.not_eq_true] at notMoved
    obtain ⟨unmoved, current⟩ := notMoved
    have recorded := stores_recording t.people.speakerRecordings profile.profileId pcm
    refine ⟨⟨rfl, rfl, rfl, rfl, rfl⟩, .completed found owned collecting personStored personActive
      ?_ ?_ enrolled stored recorded (get?_closed request.evaluation found)⟩
    · intro profileId other otherStored otherOwned named
      have same : other.profileId = profileId := Table.key_of_get? otherStored
      cases first : (t.people.speakerProfiles.select (fun profile =>
          profile.ownerId = ownerId && profile.personId = row.personId)).head? with
      | none =>
          have member : other ∈ t.people.speakerProfiles.select (fun profile =>
              profile.ownerId = ownerId && profile.personId = row.personId) :=
            List.mem_filter.mpr
              ⟨Table.mem_of_get? otherStored, by simpa using ⟨otherOwned, named⟩⟩
          rw [List.head?_eq_none_iff.mp first] at member
          cases member
      | some own =>
          obtain ⟨ownStored, wanted⟩ := Table.mem_select.mp (List.mem_of_head? first)
          rw [Bool.and_eq_true, decide_eq_true_eq, decide_eq_true_eq] at wanted
          have sole : own = other := one.eq_of_mem (Table.mem_of_get? ownStored)
            (Table.mem_of_get? otherStored) rfl (by rw [wanted.1, wanted.2, otherOwned, named])
          rw [first] at unmoved
          rw [← same, ← sole]
          simpa using unmoved
    · rw [targeted, current]

end Commands

end EidolonData
