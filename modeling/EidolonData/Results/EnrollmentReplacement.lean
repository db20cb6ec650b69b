import EidolonData.Invariants.EnrollmentRuns

/-!
# The replacement of a voice

Several enrollments may be open for one Person.  A completion replaces the
voice its enrollment was opened against and no later one, an enrollment that
has ended never collects again, and a deleted profile does not come back.
-/

namespace EidolonData

open Relational

def VoiceEnrollmentRow.OpenedAt (row : VoiceEnrollmentRow) (revision : Int) : Prop :=
  row.requestJson.get? "_target_revision" = some (.int revision)

structure Completes (sdk : Sdk) (db : Database) (call : Call) (row : VoiceEnrollmentRow) :
    Prop where
  stored : db.tables.people.voiceEnrollments.get? row.enrollmentId = some row
  collecting : row.state = "collecting"
  ready : ∃ row', (call.step sdk db).tables.people.voiceEnrollments.get? row.enrollmentId =
    some row' ∧ row'.state = "ready"

/-- A completion stores the first profile of a Person or its next revision. -/
structure CompletesProfile (t t' : Tables) (row : VoiceEnrollmentRow)
    (profile : SpeakerProfileRow) : Prop where
  stored : t'.people.speakerProfiles.get? row.profileId = some profile
  ownerId : profile.ownerId = row.ownerId
  personId : profile.personId = row.personId
  enrollmentId : profile.enrollmentId = some row.enrollmentId
  opened : row.OpenedAt (profile.revision - 1)
  next : ∀ old, t.people.speakerProfiles.get? row.profileId = some old →
    profile.revision = old.revision + 1
  first : t.people.speakerProfiles.get? row.profileId = none → profile.revision = 1

/-- What holds of the enrollments along a run. -/
structure EnrollmentsReplace (sdk : Sdk) (calls : List Call) : Prop where
  single : ∀ first, first <+: calls → ∀ left right : SpeakerProfileRow,
    left ∈ (replay sdk first .empty).tables.people.speakerProfiles.rows →
    right ∈ (replay sdk first .empty).tables.people.speakerProfiles.rows →
    left.ownerId = right.ownerId → left.personId = right.personId → left = right
  completed : ∀ first call rest row, calls = first ++ call :: rest →
    Completes sdk (replay sdk first .empty) call row →
    ∃ profile, CompletesProfile (replay sdk first .empty).tables
      (replay sdk (first ++ [call]) .empty).tables row profile
  later : ∀ first call between next rest row other,
    calls = first ++ call :: (between ++ next :: rest) →
    Completes sdk (replay sdk first .empty) call row →
    Completes sdk (replay sdk (first ++ call :: between) .empty) next other →
    other.ownerId = row.ownerId → other.personId = row.personId →
    (other.profileId = row.profileId ∧
        ∀ revision revision', row.OpenedAt revision → other.OpenedAt revision' →
          revision < revision') ∨
      (other.profileId ≠ row.profileId ∧
        (replay sdk (first ++ call :: between) .empty).tables.people.speakerProfiles.get?
          row.profileId = none)
  ended : ∀ first between rest enrollmentId row row', calls = first ++ between ++ rest →
    (replay sdk first .empty).tables.people.voiceEnrollments.get? enrollmentId = some row →
    (replay sdk (first ++ between) .empty).tables.people.voiceEnrollments.get? enrollmentId =
      some row' →
    row'.profileId = row.profileId → row.Onward row'
  repeated : ∀ first, first <+: calls → ∀ env policies ownerId request row,
    (replay sdk first .empty).tables.people.voiceEnrollments.get? row.enrollmentId = some row →
    row.state = "ready" →
    Call.step sdk (replay sdk first .empty)
      ⟨env, .runVoiceprint policies ownerId (.completeEnrollment row.enrollmentId request)⟩ =
        replay sdk first .empty
  gone : ∀ first between after rest profileId, calls = first ++ between ++ after ++ rest →
    (replay sdk first .empty).tables.people.speakerProfiles.has profileId = true →
    (replay sdk (first ++ between) .empty).tables.people.speakerProfiles.has profileId = false →
    (replay sdk (first ++ between ++ after) .empty).tables.people.Unused profileId

section Proofs

variable {sdk : Sdk} {calls : List Call}

theorem People.Unused.unstored {p : People} {profileId : String} (unused : p.Unused profileId) :
    p.speakerProfiles.get? profileId = none := by
  cases stored : p.speakerProfiles.get? profileId with
  | none => rfl
  | some profile => exact absurd (Or.inl ⟨profile, stored, rfl, rfl⟩) (unused _ _)

theorem Completes.enrolled {db : Database} {call : Call} {row : VoiceEnrollmentRow}
    (completes : Completes sdk db call row) (sound : db.tables.PeopleSound sdk) :
    ∃ profile, ProfileEnrolled db.tables.people row profile ∧
      Table.Stores db.tables.people.speakerProfiles
        (call.step sdk db).tables.people.speakerProfiles profile ∧
      row.OpenedAt (((db.tables.people.speakerProfiles.get? row.profileId).map
        (fun stored => stored.revision)).getD 0) ∧
      ∀ profileId other, db.tables.people.speakerProfiles.get? profileId = some other →
        other.ownerId = row.ownerId → other.personId = row.personId →
          profileId = row.profileId := by
  obtain ⟨row', stored', ready⟩ := completes.ready
  rcases call.step_people db sound with same | stepped
  · rw [same, completes.stored] at stored'
    cases stored'
    rw [completes.collecting] at ready
    simp at ready
  · exact stepped.moved.voices.profiles.completes completes.stored completes.collecting stored'
      ready

theorem Completes.profile {db : Database} {call : Call} {row : VoiceEnrollmentRow}
    (completes : Completes sdk db call row) (sound : db.tables.PeopleSound sdk) :
    ∃ profile, CompletesProfile db.tables (call.step sdk db).tables row profile := by
  obtain ⟨profile, enrolled, stores, opened, -⟩ := completes.enrolled sound
  have owned := enrolled.owned sound.enrolled (sound.enrolled.targets _ row completes.stored) opened
  have named : key profile = row.profileId := enrolled.profileId
  refine ⟨profile,
    { stored := ?_
      ownerId := owned.1
      personId := owned.2.1
      enrollmentId := enrolled.enrollmentId
      opened := ?_
      next := fun old found => (enrolled.next old found).2.2
      first := fun none => (enrolled.first none).2.2 }⟩
  · rw [← named]
    exact stores.self
  · cases found : db.tables.people.speakerProfiles.get? row.profileId with
    | none =>
        rw [found] at opened
        rw [(enrolled.first found).2.2]
        exact opened
    | some old =>
        rw [found] at opened
        have next : profile.revision - 1 = old.revision := by
          have raised := (enrolled.next old found).2.2
          omega
        rw [next]
        exact opened

theorem VoiceEnrollmentRow.OpenedAt.unique {row : VoiceEnrollmentRow} {revision revision' : Int}
    (opened : row.OpenedAt revision) (opened' : row.OpenedAt revision') : revision = revision' := by
  have same := opened.symm.trans opened'
  simpa using same

/-- A later completion for the Person finds the profile of the earlier one
with a revision it was opened at, or not at all. -/
theorem completed_later (fresh : (drawnProfiles calls).Nodup) {first between rest : List Call}
    {call next : Call} {row other : VoiceEnrollmentRow}
    (split : calls = first ++ call :: (between ++ next :: rest))
    (completes : Completes sdk (replay sdk first .empty) call row)
    (again : Completes sdk (replay sdk (first ++ call :: between) .empty) next other)
    (owned : other.ownerId = row.ownerId) (named : other.personId = row.personId) :
    (other.profileId = row.profileId ∧
        ∀ revision revision', row.OpenedAt revision → other.OpenedAt revision' →
          revision < revision') ∨
      (other.profileId ≠ row.profileId ∧
        (replay sdk (first ++ call :: between) .empty).tables.people.speakerProfiles.get?
          row.profileId = none) := by
  obtain ⟨profile, made⟩ := completes.profile (peopleSound_replay sdk first)
  have middle : first ++ call :: between = first ++ [call] ++ between := by
    rw [List.append_assoc]
    rfl
  rw [middle] at again ⊢
  have apart : (drawnProfiles (first ++ [call] ++ between)).Nodup := by
    have whole : calls = first ++ [call] ++ between ++ next :: rest := by
      rw [split]
      simp only [List.append_assoc, List.cons_append, List.nil_append]
    rw [whole] at fresh
    exact drawnProfiles_first fresh
  have stored : (replay sdk (first ++ [call]) .empty).tables.people.speakerProfiles.get?
      row.profileId = some profile := by
    rw [replay_snoc]
    exact made.stored
  rcases replay_profile apart stored with ⟨profile', stored', owned', named', grown⟩ | unused
  · obtain ⟨-, -, -, opened, sole⟩ := again.enrolled (peopleSound_replay sdk _)
    have same : row.profileId = other.profileId :=
      sole _ profile' stored' (by rw [owned', made.ownerId, owned])
        (by rw [named', made.personId, named])
    refine Or.inl ⟨same.symm, ?_⟩
    intro revision revision' openedAt openedAt'
    rw [← same, stored'] at opened
    have target : revision' = profile'.revision := openedAt'.unique opened
    have source : revision = profile.revision - 1 := openedAt.unique made.opened
    omega
  · refine Or.inr ⟨?_, unused.unstored⟩
    intro same
    exact unused other.ownerId other.personId
      (Or.inr ⟨other.enrollmentId, other, again.stored, same, rfl, rfl⟩)

theorem completeEnrollment_ready (sdk : Sdk) {t : Tables} (env : Env) (ownerId : String)
    (request : EnrollmentCompletion) {row : VoiceEnrollmentRow}
    (stored : t.people.voiceEnrollments.get? row.enrollmentId = some row)
    (ready : row.state = "ready") :
    (completeEnrollment sdk env ownerId row.enrollmentId request).Ensures t
      (fun _ t' => t' = t) := by
  simp only [completeEnrollment, Tx.ensures_bind, Tx.ensures_require, Tx.ensures_refuseIf]
  intro pcm _ _ _
  refine (ownedEnrollment_effect t ownerId row.enrollmentId).mono ?_
  rintro found t₁ ⟨unchanged, again, named, -⟩
  rw [unchanged]
  rw [named, stored] at again
  cases again
  simp only [Tx.ensures_ite]
  refine ⟨fun _ => ?_, fun unready => absurd ready unready⟩
  simp only [getProfile, Tx.ensures_bind, Tx.ensures_read, Tx.ensures_require, Tx.ensures_refuseIf,
    Tx.pure_eq, Tx.ensures_done]
  intro _ _ _
  trivial

end Proofs

/-- No voice is lost: along every run whose new profile ids are distinct, a
completion stores the next revision of the voice its enrollment was opened
against, or the first one; of the enrollments opened against one revision of a
voice, or against none, the next completes when that voice is deleted at the
earliest, and never with the same profile; an ended enrollment does not collect
again, a repeated completion changes nothing and a deleted profile id stays
out of use. -/
theorem enrollment_replacement (sdk : Sdk) (calls : List Call)
    (fresh : (drawnProfiles calls).Nodup) : EnrollmentsReplace sdk calls where
  single := by
    intro first _ left right leftStored rightStored owned named
    have one := (replay sdk first .empty).property.people.profilePerPerson
    exact one.eq_of_mem leftStored rightStored rfl (by rw [owned, named])
  completed := by
    intro first call rest row _ completes
    rw [replay_snoc]
    exact completes.profile (peopleSound_replay sdk first)
  later := by
    intro first call between next rest row other split completes again owned named
    exact completed_later fresh split completes again owned named
  ended := by
    intro first between rest enrollmentId row row' split stored stored' same
    rw [split] at fresh
    rcases replay_enrollment (drawnProfiles_first fresh) stored with
      ⟨row'', stored'', onward⟩ | unused
    · rw [stored'] at stored''
      cases stored''
      exact onward
    · exact absurd (Or.inr ⟨enrollmentId, row', stored', same, rfl, rfl⟩) (unused _ _)
  repeated := by
    intro first _ env policies ownerId request row stored ready
    have kept := completeEnrollment_ready sdk env ownerId request stored ready
    show (replay sdk first .empty).after (effect (completeEnrollment sdk env ownerId
      row.enrollmentId request)) = _
    rw [Database.after_effect]
    refine Database.after_induct (motive := fun db' => db' = replay sdk first .empty) rfl ?_
    intro value db' ran
    exact Subtype.ext (kept value _ ran)
  gone := by
    intro first between after rest profileId split stored missing
    obtain ⟨profile, found⟩ := Table.has_iff.mp stored
    rw [split] at fresh
    have start := drawnProfiles_first fresh
    rcases replay_profile (drawnProfiles_first start) found with ⟨_, still, -⟩ | unused
    · rw [Table.has_eq_false_iff.mp missing] at still
      cases still
    · have earlier := drawnProfiles_first start
      have uses : (replay sdk first .empty).tables.people.Uses profileId profile.ownerId
        profile.personId := Or.inl ⟨profile, found, rfl, rfl⟩
      have drawn : profileId ∈ drawnProfiles (first ++ between) := by
        rw [drawnProfiles_append]
        exact List.mem_append_left _ ((idsDrawn_replay first (drawnProfiles_first earlier)).drawn
          uses)
      intro ownerId personId
      rw [replay_append]
      exact replay_unused after _ (peopleSound_replay sdk _) (undrawn_after start drawn)
        (unused ownerId personId)

/-- Recordings of a second and a half. -/
def recording : Sdk := { Sdk.plain with decodeBase64 := fun _ => some (List.replicate 48000 0) }

def sampleVoice : ExtractedSample :=
  { modelId := "", weightsHash := "", preprocessingVersion := "" }

/-- One of two enrollments of a Person that has no voice. -/
def openEnrollment (operationId : String) : Command :=
  .runVoiceprint { candidatePoolTtl := 0 } "owner" (.createEnrollment
    { operationId := operationId, personId := "person", document := [("display_name", .str "")] })

def registerSamples (enrollmentId : String) : List Command :=
  ["a", "b", "c"].map (fun sampleId => .runVoiceprint { candidatePoolTtl := 0 } "owner"
    (.addSample enrollmentId sampleId sampleVoice))

def completeSample (enrollmentId : String) : Command :=
  .runVoiceprint { candidatePoolTtl := 0 } "owner" (.completeEnrollment enrollmentId
    { pcmBase64 := ""
      evaluation :=
        { recordingSha256 := "", evidenceDigest := "", template := sampleVoice,
          trial := sampleVoice } })

/-- The first is completed, its voice is deleted, the second is completed. -/
def replacedCommands : List Command :=
  [.createOwner "owner" "" "person" none none,
    .createPerson 0 "owner" { personId := "person", displayName := "" },
    openEnrollment "first", openEnrollment "second"] ++
  registerSamples "ve_ownerfirst" ++ registerSamples "ve_ownersecond" ++
  [completeSample "ve_ownerfirst",
    .runVoiceprint { candidatePoolTtl := 0 } "owner"
      (.deleteProfile ("sp_" ++ (Uuid.ofNat 32).hex)),
    completeSample "ve_ownersecond"]

/-- Whose an enrollment is, which profile it is for and how far it is. -/
def VoiceEnrollmentRow.summary (row : VoiceEnrollmentRow) : List String :=
  [row.ownerId, row.personId, row.profileId, row.state]

theorem completes_of_summaries {sdk : Sdk} {db : Database} {call : Call} {profileId : String}
    (enrollmentId : String)
    (summaries : ((db.tables.people.voiceEnrollments.get? enrollmentId).map
        VoiceEnrollmentRow.summary,
      ((call.step sdk db).tables.people.voiceEnrollments.get? enrollmentId).map
        VoiceEnrollmentRow.summary) =
      (some ["owner", "person", profileId, "collecting"],
        some ["owner", "person", profileId, "ready"])) :
    ∃ row, Completes sdk db call row ∧ row.ownerId = "owner" ∧ row.personId = "person" ∧
      row.profileId = profileId := by
  obtain ⟨before, after⟩ := Prod.mk.inj summaries
  obtain ⟨row, stored, columns⟩ := Option.map_eq_some_iff.mp before
  obtain ⟨row', stored', columns'⟩ := Option.map_eq_some_iff.mp after
  have named : row.enrollmentId = enrollmentId := Table.key_of_get? stored
  obtain ⟨owned, person, profile, collecting⟩ := by
    simpa [VoiceEnrollmentRow.summary] using columns
  obtain ⟨-, -, -, ready⟩ := by
    simpa [VoiceEnrollmentRow.summary] using columns'
  exact ⟨row, ⟨named ▸ stored, collecting, row', named ▸ stored', ready⟩, owned, person, profile⟩

theorem enrollment_replacement_deleted :
    ∃ first call between next row other,
      numbered replacedCommands = first ++ call :: (between ++ next :: []) ∧
      Completes recording (replay recording first .empty) call row ∧
      Completes recording (replay recording (first ++ call :: between) .empty) next other ∧
      (replay recording (first ++ call :: between) .empty).tables.people.speakerProfiles.get?
        row.profileId = none := by
  have fresh : (drawnProfiles (numbered replacedCommands)).Nodup := by
    decide +kernel
  let first := numbered (replacedCommands.take 10)
  let call : Call :=
    { env := { uuid := fun site => .ofNat (160 + site), now := 10 }
      command := completeSample "ve_ownerfirst" }
  let deletion : Call :=
    { env := { uuid := fun site => .ofNat (176 + site), now := 11 }
      command := .runVoiceprint { candidatePoolTtl := 0 } "owner"
        (.deleteProfile ("sp_" ++ (Uuid.ofNat 32).hex)) }
  let next : Call :=
    { env := { uuid := fun site => .ofNat (192 + site), now := 12 }
      command := completeSample "ve_ownersecond" }
  have split : numbered replacedCommands = first ++ call :: ([deletion] ++ next :: []) := rfl
  obtain ⟨row, completes, rowOwner, rowPerson, rowProfile⟩ : ∃ row,
      Completes recording (replay recording first .empty) call row ∧ row.ownerId = "owner" ∧
        row.personId = "person" ∧ row.profileId = "sp_02000000000000000000000000000000" :=
    completes_of_summaries "ve_ownerfirst" (by decide +kernel)
  obtain ⟨other, again, otherOwner, otherPerson, otherProfile⟩ : ∃ other,
      Completes recording (replay recording (first ++ call :: [deletion]) .empty) next other ∧
        other.ownerId = "owner" ∧ other.personId = "person" ∧
          other.profileId = "sp_03000000000000000000000000000000" :=
    completes_of_summaries "ve_ownersecond" (by decide +kernel)
  refine ⟨first, call, [deletion], next, row, other, split, completes, again, ?_⟩
  rcases (enrollment_replacement recording (numbered replacedCommands) fresh).later first call
    [deletion] next [] row other split completes again (by rw [otherOwner, rowOwner])
    (by rw [otherPerson, rowPerson]) with ⟨same, -⟩ | ⟨-, gone⟩
  · rw [rowProfile, otherProfile] at same
    exact absurd same (by decide)
  · exact gone

end EidolonData
