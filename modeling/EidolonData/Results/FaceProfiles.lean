import EidolonData.Results.DefaultPointer
import EidolonData.Invariants.FaceProfiles

/-!
# The revisions of a face profile

Whatever commands run on the face profiles, in whatever order, each profile
has one draft and one desired revision at most, and what is desired only moves
to later revisions.
-/

namespace EidolonData

open Relational

/-- `get_desired_for_owner`, by its number. -/
def Faces.desiredRevision? (f : Faces) (ownerId : String) : Option Int :=
  (f.ownerFaceProfileRevisions.select
    (fun row => row.ownerId = ownerId ∧ row.state = .desired)).head?.map (fun row => row.revision)

/-- The revisions of an Owner's profile that become desired along a run, in
their order. -/
def becameDesired (rules : FaceProfileRules) (ownerId : String) :
    List FaceProfileCall → Database → List Int
  | [], _ => []
  | call :: rest, db =>
      let after := call.step rules db
      let next := after.tables.faces.desiredRevision? ownerId
      (if next = db.tables.faces.desiredRevision? ownerId then [] else next.toList) ++
        becameDesired rules ownerId rest after

section Run

variable {rules : FaceProfileRules} {db : Database} {ownerId : String}

theorem Faces.desires_of_desiredRevision? {f : Faces} {revision : Int}
    (found : f.desiredRevision? ownerId = some revision) : f.Desires ownerId revision := by
  obtain ⟨row, first, rfl⟩ := Option.map_eq_some_iff.mp found
  obtain ⟨member, wanted⟩ := List.mem_filter.mp (List.mem_of_mem_head? first)
  have both := of_decide_eq_true wanted
  exact ⟨row, member, both.1, both.2, rfl⟩

theorem Faces.desiredRevision?_of_desires {w : Workspace} {f : Faces} (integrity : f.Integrity w)
    {revision : Int} (desires : f.Desires ownerId revision) :
    f.desiredRevision? ownerId = some revision := by
  obtain ⟨row, member, owned, state, rfl⟩ := desires
  have selected : row ∈ f.ownerFaceProfileRevisions.select
      (fun row => row.ownerId = ownerId ∧ row.state = .desired) :=
    List.mem_filter.mpr ⟨member, decide_eq_true ⟨owned, state⟩⟩
  unfold Faces.desiredRevision?
  cases rows : f.ownerFaceProfileRevisions.select
      (fun row => row.ownerId = ownerId ∧ row.state = .desired) with
  | nil =>
      rw [rows] at selected
      cases selected
  | cons first rest =>
      have inRows : first ∈ f.ownerFaceProfileRevisions.select
          (fun row => row.ownerId = ownerId ∧ row.state = .desired) := by
        rw [rows]
        exact List.mem_cons_self
      obtain ⟨firstMember, wanted⟩ := List.mem_filter.mp inRows
      obtain ⟨firstOwned, firstState⟩ := of_decide_eq_true wanted
      have equal : first = row := integrity.profileDesired.eq_of_mem firstMember member
        (by rw [if_pos firstState, firstOwned]) (by rw [if_pos state, owned])
      rw [equal]
      rfl

theorem replayFaceProfiles_append (first second : List FaceProfileCall) (db : Database) :
    replayFaceProfiles rules (first ++ second) db =
      replayFaceProfiles rules second (replayFaceProfiles rules first db) :=
  List.foldl_append

theorem FaceProfileCall.step_moves (call : FaceProfileCall)
    (governed : db.tables.faces.Governed rules) :
    db.tables.faces.Moves rules (call.step rules db).tables.faces := by
  unfold FaceProfileCall.step
  refine Database.after_induct
    (motive := fun db' => db.tables.faces.Moves rules db'.tables.faces) (.same rfl) ?_
  intro value db' ran
  exact FaceProfileCall.moves rules call governed.one value db'.tables ran

theorem replayFaceProfiles_governed (calls : List FaceProfileCall)
    (governed : db.tables.faces.Governed rules) :
    (replayFaceProfiles rules calls db).tables.faces.Governed rules := by
  induction calls generalizing db with
  | nil => exact governed
  | cons call rest induction => exact induction (governed.moves (call.step_moves governed))

theorem replayFaceProfiles_kept (calls : List FaceProfileCall)
    (governed : db.tables.faces.Governed rules) {old : OwnerFaceProfileRevisionRow}
    (member : old ∈ db.tables.faces.ownerFaceProfileRevisions.rows) :
    ∃ row ∈ (replayFaceProfiles rules calls db).tables.faces.ownerFaceProfileRevisions.rows,
      row.ownerId = old.ownerId ∧ row.profileId = old.profileId := by
  induction calls generalizing db old with
  | nil => exact ⟨old, member, rfl, rfl⟩
  | cons call rest induction =>
      have moves := call.step_moves governed
      obtain ⟨next, nextMember, owner, profile⟩ := moves.kept member
      obtain ⟨row, rowMember, rowOwner, rowProfile⟩ := induction (governed.moves moves) nextMember
      exact ⟨row, rowMember, rowOwner.trans owner, rowProfile.trans profile⟩

theorem becameDesired_increases (calls : List FaceProfileCall)
    (governed : db.tables.faces.Governed rules) :
    (becameDesired rules ownerId calls db).Pairwise (· < ·) ∧
      ∀ before, db.tables.faces.Desires ownerId before →
        ∀ later ∈ becameDesired rules ownerId calls db, before < later := by
  induction calls generalizing db with
  | nil => exact ⟨List.Pairwise.nil, fun _ _ later member => by cases member⟩
  | cons call rest induction =>
      have moves := call.step_moves governed
      obtain ⟨ordered, above⟩ := induction (governed.moves moves)
      have carried : ∀ before, db.tables.faces.Desires ownerId before →
          ∀ later ∈ becameDesired rules ownerId rest (call.step rules db), before < later := by
        intro before desired later member
        obtain ⟨after, bounded, desires⟩ := moves.desiresOn governed desired
        exact lt_of_le_of_lt bounded (above after desires later member)
      simp only [becameDesired]
      split
      · exact ⟨ordered, carried⟩
      · next changed =>
          cases found : (call.step rules db).tables.faces.desiredRevision? ownerId with
          | none => exact ⟨ordered, carried⟩
          | some next =>
              have desires := Faces.desires_of_desiredRevision? found
              have fresh : ∀ before, db.tables.faces.Desires ownerId before → before < next := by
                rcases moves.desires governed db.property.faces.ownerRevisions desires with
                  same | later
                · have unchanged := Faces.desiredRevision?_of_desires db.property.faces same
                  exact absurd (found.trans unchanged.symm) changed
                · exact later
              refine ⟨List.pairwise_cons.mpr ⟨above next desires, ordered⟩, ?_⟩
              intro before desired later member
              rcases List.mem_cons.mp member with rfl | inRest
              · exact fresh before desired
              · exact carried before desired later inRest

theorem Faces.governed_of_none {f : Faces} (none : f.ownerFaceProfileRevisions = ∅) :
    f.Governed rules := by
  constructor
  · intro left member
    rw [none] at member
    cases member
  · intro draft member
    rw [none] at member
    cases member
  · intro row member
    rw [none] at member
    cases member

end Run

/-- From a store without face profiles, whatever commands run for whatever
Owners: an Owner has one draft and one desired revision at most, and the draft
is its highest; the revisions that become desired strictly increase; a desired
active revision has three to five references with every required pose; and an
Owner's profile goes under one id throughout. -/
theorem face_profiles_governed (rules : FaceProfileRules) (three : rules.minReferences = 3)
    (five : rules.maxReferences = 5) (db : Database)
    (empty : db.tables.faces.ownerFaceProfileRevisions = ∅) (calls : List FaceProfileCall) :
    let revisions calls :=
      (replayFaceProfiles rules calls db).tables.faces.ownerFaceProfileRevisions.rows
    (∀ left ∈ revisions calls, ∀ right ∈ revisions calls, left.ownerId = right.ownerId →
      left.state = right.state → left.state ≠ .superseded → left = right) ∧
    (∀ draft ∈ revisions calls, draft.state = .draft → ∀ row ∈ revisions calls,
      row.ownerId = draft.ownerId → row.revision ≤ draft.revision) ∧
    (∀ ownerId, (becameDesired rules ownerId calls db).Pairwise (· < ·)) ∧
    (∀ row ∈ revisions calls, row.state = .desired → row.desiredState = .active →
      let references := (replayFaceProfiles rules calls db).tables.faces.references
        row.profileRevisionId
      3 ≤ references.length ∧ references.length ≤ 5 ∧
        rules.requiredPoses ⊆ references.map (fun reference => reference.pose)) ∧
    (∀ earlier, earlier <+: calls → ∀ old ∈ revisions earlier, ∀ row ∈ revisions calls,
      row.ownerId = old.ownerId → row.profileId = old.profileId) := by
  intro revisions
  have start : db.tables.faces.Governed rules := Faces.governed_of_none empty
  have governed := replayFaceProfiles_governed calls start
  have integrity := (replayFaceProfiles rules calls db).property.faces
  refine ⟨?_, governed.draftLast, ?_, ?_, ?_⟩
  · intro left leftMember right rightMember owner state current
    cases leftState : left.state with
    | superseded => exact absurd leftState current
    | draft =>
        -- Each of two drafts would be the highest, so they share a number.
        have rightState : right.state = .draft := state.symm.trans leftState
        have below := governed.draftLast right rightMember rightState left leftMember owner
        have above := governed.draftLast left leftMember leftState right rightMember owner.symm
        exact integrity.ownerRevisions.eq_of_mem leftMember rightMember rfl (by
          rw [owner, le_antisymm below above])
    | desired =>
        have rightState : right.state = .desired := state.symm.trans leftState
        exact integrity.profileDesired.eq_of_mem leftMember rightMember
          (by rw [if_pos leftState]) (by rw [if_pos rightState, owner])
  · intro ownerId
    exact (becameDesired_increases calls (Faces.governed_of_none empty)).1
  · intro row member state active
    have complete := governed.complete row member state active
    rw [FaceProfileRules.Complete, three, five] at complete
    exact complete
  · rintro earlier ⟨rest, rfl⟩ old oldMember row member owner
    have before := replayFaceProfiles_governed earlier start
    have after := replayFaceProfiles_kept rest before oldMember
    rw [← replayFaceProfiles_append] at after
    obtain ⟨kept, keptMember, keptOwner, keptProfile⟩ := after
    rw [← keptProfile]
    exact governed.one row member kept keptMember (owner.trans keptOwner.symm)

def sampleFaceRules : FaceProfileRules :=
  { minReferences := 3
    maxReferences := 5
    requiredPoses := ["front", "left", "right"] }

def samplePhotograph (profileRevisionId pose storageKey : String) : FaceProfileCommand :=
  .addReference profileRevisionId pose "image/jpeg" 1
    "e3b0c44298fc1c149afbf4c8996fb92427ae41e4649b934ca495991b7852b855" storageKey

/-- The revision the call after some others adds. -/
def numberedRevision (call : Nat) : String := "ofpr_" ++ (Uuid.ofNat (1024 + 16 * call + 1)).hex

/-- A profile is drafted, photographed and activated, cleared, and drafted
again. -/
def faceProfileCommands : List FaceProfileCommand :=
  [.createDraft "owner" "model" "preprocessing",
   samplePhotograph (numberedRevision 0) "front" "a.jpg",
   samplePhotograph (numberedRevision 0) "left" "b.jpg",
   samplePhotograph (numberedRevision 0) "right" "c.jpg",
   .activate (numberedRevision 0), .clear "owner",
   .createDraft "owner" "model" "preprocessing"]

def faceProfileCalls : List FaceProfileCall :=
  faceProfileCommands.zipIdx.map (fun (command, index) =>
    { env := { uuid := fun site => .ofNat (1024 + 16 * index + site), now := index }
      command := command })

theorem face_profiles_governed_cleared :
    let db := replay .plain (numbered firstDefaultCommands) .empty
    becameDesired sampleFaceRules "owner" faceProfileCalls db = [1, 2] ∧
      (becameDesired sampleFaceRules "owner" faceProfileCalls db).Pairwise (· < ·) := by
  have empty :
      (replay .plain (numbered firstDefaultCommands)
        .empty).tables.faces.ownerFaceProfileRevisions = ∅ := Table.ext (by decide +kernel)
  exact ⟨by decide +kernel, (face_profiles_governed sampleFaceRules rfl rfl _ empty
    faceProfileCalls).2.2.1 "owner"⟩

end EidolonData
