import EidolonData.People.Moves

/-!
# The memory of a Person

A private realm is active only for an established and active Person, and its
provisional policy permits something only for an active one; a realm marked
for erasure is of an archived Person with a receipt.  A memory that has been
switched off is quiet until it is switched on by name.
-/

namespace EidolonData

open Relational

section Policies

variable {sdk : Sdk} {realm : MemoryRealmRow} {policy : ProvisionalMemoryPolicy}

structure ProvisionalMemoryPolicy.Dumps (sdk : Sdk) (policy : ProvisionalMemoryPolicy) :
    Prop where
  valid : sdk.validateProvisionalMemoryPolicy (.obj policy.document) = .ok policy
  save : policy.document.get? "save_allowed" = some (.bool policy.saveAllowed)
  recalls : policy.document.get? "session_recall_allowed" = some (.bool policy.sessionRecallAllowed)

/-- The contract of `ProvisionalMemoryPolicy`: two flags that are off unless
they are given, kept by a dump. -/
structure Sdk.ProvisionalContract (sdk : Sdk) : Prop where
  off : sdk.defaultProvisionalMemoryPolicy.saveAllowed = false ∧
    sdk.defaultProvisionalMemoryPolicy.sessionRecallAllowed = false
  unset : sdk.validateProvisionalMemoryPolicy (.obj []) = .ok sdk.defaultProvisionalMemoryPolicy
  default : sdk.defaultProvisionalMemoryPolicy.Dumps sdk
  dumps : ∀ document policy, sdk.validateProvisionalMemoryPolicy document = .ok policy →
    policy.Dumps sdk
  candidate : ∀ document defaults, sdk.validatePersonMemoryDefaults document = .ok defaults →
    ∃ policy : ProvisionalMemoryPolicy, policy.Dumps sdk ∧ policy.document = defaults.candidate

def ProvisionalMemoryPolicy.ofFlags (save recalls : Bool) : ProvisionalMemoryPolicy :=
  { saveAllowed := save
    sessionRecallAllowed := recalls
    document := [("save_allowed", .bool save), ("session_recall_allowed", .bool recalls)] }

def flagsOf (document : JsonDict) : ProvisionalMemoryPolicy :=
  .ofFlags (document.get? "save_allowed" = some (.bool true))
    (document.get? "session_recall_allowed" = some (.bool true))

/-- The plain SDK, with the flags of the provisional policies. -/
def Sdk.permitting : Sdk :=
  { Sdk.plain with
    defaultProvisionalMemoryPolicy := .ofFlags false false
    validateProvisionalMemoryPolicy := fun document => do
      let fields ← plainDocument document
      return flagsOf fields
    validatePersonMemoryDefaults := fun document => do
      let fields ← plainDocument document
      let candidate := ((fields.get? "candidate").bind Json.asDict?).getD []
      return {
        candidate := (flagsOf candidate).document
        prepareOnPromotion := fields.get? "prepare_on_promotion" = some (.bool true)
        document := fields } }

theorem ofFlags_dumps (save recalls : Bool) :
    (ProvisionalMemoryPolicy.ofFlags save recalls).Dumps .permitting := by
  cases save with
  | true =>
      cases recalls with
      | true => exact ⟨rfl, rfl, rfl⟩
      | false => exact ⟨rfl, rfl, rfl⟩
  | false =>
      cases recalls with
      | true => exact ⟨rfl, rfl, rfl⟩
      | false => exact ⟨rfl, rfl, rfl⟩

theorem permitting_contract : Sdk.permitting.ProvisionalContract where
  off := ⟨rfl, rfl⟩
  unset := rfl
  default := ofFlags_dumps _ _
  dumps := by
    intro document policy valid
    cases document with
    | obj fields =>
        cases valid
        exact ofFlags_dumps _ _
    | _ => cases valid
  candidate := by
    intro document defaults valid
    cases document with
    | obj fields =>
        cases valid
        exact ⟨_, ofFlags_dumps _ _, rfl⟩
    | _ => cases valid

/-- `policy_json["provisional_memory"][name]` is true. -/
def MemoryRealmRow.hasFlag (realm : MemoryRealmRow) (name : String) : Bool :=
  (((realm.policyJson.get? "provisional_memory").bind Json.asDict?).getD []).get? name =
    some (.bool true)

structure MemoryRealmRow.Follows (sdk : Sdk) (realm : MemoryRealmRow)
    (policy : ProvisionalMemoryPolicy) : Prop where
  stored : storedProvisionalPolicy sdk realm = .ok policy
  save : realm.hasFlag "save_allowed" = policy.saveAllowed
  recalls : realm.hasFlag "session_recall_allowed" = policy.sessionRecallAllowed

def ProvisionalMemoryPolicy.Permits (policy : ProvisionalMemoryPolicy) : Prop :=
  policy.saveAllowed = true ∨ policy.sessionRecallAllowed = true

theorem Sdk.ProvisionalContract.not_permits (contract : sdk.ProvisionalContract) :
    ¬ sdk.defaultProvisionalMemoryPolicy.Permits := by
  simp [ProvisionalMemoryPolicy.Permits, contract.off]

theorem follows_of_dumps (dumps : policy.Dumps sdk)
    (kept : realm.policyJson.get? "provisional_memory" = some (.obj policy.document)) :
    realm.Follows sdk policy := by
  refine ⟨?_, ?_, ?_⟩
  · rw [storedProvisionalPolicy, kept]
    exact dumps.valid
  · simp [MemoryRealmRow.hasFlag, kept, Json.asDict?, dumps.save]
  · simp [MemoryRealmRow.hasFlag, kept, Json.asDict?, dumps.recalls]

theorem follows_of_none (contract : sdk.ProvisionalContract)
    (unset : realm.policyJson.get? "provisional_memory" = none) :
    realm.Follows sdk sdk.defaultProvisionalMemoryPolicy := by
  refine ⟨?_, ?_, ?_⟩
  · rw [storedProvisionalPolicy, unset]
    exact contract.unset
  · simp [MemoryRealmRow.hasFlag, unset, JsonDict.get?, contract.off]
  · simp [MemoryRealmRow.hasFlag, unset, JsonDict.get?, contract.off]

theorem MemoryRealmRow.Follows.congr {realm' : MemoryRealmRow} (follows : realm.Follows sdk policy)
    (same : realm'.policyJson.get? "provisional_memory" =
      realm.policyJson.get? "provisional_memory") : realm'.Follows sdk policy := by
  refine ⟨?_, ?_, ?_⟩
  · rw [storedProvisionalPolicy, same]
    exact follows.stored
  · rw [MemoryRealmRow.hasFlag, same]
    exact follows.save
  · rw [MemoryRealmRow.hasFlag, same]
    exact follows.recalls

theorem MemoryRealmRow.Follows.unique {policy' : ProvisionalMemoryPolicy}
    (one : realm.Follows sdk policy) (two : realm.Follows sdk policy') : policy = policy' := by
  have same := one.stored.symm.trans two.stored
  cases same
  rfl

theorem suspended_follows (contract : sdk.ProvisionalContract) (realm : MemoryRealmRow) :
    (realm.suspended sdk).Follows sdk sdk.defaultProvisionalMemoryPolicy := by
  refine follows_of_dumps contract.default ?_
  simp [MemoryRealmRow.suspended, JsonDict.merge, JsonDict.get?_set]

end Policies

section Safety

variable {sdk : Sdk} {env : Env} {personId : String} {command : Command} {file file' : PersonFile}

def PersonFile.Inactive (file : PersonFile) : Prop :=
  ∀ person, file.person = some person → person.deleted = true → person.status = .inactive

theorem PersonMoved.inactive (moved : PersonMoved sdk env personId command file file')
    (inactive : file.Inactive) : file'.Inactive := by
  cases moved with
  | kept => exact inactive
  | created inserted | discovered inserted =>
      rintro _ ⟨⟩ archived
      rw [inserted.deleted] at archived
      cases archived
  | updated _ alive =>
      rintro _ ⟨⟩ archived
      exact absurd (archived.symm.trans alive) (by decide)
  | archived | restored =>
      rintro _ ⟨⟩ _
      rfl
  | retired | expired | deletionRequested | policyWritten | memorySuspended | memoryRestored
  | evidenceRecorded | promoted | ownerArchived =>
      have before := inactive _ rfl
      rintro _ ⟨⟩ archived
      exact before archived
  | deletionCompleted | ownerDeleted =>
      rintro _ ⟨⟩

theorem PersonMoved.deleted_before (moved : PersonMoved sdk env personId command file file')
    {after : PersonRow} (stored : file'.person = some after) (archived : after.deleted = true) :
    (∃ before, file.person = some before ∧ before.deleted = true) ∨
      ∃ ownerId expectedRevision,
        command = .archivePerson ownerId personId expectedRevision := by
  cases moved with
  | kept => exact Or.inl ⟨after, stored, archived⟩
  | created inserted | discovered inserted =>
      cases stored
      rw [inserted.deleted] at archived
      cases archived
  | archived => exact Or.inr ⟨_, _, rfl⟩
  | restored =>
      cases stored
      cases archived
  | updated | retired | expired | deletionRequested | policyWritten | memorySuspended
  | memoryRestored | evidenceRecorded | promoted | ownerArchived =>
      cases stored
      exact Or.inl ⟨_, rfl, archived⟩
  | deletionCompleted | ownerDeleted => cases stored

structure ErasureMarked (person : PersonRow) (realm : MemoryRealmRow)
    (receipt : Option PersonDeletionRow) : Prop where
  doomed : realm.status = .deleting → receipt.isSome = true
  received : receipt.isSome = true → person.deleted = true ∧ realm.status = .deleting

def PersonFile.Marked (file : PersonFile) : Prop :=
  ∀ person realm receipt, file = .bound person realm receipt → ErasureMarked person realm receipt

theorem PersonFile.marked_bound_iff {person : PersonRow} {realm : MemoryRealmRow}
    {receipt : Option PersonDeletionRow} :
    (PersonFile.bound person realm receipt).Marked ↔ ErasureMarked person realm receipt := by
  constructor
  · intro marked
    exact marked _ _ _ rfl
  · rintro marked _ _ _ ⟨⟩
    exact marked

theorem PersonFile.marked_of_absent {file : PersonFile} (absent : file.person = none) :
    file.Marked := by
  rintro _ _ _ rfl
  cases absent

theorem ErasureMarked.unreceipted {person : PersonRow} {realm : MemoryRealmRow}
    {receipt : Option PersonDeletionRow} (marked : ErasureMarked person realm receipt)
    (alive : person.deleted = false) : receipt = none := by
  cases receipt with
  | none => rfl
  | some stored =>
      have archived := (marked.received rfl).1
      rw [alive] at archived
      cases archived

theorem erasureMarked_of_unreceipted {person : PersonRow} {realm : MemoryRealmRow}
    {receipt : Option PersonDeletionRow} (unreceipted : receipt = none)
    (kept : realm.status ≠ .deleting) : ErasureMarked person realm receipt where
  doomed := fun doomed => absurd doomed kept
  received := by
    intro received
    rw [unreceipted] at received
    cases received

theorem boundRealm_kept (person : PersonRow) (policy : JsonDict) :
    (boundRealm env person policy).status ≠ .deleting := by
  unfold boundRealm
  split
  · rintro ⟨⟩
  · rintro ⟨⟩

theorem PersonMoved.marked (moved : PersonMoved sdk env personId command file file')
    (marked : file.Marked) : file'.Marked := by
  cases moved with
  | kept => exact marked
  | created inserted | discovered inserted =>
      rw [PersonFile.marked_bound_iff]
      obtain ⟨owner, defaults, -, rfl⟩ := inserted.realm
      exact erasureMarked_of_unreceipted rfl (boundRealm_kept _ _)
  | updated owned alive =>
      rw [PersonFile.marked_bound_iff] at marked ⊢
      split
      · exact erasureMarked_of_unreceipted (marked.unreceipted alive) (by rintro ⟨⟩)
      · exact ⟨marked.doomed, marked.received⟩
  | retired | expired | policyWritten | evidenceRecorded =>
      rw [PersonFile.marked_bound_iff] at marked ⊢
      exact ⟨marked.doomed, marked.received⟩
  | archived owned alive | memorySuspended owned alive =>
      rw [PersonFile.marked_bound_iff] at marked ⊢
      exact erasureMarked_of_unreceipted (marked.unreceipted alive) (by rintro ⟨⟩)
  | @restored _ _ _ _ receipt _ _ _ kept =>
      rw [PersonFile.marked_bound_iff] at marked ⊢
      refine erasureMarked_of_unreceipted ?_ (by rintro ⟨⟩)
      cases receipt with
      | none => rfl
      | some stored => exact absurd (marked.received rfl).2 kept
  | deletionRequested owned archived =>
      rw [PersonFile.marked_bound_iff]
      exact ⟨fun _ => rfl, fun _ => ⟨archived, rfl⟩⟩
  | deletionCompleted | ownerDeleted => exact PersonFile.marked_of_absent rfl
  | memoryRestored owned alive =>
      rw [PersonFile.marked_bound_iff] at marked ⊢
      exact erasureMarked_of_unreceipted (marked.unreceipted alive) (by rintro ⟨⟩)
  | promoted _ _ _ prepared =>
      rw [PersonFile.marked_bound_iff] at marked ⊢
      rcases prepared with rfl | ⟨preparable, rfl⟩
      · exact ⟨marked.doomed, marked.received⟩
      · refine ⟨by rintro ⟨⟩, ?_⟩
        intro received
        simp [MemoryRealmRow.isPreparable, (marked.received received).2] at preparable
  | ownerArchived =>
      rw [PersonFile.marked_bound_iff] at marked ⊢
      split
      · next awake =>
        refine ⟨by rintro ⟨⟩, ?_⟩
        intro received
        rw [(marked.received received).2] at awake
        cases awake
      · exact marked

structure MemorySafe (sdk : Sdk) (person : PersonRow) (realm : MemoryRealmRow) : Prop where
  awake : realm.status = .active → person.maturity = .established ∧ person.status = .active
  permitted : ∃ policy, realm.Follows sdk policy ∧ (policy.Permits → person.status = .active)

def PersonFile.Safe (sdk : Sdk) (file : PersonFile) : Prop :=
  ∀ person realm receipt, file = .bound person realm receipt → MemorySafe sdk person realm

theorem PersonFile.safe_bound_iff {person : PersonRow} {realm : MemoryRealmRow}
    {receipt : Option PersonDeletionRow} :
    (PersonFile.bound person realm receipt).Safe sdk ↔ MemorySafe sdk person realm := by
  constructor
  · intro safe
    exact safe _ _ _ rfl
  · rintro safe _ _ _ ⟨⟩
    exact safe

theorem PersonFile.safe_of_absent {file : PersonFile} (absent : file.person = none) :
    file.Safe sdk := by
  rintro _ _ _ rfl
  cases absent

theorem memorySafe_suspended (contract : sdk.ProvisionalContract) {person : PersonRow}
    (realm : MemoryRealmRow) : MemorySafe sdk person (realm.suspended sdk) where
  awake := by rintro ⟨⟩
  permitted := ⟨_, suspended_follows contract realm, fun permits =>
    absurd permits contract.not_permits⟩

theorem MemorySafe.rewrite {person person' : PersonRow} {realm : MemoryRealmRow}
    (safe : MemorySafe sdk person realm) (status : person'.status = person.status)
    (maturity : person.maturity = .established → person'.maturity = .established) :
    MemorySafe sdk person' realm where
  awake := by
    intro awake
    rw [status]
    exact ⟨maturity (safe.awake awake).1, (safe.awake awake).2⟩
  permitted := by
    rw [status]
    exact safe.permitted

theorem PersonInserted.safe (contract : sdk.ProvisionalContract) {ownerId : String}
    {request : PersonCreateRequest} {person : PersonRow} {realm : MemoryRealmRow}
    (inserted : PersonInserted sdk env ownerId request person realm) :
    MemorySafe sdk person realm := by
  obtain ⟨owner, defaults, valid, rfl⟩ := inserted.realm
  refine { awake := ?_, permitted := ?_ }
  · intro awake
    refine ⟨?_, inserted.status⟩
    by_contra candidate
    simp [boundRealm, candidate] at awake
  · by_cases candidate : person.maturity = .candidate
    · obtain ⟨policy, dumps, document⟩ := contract.candidate _ _ valid
      refine ⟨policy, follows_of_dumps dumps ?_, fun _ => inserted.status⟩
      simp [boundRealm, candidate, JsonDict.merge, JsonDict.get?_set, document]
    · refine ⟨_, follows_of_none contract ?_, fun _ => inserted.status⟩
      simp [boundRealm, candidate, JsonDict.merge, JsonDict.get?]

theorem PersonMoved.safe (contract : sdk.ProvisionalContract)
    (moved : PersonMoved sdk env personId command file file') (safe : file.Safe sdk) :
    file'.Safe sdk := by
  cases moved with
  | kept => exact safe
  | created inserted => exact PersonFile.safe_bound_iff.mpr (inserted.safe contract)
  | discovered inserted => exact PersonFile.safe_bound_iff.mpr (inserted.safe contract)
  | @updated ttl ownerId request person realm receipt owned alive =>
      rw [PersonFile.safe_bound_iff] at safe ⊢
      split
      · exact memorySafe_suspended contract realm
      · next active =>
        have requested : request.status = .active := by
          cases status : request.status with
          | active => rfl
          | inactive => exact absurd status active
        obtain ⟨policy, follows, -⟩ := safe.permitted
        exact
          { awake := fun awake => ⟨(safe.awake awake).1, requested⟩
            permitted := ⟨policy, follows, fun _ => requested⟩ }
  | retired | expired | evidenceRecorded =>
      rw [PersonFile.safe_bound_iff] at safe ⊢
      exact safe.rewrite rfl id
  | archived | restored | memorySuspended =>
      rw [PersonFile.safe_bound_iff]
      exact memorySafe_suspended contract _
  | deletionRequested owned archived =>
      rw [PersonFile.safe_bound_iff] at safe ⊢
      obtain ⟨policy, follows, permits⟩ := safe.permitted
      refine
        { awake := by rintro ⟨⟩
          permitted := ⟨policy, follows.congr ?_, permits⟩ }
      exact JsonDict.get?_set_other _ (by decide)
  | deletionCompleted => exact PersonFile.safe_of_absent rfl
  | policyWritten owned alive current valid allowed =>
      rw [PersonFile.safe_bound_iff] at safe ⊢
      refine
        { awake := safe.awake
          permitted := ⟨_, follows_of_dumps (contract.dumps _ _ valid) ?_, ?_⟩ }
      · simp [JsonDict.get?_set]
      · intro permits
        rcases allowed with active | ⟨save, recalls⟩
        · exact active
        · simp [ProvisionalMemoryPolicy.Permits, save, recalls] at permits
  | memoryRestored owned alive established active =>
      rw [PersonFile.safe_bound_iff] at safe ⊢
      obtain ⟨policy, follows, permits⟩ := safe.permitted
      exact
        { awake := fun _ => ⟨established, active⟩
          permitted := ⟨policy, follows.congr rfl, permits⟩ }
  | @promoted _ _ _ person realm realm' receipt activity _ pooled prepared =>
      rw [PersonFile.safe_bound_iff] at safe ⊢
      have active : person.status = .active := by
        simp only [PersonRow.isPooled, Bool.and_eq_true, decide_eq_true_eq] at pooled
        exact pooled.1.1.1.2
      have promoted : MemorySafe sdk
          { person.revised with
            maturity := .established
            candidateActivityAt := some activity } realm :=
        safe.rewrite rfl (fun _ => rfl)
      rcases prepared with rfl | ⟨preparable, rfl⟩
      · exact promoted
      · obtain ⟨policy, follows, permits⟩ := promoted.permitted
        exact
          { awake := fun _ => ⟨rfl, active⟩
            permitted := ⟨policy, follows.congr rfl, permits⟩ }
  | ownerArchived =>
      rw [PersonFile.safe_bound_iff] at safe ⊢
      split
      · obtain ⟨policy, follows, permits⟩ := safe.permitted
        exact
          { awake := by rintro ⟨⟩
            permitted := ⟨policy, follows.congr rfl, permits⟩ }
      · exact safe
  | ownerDeleted => exact PersonFile.safe_of_absent rfl

theorem PersonMoved.doomed_leaves (moved : PersonMoved sdk env personId command file file')
    (marked : file.Marked) {person : PersonRow} {realm : MemoryRealmRow}
    {receipt : Option PersonDeletionRow} (held : file = .bound person realm receipt)
    (doomed : realm.status = .deleting) :
    (∃ person' realm' receipt', file' = .bound person' realm' receipt' ∧
      realm'.realmId = realm.realmId ∧ realm'.status = .deleting) ∨
    (∃ expectedRevision,
      command = .permanentlyDelete person.ownerId personId expectedRevision true) ∨
    command = .deleteOwner person.ownerId := by
  subst held
  have kept := PersonFile.marked_bound_iff.mp marked
  have archived : person.deleted ≠ false := by
    rw [(kept.received (kept.doomed doomed)).1]
    decide
  cases moved with
  | kept => exact Or.inl ⟨person, realm, receipt, rfl, rfl, doomed⟩
  | updated _ alive | archived _ alive | memorySuspended _ alive | memoryRestored _ alive =>
      exact absurd alive archived
  | restored _ _ _ undoomed => exact absurd doomed undoomed
  | retired | expired | policyWritten | evidenceRecorded =>
      exact Or.inl ⟨_, _, _, rfl, rfl, doomed⟩
  | deletionRequested => exact Or.inl ⟨_, _, _, rfl, rfl, rfl⟩
  | deletionCompleted owned =>
      rw [owned]
      exact Or.inr (Or.inl ⟨_, rfl⟩)
  | promoted _ _ _ prepared =>
      rcases prepared with rfl | ⟨preparable, -⟩
      · exact Or.inl ⟨_, _, _, rfl, rfl, doomed⟩
      · simp [MemoryRealmRow.isPreparable, doomed] at preparable
  | ownerArchived =>
      refine Or.inl ⟨person, realm, receipt, ?_, rfl, doomed⟩
      rw [if_neg (by rw [doomed]; decide)]
  | ownerDeleted owned =>
      rw [owned.person person rfl]
      exact Or.inr (Or.inr rfl)

end Safety

section Quiet

variable {sdk : Sdk} {env : Env} {personId ownerId : String} {command : Command}
  {file file' : PersonFile}

/-- A memory that has been switched off. -/
structure MemoryQuiet (sdk : Sdk) (realm : MemoryRealmRow) : Prop where
  blocked : (realm.policyJson.get? "automatic_preparation_blocked").any Json.truthy = true
  asleep : realm.status ≠ .active
  off : ∃ policy, realm.Follows sdk policy ∧ ¬ policy.Permits

/-- What is stored of the Person has a quiet memory, or is a receipt. -/
structure PersonFile.Quiet (sdk : Sdk) (ownerId : String) (file : PersonFile) : Prop where
  memory : ∀ person realm receipt, file = .bound person realm receipt →
    person.ownerId = ownerId ∧ MemoryQuiet sdk realm
  receipt : file.person = none → ∃ receipt, file.receipt = some receipt ∧
    receipt.ownerId = ownerId

/-- The commands that switch a memory on. -/
inductive Command.Wakes (sdk : Sdk) (personId : String) : Command → Prop where
  | restored (ownerId : String) (expectedRevision : Int) :
      Wakes sdk personId (.restoreMemory ownerId personId expectedRevision)
  | permitted (ownerId : String) (expectedRevision : Option Int) {document : Json}
      {policy : ProvisionalMemoryPolicy}
      (valid : sdk.validateProvisionalMemoryPolicy document = .ok policy)
      (permits : policy.Permits) :
      Wakes sdk personId (.writeProvisionalPolicy ownerId personId expectedRevision document)

theorem PersonFile.quiet_bound_iff {person : PersonRow} {realm : MemoryRealmRow}
    {receipt : Option PersonDeletionRow} :
    (PersonFile.bound person realm receipt).Quiet sdk ownerId ↔
      person.ownerId = ownerId ∧ MemoryQuiet sdk realm := by
  constructor
  · intro quiet
    exact quiet.memory _ _ _ rfl
  · intro quiet
    refine ⟨?_, ?_⟩
    · rintro _ _ _ ⟨⟩
      exact quiet
    · rintro ⟨⟩

theorem suspended_quiet (contract : sdk.ProvisionalContract) (realm : MemoryRealmRow) :
    MemoryQuiet sdk (realm.suspended sdk) where
  blocked := by
    simp [MemoryRealmRow.suspended, JsonDict.merge, JsonDict.get?_set, Json.truthy]
  asleep := by rintro ⟨⟩
  off := ⟨_, suspended_follows contract realm, contract.not_permits⟩

theorem PersonMoved.quiet (contract : sdk.ProvisionalContract)
    (moved : PersonMoved sdk env personId command file file')
    (asleep : ¬ command.Wakes sdk personId) (kept : command ≠ .deleteOwner ownerId)
    (sound : file.Sound) (quiet : file.Quiet sdk ownerId) : file'.Quiet sdk ownerId := by
  cases moved with
  | kept => exact quiet
  | created | discovered =>
      obtain ⟨receipt, stored, -⟩ := quiet.receipt rfl
      cases stored
  | updated =>
      rw [PersonFile.quiet_bound_iff] at quiet ⊢
      refine ⟨quiet.1, ?_⟩
      split
      · exact suspended_quiet contract _
      · exact quiet.2
  | retired | expired | evidenceRecorded =>
      rw [PersonFile.quiet_bound_iff] at quiet ⊢
      exact quiet
  | archived | restored | memorySuspended =>
      rw [PersonFile.quiet_bound_iff] at quiet ⊢
      exact ⟨quiet.1, suspended_quiet contract _⟩
  | deletionRequested =>
      rw [PersonFile.quiet_bound_iff] at quiet ⊢
      obtain ⟨owned, still⟩ := quiet
      obtain ⟨policy, follows, off⟩ := still.off
      refine ⟨owned, ?_, by rintro ⟨⟩, policy, follows.congr ?_, off⟩
      · rw [← still.blocked]
        exact congrArg (Option.any Json.truthy) (JsonDict.get?_set_other _ (by decide))
      · exact JsonDict.get?_set_other _ (by decide)
  | deletionCompleted =>
      obtain ⟨owned, -⟩ := PersonFile.quiet_bound_iff.mp quiet
      obtain ⟨-, pending⟩ := PersonFile.sound_bound_iff.mp sound
      refine ⟨?_, fun _ => ⟨_, rfl, (pending _ rfl).1.trans owned⟩⟩
      rintro _ _ _ ⟨⟩
  | policyWritten _ _ _ valid =>
      rw [PersonFile.quiet_bound_iff] at quiet ⊢
      obtain ⟨owned, still⟩ := quiet
      refine ⟨owned, ?_, still.asleep, _,
        follows_of_dumps (contract.dumps _ _ valid) ?_, fun permits =>
          asleep (.permitted _ _ valid permits)⟩
      · rw [← still.blocked]
        exact congrArg (Option.any Json.truthy) (JsonDict.get?_set_other _ (by decide))
      · simp [JsonDict.get?_set]
  | memoryRestored => exact absurd (.restored _ _) asleep
  | promoted _ _ _ prepared =>
      rw [PersonFile.quiet_bound_iff] at quiet ⊢
      rcases prepared with rfl | ⟨preparable, -⟩
      · exact quiet
      · simp [MemoryRealmRow.isPreparable, quiet.2.blocked] at preparable
  | ownerArchived =>
      rw [PersonFile.quiet_bound_iff] at quiet ⊢
      rw [if_neg quiet.2.asleep]
      exact quiet
  | @ownerDeleted other file owned =>
      have same : other = ownerId := by
        rcases file with ⟨person, realms, receipt⟩
        cases person with
        | none =>
            obtain ⟨receipt, stored, receiptOwned⟩ := quiet.receipt rfl
            exact (owned.receipt receipt stored).symm.trans receiptOwned
        | some person =>
            obtain ⟨realm, held, -, -⟩ := sound.of_person rfl
            exact (owned.person person rfl).symm.trans (quiet.memory _ _ _ held).1
      rw [same] at kept
      exact absurd rfl kept

end Quiet

end EidolonData
