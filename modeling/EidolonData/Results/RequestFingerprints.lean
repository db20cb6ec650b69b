import EidolonData.Api.WorkspaceAuthority
import EidolonData.Results.ProvisionReceipt

/-!
# A fingerprint tells requests apart

An absent field is left out of one form and null in the other, and a null is
no name and no dictionary, so no request meets another through the crossing of
the two forms.
-/

namespace EidolonData

open Relational

/-- The writer and the digest keep the documents of a list apart. -/
def Separates (sha256 : String → String) (separators : Separators) (documents : List JsonDict) :
    Prop :=
  ∀ left ∈ documents, ∀ right ∈ documents,
    sha256 (jsonDumps separators left) = sha256 (jsonDumps separators right) →
      (Json.obj left).sorted = (Json.obj right).sorted

instance (sha256 : String → String) (separators : Separators) (documents : List JsonDict) :
    Decidable (Separates sha256 separators documents) :=
  inferInstanceAs (Decidable (∀ left ∈ documents, ∀ right ∈ documents,
    sha256 (jsonDumps separators left) = sha256 (jsonDumps separators right) →
      (Json.obj left).sorted = (Json.obj right).sorted))

theorem separates_of_injective {sha256 : String → String} {separators : Separators}
    {documents : List JsonDict} (digest : Function.Injective sha256)
    (writer : ∀ left ∈ documents, ∀ right ∈ documents,
      jsonDumps separators left = jsonDumps separators right →
        (Json.obj left).sorted = (Json.obj right).sorted) :
    Separates sha256 separators documents := by
  intro left leftMember right rightMember same
  exact writer left leftMember right rightMember (digest same)

theorem Json.ofString?_injective : Function.Injective Json.ofString? := by
  intro left right same
  cases left with
  | none =>
      cases right with
      | none => rfl
      | some right => cases same
  | some left =>
      cases right with
      | none => cases same
      | some right => simpa [Json.ofString?] using same

theorem Json.sorted_ofString? (value : Option String) :
    (Json.ofString? value).sorted = Json.ofString? value := by
  cases value with
  | none => simp [Json.ofString?, Json.sorted]
  | some value => simp [Json.ofString?, Json.sorted]

theorem Json.str_injective : Function.Injective Json.str := by
  intro left right same
  exact Json.str.inj same

theorem Json.sorted_str (value : String) : (Json.str value).sorted = .str value := by
  simp [Json.sorted]

/-- A field reads back as it is from two documents that agree once sorted, if a
form leaves it out only when it is `default`. -/
theorem field_inj {α : Type} {write : α → Json} (injective : Function.Injective write)
    (sorted : ∀ value, (write value).sorted = write value) (default : α) {left right : α}
    {name : String} {leftExcluded rightExcluded : List String}
    (leftDefault : name ∈ leftExcluded → left = default)
    (rightDefault : name ∈ rightExcluded → right = default)
    (same : (if name ∈ leftExcluded then none else some (write left)).map Json.sorted =
      (if name ∈ rightExcluded then none else some (write right)).map Json.sorted) :
    left = right := by
  by_cases leftDropped : name ∈ leftExcluded
  · by_cases rightDropped : name ∈ rightExcluded
    · rw [leftDefault leftDropped, rightDefault rightDropped]
    · rw [if_pos leftDropped, if_neg rightDropped] at same
      cases same
  · by_cases rightDropped : name ∈ rightExcluded
    · rw [if_neg leftDropped, if_pos rightDropped] at same
      cases same
    · rw [if_neg leftDropped, if_neg rightDropped] at same
      simp only [Option.map_some, Option.some.injEq, sorted] at same
      exact injective same

theorem JsonDict.nodup_without {document : JsonDict}
    (distinct : (document.map Prod.fst).Nodup) (excluded : List String) :
    ((document.without excluded).map Prod.fst).Nodup :=
  (List.filter_sublist.map Prod.fst).nodup distinct

namespace CompanionProvisionRequest

variable {p q : CompanionProvisionRequest} {includeNullSource other : Bool}

theorem nodup_document (p : CompanionProvisionRequest) (includeNullSource : Bool) :
    ((p.document includeNullSource).map Prod.fst).Nodup :=
  JsonDict.nodup_without (by simp [modelDump]) _

theorem mem_excluded {name : String} :
    name ∈ p.excluded includeNullSource ↔
      (p.preferences = none ∧ name = "preferences") ∨
      (includeNullSource = false ∧
        ((p.sourcePresetId = none ∧ name = "source_preset_id") ∨
          (p.sourcePresetRevision = none ∧ name = "source_preset_revision"))) := by
  unfold excluded
  cases includeNullSource with
  | true => simp
  | false => simp

/-- Whichever forms two requests are written in, they are told apart. -/
theorem document_inj
    (same : (Json.obj (p.document includeNullSource)).sorted =
      (Json.obj (q.document other)).sorted) : p = q := by
  have fields := get?_of_sorted (nodup_document p includeNullSource) same
  simp only [document, JsonDict.get?_without] at fields
  have displayName : p.companionDisplayName = q.companionDisplayName := by
    refine field_inj Json.str_injective Json.sorted_str "" ?_ ?_
      (fields "companion_display_name")
    all_goals simp [mem_excluded]
  have kind : p.kind = q.kind := by
    refine field_inj Json.str_injective Json.sorted_str "" ?_ ?_ (fields "kind")
    all_goals simp [mem_excluded]
  have persona : p.persona = q.persona := by
    refine field_inj Json.ofDocument?_injective Json.sorted_ofDocument? none ?_ ?_
      (fields "persona")
    all_goals simp [mem_excluded]
  have preferences : p.preferences = q.preferences := by
    refine field_inj Json.ofDocument?_injective Json.sorted_ofDocument? none ?_ ?_
      (fields "preferences")
    all_goals simp [mem_excluded]
  have presetId : p.sourcePresetId = q.sourcePresetId := by
    refine field_inj Json.ofString?_injective Json.sorted_ofString? none ?_ ?_
      (fields "source_preset_id")
    all_goals simp [mem_excluded]
  have presetRevision : p.sourcePresetRevision = q.sourcePresetRevision := by
    refine field_inj Json.ofString?_injective Json.sorted_ofString? none ?_ ?_
      (fields "source_preset_revision")
    all_goals simp [mem_excluded]
  cases p
  cases q
  simp_all

end CompanionProvisionRequest

namespace WorkspaceInitializeRequest

variable {p q : WorkspaceInitializeRequest}

theorem nodup_document (p : WorkspaceInitializeRequest) :
    (p.document.map Prod.fst).Nodup :=
  JsonDict.nodup_without (by simp [modelDump]) _

/-- A field is left out when it is null. -/
theorem null_of_excluded {name : String} (dropped : name ∈ p.excluded) :
    p.modelDump.get? name = some .null := by
  simpa using (List.mem_filter.mp dropped).2

theorem document_of_null {value : Option Document}
    (null : some (Json.ofDocument? value) = some .null) : value = none :=
  Json.ofDocument?_injective (Option.some.inj null)

theorem string_of_null {value : Option String}
    (null : some (Json.ofString? value) = some .null) : value = none :=
  Json.ofString?_injective (Option.some.inj null)

/-- Two requests are told apart by what they leave out and what they write. -/
theorem document_inj (same : (Json.obj p.document).sorted = (Json.obj q.document).sorted) :
    p = q := by
  have fields := get?_of_sorted (nodup_document p) same
  simp only [document, JsonDict.get?_without] at fields
  have ownerName : p.ownerDisplayName = q.ownerDisplayName := by
    refine field_inj Json.str_injective Json.sorted_str "" ?_ ?_ (fields "owner_display_name")
    all_goals simp [WorkspaceInitializeRequest.excluded, optionalAuthoring]
  have displayName : p.companionDisplayName = q.companionDisplayName := by
    refine field_inj Json.str_injective Json.sorted_str "" ?_ ?_ (fields "companion_display_name")
    all_goals simp [WorkspaceInitializeRequest.excluded, optionalAuthoring]
  have persona : p.persona = q.persona := by
    refine field_inj Json.ofDocument?_injective Json.sorted_ofDocument? none ?_ ?_
      (fields "persona")
    all_goals
      intro dropped
      have null := null_of_excluded dropped
      exact document_of_null null
  have preferences : p.preferences = q.preferences := by
    refine field_inj Json.ofDocument?_injective Json.sorted_ofDocument? none ?_ ?_
      (fields "preferences")
    all_goals
      intro dropped
      have null := null_of_excluded dropped
      exact document_of_null null
  have presetId : p.sourcePresetId = q.sourcePresetId := by
    refine field_inj Json.ofString?_injective Json.sorted_ofString? none ?_ ?_
      (fields "source_preset_id")
    all_goals
      intro dropped
      have null := null_of_excluded dropped
      exact string_of_null null
  have presetRevision : p.sourcePresetRevision = q.sourcePresetRevision := by
    refine field_inj Json.ofString?_injective Json.sorted_ofString? none ?_ ?_
      (fields "source_preset_revision")
    all_goals
      intro dropped
      have null := null_of_excluded dropped
      exact string_of_null null
  cases p
  cases q
  simp_all

end WorkspaceInitializeRequest

section Provision

variable {sha256 : String → String} {sdk : Sdk} {env : Env} {t : Tables}
  {ownerId operationId : String} {checked : CompanionKind × String}

/-- The documents two provision requests may be fingerprinted by. -/
def CompanionProvisionRequest.forms (p q : CompanionProvisionRequest) : List JsonDict :=
  [p.document false, p.document true, q.document false, q.document true]

theorem CompanionProvisionRequest.document_mem_forms (p q : CompanionProvisionRequest)
    (includeNullSource : Bool) :
    p.document includeNullSource ∈ p.forms q ∧ q.document includeNullSource ∈ p.forms q := by
  cases includeNullSource with
  | true => simp [forms]
  | false => simp [forms]

theorem prefix_inj {left right : String} (same : "sha256:" ++ left = "sha256:" ++ right) :
    left = right := by
  apply String.toList_injective
  have chars := congrArg String.toList same
  rw [String.toList_append, String.toList_append] at chars
  exact List.append_cancel_left chars

theorem provisionFingerprint_inj {p q : CompanionProvisionRequest} {stored asked : Bool}
    (apart : Separates sha256 .spaced (p.forms q))
    (same : provisionFingerprint sha256 p stored = provisionFingerprint sha256 q asked) :
    p = q := by
  have hashed := prefix_inj same
  exact CompanionProvisionRequest.document_inj
    (apart _ (p.document_mem_forms q stored).1 _ (p.document_mem_forms q asked).2 hashed)

theorem provisionFingerprint_mem_iff {p q : CompanionProvisionRequest} {legacy : Bool}
    (apart : Separates sha256 .spaced (p.forms q)) :
    provisionFingerprint sha256 p legacy ∈
        (q.provision sha256 ownerId operationId).requestFingerprint ::
          (q.provision sha256 ownerId operationId).replayFingerprints ↔ p = q := by
  simp only [CompanionProvisionRequest.provision, List.mem_cons, List.not_mem_nil, or_false]
  constructor
  · rintro (same | same)
    · exact provisionFingerprint_inj apart same
    · exact provisionFingerprint_inj apart same
  · rintro rfl
    cases legacy with
    | true => exact .inr rfl
    | false => exact .inl rfl

theorem requestFingerprint_inj {p q : WorkspaceInitializeRequest}
    (apart : Separates sha256 .compact [p.document, q.document])
    (same : requestFingerprint sha256 p = requestFingerprint sha256 q) : p = q := by
  have hashed := prefix_inj same
  exact WorkspaceInitializeRequest.document_inj (apart _ (by simp) _ (by simp) hashed)

/-- A receipt stored for one request, in either form, answers another request
exactly when they are the same request, and any other is refused as a
conflict; two initialisations have one fingerprint exactly when they are the
same. -/
theorem fingerprints_identify_requests (sdk : Sdk) (env : Env)
    (p q : CompanionProvisionRequest) (x y : WorkspaceInitializeRequest) (legacy : Bool)
    (apart : Separates sha256 .spaced (p.forms q))
    (stored : t.workspace.HasProvision ownerId operationId
      (provisionFingerprint sha256 p legacy))
    (valid : (q.provision sha256 ownerId operationId).validate = .ok checked)
    (formsApart : Separates sha256 .compact [x.document, y.document]) :
    ((∃ result, (provisionCompanion sdk env (q.provision sha256 ownerId operationId)).run t =
        .ok (result, t) ∧ result.replayed = true ∧
        result.requestFingerprint = provisionFingerprint sha256 p legacy) ↔ p = q) ∧
      (p ≠ q → (provisionCompanion sdk env (q.provision sha256 ownerId operationId)).run t =
        .error provisionConflict) ∧
      (requestFingerprint sha256 x = requestFingerprint sha256 y ↔ x = y) := by
  obtain ⟨companion, genome, realm, -, -, answered⟩ :=
    provisionCompanion_of_receipt sdk env stored rfl valid
  rw [answered]
  have initializations : requestFingerprint sha256 x = requestFingerprint sha256 y ↔ x = y :=
    ⟨requestFingerprint_inj formsApart, fun same => by rw [same]⟩
  by_cases same : p = q
  · rw [if_pos ((provisionFingerprint_mem_iff apart).mpr same)]
    exact ⟨⟨fun _ => same, fun _ => ⟨_, rfl, rfl, rfl⟩⟩,
      fun different => absurd same different, initializations⟩
  · rw [if_neg (mt (provisionFingerprint_mem_iff apart).mp same)]
    refine ⟨⟨?_, fun equal => absurd equal same⟩, fun _ => rfl, initializations⟩
    rintro ⟨result, impossible, -⟩
    cases impossible

end Provision

/-- The fields every form of the requests below begins with. -/
def authoredHead : String :=
  "\x7b\"companion_display_name\": \"Second\", \"kind\": \"conversational\"," ++
    " \"persona\": \x7b\"tone\": \"calm\"\x7d"

/-- The digests of the texts the requests below are written as. -/
def sampleDigests : List (String × String) :=
  [(authoredHead ++ ", \"source_preset_id\": \"calm\"\x7d",
    "dd53e1cb36010749a768122c416966d1438769b6ef2b9516b941a58ac6ff1f6e"),
   (authoredHead ++ ", \"source_preset_id\": \"calm\", \"source_preset_revision\": null\x7d",
    "9c83109bc9e4c10813da068cf521e46c02acc75097491e212346f9e4c1932b55"),
   (authoredHead ++ "\x7d",
    "c7ad1f2d081f7e3c7e19998f009ca2d9231e4ad52cc655d906d702008d83a208"),
   (authoredHead ++ ", \"source_preset_id\": null, \"source_preset_revision\": null\x7d",
    "08bc50359fb09d2c579f17362c2d29b8ac7050f78f49f063dcb70f084ad03e9e"),
   ("\x7b\"companion_display_name\":\"Eidolon\",\"owner_display_name\":\"Owner\"\x7d",
    "f4392dfb5d287d8ead918640038bd5e336a7a9f8f719eda85463fdd98b0273f7"),
   ("\x7b\"companion_display_name\":\"Eidolon\",\"owner_display_name\":\"Owner\"" ++
      ",\"source_preset_id\":\"calm\"\x7d",
    "4e09675bf8b8cc66555dd59fbb365112803ac55a80de80bd32f1f6aa5c93f74f")]

def sampleSha256 (text : String) : String := (sampleDigests.lookup text).getD ""

def presetRequest : CompanionProvisionRequest :=
  { companionDisplayName := "Second"
    persona := some { fields := [("tone", .str "calm")], ordered := by decide +kernel }
    sourcePresetId := some "calm" }

/-- The same Companion, its source not declared. -/
def ownWordsRequest : CompanionProvisionRequest :=
  { presetRequest with sourcePresetId := none }

def plainInitialization : WorkspaceInitializeRequest :=
  { ownerDisplayName := "Owner" }

def presetInitialization : WorkspaceInitializeRequest :=
  { plainInitialization with sourcePresetId := some "calm" }

theorem fingerprints_identify_requests_preset :
    ∃ result db',
      (replay .plain (numbered firstDefaultCommands) .empty).transact
          (provisionCompanion .plain secondEnv
            (presetRequest.provision sampleSha256 "owner" secondProvision.operationId)) =
        .ok (result, db') ∧
      (provisionCompanion .plain secondEnv
          (ownWordsRequest.provision sampleSha256 "owner" secondProvision.operationId)).run
        db'.tables = .error provisionConflict ∧
      requestFingerprint sampleSha256 plainInitialization ≠
        requestFingerprint sampleSha256 presetInitialization := by
  let request := presetRequest.provision sampleSha256 "owner" secondProvision.operationId
  have provisions : (((replay .plain (numbered firstDefaultCommands) .empty).transact
      (provisionCompanion .plain secondEnv request)).toOption.map (fun (result, _) =>
        (result.replayed, result.requestFingerprint))) =
      some (false, provisionFingerprint sampleSha256 presetRequest false) := by
    decide +kernel
  obtain ⟨⟨result, db'⟩, transacted, facts⟩ := Option.map_eq_some_iff.mp provisions
  simp only [Prod.mk.injEq] at facts
  obtain ⟨created, fingerprint⟩ := facts
  have provisioned := Tx.ok_of_toOption transacted
  have stored := (provisionCompanion_receipt provisioned (by simp [created])).1
  rw [fingerprint] at stored
  have apart : presetRequest ≠ ownWordsRequest := by
    intro same
    cases congrArg CompanionProvisionRequest.sourcePresetId same
  have valid : (ownWordsRequest.provision sampleSha256 "owner"
      secondProvision.operationId).validate = .ok (.conversational, "Second") := by
    decide +kernel
  have identified := fingerprints_identify_requests .plain secondEnv presetRequest ownWordsRequest
    plainInitialization presetInitialization false (by decide +kernel) stored valid
    (by decide +kernel)
  refine ⟨result, db', provisioned, identified.2.1 apart, ?_⟩
  intro same
  cases congrArg WorkspaceInitializeRequest.sourcePresetId (identified.2.2.mp same)

end EidolonData
