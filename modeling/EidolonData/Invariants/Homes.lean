import EidolonData.Effects.Commands
import EidolonData.Effects.Parts
import EidolonData.Home.Constraints

/-!
# The rows of every home

In every reachable state each Owner's rows stand for a home the SDK accepts,
in the order in which they are read back, and a home nobody has written has
none.  A write of the registry keeps that, and edits the home as it says.
-/

namespace EidolonData

open Relational

structure HomeRows.Sound (sdk : Sdk) (rows : HomeRows) : Prop where
  ordered : rows.Ordered
  unwritten : rows.registry = none → rows.Empty
  accepted : sdk.validateRegistry rows.home.registry = .ok ()

section Writes

variable {sdk : Sdk} {rows : HomeRows} {ownerId : String} {expected : Int}

/-- The rows once the revision has moved and nothing else. -/
def HomeRows.opened (rows : HomeRows) (ownerId : String) (expected : Int) : HomeRows :=
  { rows with registry := some { ownerId := ownerId, revision := expected + 1 } }

theorem revision_of_expects (current : Expects expected rows.revision?) :
    rows.home.revision = expected := by
  show rows.revision?.getD 0 = expected
  rw [current]
  split
  · next first => rw [first, Option.getD_none]
  · rfl

@[simp] theorem HomeEdit.rows_registry (edit : HomeEdit) :
    (edit.rows ownerId rows).registry = rows.registry := by
  cases edit with
  | _ => rfl

theorem HomeEdit.sourced_of_accepted {edit : HomeEdit} {current : Registry} {revision : Int}
    (contract : sdk.RegistryContract) (devices : current.devices = rows.home.devices)
    (accepted : sdk.validateRegistry { edit.document current with revision := revision } = .ok ())
    (finds : edit.Finds rows) : edit.Sourced := by
  have sourced := contract.sourced _ accepted
  cases edit with
  | createDevice device =>
      apply sourced device
      exact List.mem_append_right _ (List.mem_singleton.mpr rfl)
  | updateDevice device =>
      apply sourced device
      obtain ⟨row, member, same⟩ := List.mem_map.mp finds
      refine List.mem_map.mpr ⟨row.load, ?_, if_pos same⟩
      rw [devices]
      exact List.mem_map_of_mem member
  | createArea | updateArea | deleteArea | deleteDevice | createScene | updateScene | deleteScene
  | setPlacement | clearPlacement => trivial

theorem HomeEdit.apply_revision (edit : HomeEdit) (home : Home) :
    (edit.apply home).revision = home.revision + 1 := by
  cases edit with
  | _ => rfl

theorem HomeEdit.apply_relabelled (edit : HomeEdit) (home : Home) (revision next : Int) :
    ({ edit.apply { home with revision := revision } with revision := next } : Home) =
      { edit.apply home with revision := next } := by
  cases edit with
  | _ => rfl

theorem Registry.Agrees.labelled {left right : Registry} (agrees : left.Agrees right)
    (revision : Int) : ({ left with revision := revision } : Registry).Agrees right :=
  { areas := agrees.areas
    devices := agrees.devices
    scenes := agrees.scenes
    placements := agrees.placements }

theorem HomeRows.Stored.refs (stored : rows.Stored) :
    (rows.home.placements.map Placement.deviceRef).Nodup := by
  have refs := stored.placementRefs
  rw [HomeRows.home, List.map_map]
  exact refs

theorem HomeEdit.rows_sound {edit : HomeEdit} {proposed : Registry} {c : HomeChange}
    (contract : sdk.RegistryContract) (sound : rows.Sound sdk) (stored : rows.Stored)
    (current : Expects expected rows.revision?)
    (stored' : (edit.rows ownerId (rows.opened ownerId expected)).Stored)
    (loaded : c.current = { rows.home.registry with revision := expected })
    (moved : c.revision = expected + 1)
    (proposes : edit.Proposes sdk c (rows.opened ownerId expected) proposed) :
    (edit.rows ownerId (rows.opened ownerId expected)).home = edit.apply rows.home ∧
      (edit.rows ownerId (rows.opened ownerId expected)).Sound sdk := by
  have storedOpened : (rows.opened ownerId expected).Stored := { stored with }
  have orderedOpened : (rows.opened ownerId expected).Ordered := { sound.ordered with }
  have accepted := proposes.accepted
  rw [proposes.document, moved] at accepted
  have devices : c.current.devices = (rows.opened ownerId expected).home.devices := by
    rw [loaded]
    rfl
  have sourced := HomeEdit.sourced_of_accepted contract devices accepted proposes.finds
  have home : (edit.rows ownerId (rows.opened ownerId expected)).home = edit.apply rows.home := by
    rw [edit.home_rows storedOpened stored' sourced]
    have revision := revision_of_expects current
    have opened : (rows.opened ownerId expected).home =
        { rows.home with revision := expected + 1 } := rfl
    rw [opened, HomeEdit.apply_relabelled, ← revision, ← HomeEdit.apply_revision]
  refine ⟨home, ?_⟩
  refine
    { ordered := edit.rows_ordered orderedOpened storedOpened stored'
      unwritten := ?_
      accepted := ?_ }
  · rw [HomeEdit.rows_registry]
    rintro ⟨⟩
  · rw [home]
    have before : c.current.Agrees rows.home.registry := by
      rw [loaded]
      exact ⟨.refl _, rfl, rfl, .refl _⟩
    have agrees := (edit.document_agrees before stored.refs).symm
    refine contract.unordered _ _ ?_ (agrees.labelled (expected + 1)) accepted
    show expected + 1 = (edit.apply rows.home).revision
    rw [HomeEdit.apply_revision, revision_of_expects current]

theorem Registry.settle_agrees (sample : Registry) (revision : Int) :
    (sample.settle revision).registry.Agrees sample :=
  Home.registry_agrees (.refl _) rfl rfl (.refl _)

theorem Registry.rows_sound {sample : Registry} {revision : Int} (contract : sdk.RegistryContract)
    (empty : rows.Empty)
    (stored' : (sample.addRows ownerId (rows.opened ownerId expected)).Stored)
    (moved : revision = expected + 1)
    (accepted : sdk.validateRegistry { sample with revision := revision } = .ok ()) :
    (sample.addRows ownerId (rows.opened ownerId expected)).home = sample.settle (expected + 1) ∧
      (sample.addRows ownerId (rows.opened ownerId expected)).Sound sdk := by
  have opened : (rows.opened ownerId expected).Empty := { empty with }
  have same : sample.addRows ownerId (rows.opened ownerId expected) =
      sample.rows ownerId { ownerId := ownerId, revision := expected + 1 } :=
    Registry.addRows_of_empty opened rfl
  rw [same] at stored' ⊢
  have home := Registry.home_rows stored'
    (contract.sourced { sample with revision := revision } accepted)
  refine ⟨home, ?_⟩
  refine
    { ordered := Registry.rows_ordered stored'
      unwritten := ?_
      accepted := ?_ }
  · rintro ⟨⟩
  · rw [home]
    subst moved
    have agrees := (sample.settle_agrees (expected + 1)).symm
    refine contract.unordered { sample with revision := expected + 1 } _ ?_
      (agrees.labelled (expected + 1)) accepted
    rfl

theorem HomeRows.sound_empty (contract : sdk.RegistryContract) : ({} : HomeRows).Sound sdk := by
  refine
    { ordered := ⟨.nil, .nil, .nil, fun _ => .nil⟩
      unwritten := fun _ => ⟨rfl, rfl, rfl, rfl, rfl⟩
      accepted := ?_ }
  exact contract.unwritten

end Writes

def SmartHome.Sound (sdk : Sdk) (h : SmartHome) : Prop := ∀ ownerId, (h.rowsOf ownerId).Sound sdk

section Steps

variable {sdk : Sdk} {env : Env} {ownerId : String} {t t' : Tables}

theorem SmartHome.Sound.loaded (sound : t.home.Sound sdk) (ownerId : String) (revision : Int) :
    t.home.loaded ownerId revision =
      { (t.home.rowsOf ownerId).home.registry with revision := revision } :=
  SmartHome.loaded_eq (sound ownerId).ordered revision

theorem SmartHome.loads_actions {h : SmartHome} (stored : (h.rowsOf ownerId).Stored) :
    (h.selectActions ownerId).find? (fun action =>
      (h.selectScenes ownerId).all (fun scene => scene.sceneId ≠ action.sceneId)) = none := by
  apply List.find?_eq_none.mpr
  intro action member
  have actionMember : action ∈ (h.rowsOf ownerId).sceneActions :=
    mem_orderBy.mp (mem_orderBy.mp member)
  obtain ⟨scene, sceneMember, same⟩ := stored.actionScene action actionMember
  simp only [List.all_eq_true, decide_eq_true_eq, not_forall, not_not]
  exact ⟨scene, mem_orderBy.mpr sceneMember, same⟩

theorem getRegistry_run (sound : (t.home.rowsOf ownerId).Sound sdk)
    (stored : (t.home.rowsOf ownerId).Stored) : (getRegistry sdk ownerId).run t =
      .ok ((t.home.rowsOf ownerId).home.registry, t) := by
  have loaded : t.home.loaded ownerId (t.home.rowsOf ownerId).home.revision =
      (t.home.rowsOf ownerId).home.registry := SmartHome.loaded_eq sound.ordered _
  have accepted := sound.accepted
  rw [← loaded] at accepted ⊢
  simp only [getRegistry, loadRegistry, Tx.run_read_bind, SmartHome.loads_actions stored]
  show (Tx.lift _ (sdk.validateRegistry (t.home.loaded ownerId _)) >>= _).run t = _
  have validated : sdk.validateRegistry (t.home.loaded ownerId
      (((t.home.registries.get? ownerId).map (fun row => row.revision)).getD 0)) = .ok () :=
    accepted
  rw [validated]
  rfl

theorem HomeWritten.opened {write : HomeWrite} {proposed : Registry}
    (made : HomeWritten sdk env ownerId t write proposed t') :
    (t'.home.rowsOf ownerId).registry =
      some { ownerId := ownerId, revision := write.expectedRevision + 1 } := by
  cases made with
  | edited written =>
      rw [written.rows.own, HomeEdit.rows_registry]
      rfl
  | loaded named known written =>
      rw [written.rows.own]
      rfl

/-- The actions a writer leaves are those of scenes that are there. -/
theorem HomeWritten.stored {write : HomeWrite} {proposed : Registry}
    (made : HomeWritten sdk env ownerId t write proposed t')
    (stored : (t.home.rowsOf ownerId).Stored) : (t'.home.rowsOf ownerId).Stored := by
  apply SmartHome.stored_of_actions
  cases made with
  | edited written proposes =>
      rw [written.rows.own]
      exact HomeEdit.rows_actionScene { stored with } proposes.finds
  | loaded named known written loads =>
      rw [written.rows.own]
      have empty := SmartHome.empty_of_loaded stored loads.areas loads.devices loads.scenes
        loads.placements
      exact Registry.addRows_actionScene { empty with }

theorem HomeWritten.sound {write : HomeWrite} {proposed : Registry}
    (made : HomeWritten sdk env ownerId t write proposed t') (contract : sdk.RegistryContract)
    (before : t.home.Integrity t.workspace) (sound : t.home.Sound sdk) :
    t'.home.Sound sdk ∧ ∀ edit expected, write = .edit edit expected →
      (t'.home.rowsOf ownerId).home = edit.apply (t.home.rowsOf ownerId).home := by
  have stored := before.stored ownerId
  have stored' := made.stored stored
  cases made with
  | @edited edit expected change target proposed t' written proposes =>
      rw [written.rows.own] at stored'
      obtain ⟨home, own⟩ := HomeEdit.rows_sound contract (sound ownerId) stored written.current
        stored' (sound.loaded ownerId expected) rfl proposes
      constructor
      · intro other
        by_cases same : other = ownerId
        · subst same
          rw [written.rows.own]
          exact own
        · rw [written.rows.others other same]
          exact sound other
      · rintro _ _ ⟨⟩
        rw [written.rows.own]
        exact home
  | @loaded write name sample proposed t' named known written loads =>
      rw [written.rows.own] at stored'
      have empty := SmartHome.empty_of_loaded stored loads.areas loads.devices loads.scenes
        loads.placements
      have accepted := loads.accepted
      rw [loads.document] at accepted
      obtain ⟨-, own⟩ := Registry.rows_sound contract empty stored' rfl accepted
      constructor
      · intro other
        by_cases same : other = ownerId
        · subst same
          rw [written.rows.own]
          exact own
        · rw [written.rows.others other same]
          exact sound other
      · rintro edit expected rfl
        cases named

/-- A condition one Owner's rows meet together keeps them all, or none. -/
theorem select_retain_owned {ρ κ : Type} [HasKey ρ κ] (table : Table ρ) {owner : ρ → String}
    {kept : ρ → Bool} {decision : Bool}
    (same : ∀ row ∈ table.rows, owner row = ownerId → kept row = decision) :
    (table.retain kept).select (fun row => owner row = ownerId) =
      if decision then table.select (fun row => owner row = ownerId) else [] := by
  rw [Table.select_retain]
  have decided : ∀ row ∈ table.select (fun row => owner row = ownerId), kept row = decision :=
    fun row member => same row (List.mem_of_mem_filter member) (Table.owner_of_mem_select member)
  cases decision with
  | true => exact List.filter_eq_self.mpr decided
  | false =>
      apply List.filter_eq_nil_iff.mpr
      intro row member
      simp [decided row member]

/-- The `ON DELETE` actions remove the home of an Owner with the Owner, and
leave every other home as it is. -/
theorem SmartHome.Integrity.rowsOf_cascade {w w' : Workspace} {h : SmartHome}
    (integrity : h.Integrity w) (ownerId : String) :
    (h.cascade w').rowsOf ownerId = if w'.owners.has ownerId then h.rowsOf ownerId else {} := by
  have owned : ∀ {ρ κ : Type} [HasKey ρ κ] (table : Table ρ) (owner : ρ → String),
      (table.retain (fun row => w'.owners.has (owner row))).select
          (fun row => owner row = ownerId) =
        if w'.owners.has ownerId then table.select (fun row => owner row = ownerId) else [] := by
    intro ρ κ _ table owner
    apply select_retain_owned
    intro row _ same
    rw [same]
  have actions : (h.cascade w').sceneActions.select (fun row => row.ownerId = ownerId) =
      if w'.owners.has ownerId then h.sceneActions.select (fun row => row.ownerId = ownerId)
      else [] := by
    apply select_retain_owned
    intro action member same
    obtain ⟨scene, found⟩ := Table.has_iff.mp (integrity.actionScene action member)
    have sceneKey : (scene.ownerId, scene.sceneId) = (action.ownerId, action.sceneId) :=
      Table.key_of_get? found
    have sceneOwner : scene.ownerId = ownerId := (congrArg Prod.fst sceneKey).trans same
    simp only [same, Table.has, Table.get?_retain] at found ⊢
    cases known : (w'.owners.get? ownerId).isSome with
    | false => rfl
    | true => simp [found, sceneOwner, known, Option.filter]
  have registry : (h.cascade w').registries.get? ownerId =
      if w'.owners.has ownerId then h.registries.get? ownerId else none := by
    simp only [SmartHome.cascade, Table.get?_retain]
    cases stored : h.registries.get? ownerId with
    | none => simp
    | some row =>
        have same : row.ownerId = ownerId := Table.key_of_get? stored
        cases known : w'.owners.has ownerId with
        | false => simp [Option.filter, same, known]
        | true => simp [Option.filter, same, known]
  simp only [SmartHome.rowsOf, registry, actions]
  simp only [SmartHome.cascade, owned]
  split
  · rfl
  · rfl

theorem SmartHome.Sound.initialized {h h' : SmartHome} (sound : h.Sound sdk)
    (contract : sdk.RegistryContract) (none : h.rowsOf ownerId = {})
    (accepted : sdk.validateRegistry { sdk.apartmentSample with revision := 1 } = .ok ())
    (rows : SmartHome.EditsRows ownerId (fun rows => sdk.apartmentSample.addRows ownerId
      { rows with registry := some { ownerId := ownerId, revision := 1 } }) h h') :
    h'.Sound sdk ∧ (h'.rowsOf ownerId).Stored := by
  have empty : ({} : HomeRows).Empty := ⟨rfl, rfl, rfl, rfl, rfl⟩
  have stored' : (h'.rowsOf ownerId).Stored := by
    apply SmartHome.stored_of_actions
    rw [rows.own, none]
    exact Registry.addRows_actionScene { empty with }
  refine ⟨?_, stored'⟩
  rw [rows.own, none] at stored'
  obtain ⟨-, own⟩ := @Registry.rows_sound sdk {} ownerId 0 sdk.apartmentSample 1 contract
    empty stored' rfl accepted
  intro other
  by_cases same : other = ownerId
  · subst same
    rw [rows.own, none]
    exact own
  · rw [rows.others other same]
    exact sound other

/-- What a command does to the homes. -/
inductive HomesChange (sdk : Sdk) (t t' : Tables) : Prop where
  | kept (home : t'.home = t.home)
  | written {env : Env} {ownerId : String} {write : HomeWrite} {proposed : Registry}
      (made : HomeWritten sdk env ownerId t write proposed t')
  /-- An onboarding loads the packaged sample for the Owner it creates. -/
  | initialized {ownerId : String} (unknown : t.workspace.owners.has ownerId = false)
      (accepted : sdk.validateRegistry { sdk.apartmentSample with revision := 1 } = .ok ())
      (rows : SmartHome.EditsRows ownerId (fun rows => sdk.apartmentSample.addRows ownerId
        { rows with registry := some { ownerId := ownerId, revision := 1 } }) t.home t'.home)
  | removed (home : t'.home = t.home.cascade t'.workspace)

theorem HomesChange.sound (changed : HomesChange sdk t t') (contract : sdk.RegistryContract)
    (before : t.home.Integrity t.workspace) (sound : t.home.Sound sdk) :
    t'.home.Sound sdk := by
  cases changed with
  | kept home =>
      rw [home]
      exact sound
  | written made => exact (made.sound contract before sound).1
  | initialized unknown accepted rows =>
      exact (sound.initialized contract (before.rowsOf_unknown unknown) accepted rows).1
  | removed home =>
      intro ownerId
      rw [home, before.rowsOf_cascade ownerId]
      split
      · exact sound ownerId
      · exact HomeRows.sound_empty contract

end Steps

section Runs

variable (sdk : Sdk) (env : Env) (t : Tables)

theorem createOnboarding_homes (request : InitializationRequest)
    (ownerName companionName : String) :
    (createOnboarding sdk env request ownerName companionName).Ensures t
      (fun _ t' => HomesChange sdk t t') := by
  simp only [createOnboarding, Tx.ensures_bind, ensures_insertOwner, ensures_addFact]
  intro fresh
  refine (initializeOwnerHome_effect sdk env _ _ _).mono ?_
  intro _ t₁ initialized
  simp only [ensures_validated]
  intro genomeJson _
  have spares : ∀ seed, (provisionWorkspaceInSession sdk env seed).Spares
      Tables.besideWorkspace := provisionWorkspaceInSession_spares sdk env
  refine ((spares _).ensures t₁).mono ?_
  intro workspace t₂ same
  simp only [ensures_getOwner, Tx.pure_eq, Tx.ensures_done]
  have home : t₂.home = t₁.home := congrArg Prod.fst same
  refine .initialized (Table.has_eq_false_iff.mpr fresh) initialized.accepted ?_
  rw [home]
  exact initialized.rows

theorem initializeOwnerWorkspace_homes (request : InitializationRequest) :
    (initializeOwnerWorkspace sdk env request).Ensures t (fun _ t' => HomesChange sdk t t') := by
  simp only [initializeOwnerWorkspace, Tx.ensures_bind, ensures_check, ensures_getOwner]
  rintro ⟨ownerName, companionName⟩ _
  cases t.workspace.owners.get? (onboardingIds request.operationId).ownerId with
  | some owner =>
      refine (loadOnboardingResult_effect t _ _ owner).mono ?_
      rintro result t' ⟨rfl, -⟩
      exact .kept rfl
  | none => exact createOnboarding_homes sdk env t request ownerName companionName

theorem deleteOwner_homes (ownerId : String) :
    (deleteOwner env ownerId).Ensures t (fun _ t' => HomesChange sdk t t') := by
  simp only [deleteOwner, Tx.ensures_bind, ensures_getOwner]
  cases t.workspace.owners.get? ownerId with
  | none =>
      simp only [Tx.pure_eq, Tx.ensures_done]
      exact .kept rfl
  | some owner =>
      simp only [Tx.ensures_bind, Tx.ensures_read, Tx.ensures_modify, ensures_addFact, Tx.pure_eq,
        Tx.ensures_done]
      exact .removed rfl

theorem deleteCompanion_homes (ownerId companionId : String) (allowDefault : Bool) :
    (deleteCompanion env ownerId companionId allowDefault).Ensures t
      (fun _ t' => HomesChange sdk t t') := by
  simp only [deleteCompanion, Tx.ensures_bind, ensures_getCompanion, Tx.ensures_require,
    ensures_getOwner, Tx.ensures_refuseIf, Tx.ensures_read]
  intro _ _ _
  have beside : ∀ owner, (breakCompanionPointers owner companionId).Spares
      Tables.besideWorkspace := fun owner => breakCompanionPointers_spares owner companionId
  refine ((beside _).ensures t).mono ?_
  intro _ t₁ same
  have home : t₁.home = t.home := congrArg Prod.fst same
  simp only [Tx.ensures_modify, ensures_addFact, Tx.pure_eq, Tx.ensures_done]
  apply HomesChange.removed
  show t₁.home.cascade _ = t.home.cascade _
  rw [home]
  rfl

/-- Every command keeps the homes, edits one, loads the packaged one, or
removes those of its Owner. -/
theorem Command.session_homes (command : Command) :
    (command.session sdk env).Ensures t (fun _ t' => HomesChange sdk t t') := by
  by_cases written : ∃ ownerId write, command = .writeHome ownerId write
  · obtain ⟨ownerId, write, rfl⟩ := written
    refine (ensures_effect t _ _).mpr (((write.session_onward sdk env ownerId).runs t).mono ?_)
    intro proposed t' made
    exact .written made
  by_cases initialized : ∃ request, command = .initializeOwnerWorkspace request
  · obtain ⟨request, rfl⟩ := initialized
    exact (ensures_effect t _ _).mpr (initializeOwnerWorkspace_homes sdk env t request)
  by_cases ownerRemoved : ∃ ownerId, command = .deleteOwner ownerId
  · obtain ⟨ownerId, rfl⟩ := ownerRemoved
    exact (ensures_effect t _ _).mpr (deleteOwner_homes sdk env t ownerId)
  by_cases companionRemoved : ∃ ownerId companionId allowDefault,
      command = .deleteCompanion ownerId companionId allowDefault
  · obtain ⟨ownerId, companionId, allowDefault, rfl⟩ := companionRemoved
    exact (ensures_effect t _ _).mpr
      (deleteCompanion_homes sdk env t ownerId companionId allowDefault)
  have spares := command.session_home sdk env
    (fun ownerId write same => written ⟨ownerId, write, same⟩)
    (fun request same => initialized ⟨request, same⟩)
    (fun ownerId same => ownerRemoved ⟨ownerId, same⟩)
    (fun ownerId companionId allowDefault same =>
      companionRemoved ⟨ownerId, companionId, allowDefault, same⟩)
  refine (spares.ensures t).mono ?_
  intro _ t' same
  exact .kept same

theorem homes_sound {sdk : Sdk} (contract : sdk.RegistryContract) (calls : List Call) :
    (replay sdk calls .empty).tables.home.Sound sdk := by
  apply replay_preserves (fun db => db.tables.home.Sound sdk)
  · intro call db sound
    have stepped := call.step_post db (call.command.session_homes sdk call.env db.tables)
    generalize call.step sdk db = db' at stepped ⊢
    rcases stepped with rfl | changed
    · exact sound
    · exact changed.sound contract db.property.home sound
  · intro ownerId
    exact HomeRows.sound_empty contract

end Runs

end EidolonData
