import EidolonData.Services.Deletion
import EidolonData.Services.Guard
import EidolonData.Services.Lifecycle
import EidolonData.Services.Onboarding
import EidolonData.Services.PersonFaces
import EidolonData.Services.Persona
import EidolonData.Services.SmartHome
import EidolonData.Services.TeamAssets
import EidolonData.Services.Voiceprints

/-!
# Commands and runs

Every command of the modelled services with its arguments, and the runs of
any number of them, each committed or rolled back as a whole.
-/

namespace EidolonData

open Relational

inductive Command where
  | createOwner (ownerId displayName kind : String) (profileJson settingsJson : Option JsonDict)
  | updateOwner (ownerId : String) (displayName : Option String)
      (profileJson settingsJson : Option JsonDict)
  | renameOwner (ownerId displayName : String)
  | archiveOwner (ownerId : String)
  | deleteOwner (ownerId : String)
  | initializeOwnerWorkspace (request : InitializationRequest)
  | provisionWorkspace (request : ProvisionWorkspaceRequest)
  | provisionCompanion (request : ProvisionRequest)
  | ensureMemoryRealm (ownerId companionId : String) (request : RealmRequest)
  | beginRetirement (ownerId companionId : String) (expectedRevision : Option Int)
      (replacementCompanionId : Option String)
  | archiveCompanion (ownerId companionId : String) (expectedRevision : Option Int)
  | putAwayCompanion (ownerId companionId : String) (expectedRevision : Option Int)
      (replacementCompanionId : Option String)
  | restoreCompanion (ownerId companionId : String) (expectedRevision : Option Int)
  | setDefaultCompanion (ownerId companionId : String) (expectedRevision : Option Int)
  | deleteCompanion (ownerId companionId : String) (allowDefault : Bool)
  | editPersona (companionId : String) (request : PersonaEditRequest)
  | renameCompanion (companionId displayName : String)
  | restoreChapter (companionId genomeId : String) (ownerId : Option String)
  | rollbackToGenome (ownerId companionId genomeId : String)
  | resetToOrigin (ownerId companionId : String)
  | createGenome (request : GenomeRequest)
  | recordObservation (event : ObservationEvent)
  | createEvolutionProposal (proposal : EvolutionProposal)
  | approveEvolution (companionId ownerId proposedGenomeId : String)
      (expectedBaseGenomeId : Option String)
  | rejectEvolution (ownerId genomeId : String) (companionId : Option String) (reason : String)
  | bindGuard (ownerId guardCompanionId deviceId policyId : String)
      (policyJson : Option JsonDict) (bindingId : Option String)
  | updateGuardPolicy (bindingId : String) (expectedRevision : Int) (policyId : String)
      (policyJson : JsonDict)
  | disableGuard (bindingId : String) (revoke : Bool)
  | createPerson (ttl : Timestamp) (ownerId : String) (request : PersonCreateRequest)
  | updatePerson (ttl : Timestamp) (ownerId personId : String) (request : PersonUpdateRequest)
  | retireCandidate (ownerId personId : String) (expectedRevision : Int)
  | archivePerson (ownerId personId : String) (expectedRevision : Int)
  | restorePerson (ownerId personId : String) (expectedRevision : Int)
  | permanentlyDelete (ownerId personId : String) (expectedRevision : Int) (complete : Bool)
  | writeMemoryDefaults (ownerId : String) (expectedRevision : Option Int) (policy : Json)
  | writeProvisionalPolicy (ownerId personId : String) (expectedRevision : Option Int)
      (policy : Json)
  | resolveMemoryRealm (ownerId personId : String) (create : Bool)
  | suspendMemory (ownerId personId : String) (expectedRevision : Int)
  | restoreMemory (ownerId personId : String) (expectedRevision : Int)
  | runVoiceprint (policies : VoicePolicies) (ownerId : String) (command : VoiceprintCommand)
  | replaceFace (ownerId personId : String) (expectedRevision : Int) (imageBase64 : String)
  | deleteFace (ownerId personId : String) (expectedRevision : Int)
  | writeTeam (ownerId : String) (command : TeamCommand)
  | writeHome (ownerId : String) (write : HomeWrite)

/-- The save of a team's revision. -/
def Command.saveTeam (ownerId hostId teamId : String) (expectedRevision : Int)
    (configuration : TeamConfiguration) : Command :=
  .writeTeam ownerId (.save hostId teamId expectedRevision configuration)

/-- The transaction of a command. -/
def Command.session (sdk : Sdk) (env : Env) : Command → Session Unit
  | createOwner ownerId displayName kind profileJson settingsJson =>
      effect (EidolonData.createOwner env ownerId displayName kind profileJson settingsJson)
  | updateOwner ownerId displayName profileJson settingsJson =>
      effect (EidolonData.updateOwner env ownerId displayName profileJson settingsJson)
  | renameOwner ownerId displayName => effect (EidolonData.renameOwner ownerId displayName)
  | archiveOwner ownerId => effect (EidolonData.archiveOwner env ownerId)
  | deleteOwner ownerId => effect (EidolonData.deleteOwner env ownerId)
  | initializeOwnerWorkspace request =>
      effect (EidolonData.initializeOwnerWorkspace sdk env request)
  | provisionWorkspace request => effect (EidolonData.provisionWorkspace sdk env request)
  | provisionCompanion request => effect (EidolonData.provisionCompanion sdk env request)
  | ensureMemoryRealm ownerId companionId request =>
      effect (EidolonData.ensureMemoryRealm env ownerId companionId request)
  | beginRetirement ownerId companionId expectedRevision replacementCompanionId =>
      effect (EidolonData.beginRetirement sdk env ownerId companionId expectedRevision
        replacementCompanionId)
  | archiveCompanion ownerId companionId expectedRevision =>
      effect (EidolonData.archiveCompanion sdk env ownerId companionId expectedRevision)
  | putAwayCompanion ownerId companionId expectedRevision replacementCompanionId =>
      effect (EidolonData.putAwayCompanion sdk env ownerId companionId expectedRevision
        replacementCompanionId)
  | restoreCompanion ownerId companionId expectedRevision =>
      effect (EidolonData.restoreCompanion sdk env ownerId companionId expectedRevision)
  | setDefaultCompanion ownerId companionId expectedRevision =>
      effect (EidolonData.setDefaultCompanion env ownerId companionId expectedRevision)
  | deleteCompanion ownerId companionId allowDefault =>
      effect (EidolonData.deleteCompanion env ownerId companionId allowDefault)
  | editPersona companionId request => effect (EidolonData.editPersona sdk env companionId request)
  | renameCompanion companionId displayName =>
      effect (EidolonData.renameCompanion sdk env companionId displayName)
  | restoreChapter companionId genomeId ownerId =>
      effect (EidolonData.restoreChapter sdk env companionId genomeId "恢复性格设定" ownerId)
  | rollbackToGenome ownerId companionId genomeId =>
      effect (EidolonData.rollbackToGenome sdk env ownerId companionId genomeId)
  | resetToOrigin ownerId companionId =>
      effect (EidolonData.resetToOrigin sdk env ownerId companionId)
  | createGenome request => effect (EidolonData.createGenome sdk env request)
  | recordObservation event => effect (EidolonData.recordObservation env event)
  | createEvolutionProposal proposal =>
      effect (EidolonData.createEvolutionProposal sdk env proposal)
  | approveEvolution companionId ownerId proposedGenomeId expectedBaseGenomeId =>
      effect (EidolonData.approveEvolution sdk env companionId ownerId proposedGenomeId
        expectedBaseGenomeId)
  | rejectEvolution ownerId genomeId companionId reason =>
      effect (EidolonData.rejectEvolution env ownerId genomeId companionId reason)
  | bindGuard ownerId guardCompanionId deviceId policyId policyJson bindingId =>
      effect (EidolonData.bindGuard env ownerId guardCompanionId deviceId policyId policyJson
        bindingId)
  | updateGuardPolicy bindingId expectedRevision policyId policyJson =>
      effect (EidolonData.updateGuardPolicy env bindingId expectedRevision policyId policyJson)
  | disableGuard bindingId revoke => effect (EidolonData.disableGuard env bindingId revoke)
  | createPerson ttl ownerId request =>
      effect (EidolonData.createPerson sdk env ttl ownerId request)
  | updatePerson ttl ownerId personId request =>
      effect (EidolonData.updatePerson sdk env ttl ownerId personId request)
  | retireCandidate ownerId personId expectedRevision =>
      effect (EidolonData.retireCandidate env ownerId personId expectedRevision)
  | archivePerson ownerId personId expectedRevision =>
      effect (EidolonData.archivePerson sdk env ownerId personId expectedRevision)
  | restorePerson ownerId personId expectedRevision =>
      effect (EidolonData.restorePerson sdk env ownerId personId expectedRevision)
  | permanentlyDelete ownerId personId expectedRevision complete =>
      effect (EidolonData.permanentlyDelete env ownerId personId expectedRevision complete)
  | writeMemoryDefaults ownerId expectedRevision policy =>
      effect (EidolonData.writeMemoryDefaults sdk env ownerId expectedRevision policy)
  | writeProvisionalPolicy ownerId personId expectedRevision policy =>
      effect (EidolonData.writeProvisionalPolicy sdk env ownerId personId expectedRevision policy)
  | resolveMemoryRealm ownerId personId create =>
      effect (EidolonData.resolveMemoryRealm env ownerId personId create)
  | suspendMemory ownerId personId expectedRevision =>
      effect (EidolonData.suspendMemory sdk env ownerId personId expectedRevision)
  | restoreMemory ownerId personId expectedRevision =>
      effect (EidolonData.restoreMemory env ownerId personId expectedRevision)
  | runVoiceprint policies ownerId command => command.session sdk env policies ownerId
  | replaceFace ownerId personId expectedRevision imageBase64 =>
      effect (EidolonData.replaceFace sdk env ownerId personId expectedRevision imageBase64)
  | deleteFace ownerId personId expectedRevision =>
      effect (EidolonData.deleteFace sdk env ownerId personId expectedRevision)
  | writeTeam ownerId command => effect (command.session sdk ownerId)
  | writeHome ownerId write => effect (write.session sdk env ownerId)

/-- One command with what it drew from outside. -/
structure Call where
  env : Env
  command : Command

/-- The state after a call, whether it committed or was rolled back. -/
def Call.step (sdk : Sdk) (db : Database) (call : Call) : Database :=
  db.after (call.command.session sdk call.env)

/-- The state a run of calls leads to. -/
def replay (sdk : Sdk) (calls : List Call) (db : Database) : Database :=
  calls.foldl (Call.step sdk) db

@[simp] theorem replay_nil (sdk : Sdk) (db : Database) : replay sdk [] db = db := rfl

@[simp] theorem replay_cons (sdk : Sdk) (call : Call) (calls : List Call) (db : Database) :
    replay sdk (call :: calls) db = replay sdk calls (call.step sdk db) := rfl

theorem replay_append (sdk : Sdk) (first second : List Call) (db : Database) :
    replay sdk (first ++ second) db = replay sdk second (replay sdk first db) :=
  List.foldl_append

/-- The calls of these commands one after another, each drawing what none
before it drew. -/
def numbered (commands : List Command) : List Call :=
  commands.zipIdx.map (fun (command, number) =>
    { env := { uuid := fun site => .ofNat (16 * number + site), now := number }
      command := command })

end EidolonData
