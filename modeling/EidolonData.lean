import EidolonData.Results.ArchivedOwner
import EidolonData.Results.DefaultPointer
import EidolonData.Results.DefaultRuntime
import EidolonData.Results.GuardBinding
import EidolonData.Results.LifecycleRevision
import EidolonData.Results.OwnerRevision
import EidolonData.Results.CompanionRevision
import EidolonData.Results.SharedMemory
import EidolonData.Results.TeamRuns
import EidolonData.Results.TeamRevisions
import EidolonData.Results.TeamPins
import EidolonData.Results.ProvisionReceipt
import EidolonData.Results.OnboardingReceipt
import EidolonData.Results.EditReceipt
import EidolonData.Results.EditTokens
import EidolonData.Results.PersonaHistory
import EidolonData.Results.PersonaPointer
import EidolonData.Results.EvolutionApproval
import EidolonData.Results.OwnerDeletion
import EidolonData.Results.OverlappingCommands
import EidolonData.Results.HomeRefinement
import EidolonData.Results.HomeCompareAndSet
import EidolonData.Results.HomeReads
import EidolonData.Results.HomeReplies
import EidolonData.Results.HomeRepresentation
import EidolonData.Results.PrivateMemory
import EidolonData.Results.PersonDeletion
import EidolonData.Results.BiometricErasure
import EidolonData.Results.Promotion
import EidolonData.Results.IndependentObservations
import EidolonData.Results.CandidatePool
import EidolonData.Results.PersonRevision
import EidolonData.Results.ProvisionalViews
import EidolonData.Results.EvidenceReceipt
import EidolonData.Results.RequestFingerprints
import EidolonData.Results.FaceProfiles
import EidolonData.Results.RosterCursors
import EidolonData.Results.ListingPages
import EidolonData.Results.PutAway
import EidolonData.Results.DefaultHomes
import EidolonData.Results.ProducerSequence
import EidolonData.Results.ObjectStorage
import EidolonData.Results.ConversationPreferences
import EidolonData.Results.PersonaLineage
import EidolonData.Results.PersonaRestores
import EidolonData.Results.DeletionReceipts
import EidolonData.Results.ObjectLedger
import EidolonData.Results.ObjectRoundTrip
import EidolonData.Results.StoredPhotos
import EidolonData.Results.EnrollmentReplacement
