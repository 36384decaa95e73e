import RustyFleet.Adapter.Authority
import RustyFleet.Adapter.Authorization
import RustyFleet.Adapter.CheckIns
import RustyFleet.Adapter.KioskShowControls
import RustyFleet.Adapter.KioskTransport
import RustyFleet.Adapter.QuestAwake
import RustyFleet.Adapter.Sessions
import RustyFleet.Adapter.State
import RustyFleet.Adapter.TermuxProofs
import RustyFleet.Contracts.Awake
import RustyFleet.Contracts.CheckIn
import RustyFleet.Contracts.Kiosk
import RustyFleet.Contracts.KioskApps
import RustyFleet.Contracts.KioskCatalog
import RustyFleet.Contracts.Observation
import RustyFleet.Contracts.OwnerOperation
import RustyFleet.Contracts.PackageLedger
import RustyFleet.Contracts.Packages
import RustyFleet.Contracts.Preflight
import RustyFleet.Contracts.SavedViews
import RustyFleet.Contracts.Text
import RustyFleet.Contracts.Violation
import RustyFleet.Contracts.WifiAdb
import RustyFleet.Contracts.WindowsHotspot
import RustyFleet.Hub.Calls
import RustyFleet.Hub.Frames
import RustyFleet.Hub.Kiosk
import RustyFleet.Hub.KioskApps
import RustyFleet.Hub.KioskCatalog
import RustyFleet.Hub.Observations
import RustyFleet.Hub.OwnerOperations
import RustyFleet.Hub.Packages
import RustyFleet.Hub.Preflights
import RustyFleet.Hub.Projections
import RustyFleet.Hub.Queries
import RustyFleet.Hub.QuestOwners
import RustyFleet.Hub.Rows
import RustyFleet.Hub.SavedViews
import RustyFleet.Hub.Snapshot
import RustyFleet.Hub.State
import RustyFleet.Hub.Watch
import RustyFleet.Hub.WindowsHotspot
import RustyFleet.Local.Connectivity
import RustyFleet.Local.Dispatch
import RustyFleet.Local.HttpResponses
import RustyFleet.Local.IngressRate
import RustyFleet.Onboarding.Cleanup
import RustyFleet.Onboarding.Generation
import RustyFleet.Onboarding.PrivateTree
import RustyFleet.Onboarding.Profiles
import RustyFleet.Provider.Descriptors
import RustyFleet.Provider.Identifiers
import RustyFleet.Provider.Timestamps
import RustyFleet.Safety.AdapterLedger
import RustyFleet.Safety.AppSearch
import RustyFleet.Safety.AwakeAnswers
import RustyFleet.Safety.AwakeArithmetic
import RustyFleet.Safety.CatalogAdmission
import RustyFleet.Safety.CheckInAdmission
import RustyFleet.Safety.CheckInSteps
import RustyFleet.Safety.ClaimReplay
import RustyFleet.Safety.ConnectivityPool
import RustyFleet.Safety.DateSteps
import RustyFleet.Safety.DeadlineText
import RustyFleet.Safety.DescriptorBindings
import RustyFleet.Safety.Directory
import RustyFleet.Safety.DirectoryRecords
import RustyFleet.Safety.DiscoveryIdentifiers
import RustyFleet.Safety.DurableRuns
import RustyFleet.Safety.DurableSlots
import RustyFleet.Safety.HotspotDispatch
import RustyFleet.Safety.HotspotLedger
import RustyFleet.Safety.HotspotOwnership
import RustyFleet.Safety.HotspotSingleton
import RustyFleet.Safety.HotspotSteps
import RustyFleet.Safety.HttpFraming
import RustyFleet.Safety.HubFreshness
import RustyFleet.Safety.IngressBounds
import RustyFleet.Safety.IngressDecoration
import RustyFleet.Safety.KioskAttempts
import RustyFleet.Safety.KioskCalls
import RustyFleet.Safety.KioskHistory
import RustyFleet.Safety.KioskLedger
import RustyFleet.Safety.KioskLoops
import RustyFleet.Safety.KioskPolls
import RustyFleet.Safety.KioskSignatures
import RustyFleet.Safety.KioskSteps
import RustyFleet.Safety.Lifecycles
import RustyFleet.Safety.Lineage
import RustyFleet.Safety.OfferSelection
import RustyFleet.Safety.OnboardedCheckIns
import RustyFleet.Safety.OnboardingCover
import RustyFleet.Safety.OnboardingLedger
import RustyFleet.Safety.OnboardingOpening
import RustyFleet.Safety.OnboardingOutcomes
import RustyFleet.Safety.OnboardingResidue
import RustyFleet.Safety.OperationIds
import RustyFleet.Safety.OwnerAtomicity
import RustyFleet.Safety.OwnerCalls
import RustyFleet.Safety.OwnerDiscipline
import RustyFleet.Safety.OwnerLedger
import RustyFleet.Safety.OwnerSteps
import RustyFleet.Safety.OwnerValidity
import RustyFleet.Safety.PackageArchives
import RustyFleet.Safety.PackageAtomicity
import RustyFleet.Safety.PackageCalls
import RustyFleet.Safety.PackageChecks
import RustyFleet.Safety.PackageHistory
import RustyFleet.Safety.PackageOperations
import RustyFleet.Safety.PackageProgress
import RustyFleet.Safety.PackageSteps
import RustyFleet.Safety.PackageTargets
import RustyFleet.Safety.PackageValidity
import RustyFleet.Safety.ProgressAdmission
import RustyFleet.Safety.ProjectionAgreement
import RustyFleet.Safety.ProofBinding
import RustyFleet.Safety.ProofProjection
import RustyFleet.Safety.QueryLists
import RustyFleet.Safety.QueryWindows
import RustyFleet.Safety.ReceiptDates
import RustyFleet.Safety.RequestIds
import RustyFleet.Safety.Revisions
import RustyFleet.Safety.SavedViewHistory
import RustyFleet.Safety.SessionRestore
import RustyFleet.Safety.TermuxUsability
import RustyFleet.Safety.TimestampParts
import RustyFleet.Safety.Timestamps
import RustyFleet.Safety.WatchResume
import RustyFleet.Safety.WifiLedger
import RustyFleet.Store.Candidates
import RustyFleet.Store.Slots
import RustyFleet.Support.Attempts
import RustyFleet.Support.Calendar
import RustyFleet.Support.CheckedInt
import RustyFleet.Support.CrashDisk
import RustyFleet.Support.DigitBytes
import RustyFleet.Support.EpochLog
import RustyFleet.Support.Exact
import RustyFleet.Support.FileTree
import RustyFleet.Support.FixedText
import RustyFleet.Support.FixedWindow
import RustyFleet.Support.Framing
import RustyFleet.Support.HexText
import RustyFleet.Support.Ledger
import RustyFleet.Support.Lists
import RustyFleet.Support.Machine
import RustyFleet.Support.NumberedLog
import RustyFleet.Support.OneToOne
import RustyFleet.Support.OrderedMap
import RustyFleet.Support.Results
import RustyFleet.Support.Retention
import RustyFleet.Support.Rfc3339
import RustyFleet.Support.Selection
import RustyFleet.Support.SocketAddrs
import RustyFleet.Support.Tally
import RustyFleet.Support.Terminated
import RustyFleet.Support.Windows
import RustyFleet.Support.Words
import RustyFleet.Support.WorkerPool
