import RustyFleet.Contracts.SavedViews
import RustyFleet.Contracts.Kiosk
import RustyFleet.Contracts.KioskCatalog
import RustyFleet.Contracts.PackageLedger
import RustyFleet.Contracts.Awake
import RustyFleet.Contracts.WifiAdb
import RustyFleet.Contracts.WindowsHotspot

namespace RustyFleet

/-- A set kept in key order; two sets with the same members are equal. -/
abbrev BTreeSet (κ : Type) [Ord κ] := Std.ExtTreeSet κ compare

def maxSavedViews : Nat := 128
def maxKioskOperations : Nat := 1000
def maxPackageOperations : Nat := 1000
def maxArchivedPackageOperations : Nat := 10000
def maxAwakeOperations : Nat := 1000
def maxWifiAdbOperations : Nat := 1000
def maxWindowsHotspotOperations : Nat := 1000
def maxKioskCatalogs : Nat := 1000
def maxKioskCatalogReplayIdentities : Nat := 10000

def initialSavedViewRevision : Nat := 1

structure HubPolicy where
  staleAfterMs : Int
  offlineAfterMs : Int
  historyLimitPerDevice : Nat
  sourceEpochLimitPerDevice : Nat
  eventLimit : Nat
deriving DecidableEq

/-- What `FleetHub::new` asserts of its policy. -/
def HubPolicy.isAsserted (policy : HubPolicy) : Prop :=
  0 < policy.staleAfterMs ∧ policy.staleAfterMs < policy.offlineAfterMs ∧
    0 < policy.historyLimitPerDevice ∧ 0 < policy.sourceEpochLimitPerDevice ∧ 0 < policy.eventLimit

instance (policy : HubPolicy) : Decidable policy.isAsserted := inferInstanceAs (Decidable (_ ∧ _))

abbrev AssertedPolicy := { policy : HubPolicy // policy.isAsserted }

def HubPolicy.default : HubPolicy where
  staleAfterMs := 60000
  offlineAfterMs := 300000
  historyLimitPerDevice := 128
  sourceEpochLimitPerDevice := 128
  eventLimit := 10000

inductive RejectionReason
  | contractInvalid | duplicateRevision | staleRevision | identityRevisionRollback
  | identityRevisionChangedWithoutRestart | identityConflict | sourceEpochChangedWithoutRestart
  | sourceEpochReplay | sourceEpochEvidenceLimitExceeded | receiveTimeRegression
deriving DecidableEq, Repr

inductive ObservationDecision
  | accepted (resultRevision : Nat) (deviceId : String) (sourceRevision : Nat)
  | rejected (resultRevision : Nat) (deviceId : Option String) (sourceRevision : Option Nat)
      (reason : RejectionReason) (details : List String)
deriving DecidableEq

structure WatchEvent where
  schema : String
  eventSequence : Nat
  observedAtMs : Int
  decision : ObservationDecision
deriving DecidableEq

structure HubError where
  code : String
  message : String
deriving DecidableEq, Repr

/-- A call that does not return a value: it reports an error, or it panics. -/
inductive HubFault
  | hubError (error : HubError)
  | panicked (text : String)
deriving DecidableEq, Repr

abbrev HubResult := Except HubFault

def refuse {α : Type} (code message : String) : HubResult α := .error (.hubError ⟨code, message⟩)

def panicWith {α : Type} (text : String) : HubResult α := .error (.panicked text)

abbrev rejectIf (wrong : Prop) [Decidable wrong] (code message : String) : HubResult Unit :=
  errorIf wrong (.hubError ⟨code, message⟩)

abbrev panicIf (wrong : Prop) [Decidable wrong] (text : String) : HubResult Unit := errorIf wrong (.panicked text)

abbrev orRefuse {α : Type} (value : Option α) (code message : String) : HubResult α :=
  orError value (.hubError ⟨code, message⟩)

abbrev orPanic {α : Type} (value : Option α) (text : String) : HubResult α := orError value (.panicked text)

@[simp] theorem refuse_ne_ok {α : Type} (code message : String) (value : α) :
    refuse code message ≠ .ok value := by
  simp [refuse]

/-- The result is a value or a reported error. -/
def OnlyRefuses {α : Type} (result : HubResult α) : Prop := ∀ text, result ≠ .error (.panicked text)

theorem onlyRefuses_bind {α β : Type} {first : HubResult α} {rest : α → HubResult β}
    (start : OnlyRefuses first) (next : ∀ value, OnlyRefuses (rest value)) :
    OnlyRefuses (first >>= rest) := by
  intro text panicked
  rcases first with fault | value
  · have same : fault = .panicked text := Except.error.inj panicked
    exact start text (congrArg Except.error same)
  · exact next value text panicked

theorem onlyRefuses_rejectIf (wrong : Prop) [Decidable wrong] (code message : String) :
    OnlyRefuses (rejectIf wrong code message) := by
  intro text
  unfold rejectIf errorIf
  split <;> simp

theorem onlyRefuses_orRefuse {α : Type} (value : Option α) (code message : String) :
    OnlyRefuses (orRefuse value code message) := by
  intro text
  cases value <;> simp [orError]

theorem onlyRefuses_pure {α : Type} (value : α) : OnlyRefuses (pure value : HubResult α) := by
  intro text panicked
  cases panicked

/-- What a mutator has decided about one stored operation before it touches the Hub. -/
inductive LedgerEdit (α : Type)
  | unchanged (operation : α)
  | rewritten (operation : α)

structure DeviceRecord where
  observation : DeviceObservation
  acceptedAtMs : Int
  acceptedRevision : Nat
  conditionHistory : List StatusCondition
  seenSourceEpochs : List String
deriving DecidableEq

structure WindowsHotspotObservedState where
  active : Bool
  ownership : WindowsHotspotOwnership
  generation : Option String
  observedAtMs : Int
deriving DecidableEq

structure KioskCatalogRecord where
  snapshot : KioskCatalogSnapshot
  receivedAtMs : Int
  sourceEpoch : String
  productionAdmission : Option KioskV2CatalogAdmissionBinding
deriving DecidableEq

structure KioskCatalogAssociation where
  identityRevision : Nat
  profileId : String
  ownerEpoch : String
deriving DecidableEq

structure FleetHub where
  policy : HubPolicy
  devices : BTreeMap String DeviceRecord
  resultRevision : Nat
  eventSequence : Nat
  events : List WatchEvent
  savedViewRevision : Nat
  savedViews : BTreeMap String SavedView
  kioskOperations : BTreeMap String KioskShowControlsOperation
  packageOperations : BTreeMap String PackageInstallReleaseOperation
  packageOperationArchives : BTreeMap String PackageInstallReleaseArchive
  awakeOperations : BTreeMap String QuestAwakeOperation
  wifiAdbOperations : BTreeMap String QuestWifiAdbOperation
  windowsHotspotOperations : BTreeMap String WindowsHotspotOperation
  windowsHotspotObservation : Option WindowsHotspotObservedState
  kioskCatalogs : BTreeMap String KioskCatalogRecord
  seenKioskCatalogReplayIdentities : BTreeSet String
  kioskCatalogAssociations : BTreeMap String KioskCatalogAssociation

namespace FleetHub

def new (policy : AssertedPolicy) : FleetHub where
  policy := policy.val
  devices := ∅
  resultRevision := 1
  eventSequence := 0
  events := []
  savedViewRevision := initialSavedViewRevision
  savedViews := ∅
  kioskOperations := ∅
  packageOperations := ∅
  packageOperationArchives := ∅
  awakeOperations := ∅
  wifiAdbOperations := ∅
  windowsHotspotOperations := ∅
  windowsHotspotObservation := none
  kioskCatalogs := ∅
  seenKioskCatalogReplayIdentities := ∅
  kioskCatalogAssociations := ∅

/-- `saturating_sub` of the acceptance time, never negative. -/
def observationAgeMs (record : DeviceRecord) (nowMs : Int) : Int :=
  max (saturateI64 (nowMs - record.acceptedAtMs)) 0

end FleetHub

end RustyFleet
