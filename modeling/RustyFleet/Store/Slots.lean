import Mathlib.Data.List.Sort
import RustyFleet.Store.Candidates

namespace RustyFleet

/-- Where a slot's state lives, and where the next one is prepared. -/
inductive StatePath
  | slot (index : Nat)
  | temporary (index : Nat)
deriving DecidableEq, Repr

namespace StatePath

def name : StatePath → String
  | .slot index => "fleet-hub-state." ++ toString index ++ ".json"
  | .temporary index => "fleet-hub-state." ++ toString index ++ ".tmp"

end StatePath

abbrev StateDirectory (β : Type) := FileDirectory StatePath β

section Reading

open DurableStateCodec

variable {β : Type} [DurableStateCodec β]

def readStateSlot (content : β) (expectedSlot : Nat) : Except String LocalHubDurableState := do
  errorIf (len content > maxStateBytes) "state slot exceeds the 16 MiB limit"
  let state ← (fromSlice content).mapError ("invalid state JSON: " ++ ·)
  errorIf (state.schema ≠ stateSchema ∨ state.generation = 0 ∨ state.writtenAtMs < 0)
    "state slot header is invalid"
  errorIf (state.generation % 2 ≠ expectedSlot) "state generation does not match its durable slot"
  return state

structure StateCandidates where
  foundSlot : Bool
  states : List (Nat × LocalHubDurableState)
  failures : List String

/-- What one slot adds to the candidates; a missing file adds nothing. -/
def readSlotInto (directory : StateDirectory β) (candidates : StateCandidates) (slot : Nat) :
    StateCandidates :=
  match directory (.slot slot) with
  | none => candidates
  | some file =>
    match readStateSlot file.content slot with
    | .ok state => { candidates with foundSlot := true, states := candidates.states ++ [(slot, state)] }
    | .error text =>
      { candidates with
        foundSlot := true
        failures := candidates.failures ++ [(StatePath.slot slot).name ++ ": " ++ text] }

def notOlder (left right : Nat × LocalHubDurableState) : Prop := right.2.generation ≤ left.2.generation

instance : DecidableRel notOlder := fun left right =>
  inferInstanceAs (Decidable (right.2.generation ≤ left.2.generation))

def newestFirst (states : List (Nat × LocalHubDurableState)) : List (Nat × LocalHubDurableState) :=
  states.insertionSort notOlder

/-- Two neighbouring candidates carry one generation. -/
def ambiguous : List (Nat × LocalHubDurableState) → Bool
  | first :: second :: rest => first.2.generation == second.2.generation || ambiguous (second :: rest)
  | _ => false

def readStateCandidates (directory : StateDirectory β) : Except String StateCandidates := do
  let read := [0, 1].foldl (readSlotInto directory) { foundSlot := false, states := [], failures := [] }
  let states := newestFirst read.states
  errorIf (ambiguous states) "durable state slots contain an ambiguous duplicate generation"
  return { read with states := states }

end Reading

structure DurableStateStore where
  generation : Nat
  restored : Bool
deriving DecidableEq

namespace DurableStateStore

/-- The first candidate that restores, newest first; the complaints of those before it are collected. -/
def firstRestored [FleetEnvironment] (policy : HubPolicy) (configuredAdapter : FleetManifoldAdapter)
    (nowMs : Int) (failures : List String) : List (Nat × LocalHubDurableState) → Except String RestoredState
  | [] => .error ("no fully valid durable state slot remains: " ++ "; ".intercalate failures)
  | (slot, state) :: older =>
    match restoreStateCandidate policy configuredAdapter state nowMs with
    | .ok restored => .ok restored
    | .error text =>
      firstRestored policy configuredAdapter nowMs (failures ++ ["slot " ++ toString slot ++ ": " ++ text]) older

section Store

variable {β : Type} [DurableStateCodec β]

/-- The store a start begins with, and the state it read unless there was none yet. -/
def openIn [FleetEnvironment] (directory : StateDirectory β) (policy : HubPolicy)
    (configuredAdapter : FleetManifoldAdapter) (nowMs : Int) (created : Except String Unit) :
    Except String (DurableStateStore × Option RestoredState) := do
  created.mapError ("cannot create state directory: " ++ ·)
  let candidates ← readStateCandidates directory
  if candidates.foundSlot = false then return ({ generation := 0, restored := false }, none)
  let restored ← firstRestored policy configuredAdapter nowMs candidates.failures candidates.states
  return ({ generation := restored.generation, restored := true }, some restored)

variable (store : DurableStateStore)

/-- What the next persist stores. -/
def durableState (generation : Nat) (hub : FleetHub) (adapter : FleetManifoldAdapter)
    (ownerReceipts : OwnerReceipts) (nowMs : Int) : LocalHubDurableState where
  schema := stateSchema
  generation := generation
  writtenAtMs := nowMs
  hub := hub.snapshot
  adapter := adapter.snapshot
  ownerReceipts := ownerReceipts

/-- The checks a state passes before any file is touched, and the content it becomes. -/
def encoded (hub : FleetHub) (adapter : FleetManifoldAdapter) (ownerReceipts : OwnerReceipts)
    (nowMs : Int) : Except String β := do
  errorIf (¬ sameMembers hub.deviceIds adapter.acceptedPeerIds)
    "refusing to persist mismatched Fleet Hub and Manifold authority"
  errorIf (store.generation + 1 > u64Max) "durable state generation is exhausted"
  let content ← (DurableStateCodec.toVec
    (durableState (store.generation + 1) hub adapter ownerReceipts nowMs)).mapError
      ("cannot serialize durable state: " ++ ·)
  errorIf (DurableStateCodec.len content > maxStateBytes) "durable state exceeds the 16 MiB limit"
  return content

/-- The file calls that publish a generation, each with the text its failure is reported under. -/
def publishSteps (generation : Nat) (content : β) : List (FileStep StatePath β × String) :=
  let slot := generation % 2
  let target := StatePath.slot slot
  let temporary := StatePath.temporary slot
  [(.createDirectory, "cannot create state directory: "),
    (.removeIfPresent temporary, "cannot remove stale state temporary: "),
    (.createNew temporary, "cannot create state temporary: "),
    (.writeAll temporary content, "cannot write state temporary: "),
    (.syncAll temporary, "cannot sync state temporary: "),
    (.removeIfPresent target, "cannot replace prior state slot: "),
    (.rename temporary target, "cannot publish durable state slot: ")] ++
  [(.syncDirectory, "cannot sync durable state directory metadata: ")]

/-- How a persist ends: with a result, or with the process. -/
inductive PersistEnd
  | returned (result : Except String Unit)
  | crashed

def persist (hub : FleetHub) (adapter : FleetManifoldAdapter) (ownerReceipts : OwnerReceipts)
    (nowMs : Int) (outcomes : List (StepOutcome β)) (disk : CrashDisk StatePath β) :
    PersistEnd × DurableStateStore × CrashDisk StatePath β :=
  match store.encoded hub adapter ownerReceipts nowMs with
  | .error text => (.returned (.error text), store, disk)
  | .ok content =>
    match disk.runSteps (publishSteps (store.generation + 1) content) outcomes with
    | (disk, .finished) =>
      (.returned (.ok ()), { generation := store.generation + 1, restored := true }, disk)
    | (disk, .refused text) => (.returned (.error text), store, disk)
    | (disk, .crashed) => (.crashed, store, disk)

end Store

end DurableStateStore

/-- A state directory and the store of the process that has it open, if one runs. -/
structure StoreSystem (β : Type) where
  disk : CrashDisk StatePath β
  store : Option DurableStateStore

/-- A process starts, its store persists a state, or everything stops. -/
inductive StoreCall (β : Type)
  | opening (policy : HubPolicy) (configuredAdapter : FleetManifoldAdapter) (nowMs : Int)
      (created : Except String Unit)
  | persist (hub : FleetHub) (adapter : FleetManifoldAdapter) (ownerReceipts : OwnerReceipts)
      (nowMs : Int) (outcomes : List (StepOutcome β))
  | crash (survivor : Nat) (left : β)

inductive StoreAnswer
  | opened (result : Except String (Option RestoredState))
  | persisted (result : Except String Unit)
  | stopped

namespace StoreSystem

variable {β : Type} [DurableStateCodec β]

def start : StoreSystem β where
  disk := .empty
  store := none

def handle [FleetEnvironment] (system : StoreSystem β) : StoreCall β → StoreSystem β × StoreAnswer
  | .opening policy configuredAdapter nowMs created =>
    match DurableStateStore.openIn system.disk.present policy configuredAdapter nowMs created with
    | .error text => ({ system with store := none }, .opened (.error text))
    | .ok (store, restored) => ({ system with store := some store }, .opened (.ok restored))
  | .persist hub adapter ownerReceipts nowMs outcomes =>
    match system.store with
    | none => (system, .stopped)
    | some store =>
      match store.persist hub adapter ownerReceipts nowMs outcomes system.disk with
      | (.returned result, store, disk) => ({ disk := disk, store := some store }, .persisted result)
      | (.crashed, _, disk) => ({ disk := disk, store := none }, .stopped)
  | .crash survivor left => ({ disk := system.disk.crash survivor left, store := none }, .stopped)

end StoreSystem

end RustyFleet
