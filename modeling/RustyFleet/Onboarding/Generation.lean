import RustyFleet.Onboarding.PrivateTree
import RustyFleet.Onboarding.Profiles

namespace RustyFleet

namespace Onboarding

open Attempt OnboardingEnvironment

def inventorySchema := "rusty.fleet.offline_onboarding_private_inventory.v1"
def toolManifestSha256 := "d96baf6f3cdd5af9d79d0d98df5fd96e5ee9f689350a1d415c8a88fac101e457"
def toolExecutableSha256 := "6e3962726be67cf42d0fdc2dbf3792f7d665524323e5615f1907002518bfe3d7"
def profileOwnerSourceSha256 := "dd076b50ce37484105f9c75b542b94d50d62fc1c5070e60b0de1056fd0d4b86b"
def profileOwnerFixtureSha256 := "ee6faba86ef876f988e7b5ddaa552ee3a484f15b0e3704c79404f92b0bda9fc9"
def inventoryName := "onboarding.private-inventory.json"
def hubConfigName := "hub/enrollment.private-config.json"

inductive EntryKind
  | directory | file
deriving DecidableEq

structure EntryRecord where
  relativePath : String
  kind : EntryKind
  identity : ObjectIdentity
  sha256 : Option String

structure Inventory where
  schema : String
  planSha256 : String
  outputRoot : String
  toolManifestSha256 : String
  toolExecutableSha256 : String
  questProfileOwnerSourceSha256 : String
  questProfileOwnerFixtureSha256 : String
  rootIdentity : ObjectIdentity
  entries : List EntryRecord
  state : String

/-- What differs between two plans. -/
structure Plan where
  requestSha256 : String
  deviceIds : List String
  outputFiles : List String

/-- What differs between the enrollments of a Hub configuration. -/
structure EnrollmentRecord where
  requestId : String
  operatorId : String
  credentialId : String
  peerId : String
  trustDomain : String
  keyId : String
  keyGeneration : Nat
  publicKeyHex : String
  publicKeySha256 : String
  validFromMs : Nat
  expiresAtMs : Nat

/-- The files read, the key-record tool, the random source and the JSON crates. -/
class GenerationEnvironment extends OnboardingEnvironment where
  splitParent : String → Except String (ObjectPath × String)
  readRequest : String → Except String Bytes
  requestFromSlice : Bytes → Option Request
  validateTool : Request → Except String Unit
  planJcs : Plan → Option Bytes
  fillSeed : String → Option Bytes
  invokeKeyRecordTool : String → ObjectPath → Except String KeyRecord
  toolSha256 : String → Except String String
  keyRecordJson : KeyRecord → Option Bytes
  profileJson : QuestFleetAgentProfileV1 → Option Bytes
  hubConfigAccepted : HubRequest → List EnrollmentRecord → Bool
  hubConfigJson : HubRequest → List EnrollmentRecord → Option Bytes
  inventoryJson : Inventory → Option Bytes

open GenerationEnvironment

variable [GenerationEnvironment] (platform : Platform)

section Roots

def openParent (visit : Visit) (root : String) : Except String (ObjectPath × String) :=
  match platform.ancestorFault visit with
  | some fault => .error fault
  | none => splitParent root

def validateNewPrivateRoot (visit : Visit) (disk : Disk) (root : String) : Except String Unit := do
  validateExternalPath root
  let (parent, leaf) ← openParent platform visit root
  errorIf (disk.entries[parent ++ [leaf]]?.isSome ∧ (platform.metadata visit (parent ++ [leaf])).isSome)
    "output_root_exists"
  match platform.privateAcl visit parent with
  | .error _ => .error "output_parent_not_private"
  | .ok _ => .ok ()

def openNewRoot (disk : Disk) (object : ObjectPath) : Except String SecureDir :=
  (openDirComponent platform disk .opening object false).mapError fun _ => partialGeneration

def PrivateTree.create (root : String) : Work PrivateTree := do
  reading fun work => validateNewPrivateRoot platform .checking work.disk root
  let (parent, leaf) ← lift (openParent platform .creating root)
  let object ← createEntry platform parent leaf .directory "output_root_create_failed"
  let dir ← reading fun work => openNewRoot platform work.disk object
  secureOrDelete platform object
  let identity ← lift (newDirIdentity platform object "root_identity_unavailable")
  return ⟨object, { dir with identity := identity }⟩

def PrivateTree.verifyRootBinding (tree : PrivateTree) (root : String) (disk : Disk) : Except String Unit := do
  let (parent, leaf) ← openParent platform .binding root
  let current ← openDirComponent platform disk .binding (parent ++ [leaf]) true
  errorIf (current.identity ≠ tree.root.identity) "private_root_identity_changed"

end Roots

section Devices

def deviceDirectory (deviceId : String) : String :=
  "devices/device-" ++ OnboardingEnvironment.hash deviceId.toUTF8.toList

/-- The seeds and keys of the devices generated so far, and their enrollments. -/
structure Generated where
  digests : List String
  fingerprints : List String
  enrollments : List EnrollmentRecord

def registerSecretDigest (generated : Generated) (secret : Bytes) : Except String Generated := do
  errorIf (generated.digests.contains (OnboardingEnvironment.hash secret)) "duplicate_seed_rejected"
  return { generated with digests := generated.digests ++ [OnboardingEnvironment.hash secret] }

def registerPublicKey (generated : Generated) (record : KeyRecord) : Except String Generated := do
  errorIf (generated.fingerprints.contains record.keyFingerprint) "duplicate_public_key_rejected"
  return { generated with fingerprints := record.keyFingerprint :: generated.fingerprints }

def enrollmentRecord (hub : HubRequest) (device : DeviceRequest) (record : KeyRecord) : EnrollmentRecord where
  requestId := hub.requestIdPrefix ++ "." ++ device.deviceId
  operatorId := hub.operatorId
  credentialId := "credential." ++ device.keyId
  peerId := device.deviceId
  trustDomain := device.trustDomain
  keyId := device.keyId
  keyGeneration := device.keyGeneration
  publicKeyHex := record.publicKeyHex
  publicKeySha256 := "sha256:" ++ String.ofList (record.keyFingerprint.toList.drop fingerprintPrefix.length)
  validFromMs := hub.credentialValidFromMs
  expiresAtMs := hub.credentialExpiresAtMs

/-- The key record the tool returns; the tool's hash is judged before its answer. -/
def keyRecordOf (device : DeviceRequest) (seedPath : ObjectPath) : Except String KeyRecord := do
  let sha256 ← toolSha256 device.deviceId
  errorIf (sha256 ≠ toolExecutableSha256) "tool_executable_hash_mismatch"
  let record ← invokeKeyRecordTool device.keyId seedPath
  validateKeyRecord record device.keyId
  return record

def generateDevice (tree : PrivateTree) (hub : HubRequest) (generated : Generated) (device : DeviceRequest) :
    Work Generated := do
  let directory := deviceDirectory device.deviceId
  tree.createDir platform directory
  let seed ← lift (orError (fillSeed device.deviceId) "csprng_failed")
  let generated ← lift (registerSecretDigest generated seed)
  tree.writeFile platform (directory ++ "/fleet-agent.seed") seed
  let seedPath ← lift (tree.absolute (directory ++ "/fleet-agent.seed"))
  let record ← lift (keyRecordOf device seedPath)
  let generated ← lift (registerPublicKey generated record)
  tree.writeJson platform (directory ++ "/fleet-agent.public-key-record.json") (keyRecordJson record)
  lift (validateQuestProfile (device.profile record))
  tree.writeJson platform (directory ++ "/fleet-agent.profile.json") (profileJson (device.profile record))
  return { generated with enrollments := generated.enrollments ++ [enrollmentRecord hub device record] }

def generateDevices (tree : PrivateTree) (hub : HubRequest) (generated : Generated) :
    List DeviceRequest → Work Generated
  | [] => return generated
  | device :: rest => do
    let generated ← generateDevice platform tree hub generated device
    generateDevices tree hub generated rest

end Devices

section Inventories

def dirEntry (entry : String × SecureDir) : EntryRecord := ⟨entry.1, .directory, entry.2.identity, none⟩

def fileEntries (disk : Disk) : List (String × SecureFile) → Except String (List EntryRecord)
  | [] => .ok []
  | (path, file) :: rest => do
    let sha256 ← hashFileHandle platform OnboardingEnvironment.hash disk file
    let entries ← fileEntries disk rest
    return ⟨path, .file, file.identity, some sha256⟩ :: entries

def inventoryEntries (work : Workspace) : Except String (List EntryRecord) := do
  let files ← fileEntries platform work.disk work.files.toList
  return work.dirs.toList.map dirEntry ++ files

def sortedEntries (entries : List EntryRecord) : List EntryRecord :=
  entries.insertionSort fun left right => (compare left.relativePath right.relativePath).isLE

def inventoryOf (request : Request) (tree : PrivateTree) (planDigest : String) (entries : List EntryRecord) :
    Inventory where
  schema := inventorySchema
  planSha256 := planDigest
  outputRoot := request.outputRoot
  toolManifestSha256 := toolManifestSha256
  toolExecutableSha256 := toolExecutableSha256
  questProfileOwnerSourceSha256 := profileOwnerSourceSha256
  questProfileOwnerFixtureSha256 := profileOwnerFixtureSha256
  rootIdentity := tree.root.identity
  entries := sortedEntries entries
  state := "generated-not-installed-or-enrolled"

end Inventories

def generate (request : Request) (tree : PrivateTree) (planDigest : String) : Work Inventory := do
  tree.createDir platform "hub"
  tree.createDir platform "devices"
  let generated ← generateDevices platform tree request.hub ⟨[], [], []⟩ request.devices
  lift (errorIf (¬ hubConfigAccepted request.hub generated.enrollments) "invalid_generated_hub_config")
  tree.writeJson platform hubConfigName (hubConfigJson request.hub generated.enrollments)
  let entries ← reading (inventoryEntries platform)
  let inventory := inventoryOf request tree planDigest entries
  tree.writeJson platform inventoryName (inventoryJson inventory)
  return inventory

section Apply

structure LoadedRequest where
  request : Request
  bytesSha256 : String

def loadRequest (requestPath : String) : Except String LoadedRequest := do
  let bytes ← readRequest requestPath
  let request ← orError (requestFromSlice bytes) "invalid_request"
  validateRequest request
  return ⟨request, OnboardingEnvironment.hash bytes⟩

def sortedTexts (texts : List String) : List String := texts.insertionSort fun left right => (compare left right).isLE

def deviceFiles (deviceId : String) : List String :=
  [deviceDirectory deviceId ++ "/fleet-agent.seed", deviceDirectory deviceId ++ "/fleet-agent.profile.json",
    deviceDirectory deviceId ++ "/fleet-agent.public-key-record.json"]

def buildPlan (disk : Disk) (loaded : LoadedRequest) : Except String Plan := do
  validateTool loaded.request
  validateNewPrivateRoot platform .planning disk loaded.request.outputRoot
  let deviceIds := sortedTexts (loaded.request.devices.map (·.deviceId))
  return ⟨loaded.bytesSha256, deviceIds, sortedTexts (hubConfigName :: inventoryName :: deviceIds.flatMap deviceFiles)⟩

def planDigest (plan : Plan) : Except String String := do
  let bytes ← orError (planJcs plan) "plan_serialization_failed"
  return OnboardingEnvironment.hash bytes

structure ApplyReceipt where
  planSha256 : String
  inventorySha256 : String
  fileCount : Nat
deriving DecidableEq

/-- What is checked before anything is created: the request and the digest of its plan. -/
def confirmedRequest (disk : Disk) (requestPath confirmation : String) : Except String (Request × String) := do
  let loaded ← loadRequest requestPath
  let plan ← buildPlan platform disk loaded
  let digest ← planDigest plan
  errorIf (confirmation ≠ digest) "plan_confirmation_mismatch"
  return (loaded.request, digest)

/-- The generation in a new tree, checked against the root's path at its end. -/
def generateBound (request : Request) (tree : PrivateTree) (digest : String) : Work Inventory := do
  let inventory ← generate platform request tree digest
  reading fun work => tree.verifyRootBinding platform request.outputRoot work.disk
  return inventory

def applyReceipt (digest : String) (inventory : Inventory) (work : Workspace) :
    Except String ApplyReceipt := do
  let inventorySha256 ← orError (PrivateTree.fileSha256 platform OnboardingEnvironment.hash work inventoryName)
    "inventory_commit_missing"
  return ⟨digest, inventorySha256, (inventory.entries.filter (·.kind = .file)).length + 1⟩

/-- `apply` of a confirmed request. -/
def applyConfirmed (request : Request) (digest : String) : Work ApplyReceipt := fun work =>
  match PrivateTree.create platform request.outputRoot work with
  | (.error error, created) => (.error error, created)
  | (.ok tree, created) =>
    match generateBound platform request tree digest created with
    | (.ok inventory, generated) => (applyReceipt platform digest inventory generated, generated)
    | (.error error, generated) =>
      let (deleted, last) := tree.rollback platform generated
      (.error (if deleted then error else partialGeneration), last)

def apply (requestPath confirmation : String) (disk : Disk) : Except String ApplyReceipt × Workspace :=
  match confirmedRequest platform disk requestPath confirmation with
  | .error error => (.error error, ⟨disk, ∅, ∅, []⟩)
  | .ok (request, digest) => applyConfirmed platform request digest ⟨disk, ∅, ∅, []⟩

end Apply

end Onboarding

end RustyFleet
