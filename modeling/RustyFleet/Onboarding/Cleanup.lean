import RustyFleet.Onboarding.Generation

namespace RustyFleet

namespace Onboarding

open Attempt OnboardingEnvironment

def maxJsonBytes : Nat := 1048576
def maxExecutableBytes : Nat := 128 * 1024 * 1024

def isSha256 (value : String) : Bool := value.utf8ByteSize == 64 && value.toList.all isLowerHexDigit

section Shape

/-- What `validate_inventory_shape` asks of one entry after the path before it. -/
def EntryRecord.accepted (entry : EntryRecord) (prior : Option String) : Bool :=
  prior.all (fun path => (compare path entry.relativePath).isLT) &&
    isSha256 entry.identity.aclSha256 && entry.identity.numberOfLinks != 0 &&
    match entry.kind with
    | .file => entry.identity.numberOfLinks == 1 && entry.sha256.any isSha256
    | .directory => entry.sha256.isNone

/-- The paths read so far are kept in ASCII lower case. -/
def validateEntries (unique : List String) (prior : Option String) : List EntryRecord → Except String Unit
  | [] => .ok ()
  | entry :: rest => do
    validateRelative entry.relativePath
    errorIf (unique.contains (toAsciiLowercase entry.relativePath) ∨ ¬ entry.accepted prior)
      "invalid_inventory_entry"
    validateEntries (toAsciiLowercase entry.relativePath :: unique) (some entry.relativePath) rest

def devicePrefix := "devices/device-"

/-- The kind of the last entry with this path. -/
def kindAt (entries : List EntryRecord) (path : String) : Option EntryKind :=
  (entries.reverse.find? (·.relativePath = path)).map (·.kind)

def deviceDirs (entries : List EntryRecord) : List String :=
  (entries.filter fun entry => entry.kind = .directory ∧ devicePrefix.toList.isPrefixOf entry.relativePath.toList ∧
    slashes entry.relativePath = 1).map (·.relativePath)

def expectedPaths (deviceDirs : List String) : List String :=
  ["hub", "devices", hubConfigName] ++ deviceDirs.flatMap fun directory =>
    [directory, directory ++ "/fleet-agent.seed", directory ++ "/fleet-agent.profile.json",
      directory ++ "/fleet-agent.public-key-record.json"]

def sameSet (left right : List String) : Bool := left.all right.contains && right.all left.contains

def validateExpectedLayout (entries : List EntryRecord) : Except String Unit := do
  errorIf (kindAt entries "hub" ≠ some .directory ∨ kindAt entries "devices" ≠ some .directory ∨
    kindAt entries hubConfigName ≠ some .file) "invalid_inventory_layout"
  errorIf ((deviceDirs entries).isEmpty) "invalid_inventory_layout"
  errorIf ((deviceDirs entries).any fun directory =>
    !isSha256 (String.ofList (directory.toList.drop devicePrefix.length))) "invalid_inventory_layout"
  errorIf (¬ sameSet (expectedPaths (deviceDirs entries)) (entries.map (·.relativePath)))
    "invalid_inventory_layout"

def validateInventoryShape [OnboardingEnvironment] (inventory : Inventory) : Except String Unit := do
  errorIf (inventory.schema ≠ inventorySchema ∨ ¬ isSha256 inventory.planSha256 ∨
      inventory.toolManifestSha256 ≠ toolManifestSha256 ∨
      inventory.toolExecutableSha256 ≠ toolExecutableSha256 ∨
      inventory.questProfileOwnerSourceSha256 ≠ profileOwnerSourceSha256 ∨
      inventory.questProfileOwnerFixtureSha256 ≠ profileOwnerFixtureSha256 ∨
      inventory.state ≠ "generated-not-installed-or-enrolled" ∨ ¬ isAbsolute inventory.outputRoot ∨
      ¬ isSha256 inventory.rootIdentity.aclSha256)
    "invalid_inventory"
  validateExternalPath inventory.outputRoot
  validateEntries [] none inventory.entries
  validateExpectedLayout inventory.entries

end Shape

/-- The platform's paths of an inventory file, the JSON reader and the JCS writer. -/
class CleanupEnvironment extends GenerationEnvironment where
  fileName : String → Option String
  parentPath : String → Option String
  samePath : String → String → Bool
  inventoryFromSlice : Bytes → Option Inventory
  cleanupPlanJcs : Inventory → Bytes → ObjectIdentity → Option Bytes

open CleanupEnvironment

structure LoadedFile where
  file : SecureFile
  bytes : Bytes

/-- An inventory, the root it describes and its own file; their entries' handles are in the workspace. -/
structure CleanupSession where
  inventoryLoaded : LoadedFile
  inventory : Inventory
  root : SecureDir

namespace CleanupSession

variable (platform : Platform)

section Opening

def openFileFrom (disk : Disk) (object : ObjectPath) (maximum : Nat) (kind : String) : Except String SecureFile := do
  errorIf (platform.openFails .opening object ∨ disk.entries[object]?.isNone) (kind ++ "_unavailable")
  let metadata ← orError (platform.metadata .opening object) (kind ++ "_identity_unavailable")
  let content ← orError (disk.content object) ("invalid_" ++ kind ++ "_file")
  errorIf (metadata.isSymlink ∨ content.length = 0 ∨ content.length > maximum) ("invalid_" ++ kind ++ "_file")
  let identity ← identityFor platform .opening object metadata true true
  return ⟨object, identity, content.length⟩

/-- The object an entry names, in the directory that was opened for its parent. -/
def namedObject (root : SecureDir) (work : Workspace) (relative : String) : Except String ObjectPath :=
  match splitLast relative.toList with
  | (none, leaf) | (some [], leaf) => .ok (root.object ++ [String.ofList leaf])
  | (some parent, leaf) => do
    let dir ← orError work.dirs[String.ofList parent]? "inventory_parent_unavailable"
    return dir.object ++ [String.ofList leaf]

def relativeObject (root : SecureDir) (work : Workspace) (relative : String) : Except String ObjectPath := do
  let object ← namedObject root work relative
  errorIf (platform.cloneFails object) "inventory_parent_unavailable"
  return object

def openEntryDir (root : SecureDir) (entry : EntryRecord) (work : Workspace) : Except String SecureDir := do
  let object ← relativeObject platform root work entry.relativePath
  let dir ← openDirComponent platform work.disk .opening object true
  errorIf (dir.identity ≠ entry.identity) "inventory_identity_mismatch"
  return dir

variable [CleanupEnvironment]

def openEntryFile (root : SecureDir) (entry : EntryRecord) (work : Workspace) : Except String SecureFile := do
  let object ← relativeObject platform root work entry.relativePath
  let file ← openFileFrom platform work.disk object maxExecutableBytes "inventory_entry"
  errorIf (file.identity ≠ entry.identity) "inventory_file_mismatch"
  let sha256 ← hashFileHandle platform OnboardingEnvironment.hash work.disk file
  errorIf (entry.sha256 ≠ some sha256) "inventory_file_mismatch"
  return file

def openEntry (root : SecureDir) (entry : EntryRecord) : Work Unit :=
  match entry.kind with
  | .directory => do
    let dir ← reading (openEntryDir platform root entry)
    update fun work => { work with dirs := work.dirs.insert entry.relativePath dir }
  | .file => do
    let file ← reading (openEntryFile platform root entry)
    update fun work => { work with files := work.files.insert entry.relativePath file }

def openEntries (root : SecureDir) : List EntryRecord → Work Unit
  | [] => return ()
  | entry :: rest => do
    openEntry platform root entry
    openEntries root rest

end Opening

section Enumeration

def enumerateNames (object : ObjectPath) (level : String) (output : List String) :
    List String → Except String (List String)
  | [] => .ok output
  | name :: rest => do
    let relative := if level.isEmpty then name else level ++ "/" ++ name
    errorIf (output.contains relative) "inventory_case_collision"
    let metadata ← orError (platform.metadata .enumerating (object ++ [name])) "inventory_enumeration_failed"
    errorIf metadata.isSymlink "inventory_reparse_entry_rejected"
    enumerateNames object level (relative :: output) rest

def enumerateOneLevel (disk : Disk) (object : ObjectPath) (level : String) (output : List String) :
    Except String (List String) := do
  errorIf (platform.enumerationFails object) "inventory_enumeration_failed"
  enumerateNames platform object level output (disk.names object)

def enumerateDirs (disk : Disk) (output : List String) : List (String × SecureDir) → Except String (List String)
  | [] => .ok output
  | (relative, dir) :: rest => do
    let output ← enumerateOneLevel platform disk dir.object relative output
    enumerateDirs disk output rest

def verifyExactEnumeration (root : SecureDir) (inventory : Inventory) (work : Workspace) : Except String Unit := do
  let level ← enumerateOneLevel platform work.disk root.object "" []
  let actual ← enumerateDirs platform work.disk level work.dirs.toList
  errorIf (¬ (actual.map toAsciiLowercase).Nodup) "inventory_case_collision"
  errorIf (¬ sameSet actual (inventoryName :: inventory.entries.map (·.relativePath)))
    "inventory_extra_or_missing_entry"
  errorIf (work.dirs.size ≠ (inventory.entries.filter (·.kind = .directory)).length)
    "inventory_directory_set_mismatch"

end Enumeration

variable [CleanupEnvironment]

def loadInventory (root : SecureDir) (disk : Disk) : Except String LoadedFile := do
  let file ← openFileFrom platform disk (root.object ++ [inventoryName]) maxJsonBytes "inventory"
  errorIf (platform.readFault file.object).isSome "inventory_read_failed"
  let bytes ← orError (disk.content file.object) "inventory_read_failed"
  errorIf (bytes.length ≠ file.length) "inventory_identity_changed"
  return ⟨file, bytes⟩

/-- The part of `open` that reads and judges the inventory, before its entries are opened. -/
def openInventory (path : String) (disk : Disk) : Except String CleanupSession := do
  validateExternalPath path
  errorIf (fileName path ≠ some inventoryName) "inventory_name_mismatch"
  let rootPath ← orError (parentPath path) "inventory_root_missing"
  let (parent, leaf) ← openParent platform .opening rootPath
  let root ← openDirComponent platform disk .opening (parent ++ [leaf]) true
  let loaded ← loadInventory platform root disk
  let inventory ← orError (inventoryFromSlice loaded.bytes) "invalid_inventory"
  validateInventoryShape inventory
  errorIf (¬ samePath inventory.outputRoot rootPath) "inventory_root_mismatch"
  errorIf (root.identity ≠ inventory.rootIdentity) "inventory_root_identity_mismatch"
  return ⟨loaded, inventory, root⟩

def openSession (path : String) : Work CleanupSession := do
  let session ← reading fun work => openInventory platform path work.disk
  openEntries platform session.root session.inventory.entries
  reading (verifyExactEnumeration platform session.root session.inventory)
  return session

/-- Goes through a list of removals until one fails. -/
def removeAll (remove : String → Work Unit) : List String → Work Unit
  | [] => return ()
  | path :: rest => do
    remove path
    removeAll remove rest

omit [CleanupEnvironment] in
def deleteExact (session : CleanupSession) : Work Unit := do
  let files ← reading fun work => .ok work.filePaths
  removeAll (removeFile platform "cleanup_state_changed" "cleanup_incomplete_exact_entries_remain") files
  let dirs ← reading fun work => .ok work.dirPaths
  removeAll (removeDir platform "cleanup_state_changed" "cleanup_incomplete_exact_entries_remain") dirs
  deleteRetainedHandle platform session.inventoryLoaded.file.object "cleanup_incomplete_inventory_remains"
  deleteRetainedHandle platform session.root.object "cleanup_incomplete_root_remains"

def cleanupPlanSha256 (session : CleanupSession) : Except String String := do
  let bytes ← orError (cleanupPlanJcs session.inventory session.inventoryLoaded.bytes
    session.inventoryLoaded.file.identity) "cleanup_plan_serialization_failed"
  return OnboardingEnvironment.hash bytes

def cleanupApply (path confirmation : String) : Work Unit := do
  let session ← openSession platform path
  let digest ← lift (cleanupPlanSha256 session)
  lift (errorIf (digest ≠ confirmation) "cleanup_confirmation_mismatch")
  session.deleteExact platform

end CleanupSession

end Onboarding

end RustyFleet
