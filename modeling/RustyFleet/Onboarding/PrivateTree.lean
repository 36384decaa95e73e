import Mathlib.Data.List.Sort
import RustyFleet.Contracts.CheckIn
import RustyFleet.Contracts.Text
import RustyFleet.Support.Attempts
import RustyFleet.Support.FileTree

namespace RustyFleet

namespace Onboarding

open Attempt

/-- The names from the root of the drive down to an object. -/
abbrev ObjectPath := List String

abbrev Disk := FileTree String Bytes

def partialGeneration := "partial_generation_exact_cleanup_required"

structure ObjectIdentity where
  volumeSerialNumber : Nat
  fileId : Nat
  numberOfLinks : Nat
  aclSha256 : String
deriving DecidableEq

/-- An open handle that denies renaming and deleting its object to others. -/
structure SecureDir where
  object : ObjectPath
  identity : ObjectIdentity

structure SecureFile where
  object : ObjectPath
  identity : ObjectIdentity
  length : Nat

section Platform

/-- When in a run the platform is asked about an object. -/
inductive Visit
  | planning | checking | creating | opening | securing | identifying | binding | enumerating
deriving DecidableEq

inductive AclFault
  | currentUser | rawRead | build | apply | read | owner | missing | empty | invalid | notCurrentUserOnly

def AclFault.text : AclFault → String
  | .currentUser => "current_user_identity_failed"
  | .rawRead => "acl_read_failed"
  | .build => "private_acl_build_failed"
  | .apply => "private_acl_apply_failed"
  | .read => "private_acl_read_failed"
  | .owner => "private_acl_owner_rejected"
  | .missing => "private_acl_missing"
  | .empty => "private_acl_empty"
  | .invalid => "private_acl_invalid"
  | .notCurrentUserOnly => "private_acl_not_current_user_only"

inductive ReadFault
  | clone | read | tooLarge

def ReadFault.text : ReadFault → String
  | .clone => "artifact_clone_failed"
  | .read => "artifact_read_failed"
  | .tooLarge => "artifact_too_large"

structure Metadata where
  dev : Nat
  ino : Nat
  nlink : Nat
  isSymlink : Bool

/-- Which calls the operating system refuses in a run, and what it reports in the others. -/
structure Platform where
  ancestorFault : Visit → Option String
  -- the handle of the directory that holds the object
  cloneFails : ObjectPath → Bool
  createFails : ObjectPath → Bool
  openFails : Visit → ObjectPath → Bool
  metadata : Visit → ObjectPath → Option Metadata
  rawAcl : Visit → ObjectPath → Except AclFault String
  privateAcl : Visit → ObjectPath → Except AclFault String
  securingFault : ObjectPath → Option AclFault
  writeStops : ObjectPath → Option Nat
  seekFails : ObjectPath → Bool
  readFault : ObjectPath → Option ReadFault
  enumerationFails : ObjectPath → Bool
  deleteFails : ObjectPath → Bool

variable (platform : Platform)

def aclHash (visit : Visit) (object : ObjectPath) (requirePrivateAcl : Bool) : Except String String :=
  (if requirePrivateAcl then platform.privateAcl visit object else platform.rawAcl visit object).mapError AclFault.text

def identityFor (visit : Visit) (object : ObjectPath) (metadata : Metadata)
    (requireSingleLink requirePrivateAcl : Bool) : Except String ObjectIdentity := do
  errorIf (metadata.nlink = 0 ∨ (requireSingleLink ∧ metadata.nlink ≠ 1)) "hardlink_or_invalid_identity_rejected"
  let acl ← aclHash platform visit object requirePrivateAcl
  return ⟨metadata.dev, metadata.ino, metadata.nlink, acl⟩

/-- The identity of a new directory once its access control is private. -/
def newDirIdentity (object : ObjectPath) (text : String) : Except String ObjectIdentity := do
  let metadata ← orError (platform.metadata .identifying object) text
  identityFor platform .identifying object metadata false true

def applyPrivateAcl (object : ObjectPath) : Except String Unit := do
  match platform.securingFault object with
  | some fault => .error fault.text
  | none => (aclHash platform .securing object true).map fun _ => ()

def openDirComponent (disk : Disk) (visit : Visit) (object : ObjectPath) (privateAcl : Bool) :
    Except String SecureDir := do
  errorIf (platform.openFails visit object ∨ disk.entries[object]?.isNone) "directory_component_open_failed"
  let metadata ← orError (platform.metadata visit object) "directory_identity_unavailable"
  errorIf (¬ disk.isDirectory object ∨ metadata.isSymlink) "reparse_or_wrong_type_rejected"
  let identity ← identityFor platform visit object metadata false privateAcl
  return ⟨object, identity⟩

end Platform

section Names

/-- A text before its last separator, if it has one, and after it. -/
def splitLast : List Char → Option (List Char) × List Char
  | [] => (none, [])
  | c :: rest =>
    match splitLast rest with
    | (some before, leaf) => (some (c :: before), leaf)
    | (none, leaf) => if c = '/' then (some [], leaf) else (none, c :: leaf)

def slashes (relative : String) : Nat := relative.toList.count '/'

def normalized (relative : String) : String :=
  String.ofList (relative.toList.map fun c => if c = '\\' then '/' else c)

def reservedWindowsName (value : List Char) : Bool :=
  let stem := (value.takeWhile (· ≠ '.')).map asciiUpper
  ["CON", "PRN", "AUX", "NUL"].any (·.toList == stem) ||
    ["COM", "LPT"].any fun device => "123456789".toList.any fun digit => stem == device.toList ++ [digit]

/-- A path component that is not a plain name, or not a portable one. -/
def refusedComponent (component : List Char) : Bool :=
  component.contains ':' || component.getLast? == some '.' || component.getLast? == some ' ' ||
    reservedWindowsName component

/-- The components of a relative path; repeated separators and inner dots name nothing. -/
def components (relative : String) : List (List Char) :=
  match splitSegments '/' relative.toList with
  | [] => []
  | first :: rest => (first :: rest.filter (· ≠ ['.'])).filter (!·.isEmpty)

def validateRelative (relative : String) : Except String Unit :=
  errorIf (relative.isEmpty ∨ relative.toList.contains '\\' ∨ relative.toList.head? = some '/' ∨
    (components relative).any refusedComponent) "invalid_private_relative_path"

end Names

/-- The disk, the retained handles of a generation or a cleanup, and the deletions it has asked for. -/
structure Workspace where
  disk : Disk
  dirs : BTreeMap String SecureDir
  files : BTreeMap String SecureFile
  attempts : List ObjectPath

abbrev Work (α : Type) := Attempt Workspace String α

section Steps

variable (platform : Platform)

def createEntry (parent : ObjectPath) (leaf : String) (node : TreeNode Bytes) (text : String) : Work ObjectPath :=
  fun work =>
    if platform.createFails (parent ++ [leaf]) then (.error text, work)
    else match work.disk.create parent leaf node with
      | none => (.error text, work)
      | some disk => (.ok (parent ++ [leaf]), { work with disk := disk })

/-- `delete_retained_handle`, which refuses a directory that is not empty. -/
def deleteRetainedHandle (object : ObjectPath) (text : String) : Work Unit := fun work =>
  let asked := { work with attempts := work.attempts ++ [object] }
  if platform.deleteFails object then (.error text, asked)
  else match work.disk.delete object with
    | none => (.error text, asked)
    | some disk => (.ok (), { asked with disk := disk })

/-- Makes a new object private; where that fails its deletion is tried and the outcome of that ignored. -/
def secureOrDelete (object : ObjectPath) : Work Unit := fun work =>
  match applyPrivateAcl platform object with
  | .ok () => (.ok (), work)
  | .error error => (.error error, (deleteRetainedHandle platform object error work).2)

/-- `write_all` and `sync_all`; a failed write may have written a part. -/
def writeAll (object : ObjectPath) (bytes : Bytes) : Work Unit := fun work =>
  match platform.writeStops object with
  | some count => (.error "private_write_failed",
      { work with disk := (work.disk.write object (bytes.take count)).getD work.disk })
  | none =>
    match work.disk.write object bytes with
    | none => (.error "private_write_failed", work)
    | some disk => (.ok (), { work with disk := disk })

def fileLength (disk : Disk) (object : ObjectPath) : Option Nat := (disk.content object).map List.length

def hashFileHandle (hash : Bytes → String) (disk : Disk) (file : SecureFile) : Except String String :=
  match platform.readFault file.object with
  | some fault => .error fault.text
  | none => do
    let content ← orError (disk.content file.object) ReadFault.read.text
    errorIf (content.length ≠ file.length) "artifact_identity_changed"
    return hash content

/-- The handle kept under a relative path, taken out of the ledger. -/
def takeFile (missing relative : String) : Work SecureFile := fun work =>
  match work.files[relative]? with
  | none => (.error missing, work)
  | some file => (.ok file, { work with files := work.files.erase relative })

def takeDir (missing relative : String) : Work SecureDir := fun work =>
  match work.dirs[relative]? with
  | none => (.error missing, work)
  | some dir => (.ok dir, { work with dirs := work.dirs.erase relative })

def removeFile (missing failed relative : String) : Work Unit := do
  let file ← takeFile missing relative
  deleteRetainedHandle platform file.object failed

def removeDir (missing failed relative : String) : Work Unit := do
  let dir ← takeDir missing relative
  deleteRetainedHandle platform dir.object failed

/-- The files of the ledger, the last path first. -/
def Workspace.filePaths (work : Workspace) : List String := (work.files.toList.map Prod.fst).reverse

/-- The directories of the ledger, the deepest first. -/
def Workspace.dirPaths (work : Workspace) : List String :=
  (work.dirs.toList.map Prod.fst).insertionSort fun left right => slashes right ≤ slashes left

end Steps

structure PrivateTree where
  rootPath : ObjectPath
  root : SecureDir

namespace PrivateTree

variable (platform : Platform) (tree : PrivateTree)

/-- The directory a new object goes into, as the ledger has it, and its name there. -/
def knownParent (work : Workspace) (relative : String) : Except String (ObjectPath × String) := do
  validateRelative relative
  match splitLast relative.toList with
  | (none, leaf) | (some [], leaf) => return (tree.root.object, String.ofList leaf)
  | (some parent, leaf) =>
    let dir ← orError work.dirs[normalized (String.ofList parent)]? "private_parent_unavailable"
    return (dir.object, String.ofList leaf)

def parentAndLeaf (work : Workspace) (relative : String) : Except String (ObjectPath × String) := do
  let (parent, leaf) ← tree.knownParent work relative
  errorIf (platform.cloneFails (parent ++ [leaf])) "private_parent_unavailable"
  return (parent, leaf)

def createDir (relative : String) : Work Unit := do
  reading fun work => errorIf (work.dirs.contains (normalized relative)) "duplicate_private_directory"
  let (parent, leaf) ← reading fun work => tree.parentAndLeaf platform work (normalized relative)
  let object ← createEntry platform parent leaf .directory "private_directory_create_failed"
  let dir ← reading fun work => openDirComponent platform work.disk .opening object false
  secureOrDelete platform object
  let identity ← lift (newDirIdentity platform object "private_identity_unavailable")
  update fun work => { work with dirs := work.dirs.insert (normalized relative) { dir with identity := identity } }

def writeFile (relative : String) (bytes : Bytes) : Work Unit := do
  reading fun work => errorIf (work.files.contains (normalized relative)) "duplicate_private_file"
  let (parent, leaf) ← reading fun work => tree.parentAndLeaf platform work (normalized relative)
  let object ← createEntry platform parent leaf (.file []) "private_create_new_failed"
  secureOrDelete platform object
  writeAll platform object bytes
  lift (errorIf (platform.seekFails object) "private_write_failed")
  let metadata ← lift (orError (platform.metadata .identifying object) "private_identity_unavailable")
  let length ← reading fun work => orError (fileLength work.disk object) "private_identity_unavailable"
  let identity ← lift (identityFor platform .identifying object metadata true true)
  update fun work => { work with files := work.files.insert (normalized relative) ⟨object, identity, length⟩ }

/-- `write_json` of a value that serialises to these bytes, or to none. -/
def writeJson (relative : String) (value : Option Bytes) : Work Unit := do
  let bytes ← lift (orError value "private_serialization_failed")
  tree.writeFile platform relative (bytes ++ [10])

def absolute (relative : String) : Except String ObjectPath := do
  validateRelative relative
  return tree.rootPath ++ (components relative).map String.ofList

def fileSha256 (hash : Bytes → String) (work : Workspace) (relative : String) : Option String :=
  work.files[relative]?.bind fun file => (hashFileHandle platform hash work.disk file).toOption

/-- Goes through a list of removals whatever becomes of each, and says whether one failed. -/
def removeEach (remove : String → Work Unit) : List String → Workspace → Bool × Workspace
  | [], work => (false, work)
  | path :: rest, work =>
    let (removed, after) := remove path work
    let (failed, last) := removeEach remove rest after
    (!removed.isOk || failed, last)

def rollback (work : Workspace) : Bool × Workspace :=
  let (filesFailed, noFiles) := removeEach
    (removeFile platform "private_file_missing" "exact_file_delete_failed") work.filePaths work
  let (dirsFailed, noDirs) := removeEach
    (removeDir platform "private_directory_missing" "exact_directory_delete_failed") noFiles.dirPaths noFiles
  let (root, last) := deleteRetainedHandle platform tree.root.object "" noDirs
  (!filesFailed && !dirsFailed && root.isOk, last)

end PrivateTree

end Onboarding

end RustyFleet
