import RustyFleet.Safety.OnboardingOpening

namespace RustyFleet

namespace Onboarding

open Attempt FileTree

section Steps

variable (platform : Platform) {root : ObjectPath} {before : Disk}

theorem createEntry_ran {parent object : ObjectPath} {leaf text : String} {node : TreeNode Bytes} {work later : Workspace}
    (ran : createEntry platform parent leaf node text work = (.ok object, later)) :
    object = parent ++ [leaf] ∧ ∃ disk, work.disk.create parent leaf node = some disk ∧ later = { work with disk := disk } := by
  unfold createEntry at ran
  split at ran
  · cases ran
  · split at ran
    · cases ran
    · rename_i disk created
      cases ran
      exact ⟨rfl, disk, created, rfl⟩

theorem createEntry_refused {parent : ObjectPath} {leaf text error : String} {node : TreeNode Bytes}
    {work later : Workspace} (ran : createEntry platform parent leaf node text work = (.error error, later)) :
    later = work := by
  unfold createEntry at ran
  split at ran
  · cases ran
    rfl
  · split at ran
    · cases ran
      rfl
    · cases ran

theorem createEntry_contained {parent : ObjectPath} (inside : root <+: parent) (leaf text : String)
    (node : TreeNode Bytes) : Keeps (Contained root before) (createEntry platform parent leaf node text) := by
  intro work contained
  rcases ran : createEntry platform parent leaf node text work with ⟨error | object, later⟩
  · rw [createEntry_refused platform ran]
    exact contained
  · obtain ⟨_, disk, created, rfl⟩ := createEntry_ran platform ran
    have outside := create_outside created (inside.trans (List.prefix_append parent [leaf]))
    exact ⟨contained.placed.of_ledger rfl rfl, contained.outside.trans outside⟩

theorem secureOrDelete_contained {object : ObjectPath} (inside : root <+: object) :
    Keeps (Contained root before) (secureOrDelete platform object) := by
  intro work contained
  unfold secureOrDelete
  split
  · exact contained
  · exact deletion_contained inside _ work contained

theorem write_contained {object : ObjectPath} (inside : root <+: object) (bytes : Bytes) {work : Workspace}
    (contained : Contained root before work) :
    Contained root before { work with disk := (work.disk.write object bytes).getD work.disk } := by
  cases wrote : work.disk.write object bytes with
  | none => exact contained
  | some disk => exact ⟨contained.placed.of_ledger rfl rfl, contained.outside.trans (write_outside wrote inside)⟩

theorem writeAll_contained {object : ObjectPath} (inside : root <+: object) (bytes : Bytes) :
    Keeps (Contained root before) (writeAll platform object bytes) := by
  intro work contained
  unfold writeAll
  split
  · exact write_contained inside _ contained
  · split
    · exact contained
    · rename_i disk wrote
      have kept := write_contained inside bytes contained
      rw [wrote] at kept
      exact kept

end Steps

section Trees

variable (platform : Platform) {before : Disk} (tree : PrivateTree)

theorem parentAndLeaf_known {work : Workspace} {relative leaf : String} {parent : ObjectPath}
    (found : tree.parentAndLeaf platform work relative = .ok (parent, leaf)) :
    tree.knownParent work relative = .ok (parent, leaf) := by
  simp only [PrivateTree.parentAndLeaf, exceptBind_ok] at found
  obtain ⟨_, known, _, _, same⟩ := found
  cases same
  exact known

theorem parentAndLeaf_inside {work : Workspace} (placed : Placed tree.root.object work) {relative leaf : String}
    {parent : ObjectPath} (found : tree.parentAndLeaf platform work relative = .ok (parent, leaf)) :
    tree.root.object <+: parent ∧ parent.length = tree.root.object.length + slashes relative := by
  have known := parentAndLeaf_known platform tree found
  simp only [PrivateTree.knownParent, exceptBind_ok] at known
  obtain ⟨_, valid, found⟩ := known
  obtain ⟨plain, leading⟩ := validateRelative_plain valid
  have depth := splitLast_parent leading
  rcases split : splitLast relative.toList with ⟨_ | above, name⟩
  · rw [split] at found depth
    cases found
    have flat : slashes relative = 0 := depth
    exact ⟨List.prefix_rfl, by omega⟩
  · have start := splitLast_prefix relative.toList above (by rw [split])
    rw [split] at found depth
    obtain ⟨filled, deep⟩ : above ≠ [] ∧ slashes relative = slashes (String.ofList above) + 1 := depth
    have unescaped : '\\' ∉ above := by
      intro member
      exact plain (start.subset (List.mem_append_left _ member))
    cases above with
    | nil => exact absurd rfl filled
    | cons first others =>
      simp only [exceptBind_ok, orError_ok, normalized_plain unescaped] at found
      obtain ⟨dir, opened, same⟩ := found
      cases same
      obtain ⟨inside, deepDir⟩ := placed.dirs _ dir opened
      exact ⟨inside, by omega⟩

theorem createDir_contained (relative : String) :
    Keeps (Contained tree.root.object before) (tree.createDir platform relative) := by
  unfold PrivateTree.createDir
  refine keeps_bind (keeps_reading _) fun _ => ?_
  refine keeps_bind_fact (keeps_reading _)
    (fun work place later contained ran =>
      parentAndLeaf_inside platform tree contained.placed ((reading_ran _ _ _ _).mp ran).1) fun place inside => ?_
  obtain ⟨parent, leaf⟩ := place
  obtain ⟨inside, deep⟩ := inside
  refine keeps_bind_fact (createEntry_contained platform inside leaf _ _)
    (fun work object later _ ran => (createEntry_ran platform ran).1) fun object made => ?_
  have within : tree.root.object <+: object := by
    rw [made]
    exact inside.trans (List.prefix_append parent [leaf])
  refine keeps_bind_fact (keeps_reading _)
    (fun work dir later _ ran => openDirComponent_object platform ((reading_ran _ _ _ _).mp ran).1) fun dir same => ?_
  refine keeps_bind (secureOrDelete_contained platform within) fun _ => ?_
  refine keeps_bind (keeps_lift _) fun identity => ?_
  intro work contained
  have deepDir : dir.object.length = tree.root.object.length + slashes (normalized relative) + 1 := by
    rw [same, made, List.length_append, deep]
    rfl
  rw [← same] at within
  exact ⟨contained.placed.insertDir within deepDir, contained.outside⟩

theorem writeFile_contained (relative : String) (bytes : Bytes) :
    Keeps (Contained tree.root.object before) (tree.writeFile platform relative bytes) := by
  unfold PrivateTree.writeFile
  refine keeps_bind (keeps_reading _) fun _ => ?_
  refine keeps_bind_fact (keeps_reading _)
    (fun work place later contained ran =>
      (parentAndLeaf_inside platform tree contained.placed ((reading_ran _ _ _ _).mp ran).1).1) fun place inside => ?_
  obtain ⟨parent, leaf⟩ := place
  refine keeps_bind_fact (createEntry_contained platform inside leaf _ _)
    (fun work object later _ ran => (createEntry_ran platform ran).1) fun object made => ?_
  have within : tree.root.object <+: object := by
    rw [made]
    exact List.IsPrefix.trans inside (List.prefix_append parent [leaf])
  refine keeps_bind (secureOrDelete_contained platform within) fun _ => ?_
  refine keeps_bind (writeAll_contained platform within bytes) fun _ => ?_
  refine keeps_bind (keeps_lift _) fun _ => ?_
  refine keeps_bind (keeps_lift _) fun metadata => ?_
  refine keeps_bind (keeps_reading _) fun length => ?_
  refine keeps_bind (keeps_lift _) fun identity => ?_
  intro work contained
  exact ⟨contained.placed.insertFile within, contained.outside⟩

theorem writeJson_contained (relative : String) (value : Option Bytes) :
    Keeps (Contained tree.root.object before) (tree.writeJson platform relative value) := by
  unfold PrivateTree.writeJson
  refine keeps_bind (keeps_lift _) fun bytes => ?_
  exact writeFile_contained platform tree relative _

end Trees

section Runs

variable [GenerationEnvironment] (platform : Platform) {before : Disk} (tree : PrivateTree)

theorem generateDevice_contained (hub : HubRequest) (generated : Generated) (device : DeviceRequest) :
    Keeps (Contained tree.root.object before) (generateDevice platform tree hub generated device) := by
  unfold generateDevice
  refine keeps_bind (createDir_contained platform tree _) fun _ => ?_
  refine keeps_bind (keeps_lift _) fun seed => ?_
  refine keeps_bind (keeps_lift _) fun registered => ?_
  refine keeps_bind (writeFile_contained platform tree _ seed) fun _ => ?_
  refine keeps_bind (keeps_lift _) fun seedPath => ?_
  refine keeps_bind (keeps_lift _) fun record => ?_
  refine keeps_bind (keeps_lift _) fun generated => ?_
  refine keeps_bind (writeJson_contained platform tree _ _) fun _ => ?_
  refine keeps_bind (keeps_lift _) fun _ => ?_
  refine keeps_bind (writeJson_contained platform tree _ _) fun _ => ?_
  exact keeps_pure _

theorem generateDevices_contained (hub : HubRequest) (generated : Generated) (devices : List DeviceRequest) :
    Keeps (Contained tree.root.object before) (generateDevices platform tree hub generated devices) := by
  induction devices generalizing generated with
  | nil => exact keeps_pure generated
  | cons device rest ih => exact keeps_bind (generateDevice_contained platform tree hub generated device) ih

theorem generate_contained (request : Request) (digest : String) :
    Keeps (Contained tree.root.object before) (generate platform request tree digest) := by
  unfold generate
  refine keeps_bind (createDir_contained platform tree _) fun _ => ?_
  refine keeps_bind (createDir_contained platform tree _) fun _ => ?_
  refine keeps_bind (generateDevices_contained platform tree _ _ _) fun generated => ?_
  refine keeps_bind (keeps_lift _) fun _ => ?_
  refine keeps_bind (writeJson_contained platform tree _ _) fun _ => ?_
  refine keeps_bind (keeps_reading _) fun entries => ?_
  refine keeps_bind (writeJson_contained platform tree _ _) fun _ => ?_
  exact keeps_pure _

theorem generateBound_contained (request : Request) (digest : String) :
    Keeps (Contained tree.root.object before) (generateBound platform request tree digest) := by
  unfold generateBound
  refine keeps_bind (generate_contained platform tree request digest) fun inventory => ?_
  refine keeps_bind (keeps_reading _) fun _ => ?_
  exact keeps_pure inventory

end Runs

section Inventories

variable (platform : Platform) (tree : PrivateTree) {work later : Workspace}

theorem writeFile_ran {relative : String} {bytes : Bytes}
    (ran : tree.writeFile platform relative bytes work = (.ok (), later)) :
    ∃ parent leaf identity length, tree.parentAndLeaf platform work (normalized relative) = .ok (parent, leaf) ∧
      later.files[normalized relative]? = some ⟨parent ++ [leaf], identity, length⟩ ∧
      fileLength later.disk (parent ++ [leaf]) = some length := by
  simp only [PrivateTree.writeFile, bind_ran, reading_ran, lift_ran, update_ran] at ran
  obtain ⟨_, _, ⟨_, rfl⟩, ⟨parent, leaf⟩, _, ⟨placed, rfl⟩, object, created, made, _, secured, _, _, wrote, _, _, _,
    ⟨_, rfl⟩, metadata, _, ⟨_, rfl⟩, length, _, ⟨measured, rfl⟩, identity, _, ⟨_, rfl⟩, rfl⟩ := ran
  obtain ⟨rfl, _⟩ := createEntry_ran platform made
  exact ⟨parent, leaf, identity, length, placed, BTreeMap.lookup_insert_self _ _ _, (orError_ok _ _ _).mp measured⟩

theorem inventoryName_alone : normalized inventoryName = inventoryName ∧
    splitLast inventoryName.toList = (none, inventoryName.toList) := by
  constructor <;> decide

theorem writeInventory_ran {value : Option Bytes}
    (ran : tree.writeJson platform inventoryName value work = (.ok (), later)) :
    ∃ file : SecureFile, later.files[inventoryName]? = some file ∧ file.object = tree.root.object ++ [inventoryName] ∧
      fileLength later.disk file.object = some file.length := by
  simp only [PrivateTree.writeJson, bind_ran, lift_ran] at ran
  obtain ⟨bytes, _, ⟨_, rfl⟩, ran⟩ := ran
  obtain ⟨parent, leaf, identity, length, placed, stored, measured⟩ := writeFile_ran platform tree ran
  rw [inventoryName_alone.1] at placed stored
  have known := parentAndLeaf_known platform tree placed
  simp only [PrivateTree.knownParent, exceptBind_ok, inventoryName_alone.2, String.ofList_toList] at known
  obtain ⟨_, _, same⟩ := known
  cases same
  exact ⟨_, stored, rfl, measured⟩

variable [GenerationEnvironment]

theorem generateBound_ran {request : Request} {digest : String} {inventory : Inventory}
    (ran : generateBound platform request tree digest work = (.ok inventory, later)) :
    ∃ file : SecureFile, later.files[inventoryName]? = some file ∧ file.object = tree.root.object ++ [inventoryName] ∧
      fileLength later.disk file.object = some file.length := by
  simp only [generateBound, generate, bind_ran, reading_ran] at ran
  obtain ⟨_, _, ⟨_, _, _, _, _, _, _, _, _, _, _, _, _, _, _, _, _, _, _, written, wrote, returned⟩, _, _,
    ⟨_, rfl⟩, finished⟩ := ran
  cases returned
  cases finished
  exact writeInventory_ran platform tree wrote

theorem applyReceipt_refused {request : Request} {digest error : String} {inventory : Inventory}
    (ran : generateBound platform request tree digest work = (.ok inventory, later))
    (refused : applyReceipt platform digest inventory later = .error error) :
    (platform.readFault (tree.root.object ++ [inventoryName])).isSome := by
  obtain ⟨file, stored, object, measured⟩ := generateBound_ran platform tree ran
  cases readable : platform.readFault (tree.root.object ++ [inventoryName]) with
  | some fault => rfl
  | none =>
    obtain ⟨content, found, length⟩ := Option.map_eq_some_iff.mp measured
    have hashed : hashFileHandle platform OnboardingEnvironment.hash later.disk file =
        .ok (OnboardingEnvironment.hash content) := by
      simp only [hashFileHandle, object ▸ readable, found, exceptBind_ok, errorIf_ok]
      exact ⟨content, rfl, (), fun differs => differs length, rfl⟩
    simp only [applyReceipt, PrivateTree.fileSha256, stored, Option.bind_some, hashed] at refused
    cases refused

end Inventories

section Roots

inductive Creation (platform : Platform) (parent : ObjectPath) (leaf : String) (work : Workspace) :
    Except String PrivateTree × Workspace → Prop
  | refused (error : String) : Creation platform parent leaf work (.error error, work)
  | unopened (disk : Disk) (created : work.disk.create parent leaf .directory = some disk) :
      Creation platform parent leaf work (.error partialGeneration, { work with disk := disk })
  | unsecured (disk : Disk) (created : work.disk.create parent leaf .directory = some disk) (error : String)
      (failed : applyPrivateAcl platform (parent ++ [leaf]) = .error error) :
      Creation platform parent leaf work
        (.error error, (deleteRetainedHandle platform (parent ++ [leaf]) error { work with disk := disk }).2)
  | unidentified (disk : Disk) (created : work.disk.create parent leaf .directory = some disk) (error : String)
      (secured : applyPrivateAcl platform (parent ++ [leaf]) = .ok ())
      (failed : newDirIdentity platform (parent ++ [leaf]) "root_identity_unavailable" = .error error) :
      Creation platform parent leaf work (.error error, { work with disk := disk })
  | made (disk : Disk) (created : work.disk.create parent leaf .directory = some disk) (tree : PrivateTree)
      (object : tree.root.object = parent ++ [leaf]) :
      Creation platform parent leaf work (.ok tree, { work with disk := disk })

theorem create_creation [GenerationEnvironment] (platform : Platform) {root leaf : String} {parent : ObjectPath}
    (named : GenerationEnvironment.splitParent root = .ok (parent, leaf)) (work : Workspace) :
    Creation platform parent leaf work (PrivateTree.create platform root work) := by
  unfold PrivateTree.create
  rcases checked : validateNewPrivateRoot platform .checking work.disk root with error | _
  · have failed : reading (fun work => validateNewPrivateRoot platform .checking work.disk root) work =
        (.error error, work) := by
      rw [reading, checked]
    rw [bind_of_error failed]
    exact .refused error
  rw [bind_of_ok (by rw [reading, checked])]
  rcases opened : openParent platform .creating root with error | ⟨above, name⟩
  · rw [bind_of_error (by rw [lift])]
    exact .refused error
  have same : (above, name) = (parent, leaf) := by
    unfold openParent at opened
    split at opened
    · cases opened
    · rw [named] at opened
      cases opened
      rfl
  cases same
  rw [bind_of_ok (by rw [lift])]
  show Creation platform parent leaf work
    ((createEntry platform parent leaf .directory "output_root_create_failed" >>= _) work)
  rcases ran : createEntry platform parent leaf .directory "output_root_create_failed" work with ⟨error | object, later⟩
  · rw [bind_of_error ran, createEntry_refused platform ran]
    exact .refused error
  rw [bind_of_ok ran]
  obtain ⟨rfl, disk, created, rfl⟩ := createEntry_ran platform ran
  rcases looked : openDirComponent platform disk .opening (parent ++ [leaf]) false with error | dir
  · rw [bind_of_error (by rw [reading, openNewRoot, looked, Except.mapError])]
    exact .unopened disk created
  rw [bind_of_ok (by rw [reading, openNewRoot, looked, Except.mapError])]
  rcases secured : applyPrivateAcl platform (parent ++ [leaf]) with error | _
  · rw [bind_of_error (by rw [secureOrDelete, secured])]
    exact .unsecured disk created error secured
  rw [bind_of_ok (by rw [secureOrDelete, secured])]
  rcases known : newDirIdentity platform (parent ++ [leaf]) "root_identity_unavailable" with error | identity
  · rw [bind_of_error (by rw [lift])]
    exact .unidentified disk created error secured known
  rw [bind_of_ok (by rw [lift])]
  have object : dir.object = parent ++ [leaf] := openDirComponent_object platform looked
  exact .made disk created _ object

/-- Once the new root is open it becomes private and shows its identity, or where it does not become private it can
be deleted. -/
structure RootSettles (platform : Platform) (root : ObjectPath) : Prop where
  deletable : ∀ error, applyPrivateAcl platform root = .error error → platform.deleteFails root = false
  identified : applyPrivateAcl platform root = .ok () →
    ∃ identity, newDirIdentity platform root "root_identity_unavailable" = .ok identity

theorem Creation.residue {platform : Platform} {parent : ObjectPath} {leaf error : String} {work later : Workspace}
    (creation : Creation platform parent leaf work (.error error, later)) (settles : RootSettles platform (parent ++ [leaf]))
    (reported : error ≠ partialGeneration) : later.disk = work.disk := by
  cases creation with
  | refused => rfl
  | unopened disk created => exact absurd rfl reported
  | unsecured disk created error failed =>
    rw [deleteRetainedHandle, settles.deletable error failed, delete_create created]
    rfl
  | unidentified disk created error secured failed =>
    obtain ⟨identity, known⟩ := settles.identified secured
    rw [known] at failed
    cases failed

end Roots

section Sessions

variable (platform : Platform) {work later : Workspace}

theorem placed_empty (root : ObjectPath) (disk : Disk) : Placed root ⟨disk, ∅, ∅, []⟩ where
  dirs path dir found := by
    rw [Std.ExtTreeMap.getElem?_empty] at found
    cases found
  files path file found := by
    rw [Std.ExtTreeMap.getElem?_empty] at found
    cases found

theorem accepted_after {entry : EntryRecord} {path : String} (sound : entry.accepted none = true)
    (later : (compare path entry.relativePath).isLT = true) : entry.accepted (some path) = true := by
  simp only [EntryRecord.accepted, Option.all_none, Bool.true_and, Option.all_some, later] at sound ⊢
  exact sound

theorem validateEntries_accepts {unique : List String} {prior : Option String} {entries : List EntryRecord}
    (relative : ∀ entry ∈ entries, validateRelative entry.relativePath = .ok ())
    (sound : ∀ entry ∈ entries, entry.accepted none = true)
    (fresh : ∀ entry ∈ entries, toAsciiLowercase entry.relativePath ∉ unique)
    (distinct : (entries.map fun entry => toAsciiLowercase entry.relativePath).Nodup)
    (above : ∀ path, prior = some path → ∀ entry ∈ entries, (compare path entry.relativePath).isLT = true)
    (sorted : entries.Pairwise fun first second => (compare first.relativePath second.relativePath).isLT = true) :
    validateEntries unique prior entries = .ok () := by
  induction entries generalizing unique prior with
  | nil => rfl
  | cons entry rest ih =>
    obtain ⟨apart, distinctRest⟩ := List.nodup_cons.mp distinct
    obtain ⟨below, sortedRest⟩ := List.pairwise_cons.mp sorted
    have taken : entry.accepted prior = true := by
      cases prior with
      | none => exact sound entry List.mem_cons_self
      | some path =>
        exact accepted_after (sound entry List.mem_cons_self) (above path rfl entry List.mem_cons_self)
    have unused : toAsciiLowercase entry.relativePath ∉ unique := fresh entry List.mem_cons_self
    have others : validateEntries (toAsciiLowercase entry.relativePath :: unique) (some entry.relativePath) rest =
        .ok () := by
      apply ih
      · exact fun other member => relative other (List.mem_cons_of_mem _ member)
      · exact fun other member => sound other (List.mem_cons_of_mem _ member)
      · intro other member reused
        rcases List.mem_cons.mp reused with same | earlier
        · exact apart (List.mem_map.mpr ⟨other, member, same⟩)
        · exact fresh other (List.mem_cons_of_mem _ member) earlier
      · exact distinctRest
      · intro path same other member
        cases same
        exact below other member
      · exact sortedRest
    simp only [validateEntries, exceptBind_ok, errorIf_ok]
    refine ⟨(), relative entry List.mem_cons_self, (), ?_, others⟩
    rw [not_or, not_not, List.contains_iff_mem]
    exact ⟨unused, taken⟩

theorem validateEntries_relative {unique : List String} {prior : Option String} {entries : List EntryRecord}
    (valid : validateEntries unique prior entries = .ok ()) :
    ∀ entry ∈ entries, validateRelative entry.relativePath = .ok () := by
  induction entries generalizing unique prior with
  | nil => exact fun entry member => absurd member List.not_mem_nil
  | cons first rest ih =>
    simp only [validateEntries, exceptBind_ok] at valid
    obtain ⟨_, relative, _, _, later⟩ := valid
    intro entry member
    rcases List.mem_cons.mp member with rfl | within
    · exact relative
    · exact ih later entry within

theorem relativeObject_inside {root : SecureDir} {relative : String} {object : ObjectPath}
    (placed : Placed root.object work) (leading : relative.toList.head? ≠ some '/')
    (reached : CleanupSession.relativeObject platform root work relative = .ok object) :
    root.object <+: object ∧ object.length = root.object.length + slashes relative + 1 := by
  have depth := splitLast_parent leading
  have found := ((relativeObject_ok platform).mp reached).1
  unfold CleanupSession.namedObject at found
  rcases split : splitLast relative.toList with ⟨_ | above, name⟩
  · rw [split] at found depth
    cases found
    have flat : slashes relative = 0 := depth
    exact ⟨List.prefix_append _ _, by rw [List.length_append, flat]; rfl⟩
  · rw [split] at found depth
    obtain ⟨filled, deep⟩ : above ≠ [] ∧ slashes relative = slashes (String.ofList above) + 1 := depth
    cases above with
    | nil => exact absurd rfl filled
    | cons first others =>
      simp only [exceptBind_ok, orError_ok] at found
      obtain ⟨dir, opened, same⟩ := found
      cases same
      obtain ⟨inside, deepDir⟩ := placed.dirs _ dir opened
      exact ⟨inside.trans (List.prefix_append _ _), by rw [List.length_append, deepDir, deep]; rfl⟩

theorem openEntryDir_inside {root dir : SecureDir} {entry : EntryRecord} (placed : Placed root.object work)
    (leading : entry.relativePath.toList.head? ≠ some '/')
    (opened : CleanupSession.openEntryDir platform root entry work = .ok dir) :
    root.object <+: dir.object ∧ dir.object.length = root.object.length + slashes entry.relativePath + 1 := by
  simp only [CleanupSession.openEntryDir, exceptBind_ok] at opened
  obtain ⟨object, named, found, looked, _, _, same⟩ := opened
  cases same
  rw [openDirComponent_object platform looked]
  exact relativeObject_inside platform placed leading named

variable [CleanupEnvironment]

theorem openEntryFile_inside {root : SecureDir} {entry : EntryRecord} {file : SecureFile}
    (placed : Placed root.object work) (leading : entry.relativePath.toList.head? ≠ some '/')
    (opened : CleanupSession.openEntryFile platform root entry work = .ok file) : root.object <+: file.object := by
  simp only [CleanupSession.openEntryFile, exceptBind_ok] at opened
  obtain ⟨object, named, found, looked, _, _, _, _, _, _, same⟩ := opened
  cases same
  rw [openFileFrom_object platform looked]
  exact (relativeObject_inside platform placed leading named).1

theorem openEntry_placed (root : SecureDir) (entry : EntryRecord) (leading : entry.relativePath.toList.head? ≠ some '/') :
    Keeps (Placed root.object) (CleanupSession.openEntry platform root entry) := by
  unfold CleanupSession.openEntry
  split
  · refine keeps_bind_fact (keeps_reading _)
      (fun work dir later placed ran => openEntryDir_inside platform placed leading ((reading_ran _ _ _ _).mp ran).1)
      fun dir inside work placed => ?_
    exact placed.insertDir inside.1 inside.2
  · refine keeps_bind_fact (keeps_reading _)
      (fun work file later placed ran => openEntryFile_inside platform placed leading ((reading_ran _ _ _ _).mp ran).1)
      fun file inside work placed => ?_
    exact placed.insertFile inside

theorem openEntries_placed (root : SecureDir) (entries : List EntryRecord)
    (leading : ∀ entry ∈ entries, entry.relativePath.toList.head? ≠ some '/') :
    Keeps (Placed root.object) (CleanupSession.openEntries platform root entries) := by
  induction entries with
  | nil => exact keeps_pure ()
  | cons entry rest ih =>
    have after := ih fun other member => leading other (List.mem_cons_of_mem _ member)
    exact keeps_bind (openEntry_placed platform root entry (leading entry List.mem_cons_self)) fun _ => after

theorem openInventory_ran {path : String} {disk : Disk} {session : CleanupSession}
    (opened : CleanupSession.openInventory platform path disk = .ok session) :
    session.inventoryLoaded.file.object = session.root.object ++ [inventoryName] ∧
      ∀ entry ∈ session.inventory.entries, validateRelative entry.relativePath = .ok () := by
  simp only [CleanupSession.openInventory, CleanupSession.loadInventory, validateInventoryShape, exceptBind_ok] at opened
  obtain ⟨_, _, _, _, rootPath, _, ⟨parent, leaf⟩, _, root, _, loaded, ⟨file, looked, _, _, bytes, _, _, _, read⟩,
    inventory, _, _, ⟨_, _, _, _, _, entries, _⟩, _, _, _, _, same⟩ := opened
  cases read
  cases same
  exact ⟨openFileFrom_object platform looked, validateEntries_relative entries⟩

theorem openSession_placed {path : String} {session : CleanupSession} {disk : Disk}
    (opened : CleanupSession.openSession platform path ⟨disk, ∅, ∅, []⟩ = (.ok session, later)) :
    Placed session.root.object later ∧
      session.inventoryLoaded.file.object = session.root.object ++ [inventoryName] := by
  simp only [CleanupSession.openSession, bind_ran, reading_ran] at opened
  obtain ⟨_, _, ⟨loaded, rfl⟩, _, _, entries, _, _, ⟨_, rfl⟩, returned⟩ := opened
  cases returned
  obtain ⟨own, relative⟩ := openInventory_ran platform loaded
  refine ⟨?_, own⟩
  have kept := openEntries_placed platform session.root session.inventory.entries
    (fun entry member => (validateRelative_plain (relative entry member)).2) _ (placed_empty session.root.object disk)
  rw [entries] at kept
  exact kept

end Sessions

section Claims

variable (platform : Platform) {root : String} {parent : ObjectPath} {leaf : String} {disk : Disk}

theorem created_contained {created : Disk} (made : disk.create parent leaf .directory = some created) :
    Contained (parent ++ [leaf]) disk ⟨created, ∅, ∅, []⟩ where
  placed := placed_empty _ created
  outside := create_outside made List.prefix_rfl

theorem rolledBack_residue {tree : PrivateTree} {work : Workspace} (free : disk.entries[tree.root.object]? = none)
    (contained : Contained tree.root.object disk work) {outcome : Bool × Workspace}
    (rolled : RollsBack tree work outcome) (deleted : outcome.1 = true) : outcome.2.disk = disk :=
  eq_of_absent (contained.outside.trans rolled.outside) (absent_of_none free) (rolled.done deleted)

variable [GenerationEnvironment]

/-- Where the generation succeeds, the inventory file it has written can be read back. -/
def InventoryReads (platform : Platform) (disk : Disk) (request : Request) (digest : String) (object : ObjectPath) : Prop :=
  ∀ tree created inventory generated,
    PrivateTree.create platform request.outputRoot ⟨disk, ∅, ∅, []⟩ = (.ok tree, created) →
    generateBound platform request tree digest created = (.ok inventory, generated) → platform.readFault object = none

theorem applyConfirmed_residue {request : Request} {digest error : String} {later : Workspace}
    (named : GenerationEnvironment.splitParent request.outputRoot = .ok (parent, leaf))
    (settles : RootSettles platform (parent ++ [leaf]))
    (readable : InventoryReads platform disk request digest (parent ++ [leaf, inventoryName]))
    (failed : applyConfirmed platform request digest ⟨disk, ∅, ∅, []⟩ = (.error error, later))
    (reported : error ≠ partialGeneration) : later.disk = disk := by
  have creation := create_creation platform named ⟨disk, ∅, ∅, []⟩
  unfold applyConfirmed at failed
  rcases made : PrivateTree.create platform request.outputRoot ⟨disk, ∅, ∅, []⟩ with ⟨refused | tree, created⟩
  · rw [made] at creation failed
    cases failed
    exact creation.residue settles reported
  rw [made] at creation failed
  cases creation with
  | made madeDisk new tree object =>
    have free : disk.entries[tree.root.object]? = none := by
      rw [object]
      exact (create_some new).2.1
    have start := created_contained new
    rw [← object] at start
    have kept := generateBound_contained platform tree request digest _ start
    rcases ran : generateBound platform request tree digest ⟨madeDisk, ∅, ∅, []⟩ with ⟨wrong | inventory, generated⟩
    · simp only [ran] at failed kept
      have rolled := rollback_rollsBack platform tree kept.placed
      cases done : (tree.rollback platform generated).1 with
      | false =>
        simp only [done, Prod.mk.injEq, Except.error.injEq] at failed
        exact absurd failed.1.symm reported
      | true =>
        have gone := rolledBack_residue free kept rolled done
        cases failed
        exact gone
    · simp only [ran, Prod.mk.injEq] at failed
      have unread := applyReceipt_refused platform tree ran failed.1
      rw [object, List.append_assoc] at unread
      rw [show [leaf] ++ [inventoryName] = [leaf, inventoryName] from rfl, readable tree _ inventory generated made ran] at unread
      cases unread

theorem unread_inventory_residue {request : Request} {digest : String} {tree : PrivateTree} {created generated : Workspace}
    {inventory : Inventory} {fault : ReadFault}
    (named : GenerationEnvironment.splitParent request.outputRoot = .ok (parent, leaf))
    (made : PrivateTree.create platform request.outputRoot ⟨disk, ∅, ∅, []⟩ = (.ok tree, created))
    (ran : generateBound platform request tree digest created = (.ok inventory, generated))
    (unread : platform.readFault (parent ++ [leaf, inventoryName]) = some fault) :
    applyConfirmed platform request digest ⟨disk, ∅, ∅, []⟩ = (.error "inventory_commit_missing", generated) ∧
      generated.disk ≠ disk := by
  have creation := create_creation platform named ⟨disk, ∅, ∅, []⟩
  rw [made] at creation
  obtain ⟨file, stored, object, measured⟩ := generateBound_ran platform tree ran
  cases creation with
  | made madeDisk new tree root =>
    have joined : file.object = parent ++ [leaf, inventoryName] := by
      rw [object, root, List.append_assoc]
      rfl
    constructor
    · simp [applyConfirmed, made, ran, applyReceipt, PrivateTree.fileSha256, stored, hashFileHandle, joined, unread,
        orError, Except.toOption]
    · rintro rfl
      have gone := absent_of_none (create_some new).2.1 file.object (by rw [joined]; exact ⟨[inventoryName], by simp⟩)
      obtain ⟨content, found, _⟩ := Option.map_eq_some_iff.mp measured
      rw [content_eq _ found] at gone
      cases gone

theorem openParent_named {visit : Visit} (opened : openParent platform visit root = .ok (parent, leaf)) :
    GenerationEnvironment.splitParent root = .ok (parent, leaf) := by
  unfold openParent at opened
  split at opened
  · cases opened
  · exact opened

theorem generated_contained {tree : PrivateTree} {created : Workspace} (request : Request) (digest : String)
    (made : PrivateTree.create platform root ⟨disk, ∅, ∅, []⟩ = (.ok tree, created)) :
    Contained tree.root.object disk (generateBound platform request tree digest created).2 := by
  have parts := made
  simp only [PrivateTree.create, bind_ran, lift_ran] at parts
  obtain ⟨_, _, _, ⟨parent, leaf⟩, _, ⟨opened, _⟩, _⟩ := parts
  have creation := create_creation platform (openParent_named platform opened) ⟨disk, ∅, ∅, []⟩
  rw [made] at creation
  cases creation with
  | made madeDisk new tree object =>
    have start := created_contained new
    rw [← object] at start
    exact generateBound_contained platform tree request digest _ start

end Claims

section Results

variable [CleanupEnvironment] (platform : Platform) (disk : Disk)

/-- An onboarding that fails leaves nothing behind, or says that it did, where its new root settles and an inventory
it has written can be read back; rollbacks and cleanups delete what their ledgers hold and nothing else, directories
from the inside out. -/
theorem onboarding_leaves_no_residue :
    (∀ requestPath confirmation request digest parent leaf,
      confirmedRequest platform disk requestPath confirmation = .ok (request, digest) →
      GenerationEnvironment.splitParent request.outputRoot = .ok (parent, leaf) →
      RootSettles platform (parent ++ [leaf]) →
      InventoryReads platform disk request digest (parent ++ [leaf, inventoryName]) →
      ∀ error later, apply platform requestPath confirmation disk = (.error error, later) →
        error ≠ partialGeneration → later.disk = disk) ∧
    (∀ root tree created request digest,
      PrivateTree.create platform root ⟨disk, ∅, ∅, []⟩ = (.ok tree, created) →
      ∀ work, work = (generateBound platform request tree digest created).2 →
        RollsBack tree work (tree.rollback platform work)) ∧
    (∀ path session work, CleanupSession.openSession platform path ⟨disk, ∅, ∅, []⟩ = (.ok session, work) →
      DeletesExactly session work (session.deleteExact platform work)) := by
  refine ⟨?_, ?_, ?_⟩
  · intro requestPath confirmation request digest parent leaf accepted named settles readable error later failed
    rw [apply, accepted] at failed
    exact applyConfirmed_residue platform named settles readable failed
  · rintro root tree created request digest made _ rfl
    exact rollback_rollsBack platform tree (generated_contained platform request digest made).placed
  · intro path session work opened
    obtain ⟨placed, own⟩ := openSession_placed platform opened
    exact deleteExact_deletes platform session placed own

end Results

section Samples

def quotedText (text : String) : String := "\"" ++ text ++ "\""

def quotedPath (path : String) : String :=
  quotedText (String.ofList (path.toList.flatMap fun c => if c = '\\' then ['\\', '\\'] else [c]))

def identityText (identity : ObjectIdentity) : String :=
  "\x7b\"volume_serial_number\":" ++ toString identity.volumeSerialNumber ++ ",\"file_id\":" ++
    toString identity.fileId ++ ",\"number_of_links\":" ++ toString identity.numberOfLinks ++ ",\"acl_sha256\":" ++
    quotedText identity.aclSha256 ++ "\x7d"

def entryText (entry : EntryRecord) : String :=
  "\x7b\"relative_path\":" ++ quotedText entry.relativePath ++ ",\"kind\":" ++
    (match entry.kind with
      | .directory => "\"directory\""
      | .file => "\"file\"") ++
    ",\"identity\":" ++ identityText entry.identity ++
    (match entry.sha256 with
      | none => ""
      | some sha256 => ",\"sha256\":" ++ quotedText sha256) ++ "\x7d"

def inventoryText (inventory : Inventory) : String :=
  "\x7b\"schema\":" ++ (quotedText inventory.schema ++ ",\"plan_sha256\":" ++ quotedText inventory.planSha256 ++
    ",\"output_root\":" ++ quotedPath inventory.outputRoot ++
    ",\"tool_manifest_sha256\":" ++ quotedText inventory.toolManifestSha256 ++
    ",\"tool_executable_sha256\":" ++ quotedText inventory.toolExecutableSha256 ++
    ",\"quest_profile_owner_source_sha256\":" ++ quotedText inventory.questProfileOwnerSourceSha256 ++
    ",\"quest_profile_owner_fixture_sha256\":" ++ quotedText inventory.questProfileOwnerFixtureSha256 ++
    ",\"root_identity\":" ++ identityText inventory.rootIdentity ++
    ",\"entries\":[" ++ String.intercalate "," (inventory.entries.map entryText) ++
    "],\"state\":" ++ quotedText inventory.state ++ "\x7d")

def sampleContent : Bytes := List.replicate 32 0x42

def sampleAcl := "469b08e9509f8f5b67f29c42d54ac19dcbf955211be176fb2a4436ebaa61d0f7"

def sampleRoot : ObjectPath := ["fleet", "out"]

def sampleOutput := "C:\\fleet\\out"

def sampleRequestPath := "C:\\fleet\\request.json"

def sampleInventoryPath := "C:\\fleet\\out\\onboarding.private-inventory.json"

def sampleDeviceName := "device-9c10162687edf74003f76cdb436b583ce5f451380a2da56b7781e927eada5997"

def sampleObjects : List (EntryKind × String × List String) :=
  [(.directory, "devices", ["devices"]),
    (.directory, "devices/device-9c10162687edf74003f76cdb436b583ce5f451380a2da56b7781e927eada5997",
      ["devices", sampleDeviceName]),
    (.file, "devices/device-9c10162687edf74003f76cdb436b583ce5f451380a2da56b7781e927eada5997/fleet-agent.profile.json",
      ["devices", sampleDeviceName, "fleet-agent.profile.json"]),
    (.file,
      "devices/device-9c10162687edf74003f76cdb436b583ce5f451380a2da56b7781e927eada5997/fleet-agent.public-key-record.json",
      ["devices", sampleDeviceName, "fleet-agent.public-key-record.json"]),
    (.file, "devices/device-9c10162687edf74003f76cdb436b583ce5f451380a2da56b7781e927eada5997/fleet-agent.seed",
      ["devices", sampleDeviceName, "fleet-agent.seed"]),
    (.directory, "hub", ["hub"]),
    (.file, "hub/enrollment.private-config.json", ["hub", "enrollment.private-config.json"])]

def sampleIdentity (depth : Nat) : ObjectIdentity := ⟨1, 100 + depth, 1, sampleAcl⟩

def sampleEntry (object : EntryKind × String × List String) : EntryRecord where
  relativePath := object.2.1
  kind := object.1
  identity := sampleIdentity object.2.2.length
  sha256 := if object.1 = .directory then none else some sampleFingerprintHash

def sampleInventory : Inventory where
  schema := inventorySchema
  planSha256 := sampleFingerprintHash
  outputRoot := sampleOutput
  toolManifestSha256 := toolManifestSha256
  toolExecutableSha256 := toolExecutableSha256
  questProfileOwnerSourceSha256 := profileOwnerSourceSha256
  questProfileOwnerFixtureSha256 := profileOwnerFixtureSha256
  rootIdentity := sampleIdentity 0
  entries := sampleObjects.map sampleEntry
  state := "generated-not-installed-or-enrolled"

def sampleInventoryBytes : Bytes := (inventoryText sampleInventory).toUTF8.data.toList

/-- A platform that refuses nothing. -/
def samplePlatform : Platform where
  ancestorFault _ := none
  cloneFails _ := false
  createFails _ := false
  openFails _ _ := false
  metadata _ object := some ⟨1, (sampleIdentity (object.length - 2)).fileId, 1, false⟩
  rawAcl _ _ := .ok sampleAcl
  privateAcl _ _ := .ok sampleAcl
  securingFault _ := none
  writeStops _ := none
  seekFails _ := false
  readFault _ := none
  enumerationFails _ := false
  deleteFails _ := false

abbrev sampleCleanup : CleanupEnvironment where
  toOnboardingEnvironment := sampleEnvironment
  splitParent path := if path = sampleOutput then .ok (["fleet"], "out") else .error "unsafe_windows_path"
  readRequest _ := .ok []
  requestFromSlice _ := some (sampleRequest "key.1")
  validateTool _ := .ok ()
  planJcs _ := some sampleContent
  fillSeed _ := some sampleContent
  invokeKeyRecordTool keyId _ := .ok (sampleRecord keyId)
  toolSha256 _ := .ok toolExecutableSha256
  keyRecordJson _ := some sampleContent
  profileJson _ := some sampleContent
  hubConfigAccepted _ _ := true
  hubConfigJson _ _ := some sampleContent
  inventoryJson inventory := some (inventoryText inventory).toUTF8.data.toList
  fileName path := if path = sampleInventoryPath then some inventoryName else none
  parentPath path := if path = sampleInventoryPath then some sampleOutput else none
  samePath left right := left == right
  inventoryFromSlice bytes := if bytes = sampleInventoryBytes then some sampleInventory else none
  cleanupPlanJcs _ _ _ := some sampleContent

def bareDisk : Disk where
  entries := (∅ : BTreeMap ObjectPath (TreeNode Bytes)).insert [] .directory
  closed path name node found := by
    have apart : path ++ [name] ≠ [] := by simp
    rw [BTreeMap.lookup_insert_of_ne _ _ apart, Std.ExtTreeMap.getElem?_empty] at found
    cases found

def grown (disk : Disk) (parent : ObjectPath) (leaf : String) (node : TreeNode Bytes) : Disk :=
  (disk.create parent leaf node).getD disk

def sampleDisk : Disk := grown bareDisk [] "fleet" .directory

def grownBy (disk : Disk) (object : EntryKind × String × List String) : Disk :=
  grown disk (sampleRoot ++ object.2.2.dropLast) (object.2.2.getLast?.getD "")
    (if object.1 = .directory then .directory else .file sampleContent)

def sampleObjectsDisk : Disk := sampleObjects.foldl grownBy (grown sampleDisk ["fleet"] "out" .directory)

def sampleGenerated : Disk := grown sampleObjectsDisk sampleRoot inventoryName (.file sampleInventoryBytes)

theorem grown_entry {disk : Disk} {parent : ObjectPath} {leaf : String} {node : TreeNode Bytes}
    (directory : disk.isDirectory parent = true) (free : disk.entries[parent ++ [leaf]]?.isNone = true) :
    (grown disk parent leaf node).entries[parent ++ [leaf]]? = some node := by
  have standing := And.intro directory (Option.isNone_iff_eq_none.mp free)
  have created : ∃ tree, disk.create parent leaf node = some tree := by
    rw [FileTree.create, dif_pos standing]
    exact ⟨_, rfl⟩
  obtain ⟨tree, created⟩ := created
  rw [grown, created, Option.getD_some, (create_some created).2.2, BTreeMap.lookup_insert_self]

theorem grown_apart {disk : Disk} {parent path : ObjectPath} {leaf : String} {node : TreeNode Bytes}
    (apart : path ≠ parent ++ [leaf]) : (grown disk parent leaf node).entries[path]? = disk.entries[path]? := by
  unfold grown
  cases created : disk.create parent leaf node with
  | none => rfl
  | some tree => rw [Option.getD_some, (create_some created).2.2, BTreeMap.lookup_insert_of_ne _ _ apart]

def sampleStands (object : EntryKind × String × List String) : Bool :=
  match sampleObjectsDisk.entries[sampleRoot ++ object.2.2]? with
  | some .directory => object.1 = .directory
  | some (.file content) => object.1 = .file && content == sampleContent
  | none => false

theorem sampleObjects_standing : sampleObjectsDisk.isDirectory sampleRoot = true ∧
    sampleObjectsDisk.entries[sampleRoot ++ [inventoryName]]?.isNone = true ∧
    sampleObjects.all sampleStands = true := by
  decide +kernel

theorem sampleInventory_stored :
    sampleGenerated.entries[sampleRoot ++ [inventoryName]]? = some (.file sampleInventoryBytes) :=
  grown_entry sampleObjects_standing.1 sampleObjects_standing.2.1

theorem sampleRoot_stored : sampleGenerated.entries[sampleRoot]? = some .directory := by
  have apart : sampleRoot ≠ sampleRoot ++ [inventoryName] := by simp
  rw [sampleGenerated, grown_apart apart]
  exact (isDirectory_iff _ _).mp sampleObjects_standing.1

theorem grown_known {disk : Disk} {parent path : ObjectPath} {leaf : String} {node : TreeNode Bytes}
    (found : ((grown disk parent leaf node).entries[path]?).isSome = true) :
    path = parent ++ [leaf] ∨ (disk.entries[path]?).isSome = true := by
  by_cases own : path = parent ++ [leaf]
  · exact .inl own
  · rw [grown_apart own] at found
    exact .inr found

theorem grownBy_known {objects : List (EntryKind × String × List String)} {disk : Disk} {path : ObjectPath}
    (found : ((objects.foldl grownBy disk).entries[path]?).isSome = true) :
    (∃ object ∈ objects, path = sampleRoot ++ object.2.2.dropLast ++ [object.2.2.getLast?.getD ""]) ∨
      (disk.entries[path]?).isSome = true := by
  induction objects generalizing disk with
  | nil => exact .inr found
  | cons object rest ih =>
    rcases ih found with ⟨other, member, same⟩ | before
    · exact .inl ⟨other, List.mem_cons_of_mem _ member, same⟩
    · rcases grown_known before with own | earlier
      · exact .inl ⟨object, List.mem_cons_self, own⟩
      · exact .inr earlier

theorem sampleObjects_named : ∀ object ∈ sampleObjects, segments object.2.1 = object.2.2 ∧
    object.2.2 ≠ [inventoryName] ∧ object.2.2.dropLast ++ [object.2.2.getLast?.getD ""] = object.2.2 := by
  intro object member
  simp only [sampleObjects, List.mem_cons, List.not_mem_nil, or_false] at member
  rcases member with rfl | rfl | rfl | rfl | rfl | rfl | rfl <;> refine ⟨rfl, ?_, rfl⟩
  all_goals simp [inventoryName]

theorem sampleGenerated_known {path : ObjectPath} (found : (sampleGenerated.entries[path]?).isSome = true) :
    path = sampleRoot ++ [inventoryName] ∨ (∃ object ∈ sampleObjects, path = sampleRoot ++ object.2.2) ∨
      path <+: sampleRoot := by
  rcases grown_known found with isInventory | found
  · exact .inl isInventory
  rcases grownBy_known found with ⟨object, member, same⟩ | found
  · rw [List.append_assoc, (sampleObjects_named object member).2.2] at same
    exact .inr (.inl ⟨object, member, same⟩)
  right
  right
  rcases grown_known found with rfl | found
  · exact List.prefix_rfl
  rcases grown_known found with rfl | found
  · exact ⟨["out"], rfl⟩
  by_cases empty : path = []
  · subst empty
    exact List.nil_prefix
  · rw [bareDisk, BTreeMap.lookup_insert_of_ne _ _ empty, Std.ExtTreeMap.getElem?_empty] at found
    cases found

theorem sampleGenerated_below {path : ObjectPath} (inside : sampleRoot <+: path) (apart : path ≠ sampleRoot)
    (found : (sampleGenerated.entries[path]?).isSome = true) :
    path = sampleRoot ++ [inventoryName] ∨ ∃ object ∈ sampleObjects, path = sampleRoot ++ object.2.2 := by
  rcases sampleGenerated_known found with isInventory | isObject | above
  · exact .inl isInventory
  · exact .inr isObject
  · exact absurd (above.eq_of_length_le inside.length_le) apart

theorem sampleGenerated_plain {parent : ObjectPath} {name : String}
    (found : (sampleGenerated.entries[parent ++ [name]]?).isSome = true) : '/' ∉ name.toList := by
  rcases sampleGenerated_known found with isInventory | ⟨object, member, same⟩ | above
  · obtain ⟨_, named⟩ := List.append_inj' isInventory rfl
    rw [List.singleton_inj.mp named]
    exact inventoryName_unbroken
  · obtain ⟨place, _, split⟩ := sampleObjects_named object member
    rw [← split, ← List.append_assoc] at same
    obtain ⟨_, named⟩ := List.append_inj' same rfl
    have inParts : name ∈ segments object.2.1 := by
      rw [place, ← split, List.singleton_inj.mp named]
      exact List.mem_append_right _ List.mem_cons_self
    exact segments_parts inParts
  · have part : name ∈ ["fleet", "out"] := above.subset (List.mem_append_right _ List.mem_cons_self)
    simp only [List.mem_cons, List.not_mem_nil, or_false] at part
    rcases part with rfl | rfl
    · decide
    · decide

theorem sampleObject_stored {object : EntryKind × String × List String} (member : object ∈ sampleObjects) :
    sampleGenerated.entries[sampleRoot ++ object.2.2]? =
      some (if object.1 = .directory then .directory else .file sampleContent) := by
  have apart : sampleRoot ++ object.2.2 ≠ sampleRoot ++ [inventoryName] := by
    intro same
    exact (sampleObjects_named object member).2.1 (List.append_cancel_left same)
  have stands := List.all_eq_true.mp sampleObjects_standing.2.2 object member
  rw [sampleGenerated, grown_apart apart]
  unfold sampleStands at stands
  split at stands
  · rename_i stored
    rw [stored, if_pos (of_decide_eq_true stands)]
  · rename_i stored
    obtain ⟨kind, content⟩ := Bool.and_eq_true_iff.mp stands
    rw [stored, of_decide_eq_true kind, beq_iff_eq.mp content]
    rfl
  · cases stands

section Paths

theorem ofList_isEmpty (text : List Char) : (String.ofList text).isEmpty = text.isEmpty := by
  rw [Bool.eq_iff_iff, String.isEmpty, beq_iff_eq, String.utf8ByteSize_eq_zero_iff, String.ofList_eq_empty_iff,
    List.isEmpty_iff]

theorem compare_ofList {first second : List Char} (below : first < second) :
    compare (String.ofList first) (String.ofList second) = .lt := by
  apply if_pos
  rw [String.lt_iff, String.toList_ofList, String.toList_ofList]
  exact below

theorem samplePaths_chars : ∃ chars : List (List Char), sampleObjects.map (·.2.1) = chars.map String.ofList ∧
    (∀ text ∈ chars, validateRelative (String.ofList text) = .ok ()) ∧
    ((inventoryName.toList :: chars).map (List.map asciiLower)).Nodup ∧ chars.Pairwise (· < ·) := by
  refine ⟨[_, _, _, _, _, _, _], rfl, ?_⟩
  simp only [validateRelative, components, ofList_isEmpty, String.toList_ofList, errorIf_ok]
  decide

theorem sampleEntries_sound : ∀ object ∈ sampleObjects, (sampleEntry object).accepted none = true := by
  have acl : isSha256 sampleAcl = true := by decide
  have digest : isSha256 sampleFingerprintHash = true := by decide
  rintro ⟨kind, names⟩ member
  cases kind with
  | directory => simp [sampleEntry, sampleIdentity, EntryRecord.accepted, acl]
  | file => simp [sampleEntry, sampleIdentity, EntryRecord.accepted, acl, digest]

theorem sampleEntries_named : WellNamed sampleInventory ∧
    (sampleInventory.entries.map (·.relativePath)).Pairwise (fun first second => compare first second = .lt) ∧
    ∀ entry ∈ sampleInventory.entries, validateRelative entry.relativePath = .ok () := by
  obtain ⟨chars, paths, relative, distinct, sorted⟩ := samplePaths_chars
  have entryPaths : sampleInventory.entries.map (·.relativePath) = chars.map String.ofList := by
    rw [← paths, sampleInventory, List.map_map]
    rfl
  have valid : ∀ entry ∈ sampleInventory.entries, validateRelative entry.relativePath = .ok () := by
    apply List.forall_mem_map (f := EntryRecord.relativePath) (P := fun path => validateRelative path = .ok ()) |>.mp
    rw [entryPaths]
    exact List.forall_mem_map.mpr relative
  refine ⟨⟨?_, ?_, ?_⟩, ?_, valid⟩
  · intro entry member
    have checked := valid entry member
    simp only [validateRelative, errorIf_ok, not_or] at checked
    exact Bool.eq_false_iff.mpr checked.1
  · intro entry member
    exact (validateRelative_plain (valid entry member)).2
  · have lowered : toAsciiLowercase ∘ String.ofList = String.ofList ∘ List.map asciiLower := by
      funext text
      simp [toAsciiLowercase]
    rw [List.map_cons, entryPaths, List.map_map, lowered, ← List.map_map]
    exact distinct.map fun first second => String.ofList_injective
  · rw [entryPaths]
    exact List.pairwise_map.mpr (sorted.imp compare_ofList)

theorem sampleEntries_valid : validateEntries [] none sampleInventory.entries = .ok () := by
  obtain ⟨named, sorted, relative⟩ := sampleEntries_named
  apply validateEntries_accepts
  · exact relative
  · exact List.forall_mem_map.mpr sampleEntries_sound
  · exact fun entry _ => List.not_mem_nil
  · have distinct := (List.nodup_cons.mp named.distinct).2
    rw [List.map_map] at distinct
    exact distinct
  · rintro entry ⟨⟩
  · apply (List.pairwise_map (f := EntryRecord.relativePath) (R := fun first second => (compare first second).isLT = true)).mp
    apply sorted.imp
    intro first second below
    rw [below]
    rfl

theorem sampleLayout : validateExpectedLayout sampleInventory.entries = .ok () := by
  decide

theorem sampleInventory_shape : @validateInventoryShape sampleEnvironment sampleInventory = .ok () := by
  have digest : isSha256 sampleFingerprintHash = true := by decide
  have acl : isSha256 sampleAcl = true := by decide
  have absolute : sampleEnvironment.isAbsolute sampleOutput = true := by decide
  simp only [validateInventoryShape, exceptBind_ok, errorIf_ok]
  refine ⟨(), ?_, (), rfl, (), sampleEntries_valid, sampleLayout⟩
  simp [sampleInventory, sampleIdentity, digest, acl, absolute]

end Paths

section Opened

theorem intercalate_size {limit : Nat} (texts : List String) (short : ∀ text ∈ texts, text.utf8ByteSize ≤ limit) :
    (String.intercalate "," texts).utf8ByteSize ≤ texts.length * (limit + 1) := by
  induction texts with
  | nil => exact Nat.zero_le _
  | cons first rest ih =>
    have own := short first List.mem_cons_self
    have later := ih fun text member => short text (List.mem_cons_of_mem _ member)
    cases rest with
    | nil =>
      rw [String.intercalate_singleton, List.length_singleton, Nat.one_mul]
      exact Nat.le_succ_of_le own
    | cons second others =>
      rw [String.intercalate_cons_cons, String.utf8ByteSize_append, String.utf8ByteSize_append, List.length_cons,
        Nat.succ_mul]
      have comma : ",".utf8ByteSize = 1 := rfl
      omega

def withoutEntries (inventory : Inventory) : Inventory := { inventory with entries := [] }

theorem inventoryText_size (inventory : Inventory) :
    (inventoryText inventory).utf8ByteSize = (inventoryText (withoutEntries inventory)).utf8ByteSize +
      (String.intercalate "," (inventory.entries.map entryText)).utf8ByteSize := by
  simp only [inventoryText, withoutEntries, String.utf8ByteSize_append, List.map_nil, String.intercalate_nil,
    String.utf8ByteSize_empty]
  omega

theorem sampleInventoryBytes_length : 0 < sampleInventoryBytes.length ∧ sampleInventoryBytes.length ≤ maxJsonBytes := by
  have size : sampleInventoryBytes.length = (inventoryText sampleInventory).utf8ByteSize := rfl
  have header : 0 < (inventoryText (withoutEntries sampleInventory)).utf8ByteSize ∧
      (inventoryText (withoutEntries sampleInventory)).utf8ByteSize ≤ 4096 := by
    decide +kernel
  have entries : ∀ object ∈ sampleObjects, (entryText (sampleEntry object)).utf8ByteSize ≤ 1023 := by
    decide +kernel
  have short : ∀ text ∈ sampleInventory.entries.map entryText, text.utf8ByteSize ≤ 1023 := by
    rw [sampleInventory, List.map_map]
    exact List.forall_mem_map.mpr entries
  have count : (sampleInventory.entries.map entryText).length * (1023 + 1) ≤ 7168 := Nat.le_refl 7168
  rw [size, inventoryText_size]
  constructor
  · exact Nat.add_pos_left header.1 _
  · have bound := Nat.add_le_add header.2 ((intercalate_size _ short).trans count)
    exact bound.trans (by decide)

def sampleSession : CleanupSession where
  inventoryLoaded :=
    { file := ⟨sampleRoot ++ [inventoryName], sampleIdentity 1, sampleInventoryBytes.length⟩
      bytes := sampleInventoryBytes }
  inventory := sampleInventory
  root := ⟨sampleRoot, sampleIdentity 0⟩

theorem sampleRoot_opened (privateAcl : Bool) :
    openDirComponent samplePlatform sampleGenerated .opening sampleRoot privateAcl = .ok sampleSession.root := by
  simp only [openDirComponent, exceptBind_ok, errorIf_ok]
  refine ⟨(), ?_, _, rfl, (), ?_, sampleIdentity 0, ?_, rfl⟩
  · simp [samplePlatform, sampleRoot_stored]
  · simp [isDirectory, sampleRoot_stored, TreeNode.isDirectory]
  · cases privateAcl <;> rfl

theorem sampleInventory_loaded :
    CleanupSession.loadInventory samplePlatform sampleSession.root sampleGenerated = .ok sampleSession.inventoryLoaded := by
  obtain ⟨filled, small⟩ := sampleInventoryBytes_length
  have content : sampleGenerated.content (sampleRoot ++ [inventoryName]) = some sampleInventoryBytes := by
    rw [FileTree.content, sampleInventory_stored]
  have opened : CleanupSession.openFileFrom samplePlatform sampleGenerated (sampleRoot ++ [inventoryName]) maxJsonBytes
      "inventory" = .ok sampleSession.inventoryLoaded.file := by
    simp only [CleanupSession.openFileFrom, exceptBind_ok, errorIf_ok, content, sampleInventory_stored]
    refine ⟨(), ?_, _, rfl, _, rfl, (), ?_, sampleIdentity 1, rfl, rfl⟩
    · simp [samplePlatform]
    · simp only [Bool.false_eq_true, false_or, not_or]
      omega
  simp only [CleanupSession.loadInventory, exceptBind_ok, errorIf_ok]
  refine ⟨_, opened, (), ?_, _, (orError_ok _ _ _).mpr content, (), fun differs => differs rfl, rfl⟩
  intro linked
  cases linked

theorem sampleInventory_opened :
    @CleanupSession.openInventory samplePlatform sampleCleanup sampleInventoryPath sampleGenerated = .ok sampleSession := by
  have root := sampleRoot_opened true
  simp only [CleanupSession.openInventory, exceptBind_ok, errorIf_ok]
  refine ⟨(), rfl, (), ?_, sampleOutput, ?_, (["fleet"], "out"), ?_, _, root, _, sampleInventory_loaded, sampleInventory,
    ?_, (), sampleInventory_shape, (), ?_, (), ?_, rfl⟩
  · exact fun differs => differs (if_pos rfl)
  · exact (orError_ok _ _ _).mpr (if_pos rfl)
  · rfl
  · exact (orError_ok _ _ _).mpr (if_pos rfl)
  · exact fun differs => differs (beq_self_eq_true sampleOutput)
  · exact fun differs => differs rfl

/-- The objects of the root a cleanup of the sample asks for. -/
def sampleOrder : List (List String) :=
  [["hub", "enrollment.private-config.json"], ["devices", sampleDeviceName, "fleet-agent.seed"],
    ["devices", sampleDeviceName, "fleet-agent.public-key-record.json"],
    ["devices", sampleDeviceName, "fleet-agent.profile.json"], ["devices", sampleDeviceName], ["devices"], ["hub"],
    [inventoryName], []]

theorem sampleEntry_opens : ∀ entry ∈ sampleInventory.entries,
    @Opens samplePlatform sampleCleanup sampleRoot sampleGenerated entry := by
  intro entry inEntries
  obtain ⟨⟨kind, path, names⟩, member, rfl⟩ := List.mem_map.mp inEntries
  obtain ⟨place, _⟩ := sampleObjects_named _ member
  have stored := sampleObject_stored member
  simp only at place stored
  refine @Opens.mk samplePlatform sampleCleanup _ _ _ rfl ?_ ?_
  · rintro same
    have directory : kind = .directory := same
    subst directory
    simp only [openDirComponent, sampleEntry, place, exceptBind_ok, errorIf_ok]
    refine ⟨(), ?_, _, rfl, (), ?_, sampleIdentity names.length, ?_, rfl⟩
    · simp [samplePlatform, stored]
    · simp [isDirectory, stored, TreeNode.isDirectory]
    · simp [identityFor, samplePlatform, aclHash, sampleIdentity, sampleRoot]
      rfl
  · rintro same
    have file : kind = .file := same
    subst file
    have content : sampleGenerated.content (sampleRoot ++ names) = some sampleContent := by
      rw [FileTree.content, stored]
      rfl
    refine ⟨sampleContent.length, sampleFingerprintHash, ?_, ?_, rfl⟩
    · simp only [CleanupSession.openFileFrom, sampleEntry, place, exceptBind_ok, errorIf_ok, content, stored]
      refine ⟨(), ?_, _, rfl, _, rfl, (), ?_, sampleIdentity names.length, ?_, rfl⟩
      · simp [samplePlatform]
      · simp [sampleContent, maxExecutableBytes]
      · simp [identityFor, samplePlatform, aclHash, sampleIdentity, sampleRoot]
        rfl
    · simp only [hashFileHandle, sampleEntry, place, content]
      exact congrArg Except.ok (if_pos rfl)

def sampleDevicePath := "devices/device-9c10162687edf74003f76cdb436b583ce5f451380a2da56b7781e927eada5997"

theorem sampleEntries_parents : ∀ entry ∈ sampleInventory.entries, ∀ parent ∈ parentPath? entry.relativePath,
    ∃ other ∈ sampleInventory.entries, other.kind = .directory ∧ other.relativePath = parent := by
  have devices : (.directory, "devices", ["devices"]) ∈ sampleObjects := by simp [sampleObjects]
  have hub : (.directory, "hub", ["hub"]) ∈ sampleObjects := by simp [sampleObjects]
  have device : (.directory, sampleDevicePath, ["devices", sampleDeviceName]) ∈ sampleObjects := by
    simp [sampleObjects, sampleDevicePath]
  have known : ∀ object ∈ sampleObjects, '/' ∉ object.2.1.toList ∨
      ∃ other ∈ sampleObjects, other.1 = .directory ∧ other.2.1.isEmpty = false ∧
        ∃ name : String, '/' ∉ name.toList ∧ object.2.1 = joined other.2.1 name := by
    intro object member
    simp only [sampleObjects, List.mem_cons, List.not_mem_nil, or_false] at member
    rcases member with rfl | rfl | rfl | rfl | rfl | rfl | rfl
    · exact .inl (by decide)
    · exact .inr ⟨_, devices, rfl, rfl, sampleDeviceName, by decide, by simp [joined, sampleDeviceName]⟩
    · exact .inr ⟨_, device, rfl, rfl, "fleet-agent.profile.json", by decide, by simp [joined, sampleDevicePath]⟩
    · exact .inr ⟨_, device, rfl, rfl, "fleet-agent.public-key-record.json", by decide,
        by simp [joined, sampleDevicePath]⟩
    · exact .inr ⟨_, device, rfl, rfl, "fleet-agent.seed", by decide, by simp [joined, sampleDevicePath]⟩
    · exact .inl (by decide)
    · exact .inr ⟨_, hub, rfl, rfl, "enrollment.private-config.json", by decide, by simp [joined]⟩
  intro entry inEntries parent named
  obtain ⟨object, member, rfl⟩ := List.mem_map.mp inEntries
  rcases known object member with plain | ⟨other, inObjects, directory, filled, name, plain, same⟩
  · rw [sampleEntry, parentPath?_unbroken plain] at named
    cases named
  · rw [sampleEntry, same, parentPath?_joined filled plain] at named
    cases named
    exact ⟨sampleEntry other, List.mem_map_of_mem inObjects, directory, rfl⟩

theorem sample_plain : PlainBelow sampleRoot sampleGenerated := by
  intro path name _ found
  exact sampleGenerated_plain found

structure SampleOpened (work : Workspace) : Prop where
  opened : Opened sampleRoot sampleGenerated sampleInventory.entries work
  covers : Covers sampleRoot [sampleRoot ++ [inventoryName]] work
  closing : Closing sampleRoot [sampleRoot ++ [inventoryName]] work

theorem sample_opened {work : Workspace} (opened : Opened sampleRoot sampleGenerated sampleInventory.entries work) :
    SampleOpened work where
  opened := opened
  covers := by
    intro path inside apart found
    rw [opened.disk] at found
    rcases sampleGenerated_below inside apart found with isInventory | ⟨object, member, same⟩
    · exact List.mem_append_right _ (List.mem_singleton.mpr isInventory)
    apply List.mem_append_left
    rw [← (sampleObjects_named object member).1] at same
    have inEntries : sampleEntry object ∈ sampleInventory.entries := List.mem_map_of_mem member
    cases kind : object.1 with
    | directory =>
      obtain ⟨dir, stored⟩ := Option.isSome_iff_exists.mp ((opened.dirs object.2.1).mpr ⟨_, inEntries, kind, rfl⟩)
      apply List.mem_append_right
      exact (mem_dirObjects work path).mpr ⟨_, dir, stored, (opened.located.dirs _ dir stored).1.trans same.symm⟩
    | file =>
      obtain ⟨file, stored⟩ := Option.isSome_iff_exists.mp ((opened.files object.2.1).mpr ⟨_, inEntries, kind, rfl⟩)
      apply List.mem_append_left
      exact (mem_fileObjects work path).mpr ⟨_, file, stored, (opened.located.files _ file stored).1.trans same.symm⟩
  closing := by
    constructor
    · exact Nat.le_refl 1
    · intro object inOthers inFiles
      obtain ⟨path, file, stored, same⟩ := (mem_fileObjects work object).mp inFiles
      obtain ⟨entry, inEntries, _, known⟩ := (opened.files path).mp (by rw [stored]; rfl)
      obtain ⟨other, member, rfl⟩ := List.mem_map.mp inEntries
      have named : path = other.2.1 := known.symm
      obtain ⟨place, apart, _⟩ := sampleObjects_named other member
      rw [(opened.located.files path file stored).1, List.mem_singleton.mp inOthers, named, place] at same
      exact apart (List.append_cancel_left same)
    · intro object inOthers
      exact ⟨inventoryName, List.mem_singleton.mp inOthers⟩
    · intro object inOthers
      rw [List.mem_singleton.mp inOthers, opened.disk]
      exact ⟨_, sampleInventory_stored⟩

theorem SampleOpened.order {work : Workspace} (sample : SampleOpened work) :
    fileObjects work ++ (dirObjects work ++ ([sampleRoot ++ [inventoryName]] ++ [sampleRoot])) =
      sampleOrder.map (sampleRoot ++ ·) := by
  obtain ⟨_, sorted, _⟩ := sampleEntries_named
  have listed : ∀ kind, (sampleInventory.entries.filter (·.kind = kind)).map (·.relativePath) =
      (sampleObjects.filter (·.1 = kind)).map (·.2.1) := by
    intro kind
    rw [sampleInventory, List.filter_map, List.map_map]
    rfl
  have files : fileObjects work = (sampleOrder.take 4).map (sampleRoot ++ ·) := by
    rw [sample.opened.located.fileObjects_named, Workspace.filePaths, held_sorted sample.opened.files sorted, listed,
      List.map_reverse, List.map_map]
    have places : (sampleObjects.filter (·.1 = .file)).map ((fun path => sampleRoot ++ segments path) ∘ (·.2.1)) =
        (sampleObjects.filter (·.1 = .file)).map (fun object => sampleRoot ++ object.2.2) := by
      apply List.map_congr_left
      intro object member
      exact congrArg (sampleRoot ++ ·) (sampleObjects_named object (List.mem_filter.mp member).1).1
    rw [places]
    rfl
  have dirs : work.dirPaths = [sampleDevicePath, "devices", "hub"] := by
    have top : slashes "devices" = 0 := by decide
    have other : slashes "hub" = 0 := by decide
    have deep : slashes sampleDevicePath = 1 := by decide
    rw [Workspace.dirPaths, held_sorted sample.opened.dirs sorted, listed]
    show List.insertionSort _ ["devices", sampleDevicePath, "hub"] = _
    simp [List.insertionSort, List.orderedInsert, top, other, deep]
  rw [files, sample.opened.located.dirObjects_named, dirs]
  rfl

theorem openSession_read [CleanupEnvironment] {platform : Platform} {path : String} {session : CleanupSession}
    {disk : Disk} {work : Workspace} (loaded : CleanupSession.openInventory platform path disk = .ok session)
    (entered : CleanupSession.openEntries platform session.root session.inventory.entries ⟨disk, ∅, ∅, []⟩ = (.ok (), work))
    (verified : CleanupSession.verifyExactEnumeration platform session.root session.inventory work = .ok ()) :
    CleanupSession.openSession platform path ⟨disk, ∅, ∅, []⟩ = (.ok session, work) := by
  simp only [CleanupSession.openSession, bind_ran, reading_ran]
  exact ⟨session, _, ⟨loaded, rfl⟩, (), work, entered, (), work, ⟨verified, rfl⟩, rfl⟩

theorem sampleSession_cleaned : ∃ work, @CleanupSession.openSession samplePlatform sampleCleanup sampleInventoryPath
      ⟨sampleGenerated, ∅, ∅, []⟩ = (.ok sampleSession, work) ∧
    ∃ later, sampleSession.deleteExact samplePlatform work = (.ok (), later) ∧
      later.attempts = sampleOrder.map (sampleRoot ++ ·) := by
  obtain ⟨named, sorted, _⟩ := sampleEntries_named
  have empty : Opened sampleSession.root.object sampleGenerated [] ⟨sampleGenerated, ∅, ∅, []⟩ :=
    opened_empty sampleRoot sampleGenerated
  obtain ⟨work, entered⟩ := @openEntries_opens samplePlatform sampleSession.root sampleGenerated [] _ sampleCleanup
    sampleInventory.entries named.leading empty sampleEntry_opens sampleEntries_parents sorted
  have sample := sample_opened (@openEntries_opened samplePlatform sampleSession.root sampleGenerated [] _ _ sampleCleanup
    sampleInventory.entries named.leading empty entered)
  have here := sample.opened.disk
  have enumerates : Enumerates samplePlatform := by
    constructor
    · exact fun _ => rfl
    · exact fun object => ⟨_, rfl, rfl⟩
  have inventoryFile : (work.disk.content (sampleRoot ++ [inventoryName])).isSome = true := by
    rw [here, FileTree.content, sampleInventory_stored]
    rfl
  have plain : PlainBelow sampleRoot work.disk := by
    rw [here]
    exact sample_plain
  have opened : Opened sampleRoot work.disk sampleInventory.entries work := by
    rw [here]
    exact sample.opened
  have verified : CleanupSession.verifyExactEnumeration samplePlatform sampleSession.root sampleInventory work = .ok () :=
    @verified_accepts sampleSession.root work sampleInventory opened named samplePlatform enumerates plain sample.covers
      inventoryFile sampleEntries_parents
  have stands : work.disk.entries[sampleRoot]? = some .directory := by
    rw [here]
    exact sampleRoot_stored
  obtain ⟨finished, _⟩ := @deleteExact_finishes samplePlatform work (fun _ => rfl) sampleSession opened.located
    sample.closing sample.covers stands
  refine ⟨work, ?_, (sampleSession.deleteExact samplePlatform work).2, Prod.ext finished rfl, ?_⟩
  · exact @openSession_read sampleCleanup samplePlatform sampleInventoryPath sampleSession sampleGenerated work
      sampleInventory_opened entered verified
  · obtain ⟨asked, attempts, _, whole⟩ := @deleteExact_asks samplePlatform work sampleSession
    rw [attempts, whole finished, opened.attempts, List.nil_append]
    exact sample.order

end Opened

section Refused

def refusingRecord : Platform :=
  { samplePlatform with
    createFails := fun object =>
      object == sampleRoot ++ ["devices", sampleDeviceName, "fleet-agent.public-key-record.json"] }

def sampleUndone : List (List String) :=
  [["devices", sampleDeviceName, "fleet-agent.seed"], ["devices", sampleDeviceName], ["devices"], ["hub"], []]

/-- A platform that does not say what its new directories are. -/
def withoutIdentity : Platform :=
  { samplePlatform with
    metadata := fun visit object => if visit = .identifying then none else samplePlatform.metadata visit object }

theorem sample_confirmed (platform : Platform) (plain : platform.ancestorFault .planning = none)
    (unseen : ∃ acl, platform.privateAcl .planning ["fleet"] = .ok acl) :
    @confirmedRequest sampleCleanup.toGenerationEnvironment platform sampleDisk sampleRequestPath
      sampleFingerprintHash = .ok (sampleRequest "key.1", sampleFingerprintHash) := by
  obtain ⟨acl, unseen⟩ := unseen
  have free : sampleDisk.entries[["fleet"] ++ ["out"]]?.isSome = false := by decide
  have checked : @validateNewPrivateRoot sampleCleanup.toGenerationEnvironment platform .planning sampleDisk sampleOutput =
      .ok () := by
    simp only [validateNewPrivateRoot, exceptBind_ok, errorIf_ok]
    refine ⟨(), rfl, (["fleet"], "out"), ?_, (), ?_, ?_⟩
    · unfold openParent
      rw [plain]
      rfl
    · rw [free]
      rintro ⟨⟨⟩, _⟩
    · rw [unseen]
  simp only [confirmedRequest, loadRequest, buildPlan, planDigest, exceptBind_ok, errorIf_ok, orError_ok]
  exact ⟨⟨sampleRequest "key.1", _⟩, ⟨[], rfl, sampleRequest "key.1", rfl, (), sampleRequest_accepted.1, rfl⟩, _,
    ⟨(), rfl, (), checked, rfl⟩, sampleFingerprintHash, ⟨sampleContent, rfl, congrArg Except.ok (if_pos rfl)⟩, (),
    fun differs => differs rfl, rfl⟩

def sampleApplied (platform : Platform) : Except String ApplyReceipt × Workspace :=
  @apply sampleCleanup.toGenerationEnvironment platform sampleRequestPath sampleFingerprintHash sampleDisk

theorem sampleApplied_run {platform : Platform} (plain : platform.ancestorFault .planning = none)
    (unseen : ∃ acl, platform.privateAcl .planning ["fleet"] = .ok acl) :
    sampleApplied platform = @applyConfirmed sampleCleanup.toGenerationEnvironment platform (sampleRequest "key.1")
      sampleFingerprintHash ⟨sampleDisk, ∅, ∅, []⟩ := by
  unfold sampleApplied apply
  rw [sample_confirmed platform plain unseen]

theorem refusingRecord_applied : (sampleApplied refusingRecord).1 = .error "private_create_new_failed" ∧
    (sampleApplied refusingRecord).2.attempts = sampleUndone.map (sampleRoot ++ ·) := by
  rw [sampleApplied_run rfl ⟨_, rfl⟩]
  decide +kernel

theorem refusingRecord_settles : RootSettles refusingRecord sampleRoot where
  deletable _ _ := rfl
  identified _ := ⟨_, rfl⟩

theorem refusingRecord_created : ∃ tree created, @PrivateTree.create sampleCleanup.toGenerationEnvironment refusingRecord
    sampleOutput ⟨sampleDisk, ∅, ∅, []⟩ = (.ok tree, created) := by
  have succeeded : (@PrivateTree.create sampleCleanup.toGenerationEnvironment refusingRecord sampleOutput
      ⟨sampleDisk, ∅, ∅, []⟩).1.isOk = true := by
    decide
  generalize @PrivateTree.create sampleCleanup.toGenerationEnvironment refusingRecord sampleOutput ⟨sampleDisk, ∅, ∅, []⟩ =
    outcome at succeeded ⊢
  obtain ⟨result, created⟩ := outcome
  cases result with
  | error => cases succeeded
  | ok tree => exact ⟨tree, created, rfl⟩

theorem withoutIdentity_applied : (sampleApplied withoutIdentity).1 = .error "root_identity_unavailable" ∧
    (sampleApplied withoutIdentity).2.disk.isDirectory sampleRoot = true := by
  rw [sampleApplied_run rfl ⟨_, rfl⟩]
  decide

theorem sample_leaves_no_residue :
    ((sampleApplied refusingRecord).2.disk = sampleDisk ∧
      (sampleApplied refusingRecord).2.attempts = sampleUndone.map (sampleRoot ++ ·)) ∧
    (∃ tree work, RollsBack tree work (tree.rollback refusingRecord work)) ∧
    ∃ work, DeletesExactly sampleSession work (sampleSession.deleteExact samplePlatform work) := by
  refine ⟨?_, ?_, ?_⟩
  · have results := @onboarding_leaves_no_residue sampleCleanup refusingRecord sampleDisk
    obtain ⟨failed, undone⟩ := refusingRecord_applied
    have ran := (Prod.mk.eta (p := sampleApplied refusingRecord)).symm
    rw [failed] at ran
    exact ⟨results.1 sampleRequestPath sampleFingerprintHash _ _ ["fleet"] "out" (sample_confirmed _ rfl ⟨_, rfl⟩) rfl
      refusingRecord_settles (fun _ _ _ _ _ _ => rfl) _ (sampleApplied refusingRecord).2 ran (by decide), undone⟩
  · obtain ⟨tree, created, made⟩ := refusingRecord_created
    have results := @onboarding_leaves_no_residue sampleCleanup refusingRecord sampleDisk
    exact ⟨tree, _, results.2.1 sampleOutput tree created (sampleRequest "key.1") sampleFingerprintHash made _ rfl⟩
  · obtain ⟨work, opened, _⟩ := sampleSession_cleaned
    have results := @onboarding_leaves_no_residue sampleCleanup samplePlatform sampleGenerated
    exact ⟨work, results.2.2 sampleInventoryPath sampleSession work opened⟩

/-- An onboarding whose new root does not show its identity leaves that root and reports the missing identity; a
cleanup that succeeds asks for the inventory file after the directories. -/
theorem root_left_and_inventory_late :
    (@confirmedRequest sampleCleanup.toGenerationEnvironment withoutIdentity sampleDisk sampleRequestPath
        sampleFingerprintHash = .ok (sampleRequest "key.1", sampleFingerprintHash) ∧
      (sampleApplied withoutIdentity).1 = .error "root_identity_unavailable" ∧
      sampleDisk.isDirectory sampleRoot = false ∧
      (sampleApplied withoutIdentity).2.disk.isDirectory sampleRoot = true) ∧
    ∃ work, @CleanupSession.openSession samplePlatform sampleCleanup sampleInventoryPath ⟨sampleGenerated, ∅, ∅, []⟩ =
        (.ok sampleSession, work) ∧
      ∃ later, sampleSession.deleteExact samplePlatform work = (.ok (), later) ∧
        later.attempts = sampleOrder.map (sampleRoot ++ ·) ∧
        sampleOrder.drop 4 = [["devices", sampleDeviceName], ["devices"], ["hub"], [inventoryName], []] := by
  refine ⟨⟨sample_confirmed _ rfl ⟨_, rfl⟩, withoutIdentity_applied.1, ?_, withoutIdentity_applied.2⟩, ?_⟩
  · decide
  · obtain ⟨work, opened, later, deleted, order⟩ := sampleSession_cleaned
    exact ⟨work, opened, later, deleted, order, rfl⟩

end Refused

end Samples

end Onboarding

end RustyFleet
