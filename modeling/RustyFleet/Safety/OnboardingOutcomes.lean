import RustyFleet.Safety.OnboardingResidue

namespace RustyFleet

namespace Onboarding

open Attempt FileTree

section Opening

variable [CleanupEnvironment] (platform : Platform) {disk : Disk}

def Untouched (disk : Disk) (work : Workspace) : Prop := work.disk = disk ∧ work.attempts = []

theorem openEntry_untouched (root : SecureDir) (entry : EntryRecord) :
    Keeps (Untouched disk) (CleanupSession.openEntry platform root entry) := by
  rcases entry with ⟨relative, kind, identity, sha256⟩
  cases kind
  · refine keeps_bind (keeps_reading _) ?_
    intro dir work untouched
    exact untouched
  · refine keeps_bind (keeps_reading _) ?_
    intro file work untouched
    exact untouched

theorem openEntries_untouched (root : SecureDir) (entries : List EntryRecord) :
    Keeps (Untouched disk) (CleanupSession.openEntries platform root entries) := by
  induction entries with
  | nil => exact keeps_pure ()
  | cons entry rest ih =>
    refine keeps_bind (openEntry_untouched platform root entry) ?_
    intro _
    exact ih

theorem openSession_untouched (path : String) : Keeps (Untouched disk) (CleanupSession.openSession platform path) := by
  unfold CleanupSession.openSession
  refine keeps_bind (keeps_reading _) ?_
  intro session
  refine keeps_bind (openEntries_untouched platform session.root session.inventory.entries) ?_
  intro _
  refine keeps_bind (keeps_reading _) ?_
  intro _
  exact keeps_pure session

omit [CleanupEnvironment] in
theorem inventoryName_unlisted {entries : List EntryRecord} (layout : validateExpectedLayout entries = .ok ()) :
    ∀ entry ∈ entries, entry.relativePath ≠ inventoryName := by
  simp only [validateExpectedLayout, exceptBind_ok, errorIf_ok, not_not] at layout
  obtain ⟨_, _, _, _, _, _, same⟩ := layout
  intro entry member named
  have listed := List.all_eq_true.mp (Bool.and_eq_true_iff.mp same).2 entry.relativePath (List.mem_map_of_mem member)
  rw [List.contains_iff_mem, named, expectedPaths] at listed
  rcases List.mem_append.mp listed with top | below
  · revert top
    decide
  · obtain ⟨directory, inDirs, within⟩ := List.mem_flatMap.mp below
    obtain ⟨other, kept, rfl⟩ := List.mem_map.mp inDirs
    obtain ⟨_, _, deep⟩ : other.kind = .directory ∧ devicePrefix.toList.isPrefixOf other.relativePath.toList ∧
        slashes other.relativePath = 1 := of_decide_eq_true (List.mem_filter.mp kept).2
    have broken : '/' ∈ other.relativePath.toList := by
      apply List.count_pos_iff.mp
      show 0 < slashes other.relativePath
      omega
    have anywhere : '/' ∈ inventoryName.toList := by
      simp only [List.mem_cons, List.not_mem_nil, or_false] at within
      rcases within with same | same | same | same
      · rw [same]
        exact broken
      all_goals
        rw [same, String.toList_append]
        exact List.mem_append_left _ broken
    exact inventoryName_unbroken anywhere

structure Judged (disk : Disk) (session : CleanupSession) : Prop where
  stands : disk.entries[session.root.object]? = some .directory
  own : session.inventoryLoaded.file.object = session.root.object ++ [inventoryName]
  inventoryFile : (disk.content session.inventoryLoaded.file.object).isSome = true
  filled : ∀ entry ∈ session.inventory.entries, entry.relativePath.isEmpty = false
  leading : ∀ entry ∈ session.inventory.entries, entry.relativePath.toList.head? ≠ some '/'
  unlisted : ∀ entry ∈ session.inventory.entries, entry.relativePath ≠ inventoryName

theorem openInventory_judged {path : String} {session : CleanupSession}
    (opened : CleanupSession.openInventory platform path disk = .ok session) : Judged disk session := by
  obtain ⟨own, relative⟩ := openInventory_ran platform opened
  simp only [CleanupSession.openInventory, CleanupSession.loadInventory, validateInventoryShape, exceptBind_ok] at opened
  obtain ⟨_, _, _, _, rootPath, _, ⟨parent, leaf⟩, _, root, standing, loaded, ⟨file, looked, _, _, bytes, _, _, _, read⟩,
    inventory, _, _, ⟨_, _, _, _, _, _, layout⟩, _, _, _, _, same⟩ := opened
  cases read
  cases same
  constructor
  case stands => exact openDirComponent_stands platform standing
  case own => exact own
  case inventoryFile => exact openFileFrom_stands platform looked
  case filled =>
    intro entry member
    have valid := relative entry member
    simp only [validateRelative, errorIf_ok, not_or] at valid
    exact Bool.eq_false_iff.mpr valid.1
  case leading =>
    intro entry member
    exact (validateRelative_plain (relative entry member)).2
  case unlisted => exact inventoryName_unlisted layout

structure WholeRoot (disk : Disk) (session : CleanupSession) (work : Workspace) : Prop where
  disk : work.disk = disk
  located : Located session.root.object work
  closing : Closing session.root.object [session.inventoryLoaded.file.object] work
  covers : Covers session.root.object [session.inventoryLoaded.file.object] work
  stands : work.disk.entries[session.root.object]? = some .directory

theorem openSession_whole {path : String} {session : CleanupSession} {work : Workspace}
    (plain : ∀ (parent : ObjectPath) (name : String), (disk.entries[parent ++ [name]]?).isSome = true → '/' ∉ name.toList)
    (opened : CleanupSession.openSession platform path ⟨disk, ∅, ∅, []⟩ = (.ok session, work)) :
    WholeRoot disk session work := by
  simp only [CleanupSession.openSession, bind_ran, reading_ran] at opened
  obtain ⟨found, _, ⟨loaded, rfl⟩, _, later, entered, _, _, ⟨verified, rfl⟩, returned⟩ := opened
  cases returned
  have judged := openInventory_judged platform loaded
  have empty : Opened session.root.object disk [] ⟨disk, ∅, ∅, []⟩ := opened_empty session.root.object disk
  have held := openEntries_opened platform judged.leading empty entered
  rw [List.nil_append] at held
  have here := held.disk
  have inventoryFile := judged.inventoryFile
  rw [judged.own, ← here] at inventoryFile
  have ownHeld : Opened session.root.object work.disk session.inventory.entries work := by
    rw [here]
    exact held
  have plainBelow : PlainBelow session.root.object work.disk := by
    intro path name _ stands
    rw [here] at stands
    exact plain path name stands
  constructor
  case disk => exact here
  case located => exact held.located
  case closing =>
    rw [judged.own]
    constructor
    · exact Nat.le_refl 1
    · intro object member inFiles
      obtain ⟨relative, file, stored, same⟩ := (mem_fileObjects work object).mp inFiles
      obtain ⟨entry, inEntries, _, named⟩ := (held.files relative).mp (by rw [stored]; rfl)
      rw [(held.located.files relative file stored).1, List.mem_singleton.mp member] at same
      have parts : segments relative = segments inventoryName := by
        rw [segments_unbroken inventoryName_unbroken]
        exact List.append_cancel_left same
      apply judged.unlisted entry inEntries
      rw [named]
      exact segments_injective parts
    · intro object member
      exact ⟨inventoryName, List.mem_singleton.mp member⟩
    · intro object member
      obtain ⟨content, read⟩ := Option.isSome_iff_exists.mp inventoryFile
      rw [List.mem_singleton.mp member]
      exact ⟨content, content_eq _ read⟩
  case covers =>
    rw [judged.own]
    exact verified_covers platform ownHeld plainBelow judged.filled inventoryFile verified
  case stands =>
    rw [here]
    exact judged.stands

theorem cleanupApply_confirmed {path confirmation : String} {start work : Workspace} {session : CleanupSession}
    (opened : CleanupSession.openSession platform path start = (.ok session, work))
    (planned : CleanupSession.cleanupPlanSha256 session = .ok confirmation) :
    CleanupSession.cleanupApply platform path confirmation start = session.deleteExact platform work := by
  have read : lift (CleanupSession.cleanupPlanSha256 session) work = (.ok confirmation, work) := by
    rw [lift, planned]
  have accepted : lift (errorIf (confirmation ≠ confirmation) "cleanup_confirmation_mismatch") work =
      (.ok (), work) := by
    rw [lift, errorIf, if_neg (not_not.mpr rfl)]
  unfold CleanupSession.cleanupApply
  rw [bind_of_ok opened, bind_of_ok read, bind_of_ok accepted]

theorem cleanup_all_or_nothing (path confirmation : String)
    (willing : ∀ object, platform.deleteFails object = false)
    (plain : ∀ (parent : ObjectPath) (name : String), (disk.entries[parent ++ [name]]?).isSome = true → '/' ∉ name.toList) :
    let outcome := CleanupSession.cleanupApply platform path confirmation ⟨disk, ∅, ∅, []⟩
    (∃ error, outcome.1 = .error error ∧ outcome.2.disk = disk ∧ outcome.2.attempts = []) ∨
      ∃ session work, CleanupSession.openSession platform path ⟨disk, ∅, ∅, []⟩ = (.ok session, work) ∧
        CleanupSession.cleanupPlanSha256 session = .ok confirmation ∧ outcome.1 = .ok () ∧
        disk.entries[session.root.object]? = some .directory ∧
        Absent session.root.object outcome.2.disk ∧ AgreesOutside session.root.object disk outcome.2.disk := by
  intro outcome
  have untouched := openSession_untouched platform path ⟨disk, ∅, ∅, []⟩ ⟨rfl, rfl⟩
  rcases ran : CleanupSession.openSession platform path ⟨disk, ∅, ∅, []⟩ with ⟨error | session, work⟩
  · rw [ran] at untouched
    have ended : outcome = (.error error, work) := bind_of_error ran
    left
    rw [ended]
    exact ⟨error, rfl, untouched⟩
  rw [ran] at untouched
  rcases planned : CleanupSession.cleanupPlanSha256 session with error | digest
  · have ended : outcome = (.error error, work) := by
      show CleanupSession.cleanupApply platform path confirmation ⟨disk, ∅, ∅, []⟩ = _
      unfold CleanupSession.cleanupApply
      rw [bind_of_ok ran]
      apply bind_of_error
      rw [lift, planned]
    left
    rw [ended]
    exact ⟨error, rfl, untouched⟩
  by_cases confirmed : digest = confirmation
  · rw [confirmed] at planned
    have ended : outcome = session.deleteExact platform work := cleanupApply_confirmed platform ran planned
    have whole := openSession_whole platform plain ran
    obtain ⟨finished, gone, outside⟩ :=
      deleteExact_finishes willing session whole.located whole.closing whole.covers whole.stands
    have stands := whole.stands
    rw [whole.disk] at outside stands
    right
    rw [ended]
    exact ⟨session, work, rfl, planned, finished, stands, gone, outside⟩
  · have read : lift (CleanupSession.cleanupPlanSha256 session) work = (.ok digest, work) := by
      rw [lift, planned]
    have refused : lift (errorIf (digest ≠ confirmation) "cleanup_confirmation_mismatch") work =
        (.error "cleanup_confirmation_mismatch", work) := by
      rw [lift, errorIf, if_pos confirmed]
    have ended : outcome = (.error "cleanup_confirmation_mismatch", work) := by
      show CleanupSession.cleanupApply platform path confirmation ⟨disk, ∅, ∅, []⟩ = _
      unfold CleanupSession.cleanupApply
      rw [bind_of_ok ran, bind_of_ok read]
      apply bind_of_error
      exact refused
    left
    rw [ended]
    exact ⟨_, rfl, untouched⟩

end Opening

theorem sample_cleanup_whole : ∃ later, @CleanupSession.cleanupApply samplePlatform sampleCleanup sampleInventoryPath
      sampleFingerprintHash ⟨sampleGenerated, ∅, ∅, []⟩ = (.ok (), later) ∧
    Absent sampleRoot later.disk ∧ AgreesOutside sampleRoot sampleGenerated later.disk := by
  obtain ⟨work, opened, later, deleted, _⟩ := sampleSession_cleaned
  have planned : @CleanupSession.cleanupPlanSha256 sampleCleanup sampleSession = .ok sampleFingerprintHash :=
    congrArg Except.ok (if_pos rfl)
  have ran := (@cleanupApply_confirmed sampleCleanup samplePlatform sampleInventoryPath sampleFingerprintHash _ _ _ opened
    planned).trans deleted
  have outcome := @cleanup_all_or_nothing sampleCleanup samplePlatform sampleGenerated sampleInventoryPath
    sampleFingerprintHash (fun _ => rfl) (fun _ _ found => sampleGenerated_plain found)
  simp only [ran] at outcome
  rcases outcome with ⟨error, failed, _⟩ | ⟨session, middle, held, _, _, _, gone, outside⟩
  · cases failed
  · rw [opened] at held
    cases held
    exact ⟨later, ran, gone, outside⟩

section Generation

structure Obliging (platform : Platform) : Prop where
  opens : ∀ visit object, platform.openFails visit object = false
  metadata : ∀ visit object, ∃ metadata, platform.metadata visit object = some metadata ∧
    metadata.isSymlink = false ∧ metadata.nlink = 1
  rawAcl : ∀ visit object, ∃ acl, platform.rawAcl visit object = .ok acl
  identifies : ∀ object, applyPrivateAcl platform object = .ok () →
    ∃ acl, platform.privateAcl .identifying object = .ok acl
  writes : ∀ object, platform.writeStops object = none
  seeks : ∀ object, platform.seekFails object = false
  deletes : ∀ object, platform.deleteFails object = false

namespace Obliging

variable {platform : Platform} (obliging : Obliging platform)

include obliging

theorem openDir {disk : Disk} {visit : Visit} {object : ObjectPath} (stands : disk.entries[object]? = some .directory) :
    ∃ dir, openDirComponent platform disk visit object false = .ok dir := by
  obtain ⟨metadata, known, plain, single⟩ := obliging.metadata visit object
  obtain ⟨acl, read⟩ := obliging.rawAcl visit object
  simp only [openDirComponent, identityFor, aclHash, exceptBind_ok, errorIf_ok, orError_ok]
  refine ⟨_, (), ?_, metadata, known, (), ?_, _, ⟨(), ?_, acl, ?_, rfl⟩, rfl⟩
  · simp [obliging.opens, stands]
  · simp [(isDirectory_iff disk object).mpr stands, plain]
  · simp [single]
  · simp [read, Except.mapError]

theorem newDir {object : ObjectPath} (secured : applyPrivateAcl platform object = .ok ()) (text : String) :
    ∃ identity, newDirIdentity platform object text = .ok identity := by
  obtain ⟨metadata, known, _, single⟩ := obliging.metadata .identifying object
  obtain ⟨acl, read⟩ := obliging.identifies object secured
  simp only [newDirIdentity, identityFor, aclHash, exceptBind_ok, errorIf_ok, orError_ok]
  refine ⟨_, metadata, known, (), ?_, acl, ?_, rfl⟩
  · simp [single]
  · simp [read, Except.mapError]

theorem newFile {object : ObjectPath} (secured : applyPrivateAcl platform object = .ok ()) :
    ∃ metadata identity, platform.metadata .identifying object = some metadata ∧
      identityFor platform .identifying object metadata true true = .ok identity := by
  obtain ⟨metadata, known, _, single⟩ := obliging.metadata .identifying object
  obtain ⟨acl, read⟩ := obliging.identifies object secured
  refine ⟨metadata, ⟨metadata.dev, metadata.ino, metadata.nlink, acl⟩, known, ?_⟩
  simp only [identityFor, aclHash, exceptBind_ok, errorIf_ok]
  refine ⟨(), ?_, acl, ?_, rfl⟩
  · simp [single]
  · simp [read, Except.mapError]

end Obliging

structure Whole (root : ObjectPath) (work : Workspace) : Prop where
  located : Located root work
  held : ∀ path, root <+: path → path ≠ root → (work.disk.entries[path]?).isSome = true →
    (∃ (key : String) (dir : SecureDir), work.dirs[key]? = some dir ∧ dir.object = path) ∨
      ∃ (key : String) (file : SecureFile), work.files[key]? = some file ∧ file.object = path
  stands : work.disk.entries[root]? = some .directory

variable {root : ObjectPath} {work : Workspace}

theorem Whole.covers (whole : Whole root work) : Covers root [] work := by
  intro path inside apart stands
  rw [List.append_nil]
  rcases whole.held path inside apart stands with inDirs | inFiles
  · exact List.mem_append_right _ ((mem_dirObjects work path).mpr inDirs)
  · exact List.mem_append_left _ ((mem_fileObjects work path).mpr inFiles)

section Growth

variable {disk : Disk} {object : ObjectPath} {key : String} (whole : Whole root work)
  (free : work.disk.entries[object]? = none)
  (others : ∀ path, path ≠ object → disk.entries[path]? = work.disk.entries[path]?)

include whole free others

omit whole in
theorem others_kept {path : ObjectPath} {node : TreeNode Bytes} (found : work.disk.entries[path]? = some node) :
    disk.entries[path]? = some node := by
  rw [others path, found]
  rintro rfl
  rw [free] at found
  cases found

theorem Whole.keptLocated : Located root { work with disk := disk } where
  dirs key dir found := by
    obtain ⟨place, directory⟩ := whole.located.dirs key dir found
    exact ⟨place, others_kept free others directory⟩
  files key file found := by
    obtain ⟨place, content⟩ := whole.located.files key file found
    obtain ⟨bytes, read⟩ := Option.isSome_iff_exists.mp content
    have stored := content_eq _ read
    have same : disk.entries[file.object]? = work.disk.entries[file.object]? := by
      rw [others_kept free others stored, stored]
    refine ⟨place, ?_⟩
    show (disk.content file.object).isSome = true
    rw [content_of_entry same]
    exact content

theorem Whole.insertDir (place : object = root ++ segments key) (here : disk.entries[object]? = some .directory)
    {dir : SecureDir} (named : dir.object = object) :
    Whole root { work with disk := disk, dirs := work.dirs.insert key dir } where
  located := by
    have kept := whole.keptLocated free others
    constructor
    · apply BTreeMap.insert_forall work.dirs key dir
        (fun path dir => dir.object = root ++ segments path ∧ disk.entries[dir.object]? = some .directory) kept.dirs
      rw [named]
      exact ⟨place, here⟩
    · exact kept.files
  held path inside apart found := by
    by_cases new : path = object
    · exact .inl ⟨key, dir, BTreeMap.lookup_insert_self _ _ _, named.trans new.symm⟩
    · have before : (work.disk.entries[path]?).isSome = true := by
        rw [← others path new]
        exact found
      rcases whole.held path inside apart before with ⟨other, held, stored, same⟩ | inFiles
      · left
        refine ⟨other, held, ?_, same⟩
        rw [BTreeMap.lookup_insert_of_ne _ _ ?_]
        · exact stored
        · rintro rfl
          apply new
          rw [← same, (whole.located.dirs other held stored).1, place]
      · exact .inr inFiles
  stands := others_kept free others whole.stands

theorem Whole.insertFile (place : object = root ++ segments key) (here : (disk.content object).isSome = true)
    {file : SecureFile} (named : file.object = object) :
    Whole root { work with disk := disk, files := work.files.insert key file } where
  located := by
    have kept := whole.keptLocated free others
    constructor
    · exact kept.dirs
    · apply BTreeMap.insert_forall work.files key file
        (fun path file => file.object = root ++ segments path ∧ (disk.content file.object).isSome = true) kept.files
      rw [named]
      exact ⟨place, here⟩
  held path inside apart found := by
    by_cases new : path = object
    · exact .inr ⟨key, file, BTreeMap.lookup_insert_self _ _ _, named.trans new.symm⟩
    · have before : (work.disk.entries[path]?).isSome = true := by
        rw [← others path new]
        exact found
      rcases whole.held path inside apart before with inDirs | ⟨other, held, stored, same⟩
      · exact .inl inDirs
      · right
        refine ⟨other, held, ?_, same⟩
        rw [BTreeMap.lookup_insert_of_ne _ _ ?_]
        · exact stored
        · rintro rfl
          apply new
          rw [← same, (whole.located.files other held stored).1, place]
  stands := others_kept free others whole.stands

end Growth

section Steps

variable {platform : Platform} (obliging : Obliging platform) (tree : PrivateTree)

theorem parentAndLeaf_place (located : Located tree.root.object work) {relative leaf : String} {parent : ObjectPath}
    (found : tree.parentAndLeaf platform work relative = .ok (parent, leaf)) :
    parent ++ [leaf] = tree.root.object ++ segments relative := by
  have known := parentAndLeaf_known platform tree found
  simp only [PrivateTree.knownParent, exceptBind_ok] at known
  obtain ⟨_, valid, found⟩ := known
  obtain ⟨plain, leading⟩ := validateRelative_plain valid
  have filled := splitLast_parent leading
  rcases splitLast_joined relative.toList with ⟨split, unbroken⟩ | ⟨above, name, split, parts⟩
  · rw [split] at found
    cases found
    rw [segments_unbroken unbroken, String.ofList_toList]
  · have start := splitLast_prefix relative.toList above (by rw [split])
    rw [split] at found filled
    have unescaped : '\\' ∉ above := by
      intro member
      exact plain (start.subset (List.mem_append_left _ member))
    obtain ⟨first, others, same⟩ := List.exists_cons_of_ne_nil filled.1
    subst same
    simp only [exceptBind_ok, orError_ok, normalized_plain unescaped] at found
    obtain ⟨dir, opened, same⟩ := found
    cases same
    rw [String.ofList_toList] at parts
    rw [(located.dirs _ dir opened).1, parts, List.append_assoc]

include obliging

theorem createDir_whole (relative : String) :
    Keeps (Whole tree.root.object) (tree.createDir platform relative) := by
  unfold PrivateTree.createDir
  refine keeps_bind (keeps_reading _) ?_
  intro _ work whole
  rcases placed : tree.parentAndLeaf platform work (normalized relative) with error | ⟨parent, leaf⟩
  · rw [bind_of_error (by rw [reading, placed])]
    exact whole
  rw [bind_of_ok (by rw [reading, placed])]
  have place := parentAndLeaf_place tree whole.located placed
  show Whole tree.root.object ((createEntry platform parent leaf .directory "private_directory_create_failed" >>= _) work).2
  rcases ran : createEntry platform parent leaf .directory "private_directory_create_failed" work with ⟨error | made, later⟩
  · rw [bind_of_error ran, createEntry_refused platform ran]
    exact whole
  rw [bind_of_ok ran]
  obtain ⟨rfl, disk, created, rfl⟩ := createEntry_ran platform ran
  obtain ⟨_, free, entries⟩ := create_some created
  have others : ∀ path, path ≠ parent ++ [leaf] → disk.entries[path]? = work.disk.entries[path]? := by
    intro path apart
    rw [entries, BTreeMap.lookup_insert_of_ne _ _ apart]
  have here : disk.entries[parent ++ [leaf]]? = some .directory := by
    rw [entries, BTreeMap.lookup_insert_self]
  obtain ⟨dir, looked⟩ := @Obliging.openDir platform obliging disk .opening _ here
  rw [bind_of_ok (by rw [reading, looked])]
  rcases secured : applyPrivateAcl platform (parent ++ [leaf]) with error | _
  · rw [bind_of_error (by rw [secureOrDelete, secured])]
    have back : ({ work with disk := disk } : Workspace).disk.delete (parent ++ [leaf]) = some work.disk :=
      delete_create created
    rw [deletion_taken obliging.deletes back]
    exact ⟨⟨whole.located.dirs, whole.located.files⟩, whole.held, whole.stands⟩
  rw [bind_of_ok (by rw [secureOrDelete, secured])]
  obtain ⟨identity, known⟩ := obliging.newDir secured "private_identity_unavailable"
  rw [bind_of_ok (by rw [lift, known])]
  have named : dir.object = parent ++ [leaf] := openDirComponent_object platform looked
  exact whole.insertDir free others place here named

theorem writeFile_whole (relative : String) (bytes : Bytes) :
    Keeps (Whole tree.root.object) (tree.writeFile platform relative bytes) := by
  unfold PrivateTree.writeFile
  refine keeps_bind (keeps_reading _) ?_
  intro _ work whole
  rcases placed : tree.parentAndLeaf platform work (normalized relative) with error | ⟨parent, leaf⟩
  · rw [bind_of_error (by rw [reading, placed])]
    exact whole
  rw [bind_of_ok (by rw [reading, placed])]
  have place := parentAndLeaf_place tree whole.located placed
  show Whole tree.root.object ((createEntry platform parent leaf (.file []) "private_create_new_failed" >>= _) work).2
  rcases ran : createEntry platform parent leaf (.file []) "private_create_new_failed" work with ⟨error | made, later⟩
  · rw [bind_of_error ran, createEntry_refused platform ran]
    exact whole
  rw [bind_of_ok ran]
  obtain ⟨rfl, disk, created, rfl⟩ := createEntry_ran platform ran
  obtain ⟨_, free, entries⟩ := create_some created
  rcases secured : applyPrivateAcl platform (parent ++ [leaf]) with error | _
  · rw [bind_of_error (by rw [secureOrDelete, secured])]
    have back : ({ work with disk := disk } : Workspace).disk.delete (parent ++ [leaf]) = some work.disk :=
      delete_create created
    rw [deletion_taken obliging.deletes back]
    exact ⟨⟨whole.located.dirs, whole.located.files⟩, whole.held, whole.stands⟩
  rw [bind_of_ok (by rw [secureOrDelete, secured])]
  have empty : disk.content (parent ++ [leaf]) = some [] := by
    rw [FileTree.content, entries, BTreeMap.lookup_insert_self]
  obtain ⟨filled, wrote⟩ := write_of_content bytes (by rw [empty]; rfl : (disk.content (parent ++ [leaf])).isSome = true)
  have stored := write_some wrote
  have others : ∀ path, path ≠ parent ++ [leaf] → filled.entries[path]? = work.disk.entries[path]? := by
    intro path apart
    rw [stored, BTreeMap.lookup_insert_of_ne _ _ apart, entries, BTreeMap.lookup_insert_of_ne _ _ apart]
  have written : filled.content (parent ++ [leaf]) = some bytes := by
    rw [FileTree.content, stored, BTreeMap.lookup_insert_self]
  have wroteAll : writeAll platform (parent ++ [leaf]) bytes { work with disk := disk } =
      (.ok (), { work with disk := filled }) := by
    simp only [writeAll, obliging.writes, wrote]
  rw [bind_of_ok wroteAll]
  have sought : lift (errorIf (platform.seekFails (parent ++ [leaf]) = true) "private_write_failed")
      { work with disk := filled } = (.ok (), ({ work with disk := filled } : Workspace)) := by
    rw [lift, obliging.seeks]
    rfl
  rw [bind_of_ok sought]
  obtain ⟨metadata, identity, known, identified⟩ := obliging.newFile secured
  rw [bind_of_ok (by rw [lift, known]; rfl)]
  have measured : fileLength filled (parent ++ [leaf]) = some bytes.length := by
    rw [fileLength, written]
    rfl
  rw [bind_of_ok (by rw [reading, measured]; rfl), bind_of_ok (by rw [lift, identified])]
  exact whole.insertFile free others place (by rw [written]; rfl) rfl

theorem writeJson_whole (relative : String) (value : Option Bytes) :
    Keeps (Whole tree.root.object) (tree.writeJson platform relative value) := by
  unfold PrivateTree.writeJson
  refine keeps_bind (keeps_lift _) ?_
  intro bytes
  exact writeFile_whole obliging tree relative _

variable [GenerationEnvironment]

theorem generateDevice_whole (hub : HubRequest) (generated : Generated) (device : DeviceRequest) :
    Keeps (Whole tree.root.object) (generateDevice platform tree hub generated device) := by
  unfold generateDevice
  refine keeps_bind (createDir_whole obliging tree _) ?_
  intro _
  refine keeps_bind (keeps_lift _) ?_
  intro seed
  refine keeps_bind (keeps_lift _) ?_
  intro registered
  refine keeps_bind (writeFile_whole obliging tree _ seed) ?_
  intro _
  refine keeps_bind (keeps_lift _) ?_
  intro seedPath
  refine keeps_bind (keeps_lift _) ?_
  intro record
  refine keeps_bind (keeps_lift _) ?_
  intro known
  refine keeps_bind (writeJson_whole obliging tree _ _) ?_
  intro _
  refine keeps_bind (keeps_lift _) ?_
  intro _
  refine keeps_bind (writeJson_whole obliging tree _ _) ?_
  intro _
  exact keeps_pure _

theorem generateDevices_whole (hub : HubRequest) (generated : Generated) (devices : List DeviceRequest) :
    Keeps (Whole tree.root.object) (generateDevices platform tree hub generated devices) := by
  induction devices generalizing generated with
  | nil => exact keeps_pure generated
  | cons device rest ih => exact keeps_bind (generateDevice_whole obliging tree hub generated device) ih

theorem generateBound_whole (request : Request) (digest : String) :
    Keeps (Whole tree.root.object) (generateBound platform request tree digest) := by
  unfold generateBound generate
  apply keeps_bind
  · refine keeps_bind (createDir_whole obliging tree _) ?_
    intro _
    refine keeps_bind (createDir_whole obliging tree _) ?_
    intro _
    refine keeps_bind (generateDevices_whole obliging tree _ _ _) ?_
    intro generated
    refine keeps_bind (keeps_lift _) ?_
    intro _
    refine keeps_bind (writeJson_whole obliging tree _ _) ?_
    intro _
    refine keeps_bind (keeps_reading _) ?_
    intro entries
    refine keeps_bind (writeJson_whole obliging tree _ _) ?_
    intro _
    exact keeps_pure _
  · intro inventory
    refine keeps_bind (keeps_reading _) ?_
    intro _
    exact keeps_pure inventory

end Steps

section Outcomes

variable [GenerationEnvironment] {platform : Platform} (obliging : Obliging platform)

include obliging

theorem create_restores {path error : String} {later : Workspace}
    (failed : PrivateTree.create platform path work = (.error error, later)) : later.disk = work.disk := by
  unfold PrivateTree.create at failed
  rcases checked : validateNewPrivateRoot platform .checking work.disk path with refusal | _
  · rw [bind_of_error (by rw [reading, checked])] at failed
    cases failed
    rfl
  rw [bind_of_ok (by rw [reading, checked])] at failed
  rcases parents : openParent platform .creating path with refusal | ⟨parent, leaf⟩
  · rw [bind_of_error (by rw [lift, parents])] at failed
    cases failed
    rfl
  rw [bind_of_ok (by rw [lift, parents])] at failed
  change (createEntry platform parent leaf .directory "output_root_create_failed" >>= _) work = _ at failed
  rcases ran : createEntry platform parent leaf .directory "output_root_create_failed" work with ⟨refusal | object, made⟩
  · rw [bind_of_error ran] at failed
    cases failed
    rw [createEntry_refused platform ran]
  rw [bind_of_ok ran] at failed
  obtain ⟨rfl, disk, created, rfl⟩ := createEntry_ran platform ran
  obtain ⟨_, _, entries⟩ := create_some created
  have here : disk.entries[parent ++ [leaf]]? = some .directory := by
    rw [entries, BTreeMap.lookup_insert_self]
  obtain ⟨dir, looked⟩ := @Obliging.openDir platform obliging disk .opening _ here
  rw [bind_of_ok (by rw [reading, openNewRoot, looked, Except.mapError])] at failed
  rcases secured : applyPrivateAcl platform (parent ++ [leaf]) with refusal | _
  · rw [bind_of_error (by rw [secureOrDelete, secured])] at failed
    have back : ({ work with disk := disk } : Workspace).disk.delete (parent ++ [leaf]) = some work.disk :=
      delete_create created
    rw [deletion_taken obliging.deletes back] at failed
    cases failed
    rfl
  rw [bind_of_ok (by rw [secureOrDelete, secured])] at failed
  obtain ⟨identity, known⟩ := obliging.newDir secured "root_identity_unavailable"
  rw [bind_of_ok (by rw [lift, known])] at failed
  cases failed

omit obliging [GenerationEnvironment] in
theorem created_whole {disk created : Disk} {parent : ObjectPath} {leaf : String}
    (made : disk.create parent leaf .directory = some created) :
    Whole (parent ++ [leaf]) ⟨created, ∅, ∅, []⟩ := by
  obtain ⟨_, free, entries⟩ := create_some made
  constructor
  · exact (opened_empty (parent ++ [leaf]) created).located
  · intro path inside apart found
    rw [entries, BTreeMap.lookup_insert_of_ne _ _ apart, absent_of_none free path inside] at found
    cases found
  · rw [entries, BTreeMap.lookup_insert_self]

theorem onboarding_all_or_nothing (requestPath confirmation : String) (disk : Disk)
    (readable : ∀ object, platform.readFault object = none) :
    let outcome := apply platform requestPath confirmation disk
    (∃ error, outcome.1 = .error error ∧ outcome.2.disk = disk) ∨
      ∃ receipt request parent leaf, outcome.1 = .ok receipt ∧
        confirmedRequest platform disk requestPath confirmation = .ok (request, receipt.planSha256) ∧
        GenerationEnvironment.splitParent request.outputRoot = .ok (parent, leaf) ∧
        disk.entries[parent ++ [leaf]]? = none ∧ Whole (parent ++ [leaf]) outcome.2 ∧
        AgreesOutside (parent ++ [leaf]) disk outcome.2.disk := by
  intro outcome
  rcases accepted : confirmedRequest platform disk requestPath confirmation with error | ⟨request, digest⟩
  · left
    have ended : outcome = (.error error, ⟨disk, ∅, ∅, []⟩) := by
      show apply platform requestPath confirmation disk = _
      rw [apply, accepted]
    rw [ended]
    exact ⟨error, rfl, rfl⟩
  have ended : outcome = applyConfirmed platform request digest ⟨disk, ∅, ∅, []⟩ := by
    show apply platform requestPath confirmation disk = _
    rw [apply, accepted]
  rw [ended]
  clear_value outcome
  unfold applyConfirmed
  rcases made : PrivateTree.create platform request.outputRoot ⟨disk, ∅, ∅, []⟩ with ⟨refused | tree, created⟩
  · exact .inl ⟨refused, rfl, create_restores obliging made⟩
  have parts := made
  simp only [PrivateTree.create, bind_ran, lift_ran] at parts
  obtain ⟨_, _, _, ⟨parent, leaf⟩, _, ⟨opened, _⟩, _⟩ := parts
  have named := openParent_named platform opened
  have creation := create_creation platform named ⟨disk, ∅, ∅, []⟩
  rw [made] at creation
  cases creation with
  | made madeDisk new tree object =>
    have free := (create_some new).2.1
    have start := created_whole new
    have begun := created_contained new
    rw [← object] at free start begun
    have whole := generateBound_whole obliging tree request digest _ start
    have kept := generateBound_contained platform tree request digest _ begun
    rcases ran : generateBound platform request tree digest ⟨madeDisk, ∅, ∅, []⟩ with ⟨wrong | inventory, generated⟩
    · rw [ran] at whole kept
      have done := rollback_finishes obliging.deletes tree whole.located whole.covers whole.stands
      have gone := rolledBack_residue free kept (rollback_rollsBack platform tree kept.placed) done
      left
      simp only [ran, done]
      exact ⟨wrong, rfl, gone⟩
    · rw [ran] at whole kept
      simp only [ran]
      cases received : applyReceipt platform digest inventory generated with
      | error error =>
        have unread := applyReceipt_refused platform tree ran received
        rw [readable] at unread
        cases unread
      | ok receipt =>
        have own : receipt.planSha256 = digest := by
          simp only [applyReceipt, exceptBind_ok] at received
          obtain ⟨_, _, same⟩ := received
          cases same
          rfl
        rw [object] at free whole kept
        right
        refine ⟨receipt, request, parent, leaf, rfl, ?_, named, free, whole, kept.outside⟩
        rw [own]

end Outcomes

theorem refusingRecord_obliging : Obliging refusingRecord where
  opens _ _ := rfl
  metadata _ _ := ⟨_, rfl, rfl, rfl⟩
  rawAcl _ _ := ⟨_, rfl⟩
  identifies _ _ := ⟨_, rfl⟩
  writes _ := rfl
  seeks _ := rfl
  deletes _ := rfl

theorem refused_onboarding_restored : (sampleApplied refusingRecord).1 = .error "private_create_new_failed" ∧
    (sampleApplied refusingRecord).2.disk = sampleDisk := by
  have outcome := @onboarding_all_or_nothing sampleCleanup.toGenerationEnvironment refusingRecord refusingRecord_obliging
    sampleRequestPath sampleFingerprintHash sampleDisk (fun _ => rfl)
  refine ⟨refusingRecord_applied.1, ?_⟩
  have failed := refusingRecord_applied.1
  unfold sampleApplied at failed ⊢
  rcases outcome with ⟨_, _, restored⟩ | ⟨_, _, _, _, succeeded, _⟩
  · exact restored
  · rw [succeeded] at failed
    cases failed

end Generation

end Onboarding

end RustyFleet
