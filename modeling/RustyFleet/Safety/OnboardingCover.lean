import RustyFleet.Safety.OnboardedCheckIns
import RustyFleet.Safety.OnboardingLedger

namespace RustyFleet

namespace Onboarding

open Attempt FileTree

section Segments

def segments (relative : String) : List String := (splitSegments '/' relative.toList).map String.ofList

theorem splitLast_cases (text : List Char) :
    (splitLast text = (none, text) ∧ '/' ∉ text) ∨
      ∃ before leaf, splitLast text = (some before, leaf) ∧ text = before ++ '/' :: leaf ∧ '/' ∉ leaf := by
  induction text with
  | nil => exact .inl ⟨rfl, List.not_mem_nil⟩
  | cons c rest ih =>
    rcases ih with ⟨whole, unbroken⟩ | ⟨before, leaf, split, joined, unbroken⟩
    · by_cases separator : c = '/'
      · right
        refine ⟨[], rest, ?_, by rw [separator]; rfl, unbroken⟩
        simp only [splitLast, whole, if_pos separator]
      · left
        constructor
        · simp only [splitLast, whole, if_neg separator]
        · intro member
          rcases List.mem_cons.mp member with same | later
          · exact separator same.symm
          · exact unbroken later
    · right
      refine ⟨c :: before, leaf, ?_, by rw [joined]; rfl, unbroken⟩
      simp only [splitLast, split]

theorem splitSegments_filled (text : List Char) : splitSegments '/' text ≠ [] := by
  cases text with
  | nil => exact List.cons_ne_nil _ _
  | cons c rest =>
    rw [splitSegments]
    by_cases separator : c = '/'
    · rw [if_pos separator]
      exact List.cons_ne_nil _ _
    · rw [if_neg separator]
      cases splitSegments '/' rest with
      | nil => exact List.cons_ne_nil _ _
      | cons first others => exact List.cons_ne_nil _ _

theorem splitSegments_last (front leaf : List Char) (unbroken : '/' ∉ leaf) :
    splitSegments '/' (front ++ '/' :: leaf) = splitSegments '/' front ++ [leaf] := by
  induction front with
  | nil =>
    have separated : splitSegments '/' ('/' :: leaf) = [] :: splitSegments '/' leaf := by
      rw [splitSegments, if_pos rfl]
    rw [List.nil_append, separated, splitSegments_unbroken '/' leaf unbroken]
    rfl
  | cons c rest ih =>
    rw [List.cons_append, splitSegments, splitSegments, ih]
    by_cases separator : c = '/'
    · rw [if_pos separator, if_pos separator]
      rfl
    · rw [if_neg separator, if_neg separator]
      obtain ⟨first, others, split⟩ := List.exists_cons_of_ne_nil (splitSegments_filled rest)
      rw [split]
      rfl

theorem splitSegments_joined (text : List Char) : List.intercalate ['/'] (splitSegments '/' text) = text := by
  induction text with
  | nil => rfl
  | cons c rest ih =>
    obtain ⟨first, others, split⟩ := List.exists_cons_of_ne_nil (splitSegments_filled rest)
    rw [splitSegments]
    rw [split] at ih ⊢
    by_cases separator : c = '/'
    · rw [if_pos separator, List.intercalate_cons_cons, ih, separator]
      rfl
    · rw [if_neg separator]
      cases others with
      | nil =>
        rw [List.intercalate_singleton] at ih
        show List.intercalate ['/'] [c :: first] = c :: rest
        rw [List.intercalate_singleton, ih]
      | cons second more =>
        rw [List.intercalate_cons_cons] at ih
        show List.intercalate ['/'] ((c :: first) :: second :: more) = c :: rest
        rw [List.intercalate_cons_cons, ← ih, List.cons_append, List.cons_append]

theorem segments_injective {left right : String} (same : segments left = segments right) : left = right := by
  have lists : splitSegments '/' left.toList = splitSegments '/' right.toList :=
    List.map_injective_iff.mpr (fun _ _ => String.ofList_injective) same
  have texts := congrArg (List.intercalate ['/']) lists
  rw [splitSegments_joined, splitSegments_joined] at texts
  exact String.toList_injective texts

theorem segments_filled (relative : String) : segments relative ≠ [] := by
  intro empty
  exact splitSegments_filled _ (List.map_eq_nil_iff.mp empty)

theorem segments_unbroken {relative : String} (unbroken : '/' ∉ relative.toList) : segments relative = [relative] := by
  rw [segments, splitSegments_unbroken '/' _ unbroken, List.map_singleton, String.ofList_toList]

theorem segments_under {above : String} {leaf : List Char} {relative : String}
    (joined : relative.toList = above.toList ++ '/' :: leaf) (unbroken : '/' ∉ leaf) :
    segments relative = segments above ++ [String.ofList leaf] := by
  rw [segments, joined, splitSegments_last _ _ unbroken, List.map_append]
  rfl

theorem splitSegments_length (text : List Char) : (splitSegments '/' text).length = text.count '/' + 1 := by
  induction text with
  | nil => rfl
  | cons c rest ih =>
    rw [splitSegments]
    by_cases separator : c = '/'
    · rw [if_pos separator, List.length_cons, ih, separator, List.count_cons_self]
    · rw [if_neg separator, List.count_cons_of_ne separator]
      obtain ⟨first, others, split⟩ := List.exists_cons_of_ne_nil (splitSegments_filled rest)
      rw [split] at ih ⊢
      exact ih

theorem segments_length (relative : String) : (segments relative).length = slashes relative + 1 := by
  rw [segments, List.length_map, splitSegments_length]
  rfl

end Segments

section Located

/-- Every handle of the ledger is of the object its path names, and that object is of the ledger's kind. -/
structure Located (root : ObjectPath) (work : Workspace) : Prop where
  dirs : ∀ (path : String) (dir : SecureDir), work.dirs[path]? = some dir →
    dir.object = root ++ segments path ∧ work.disk.entries[dir.object]? = some .directory
  files : ∀ (path : String) (file : SecureFile), work.files[path]? = some file →
    file.object = root ++ segments path ∧ (work.disk.content file.object).isSome = true

variable {root : ObjectPath} {work : Workspace}

theorem mem_fileObjects (work : Workspace) (object : ObjectPath) :
    object ∈ fileObjects work ↔ ∃ (path : String) (file : SecureFile), work.files[path]? = some file ∧ file.object = object := by
  rw [fileObjects, List.mem_filterMap]
  constructor
  · rintro ⟨path, _, held⟩
    obtain ⟨file, found, same⟩ := Option.map_eq_some_iff.mp held
    exact ⟨path, file, found, same⟩
  · rintro ⟨path, file, found, same⟩
    have stored : (path, file) ∈ work.files.toList := Std.ExtTreeMap.mem_toList_iff_getElem?_eq_some.mpr found
    have listed : path ∈ work.filePaths := List.mem_reverse.mpr (List.mem_map_of_mem stored)
    exact ⟨path, listed, Option.map_eq_some_iff.mpr ⟨file, found, same⟩⟩

theorem mem_dirObjects (work : Workspace) (object : ObjectPath) :
    object ∈ dirObjects work ↔ ∃ (path : String) (dir : SecureDir), work.dirs[path]? = some dir ∧ dir.object = object := by
  rw [dirObjects, List.mem_filterMap]
  constructor
  · rintro ⟨path, _, held⟩
    obtain ⟨dir, found, same⟩ := Option.map_eq_some_iff.mp held
    exact ⟨path, dir, found, same⟩
  · rintro ⟨path, dir, found, same⟩
    have stored : (path, dir) ∈ work.dirs.toList := Std.ExtTreeMap.mem_toList_iff_getElem?_eq_some.mpr found
    have listed : path ∈ work.dirPaths := (dirPaths_perm work).mem_iff.mpr (List.mem_map_of_mem stored)
    exact ⟨path, listed, Option.map_eq_some_iff.mpr ⟨dir, found, same⟩⟩

namespace Located

theorem placed (located : Located root work) : Placed root work where
  dirs path dir found := by
    have object := (located.dirs path dir found).1
    rw [object, List.length_append, segments_length]
    exact ⟨List.prefix_append _ _, rfl⟩
  files path file found := by
    rw [(located.files path file found).1]
    exact List.prefix_append _ _

theorem below {object : ObjectPath} (located : Located root work)
    (member : object ∈ fileObjects work ++ dirObjects work) : root <+: object ∧ object ≠ root := by
  have named : ∃ path, object = root ++ segments path := by
    rcases List.mem_append.mp member with inFiles | inDirs
    · obtain ⟨path, file, found, rfl⟩ := (mem_fileObjects work object).mp inFiles
      exact ⟨path, (located.files path file found).1⟩
    · obtain ⟨path, dir, found, rfl⟩ := (mem_dirObjects work object).mp inDirs
      exact ⟨path, (located.dirs path dir found).1⟩
  obtain ⟨path, rfl⟩ := named
  apply And.intro (List.prefix_append _ _)
  intro same
  exact segments_filled path (List.self_eq_append_right.mp same.symm)

theorem file_content {object : ObjectPath} (located : Located root work) (member : object ∈ fileObjects work) :
    ∃ content, work.disk.entries[object]? = some (.file content) := by
  obtain ⟨path, file, found, rfl⟩ := (mem_fileObjects work object).mp member
  obtain ⟨content, read⟩ := Option.isSome_iff_exists.mp (located.files path file found).2
  exact ⟨content, content_eq _ read⟩

theorem dir_directory {object : ObjectPath} (located : Located root work) (member : object ∈ dirObjects work) :
    work.disk.entries[object]? = some .directory := by
  obtain ⟨path, dir, found, rfl⟩ := (mem_dirObjects work object).mp member
  exact (located.dirs path dir found).2

theorem fileObjects_named (located : Located root work) :
    fileObjects work = work.filePaths.map fun path => root ++ segments path := by
  rw [fileObjects, ← List.filterMap_eq_map]
  apply List.filterMap_congr
  intro path member
  obtain ⟨object, held⟩ := Option.isSome_iff_exists.mp (filePaths_known work path member)
  obtain ⟨file, found, rfl⟩ := Option.map_eq_some_iff.mp held
  rw [held, (located.files path file found).1]
  rfl

theorem dirObjects_named (located : Located root work) :
    dirObjects work = work.dirPaths.map fun path => root ++ segments path := by
  rw [dirObjects, ← List.filterMap_eq_map]
  apply List.filterMap_congr
  intro path member
  obtain ⟨object, held⟩ := Option.isSome_iff_exists.mp (dirPaths_known work path member)
  obtain ⟨dir, found, rfl⟩ := Option.map_eq_some_iff.mp held
  rw [held, (located.dirs path dir found).1]
  rfl

theorem fileObjects_distinct (located : Located root work) : (fileObjects work).Nodup := by
  rw [located.fileObjects_named]
  apply (filePaths_distinct work).map
  intro first second same
  exact segments_injective (List.append_cancel_left same)

theorem dirObjects_distinct (located : Located root work) : (dirObjects work).Nodup := by
  rw [located.dirObjects_named]
  apply (dirPaths_distinct work).map
  intro first second same
  exact segments_injective (List.append_cancel_left same)

end Located

def Covers (root : ObjectPath) (others : List ObjectPath) (work : Workspace) : Prop :=
  ∀ path, root <+: path → path ≠ root → (work.disk.entries[path]?).isSome = true →
    path ∈ fileObjects work ++ dirObjects work ++ others

theorem file_childless {tree : Disk} {object path : ObjectPath} {content : Bytes} {node : TreeNode Bytes}
    (file : tree.entries[object]? = some (.file content)) (found : tree.entries[path]? = some node) :
    ¬ (object <+: path ∧ object ≠ path) := by
  intro inside
  have directory := above_directory found inside.1 inside.2
  rw [file] at directory
  cases directory

/-- What is deleted after the ledger's directories and before the root: at most one file, directly in the root. -/
structure Closing (root : ObjectPath) (others : List ObjectPath) (work : Workspace) : Prop where
  alone : others.length ≤ 1
  unheld : ∀ object ∈ others, object ∉ fileObjects work
  level : ∀ object ∈ others, ∃ name, object = root ++ [name]
  file : ∀ object ∈ others, ∃ content, work.disk.entries[object]? = some (.file content)

theorem closing_none : Closing root [] work where
  alone := Nat.zero_le 1
  unheld _ member := absurd member List.not_mem_nil
  level _ member := absurd member List.not_mem_nil
  file _ member := absurd member List.not_mem_nil

variable {others : List ObjectPath}

theorem Closing.pairwise (closing : Closing root others work) (relation : ObjectPath → ObjectPath → Prop) :
    others.Pairwise relation := by
  have alone := closing.alone
  rcases others with _ | ⟨only, _ | ⟨second, rest⟩⟩
  · exact List.Pairwise.nil
  · exact List.pairwise_singleton _ _
  · simp at alone

theorem Closing.length {object : ObjectPath} (closing : Closing root others work) (member : object ∈ others) :
    object.length = root.length + 1 := by
  obtain ⟨name, rfl⟩ := closing.level object member
  rw [List.length_append, List.length_singleton]

namespace Located

theorem standing (located : Located root work) (closing : Closing root others work)
    (stands : work.disk.entries[root]? = some .directory) :
    ∀ path ∈ fileObjects work ++ (dirObjects work ++ (others ++ [root])), (work.disk.entries[path]?).isSome = true := by
  intro path member
  rcases List.mem_append.mp member with inFiles | member
  · obtain ⟨content, found⟩ := located.file_content inFiles
    rw [found]
    rfl
  rcases List.mem_append.mp member with inDirs | member
  · rw [located.dir_directory inDirs]
    rfl
  rcases List.mem_append.mp member with inOthers | isRoot
  · obtain ⟨content, found⟩ := closing.file path inOthers
    rw [found]
    rfl
  · rw [List.mem_singleton.mp isRoot, stands]
    rfl

theorem distinct (located : Located root work) (closing : Closing root others work) :
    (fileObjects work ++ (dirObjects work ++ (others ++ [root]))).Nodup := by
  have ends : (others ++ [root]).Nodup := by
    apply List.nodup_append'.mpr
    refine ⟨closing.pairwise _, List.nodup_singleton root, ?_⟩
    intro object member isRoot
    have length := closing.length member
    rw [List.mem_singleton.mp isRoot] at length
    omega
  have dirs : (dirObjects work ++ (others ++ [root])).Nodup := by
    apply List.nodup_append'.mpr
    refine ⟨located.dirObjects_distinct, ends, ?_⟩
    intro object inDirs member
    rcases List.mem_append.mp member with inOthers | isRoot
    · obtain ⟨content, found⟩ := closing.file object inOthers
      rw [located.dir_directory inDirs] at found
      cases found
    · exact (located.below (List.mem_append_right _ inDirs)).2 (List.mem_singleton.mp isRoot)
  apply List.nodup_append'.mpr
  refine ⟨located.fileObjects_distinct, dirs, ?_⟩
  intro object inFiles member
  obtain ⟨content, found⟩ := located.file_content inFiles
  rcases List.mem_append.mp member with inDirs | member
  · rw [located.dir_directory inDirs] at found
    cases found
  rcases List.mem_append.mp member with inOthers | isRoot
  · exact closing.unheld object inOthers inFiles
  · exact (located.below (List.mem_append_left _ inFiles)).2 (List.mem_singleton.mp isRoot)

theorem cleanupOrder (located : Located root work) (closing : Closing root others work) :
    CleanupOrder work (others ++ [root]) (fileObjects work) (dirObjects work) := by
  apply cleanupOrder_of_placed located.placed
  · intro object member
    rcases List.mem_append.mp member with inOthers | isRoot
    · have length := closing.length inOthers
      omega
    · rw [List.mem_singleton.mp isRoot]
      omega
  · apply List.pairwise_append.mpr
    refine ⟨closing.pairwise _, List.pairwise_singleton _ _, ?_⟩
    intro object member last isRoot
    have length := closing.length member
    rw [List.mem_singleton.mp isRoot]
    omega

theorem ordered (located : Located root work) (closing : Closing root others work)
    (stands : work.disk.entries[root]? = some .directory) :
    (fileObjects work ++ (dirObjects work ++ (others ++ [root]))).Pairwise
      fun earlier later => ¬ (earlier <+: later ∧ earlier ≠ later) := by
  have fileFirst : ∀ object ∈ fileObjects work, ∀ path ∈ fileObjects work ++ (dirObjects work ++ (others ++ [root])),
      ¬ (object <+: path ∧ object ≠ path) := by
    intro object inFiles path member
    obtain ⟨content, file⟩ := located.file_content inFiles
    obtain ⟨node, found⟩ := Option.isSome_iff_exists.mp (located.standing closing stands path member)
    exact file_childless file found
  apply List.pairwise_append.mpr
  refine ⟨?_, (located.cleanupOrder closing).innerFirst, ?_⟩
  · apply List.pairwise_of_forall_mem_list
    intro earlier inFiles later within
    exact fileFirst earlier inFiles later (List.mem_append_left _ within)
  · intro object inFiles path member
    exact fileFirst object inFiles path (List.mem_append_right _ member)

theorem inside {path : ObjectPath} (located : Located root work) (closing : Closing root others work)
    (member : path ∈ fileObjects work ++ (dirObjects work ++ (others ++ [root]))) : root <+: path := by
  rcases List.mem_append.mp member with inFiles | member
  · exact (located.below (List.mem_append_left _ inFiles)).1
  rcases List.mem_append.mp member with inDirs | member
  · exact (located.below (List.mem_append_right _ inDirs)).1
  rcases List.mem_append.mp member with inOthers | isRoot
  · obtain ⟨name, rfl⟩ := closing.level path inOthers
    exact List.prefix_append _ _
  · obtain rfl := List.mem_singleton.mp isRoot
    exact List.prefix_rfl

theorem innerFirst (located : Located root work) (closing : Closing root others work) (covers : Covers root others work)
    (stands : work.disk.entries[root]? = some .directory) :
    InnerFirst work.disk (fileObjects work ++ (dirObjects work ++ (others ++ [root]))) where
  stands := located.standing closing stands
  distinct := located.distinct closing
  ordered := located.ordered closing stands
  whole := by
    intro path member name found
    have inside := located.inside closing member
    have apart : path ++ [name] ≠ root := by
      rintro rfl
      have length := inside.length_le
      rw [List.length_append, List.length_singleton] at length
      omega
    have held := covers (path ++ [name]) (inside.trans (List.prefix_append _ _)) apart found
    rw [List.append_assoc] at held
    rcases List.mem_append.mp held with inFiles | later
    · exact List.mem_append_left _ inFiles
    rcases List.mem_append.mp later with inDirs | inOthers
    · exact List.mem_append_right _ (List.mem_append_left _ inDirs)
    · exact List.mem_append_right _ (List.mem_append_right _ (List.mem_append_left _ inOthers))

theorem emptied (located : Located root work) (closing : Closing root others work) (covers : Covers root others work)
    (stands : work.disk.entries[root]? = some .directory) :
    ∃ last, deleteAll (fileObjects work ++ (dirObjects work ++ (others ++ [root]))) work.disk = some last ∧
      Absent root last ∧ AgreesOutside root work.disk last := by
  obtain ⟨last, deleted, left⟩ := (located.innerFirst closing covers stands).deleteAll
  refine ⟨last, deleted, ?_, ?_⟩
  · apply absent_of_none
    rw [left, if_pos]
    simp
  · intro path outside
    rw [left, if_neg]
    intro member
    exact outside (located.inside closing member)

end Located

end Located

section Finishing

structure Takes (remove : String → Work Unit) (held : Workspace → String → Option ObjectPath) : Prop where
  removal : Removal remove held
  taken : ∀ work path object disk, held work path = some object → work.disk.delete object = some disk →
    (remove path work).1 = .ok () ∧ (remove path work).2.disk = disk

variable {platform : Platform} {work : Workspace} (willing : ∀ object, platform.deleteFails object = false)

include willing

theorem deletion_taken {object : ObjectPath} {text : String} {disk : Disk} (deleted : work.disk.delete object = some disk) :
    deleteRetainedHandle platform object text work =
      (.ok (), { work with attempts := work.attempts ++ [object], disk := disk }) := by
  unfold deleteRetainedHandle
  rw [willing object]
  simp only [deleted]
  rfl

theorem removeFile_takes (missing failed : String) : Takes (removeFile platform missing failed) heldFile where
  removal := removeFile_removal missing failed
  taken work path object disk held deleted := by
    obtain ⟨file, found, rfl⟩ := Option.map_eq_some_iff.mp held
    have gone : ({ work with files := work.files.erase path } : Workspace).disk.delete file.object = some disk := deleted
    rw [removeFile_found found, deletion_taken willing gone]
    exact ⟨rfl, rfl⟩

theorem removeDir_takes (missing failed : String) : Takes (removeDir platform missing failed) heldDir where
  removal := removeDir_removal missing failed
  taken work path object disk held deleted := by
    obtain ⟨dir, found, rfl⟩ := Option.map_eq_some_iff.mp held
    have gone : ({ work with dirs := work.dirs.erase path } : Workspace).disk.delete dir.object = some disk := deleted
    rw [removeDir_found found, deletion_taken willing gone]
    exact ⟨rfl, rfl⟩

omit willing

variable {remove : String → Work Unit} {held : Workspace → String → Option ObjectPath}

theorem Takes.all (takes : Takes remove held) {paths : List String} (distinct : paths.Nodup) (work : Workspace)
    (known : ∀ path ∈ paths, (held work path).isSome) {last : Disk}
    (deleted : deleteAll (paths.filterMap (held work)) work.disk = some last) :
    (CleanupSession.removeAll remove paths work).1 = .ok () ∧
      (CleanupSession.removeAll remove paths work).2.disk = last := by
  induction paths generalizing work with
  | nil => exact ⟨rfl, Option.some.inj deleted⟩
  | cons path rest ih =>
    obtain ⟨fresh, distinctRest⟩ := List.nodup_cons.mp distinct
    obtain ⟨object, stored⟩ := Option.isSome_iff_exists.mp (known path List.mem_cons_self)
    rw [List.filterMap_cons_some stored, deleteAll, Option.bind_eq_some_iff] at deleted
    obtain ⟨disk, first, others⟩ := deleted
    obtain ⟨succeeded, left⟩ := takes.taken work path object disk stored first
    have ran : remove path work = (.ok (), (remove path work).2) := Prod.ext succeeded rfl
    have after := ih distinctRest (remove path work).2 (takes.removal.keptKnown fresh known)
    rw [takes.removal.heldAfter fresh, left] at after
    rw [CleanupSession.removeAll, bind_of_ok ran]
    exact after others

theorem Takes.each (takes : Takes remove held) {paths : List String} (distinct : paths.Nodup) (work : Workspace)
    (known : ∀ path ∈ paths, (held work path).isSome) {last : Disk}
    (deleted : deleteAll (paths.filterMap (held work)) work.disk = some last) :
    (PrivateTree.removeEach remove paths work).1 = false ∧ (PrivateTree.removeEach remove paths work).2.disk = last := by
  induction paths generalizing work with
  | nil => exact ⟨rfl, Option.some.inj deleted⟩
  | cons path rest ih =>
    obtain ⟨fresh, distinctRest⟩ := List.nodup_cons.mp distinct
    obtain ⟨object, stored⟩ := Option.isSome_iff_exists.mp (known path List.mem_cons_self)
    rw [List.filterMap_cons_some stored, deleteAll, Option.bind_eq_some_iff] at deleted
    obtain ⟨disk, first, others⟩ := deleted
    obtain ⟨succeeded, left⟩ := takes.taken work path object disk stored first
    have after := ih distinctRest (remove path work).2 (takes.removal.keptKnown fresh known)
    rw [takes.removal.heldAfter fresh, left] at after
    obtain ⟨none, ended⟩ := after others
    refine ⟨?_, ended⟩
    show (!(remove path work).1.isOk || (PrivateTree.removeEach remove rest (remove path work).2).1) = false
    rw [none, succeeded]
    rfl

include willing

theorem deleteExact_finishes (session : CleanupSession)
    (located : Located session.root.object work)
    (closing : Closing session.root.object [session.inventoryLoaded.file.object] work)
    (covers : Covers session.root.object [session.inventoryLoaded.file.object] work)
    (stands : work.disk.entries[session.root.object]? = some .directory) :
    (session.deleteExact platform work).1 = .ok () ∧
      Absent session.root.object (session.deleteExact platform work).2.disk ∧
      AgreesOutside session.root.object work.disk (session.deleteExact platform work).2.disk := by
  obtain ⟨last, deleted, gone, outside⟩ := located.emptied closing covers stands
  rw [deleteAll_append, Option.bind_eq_some_iff] at deleted
  obtain ⟨noFiles, files, deleted⟩ := deleted
  rw [deleteAll_append, Option.bind_eq_some_iff] at deleted
  obtain ⟨noDirs, dirs, deleted⟩ := deleted
  obtain ⟨filesOk, filesDisk⟩ := (removeFile_takes willing "cleanup_state_changed"
    "cleanup_incomplete_exact_entries_remain").all (filePaths_distinct work) work (filePaths_known work) files
  generalize filesRan : CleanupSession.removeAll (removeFile platform "cleanup_state_changed"
    "cleanup_incomplete_exact_entries_remain") work.filePaths work = afterFiles at filesOk filesDisk
  obtain ⟨_, filesLater⟩ := afterFiles
  cases filesOk
  cases filesDisk
  have sameDirs : filesLater.dirs = work.dirs := by
    have keeps : Keeps (fun later : Workspace => later.dirs = work.dirs) (CleanupSession.removeAll (removeFile platform
        "cleanup_state_changed" "cleanup_incomplete_exact_entries_remain") work.filePaths) :=
      removeAll_keeps (fun path later same => (removeFile_dirs _ _ path later).trans same) _
    have kept := keeps work rfl
    rw [filesRan] at kept
    exact kept
  rw [← dirObjects_congr sameDirs] at dirs
  obtain ⟨dirsOk, dirsDisk⟩ := (removeDir_takes willing "cleanup_state_changed"
    "cleanup_incomplete_exact_entries_remain").all (dirPaths_distinct filesLater) filesLater
    (dirPaths_known filesLater) dirs
  generalize dirsRan : CleanupSession.removeAll (removeDir platform "cleanup_state_changed"
    "cleanup_incomplete_exact_entries_remain") filesLater.dirPaths filesLater = afterDirs at dirsOk dirsDisk
  obtain ⟨_, dirsLater⟩ := afterDirs
  cases dirsOk
  cases dirsDisk
  obtain ⟨noInventory, inventory, rest⟩ := Option.bind_eq_some_iff.mp deleted
  obtain ⟨noRoot, root, done⟩ := Option.bind_eq_some_iff.mp rest
  cases done
  have ran : ∃ later, session.deleteExact platform work = (.ok (), later) ∧ later.disk = last := by
    have filesRead : (reading fun held => .ok held.filePaths : Work (List String)) work = (.ok work.filePaths, work) := rfl
    have dirsRead : (reading fun held => .ok held.dirPaths : Work (List String)) filesLater =
        (.ok filesLater.dirPaths, filesLater) := rfl
    unfold CleanupSession.deleteExact
    rw [bind_of_ok filesRead, bind_of_ok filesRan, bind_of_ok dirsRead, bind_of_ok dirsRan,
      bind_of_ok (deletion_taken willing inventory), deletion_taken willing root]
    exact ⟨_, rfl, rfl⟩
  obtain ⟨later, finished, same⟩ := ran
  rw [finished]
  subst same
  exact ⟨rfl, gone, outside⟩

theorem rollback_finishes (tree : PrivateTree) (located : Located tree.root.object work)
    (covers : Covers tree.root.object [] work) (stands : work.disk.entries[tree.root.object]? = some .directory) :
    (tree.rollback platform work).1 = true := by
  obtain ⟨last, deleted, _⟩ := located.emptied closing_none covers stands
  rw [List.nil_append, deleteAll_append, Option.bind_eq_some_iff] at deleted
  obtain ⟨noFiles, files, deleted⟩ := deleted
  rw [deleteAll_append, Option.bind_eq_some_iff] at deleted
  obtain ⟨noDirs, dirs, deleted⟩ := deleted
  let filesRan := PrivateTree.removeEach (removeFile platform "private_file_missing" "exact_file_delete_failed")
    work.filePaths work
  let dirsRan := PrivateTree.removeEach (removeDir platform "private_directory_missing" "exact_directory_delete_failed")
    filesRan.2.dirPaths filesRan.2
  obtain ⟨filesOk, filesDisk⟩ : filesRan.1 = false ∧ filesRan.2.disk = noFiles :=
    (removeFile_takes willing _ _).each (filePaths_distinct work) work (filePaths_known work) files
  have sameDirs : filesRan.2.dirs = work.dirs :=
    removeEach_keeps (fun path later same => (removeFile_dirs _ _ path later).trans same) work.filePaths work rfl
  rw [← dirObjects_congr sameDirs, ← filesDisk] at dirs
  obtain ⟨dirsOk, dirsDisk⟩ : dirsRan.1 = false ∧ dirsRan.2.disk = noDirs :=
    (removeDir_takes willing _ _).each (dirPaths_distinct filesRan.2) filesRan.2 (dirPaths_known filesRan.2) dirs
  obtain ⟨noRoot, root, _⟩ := Option.bind_eq_some_iff.mp deleted
  rw [← dirsDisk] at root
  show (!filesRan.1 && !dirsRan.1 && (deleteRetainedHandle platform tree.root.object "" dirsRan.2).1.isOk) = true
  rw [filesOk, dirsOk, deletion_taken willing root]
  rfl

end Finishing

end Onboarding

end RustyFleet
