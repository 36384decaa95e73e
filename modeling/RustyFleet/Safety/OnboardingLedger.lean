import RustyFleet.Onboarding.Cleanup

namespace RustyFleet

namespace Onboarding

open Attempt FileTree

section Names

theorem splitLast_count (text : List Char) :
    text.count '/' = ((splitLast text).1.map fun before => before.count '/' + 1).getD 0 := by
  induction text with
  | nil => rfl
  | cons c rest ih =>
    rw [List.count_cons, ih, splitLast]
    rcases splitLast rest with ⟨_ | before, leaf⟩
    · by_cases separator : c = '/'
      · simp [separator]
      · simp [separator]
    · simp only [Option.map_some, Option.getD_some, List.count_cons]
      omega

theorem splitLast_prefix (text before : List Char) (found : (splitLast text).1 = some before) :
    before ++ ['/'] <+: text := by
  induction text generalizing before with
  | nil => cases found
  | cons c rest ih =>
    rcases split : splitLast rest with ⟨_ | earlier, leaf⟩
    · by_cases separator : c = '/'
      · simp only [splitLast, split, if_pos separator, Option.some.injEq] at found
        subst found
        rw [separator]
        exact ⟨rest, rfl⟩
      · simp only [splitLast, split, if_neg separator] at found
        cases found
    · simp only [splitLast, split, Option.some.injEq] at found
      subst found
      obtain ⟨back, same⟩ := ih earlier (by rw [split])
      refine ⟨back, ?_⟩
      rw [← same]
      rfl

theorem splitLast_parent {relative : String} (plain : relative.toList.head? ≠ some '/') :
    match (splitLast relative.toList).1 with
    | none => slashes relative = 0
    | some parent => parent ≠ [] ∧ slashes relative = slashes (String.ofList parent) + 1 := by
  have counted := splitLast_count relative.toList
  cases split : (splitLast relative.toList).1 with
  | none =>
    rw [split] at counted
    exact counted
  | some parent =>
    rw [split] at counted
    refine ⟨?_, ?_⟩
    · rintro rfl
      obtain ⟨back, same⟩ := splitLast_prefix _ _ split
      rw [← same] at plain
      exact plain rfl
    · rw [slashes, slashes, String.toList_ofList]
      exact counted

theorem normalized_plain {text : List Char} (plain : '\\' ∉ text) : normalized (String.ofList text) = String.ofList text := by
  have same : text.map (fun c => if c = '\\' then '/' else c) = text.map id := by
    apply List.map_congr_left
    intro c member
    have apart : c ≠ '\\' := by
      rintro rfl
      exact plain member
    exact if_neg apart
  rw [normalized, String.toList_ofList, same, List.map_id]

end Names

section Opened

variable (platform : Platform)

theorem validateRelative_plain {relative : String} (valid : validateRelative relative = .ok ()) :
    '\\' ∉ relative.toList ∧ relative.toList.head? ≠ some '/' := by
  simp only [validateRelative, errorIf_ok, not_or] at valid
  refine ⟨?_, valid.2.2.1⟩
  intro member
  exact valid.2.1 (List.contains_iff_mem.mpr member)

theorem openDirComponent_object {disk : Disk} {visit : Visit} {object : ObjectPath} {privateAcl : Bool} {dir : SecureDir}
    (opened : openDirComponent platform disk visit object privateAcl = .ok dir) : dir.object = object := by
  simp only [openDirComponent, exceptBind_ok] at opened
  obtain ⟨_, _, _, _, _, _, identity, _, same⟩ := opened
  cases same
  rfl

theorem openFileFrom_object {disk : Disk} {object : ObjectPath} {maximum : Nat} {kind : String} {file : SecureFile}
    (opened : CleanupSession.openFileFrom platform disk object maximum kind = .ok file) : file.object = object := by
  simp only [CleanupSession.openFileFrom, exceptBind_ok] at opened
  obtain ⟨_, _, _, _, _, _, _, _, identity, _, same⟩ := opened
  cases same
  rfl

end Opened

/-- Every handle of the ledger is inside the root, a directory as deep as its path says. -/
structure Placed (root : ObjectPath) (work : Workspace) : Prop where
  dirs : ∀ (path : String) (dir : SecureDir), work.dirs[path]? = some dir →
    root <+: dir.object ∧ dir.object.length = root.length + slashes path + 1
  files : ∀ (path : String) (file : SecureFile), work.files[path]? = some file → root <+: file.object

namespace Placed

variable {root : ObjectPath} {work : Workspace}

theorem of_ledger {later : Workspace} (placed : Placed root work) (dirs : later.dirs = work.dirs)
    (files : later.files = work.files) : Placed root later where
  dirs := by
    rw [dirs]
    exact placed.dirs
  files := by
    rw [files]
    exact placed.files

theorem insertDir (placed : Placed root work) {path : String} {dir : SecureDir} (inside : root <+: dir.object)
    (deep : dir.object.length = root.length + slashes path + 1) :
    Placed root { work with dirs := work.dirs.insert path dir } where
  dirs := BTreeMap.insert_forall work.dirs path dir
    (fun path dir => root <+: dir.object ∧ dir.object.length = root.length + slashes path + 1) placed.dirs
    ⟨inside, deep⟩
  files := placed.files

theorem insertFile (placed : Placed root work) {path : String} {file : SecureFile} (inside : root <+: file.object) :
    Placed root { work with files := work.files.insert path file } where
  dirs := placed.dirs
  files := BTreeMap.insert_forall work.files path file (fun _ file => root <+: file.object) placed.files inside

theorem eraseDir (placed : Placed root work) (path : String) :
    Placed root { work with dirs := work.dirs.erase path } where
  dirs := BTreeMap.erase_forall work.dirs path _ placed.dirs
  files := placed.files

theorem eraseFile (placed : Placed root work) (path : String) :
    Placed root { work with files := work.files.erase path } where
  dirs := placed.dirs
  files := BTreeMap.erase_forall work.files path _ placed.files

end Placed

section Deletions

variable {platform : Platform} {object : ObjectPath} {text : String} {work : Workspace}

structure Deleted (object : ObjectPath) (work later : Workspace) (succeeded : Bool) : Prop where
  asked : later.attempts = work.attempts ++ [object]
  dirs : later.dirs = work.dirs
  files : later.files = work.files
  failed : succeeded = false → later.disk = work.disk
  done : succeeded = true → work.disk.delete object = some later.disk

theorem deleted_ran (platform : Platform) (object : ObjectPath) (text : String) (work : Workspace) :
    Deleted object work (deleteRetainedHandle platform object text work).2
      (deleteRetainedHandle platform object text work).1.isOk := by
  unfold deleteRetainedHandle
  by_cases refused : platform.deleteFails object = true
  · simp only [refused, if_true]
    exact ⟨rfl, rfl, rfl, fun _ => rfl, nofun⟩
  · simp only [refused]
    cases removed : work.disk.delete object with
    | none => exact ⟨rfl, rfl, rfl, fun _ => rfl, nofun⟩
    | some disk => exact ⟨rfl, rfl, rfl, nofun, fun _ => removed⟩

theorem Deleted.outside {later : Workspace} {succeeded : Bool} {root : ObjectPath}
    (deleted : Deleted object work later succeeded) (inside : root <+: object) :
    AgreesOutside root work.disk later.disk := by
  cases succeeded with
  | false =>
    rw [deleted.failed rfl]
    exact AgreesOutside.refl root work.disk
  | true => exact delete_outside (deleted.done rfl) inside

structure Removal (remove : String → Work Unit) (held : Workspace → String → Option ObjectPath) : Prop where
  asked : ∀ work path object, held work path = some object →
    (remove path work).2.attempts = work.attempts ++ [object]
  others : ∀ work path other, other ≠ path → held (remove path work).2 other = held work other

def heldFile (work : Workspace) (path : String) : Option ObjectPath := work.files[path]?.map (·.object)

def heldDir (work : Workspace) (path : String) : Option ObjectPath := work.dirs[path]?.map (·.object)

theorem removeFile_found {missing failed path : String} {file : SecureFile} (found : work.files[path]? = some file) :
    removeFile platform missing failed path work =
      deleteRetainedHandle platform file.object failed { work with files := work.files.erase path } := by
  have taken : takeFile missing path work = (.ok file, { work with files := work.files.erase path }) := by
    rw [takeFile, found]
  exact bind_of_ok taken

theorem removeFile_missing {missing failed path : String} (lost : work.files[path]? = none) :
    removeFile platform missing failed path work = (.error missing, work) := by
  have taken : takeFile missing path work = (.error missing, work) := by rw [takeFile, lost]
  exact bind_of_error taken

theorem removeDir_found {missing failed path : String} {dir : SecureDir} (found : work.dirs[path]? = some dir) :
    removeDir platform missing failed path work =
      deleteRetainedHandle platform dir.object failed { work with dirs := work.dirs.erase path } := by
  have taken : takeDir missing path work = (.ok dir, { work with dirs := work.dirs.erase path }) := by
    rw [takeDir, found]
  exact bind_of_ok taken

theorem removeDir_missing {missing failed path : String} (lost : work.dirs[path]? = none) :
    removeDir platform missing failed path work = (.error missing, work) := by
  have taken : takeDir missing path work = (.error missing, work) := by rw [takeDir, lost]
  exact bind_of_error taken

theorem removeFile_dirs (missing failed path : String) (work : Workspace) :
    (removeFile platform missing failed path work).2.dirs = work.dirs := by
  cases found : work.files[path]? with
  | none => rw [removeFile_missing found]
  | some file =>
    rw [removeFile_found found]
    exact (deleted_ran platform _ _ _).dirs

theorem removeFile_removal (missing failed : String) : Removal (removeFile platform missing failed) heldFile where
  asked work path object held := by
    obtain ⟨file, found, rfl⟩ := Option.map_eq_some_iff.mp held
    rw [removeFile_found found]
    exact (deleted_ran platform _ _ _).asked
  others work path other apart := by
    cases found : work.files[path]? with
    | none => rw [removeFile_missing found]
    | some file =>
      rw [removeFile_found found, heldFile, (deleted_ran platform _ _ _).files, BTreeMap.lookup_erase_of_ne _ apart]
      rfl

theorem removeDir_removal (missing failed : String) : Removal (removeDir platform missing failed) heldDir where
  asked work path object held := by
    obtain ⟨dir, found, rfl⟩ := Option.map_eq_some_iff.mp held
    rw [removeDir_found found]
    exact (deleted_ran platform _ _ _).asked
  others work path other apart := by
    cases found : work.dirs[path]? with
    | none => rw [removeDir_missing found]
    | some dir =>
      rw [removeDir_found found, heldDir, (deleted_ran platform _ _ _).dirs, BTreeMap.lookup_erase_of_ne _ apart]
      rfl

section Lists

variable {remove : String → Work Unit} {held : Workspace → String → Option ObjectPath}

theorem Removal.heldAfter (removal : Removal remove held) {path : String} {rest : List String} (fresh : path ∉ rest)
    (work : Workspace) : rest.filterMap (held (remove path work).2) = rest.filterMap (held work) := by
  apply List.filterMap_congr
  intro other member
  have apart : other ≠ path := by
    rintro rfl
    exact fresh member
  exact removal.others work path other apart

def Asks (objects : List ObjectPath) (work : Workspace) (outcome : Except String Unit × Workspace) : Prop :=
  ∃ asked, outcome.2.attempts = work.attempts ++ asked ∧ asked <+: objects ∧ (outcome.1 = .ok () → asked = objects)

theorem asks_deletion (object : ObjectPath) (text : String) (work : Workspace) :
    Asks [object] work (deleteRetainedHandle platform object text work) :=
  ⟨[object], (deleted_ran platform object text work).asked, List.prefix_rfl, fun _ => rfl⟩

theorem Asks.bind {first : Work Unit} {rest : Work Unit} {objects more : List ObjectPath}
    (before : Asks objects work (first work))
    (after : ∀ later, first work = (.ok (), later) → Asks more later (rest later)) :
    Asks (objects ++ more) work ((first >>= fun _ => rest) work) := by
  obtain ⟨asked, attempts, shorter, whole⟩ := before
  rcases ran : first work with ⟨error | done, later⟩
  · rw [bind_of_error ran]
    rw [ran] at attempts
    exact ⟨asked, attempts, shorter.trans (List.prefix_append objects more), nofun⟩
  · rw [bind_of_ok ran]
    rw [ran] at attempts whole
    obtain ⟨next, nextAttempts, nextShorter, nextWhole⟩ := after later ran
    have all := whole rfl
    subst all
    refine ⟨asked ++ next, ?_, (List.prefix_append_right_inj asked).mpr nextShorter, ?_⟩
    · rw [nextAttempts, attempts, List.append_assoc]
    · intro ok
      rw [nextWhole ok]

theorem Removal.keptKnown (removal : Removal remove held) {path : String} {rest : List String} (fresh : path ∉ rest)
    {work : Workspace} (known : ∀ other ∈ path :: rest, (held work other).isSome) :
    ∀ other ∈ rest, (held (remove path work).2 other).isSome := by
  intro other member
  have apart : other ≠ path := by
    rintro rfl
    exact fresh member
  rw [removal.others work path other apart]
  exact known other (List.mem_cons_of_mem _ member)

theorem Removal.each_asks (removal : Removal remove held) {paths : List String} (distinct : paths.Nodup)
    (work : Workspace) (known : ∀ path ∈ paths, (held work path).isSome) :
    (PrivateTree.removeEach remove paths work).2.attempts = work.attempts ++ paths.filterMap (held work) := by
  induction paths generalizing work with
  | nil => simp [PrivateTree.removeEach]
  | cons path rest ih =>
    obtain ⟨fresh, later⟩ := List.nodup_cons.mp distinct
    obtain ⟨object, stored⟩ := Option.isSome_iff_exists.mp (known path List.mem_cons_self)
    have after := ih later (remove path work).2 (removal.keptKnown fresh known)
    rw [removal.heldAfter fresh, removal.asked work path object stored] at after
    rw [List.filterMap_cons_some stored]
    show (PrivateTree.removeEach remove rest (remove path work).2).2.attempts = _
    rw [after, List.append_assoc]
    rfl

theorem Removal.all_asks (removal : Removal remove held) {paths : List String} (distinct : paths.Nodup)
    (work : Workspace) (known : ∀ path ∈ paths, (held work path).isSome) :
    Asks (paths.filterMap (held work)) work (CleanupSession.removeAll remove paths work) := by
  induction paths generalizing work with
  | nil => exact ⟨[], (List.append_nil _).symm, List.nil_prefix, fun _ => rfl⟩
  | cons path rest ih =>
    obtain ⟨fresh, distinctRest⟩ := List.nodup_cons.mp distinct
    obtain ⟨object, stored⟩ := Option.isSome_iff_exists.mp (known path List.mem_cons_self)
    have first : Asks [object] work (remove path work) :=
      ⟨[object], removal.asked work path object stored, List.prefix_rfl, fun _ => rfl⟩
    rw [List.filterMap_cons_some stored]
    apply Asks.bind first
    intro later ran
    have after := ih distinctRest (remove path work).2 (removal.keptKnown fresh known)
    rw [removal.heldAfter fresh, ran] at after
    exact after

theorem removeEach_keeps {invariant : Workspace → Prop} (keeps : ∀ path, Keeps invariant (remove path))
    (paths : List String) (work : Workspace) (holds : invariant work) :
    invariant (PrivateTree.removeEach remove paths work).2 := by
  induction paths generalizing work with
  | nil => exact holds
  | cons path rest ih => exact ih _ (keeps path work holds)

theorem removeAll_keeps {invariant : Workspace → Prop} (keeps : ∀ path, Keeps invariant (remove path))
    (paths : List String) : Keeps invariant (CleanupSession.removeAll remove paths) := by
  induction paths with
  | nil => exact keeps_pure ()
  | cons path rest ih => exact keeps_bind (keeps path) fun _ => ih

end Lists

end Deletions

section Order

variable {root : ObjectPath} {work : Workspace}

def fileObjects (work : Workspace) : List ObjectPath := work.filePaths.filterMap (heldFile work)

def dirObjects (work : Workspace) : List ObjectPath := work.dirPaths.filterMap (heldDir work)

theorem dirObjects_congr {later : Workspace} (same : later.dirs = work.dirs) : dirObjects later = dirObjects work := by
  have held : heldDir later = heldDir work := by
    funext path
    rw [heldDir, heldDir, same]
  rw [dirObjects, dirObjects, held, Workspace.dirPaths, Workspace.dirPaths, same]

theorem storedObjects {β : Type} (ledger : BTreeMap String β) (object : β → ObjectPath) :
    (ledger.toList.map Prod.fst).filterMap (fun path => ledger[path]?.map object) =
      ledger.toList.map fun entry => object entry.2 := by
  rw [List.filterMap_map, ← List.filterMap_eq_map]
  apply List.filterMap_congr
  intro entry member
  have found := Std.ExtTreeMap.mem_toList_iff_getElem?_eq_some.mp member
  show ledger[entry.1]?.map object = some (object entry.2)
  rw [found, Option.map_some]

theorem filePaths_distinct (work : Workspace) : work.filePaths.Nodup :=
  List.nodup_reverse.mpr (BTreeMap.toList_keys_nodup work.files)

theorem filePaths_known (work : Workspace) : ∀ path ∈ work.filePaths, (heldFile work path).isSome := by
  intro path member
  obtain ⟨⟨_, file⟩, stored, rfl⟩ := List.mem_map.mp (List.mem_reverse.mp member)
  have found := Std.ExtTreeMap.mem_toList_iff_getElem?_eq_some.mp stored
  rw [heldFile, found]
  rfl

theorem dirPaths_perm (work : Workspace) : work.dirPaths.Perm (work.dirs.toList.map Prod.fst) :=
  List.perm_insertionSort _ _

theorem dirPaths_distinct (work : Workspace) : work.dirPaths.Nodup :=
  (dirPaths_perm work).nodup_iff.mpr (BTreeMap.toList_keys_nodup work.dirs)

theorem dirPaths_known (work : Workspace) : ∀ path ∈ work.dirPaths, (heldDir work path).isSome := by
  intro path member
  obtain ⟨⟨_, dir⟩, stored, rfl⟩ := List.mem_map.mp ((dirPaths_perm work).mem_iff.mp member)
  have found := Std.ExtTreeMap.mem_toList_iff_getElem?_eq_some.mp stored
  rw [heldDir, found]
  rfl

theorem dirPaths_deepest (work : Workspace) :
    work.dirPaths.Pairwise fun earlier later => slashes later ≤ slashes earlier := by
  have total : Std.Total fun left right : String => slashes right ≤ slashes left := by
    constructor
    intro left right
    exact Nat.le_total _ _
  have transitive : IsTrans String fun left right => slashes right ≤ slashes left := by
    constructor
    intro first second third before after
    exact Nat.le_trans after before
  exact List.pairwise_insertionSort _ _

structure CleanupOrder (work : Workspace) (ends files dirs : List ObjectPath) : Prop where
  filesHeld : files.Perm (work.files.toList.map (·.2.object))
  dirsHeld : dirs.Perm (work.dirs.toList.map (·.2.object))
  innerFirst : (dirs ++ ends).Pairwise fun earlier later => ¬ (earlier <+: later ∧ earlier ≠ later)

theorem innerFirst_of_lengths {objects : List ObjectPath}
    (shrinking : objects.Pairwise fun earlier later => later.length ≤ earlier.length) :
    objects.Pairwise fun earlier later => ¬ (earlier <+: later ∧ earlier ≠ later) := by
  apply shrinking.imp
  rintro earlier later shorter ⟨outer, apart⟩
  exact apart (outer.eq_of_length_le shorter)

theorem dirObjects_deepest (placed : Placed root work) :
    (dirObjects work).Pairwise fun earlier later => later.length ≤ earlier.length := by
  rw [dirObjects, List.pairwise_filterMap]
  apply (dirPaths_deepest work).imp
  intro earlier later shallower outer outerHeld inner innerHeld
  obtain ⟨outerDir, outerFound, rfl⟩ := Option.map_eq_some_iff.mp outerHeld
  obtain ⟨innerDir, innerFound, rfl⟩ := Option.map_eq_some_iff.mp innerHeld
  have outerDeep := (placed.dirs earlier outerDir outerFound).2
  have innerDeep := (placed.dirs later innerDir innerFound).2
  omega

theorem cleanupOrder_of_placed (placed : Placed root work) {ends : List ObjectPath}
    (shallow : ∀ object ∈ ends, object.length ≤ root.length + 1)
    (shrinking : ends.Pairwise fun earlier later => later.length ≤ earlier.length) :
    CleanupOrder work ends (fileObjects work) (dirObjects work) where
  filesHeld := by
    rw [← storedObjects work.files SecureFile.object]
    exact (List.reverse_perm _).filterMap _
  dirsHeld := by
    rw [← storedObjects work.dirs SecureDir.object]
    exact (dirPaths_perm work).filterMap _
  innerFirst := by
    apply innerFirst_of_lengths
    apply List.pairwise_append.mpr
    refine ⟨dirObjects_deepest placed, shrinking, ?_⟩
    intro object member last closing
    obtain ⟨path, _, held⟩ := List.mem_filterMap.mp member
    obtain ⟨dir, found, rfl⟩ := Option.map_eq_some_iff.mp held
    have deep := (placed.dirs path dir found).2
    have bound := shallow last closing
    omega

end Order

section Removals

variable {platform : Platform} {root : ObjectPath} {before : Disk}

structure Contained (root : ObjectPath) (before : Disk) (work : Workspace) : Prop where
  placed : Placed root work
  outside : AgreesOutside root before work.disk

theorem Contained.deleted {work later : Workspace} {object : ObjectPath} {succeeded : Bool}
    (contained : Contained root before work) (inside : root <+: object) (deleted : Deleted object work later succeeded) :
    Contained root before later where
  placed := contained.placed.of_ledger deleted.dirs deleted.files
  outside := contained.outside.trans (deleted.outside inside)

theorem deletion_contained {object : ObjectPath} (inside : root <+: object) (text : String) :
    Keeps (Contained root before) (deleteRetainedHandle platform object text) :=
  fun work contained => contained.deleted inside (deleted_ran platform object text work)

theorem removeFile_contained (missing failed path : String) :
    Keeps (Contained root before) (removeFile platform missing failed path) := by
  intro work contained
  cases found : work.files[path]? with
  | none =>
    rw [removeFile_missing found]
    exact contained
  | some file =>
    rw [removeFile_found found]
    apply deletion_contained (contained.placed.files path file found)
    exact ⟨contained.placed.eraseFile path, contained.outside⟩

theorem removeDir_contained (missing failed path : String) :
    Keeps (Contained root before) (removeDir platform missing failed path) := by
  intro work contained
  cases found : work.dirs[path]? with
  | none =>
    rw [removeDir_missing found]
    exact contained
  | some dir =>
    rw [removeDir_found found]
    apply deletion_contained (contained.placed.dirs path dir found).1
    exact ⟨contained.placed.eraseDir path, contained.outside⟩

end Removals

section Cleanups

/-- A rollback asks once for every object of the ledger in order, changes nothing outside the root, and says that
it is done only when nothing of the root is left. -/
structure RollsBack (tree : PrivateTree) (work : Workspace) (outcome : Bool × Workspace) : Prop where
  ordered : ∃ files dirs, CleanupOrder work [tree.root.object] files dirs ∧
    outcome.2.attempts = work.attempts ++ (files ++ dirs ++ [tree.root.object])
  outside : AgreesOutside tree.root.object work.disk outcome.2.disk
  done : outcome.1 = true → Absent tree.root.object outcome.2.disk

/-- A cleanup asks for the objects of the ledger in order until one stays, changes nothing outside the root, and
succeeds only when nothing of the root is left. -/
structure DeletesExactly (session : CleanupSession) (work : Workspace) (outcome : Except String Unit × Workspace) :
    Prop where
  ordered : ∃ files dirs,
    CleanupOrder work [session.inventoryLoaded.file.object, session.root.object] files dirs ∧
      Asks (files ++ dirs ++ [session.inventoryLoaded.file.object, session.root.object]) work outcome
  outside : AgreesOutside session.root.object work.disk outcome.2.disk
  done : outcome.1 = .ok () → Absent session.root.object outcome.2.disk

variable (platform : Platform) {work : Workspace}

theorem rollback_rollsBack (tree : PrivateTree) (placed : Placed tree.root.object work) :
    RollsBack tree work (tree.rollback platform work) := by
  let removal := removeFile platform "private_file_missing" "exact_file_delete_failed"
  let dirRemoval := removeDir platform "private_directory_missing" "exact_directory_delete_failed"
  let noFiles := (PrivateTree.removeEach removal work.filePaths work).2
  let noDirs := (PrivateTree.removeEach dirRemoval noFiles.dirPaths noFiles).2
  let last := (deleteRetainedHandle platform tree.root.object "" noDirs).2
  have ended : (tree.rollback platform work).2 = last := rfl
  have files : noFiles.attempts = work.attempts ++ fileObjects work :=
    (removeFile_removal _ _).each_asks (filePaths_distinct work) work (filePaths_known work)
  have sameDirs : noFiles.dirs = work.dirs :=
    removeEach_keeps (fun path later same => (removeFile_dirs _ _ path later).trans same) work.filePaths work rfl
  have sameObjects : dirObjects noFiles = dirObjects work := dirObjects_congr sameDirs
  have dirs : noDirs.attempts = noFiles.attempts ++ dirObjects noFiles :=
    (removeDir_removal _ _).each_asks (dirPaths_distinct noFiles) noFiles (dirPaths_known noFiles)
  have deleted := deleted_ran platform tree.root.object "" noDirs
  have contained : Contained tree.root.object work.disk work := ⟨placed, AgreesOutside.refl _ _⟩
  have filesContained : Contained tree.root.object work.disk noFiles :=
    removeEach_keeps (removeFile_contained _ _) work.filePaths work contained
  have dirsContained : Contained tree.root.object work.disk noDirs :=
    removeEach_keeps (removeDir_contained _ _) noFiles.dirPaths noFiles filesContained
  have order : CleanupOrder work [tree.root.object] (fileObjects work) (dirObjects work) :=
    cleanupOrder_of_placed placed (by simp) (List.pairwise_singleton _ _)
  constructor
  · refine ⟨fileObjects work, dirObjects work, order, ?_⟩
    rw [ended, deleted.asked, dirs, files, sameObjects, List.append_assoc, List.append_assoc, List.append_assoc]
  · exact (dirsContained.deleted List.prefix_rfl deleted).outside
  · intro done
    have succeeded : (deleteRetainedHandle platform tree.root.object "" noDirs).1.isOk = true :=
      (Bool.and_eq_true_iff.mp done).2
    exact delete_absent (deleted.done succeeded)

theorem deleteExact_asks (session : CleanupSession) :
    Asks (fileObjects work ++ (dirObjects work ++ ([session.inventoryLoaded.file.object] ++ [session.root.object])))
      work (session.deleteExact platform work) := by
  have files : Asks (fileObjects work) work (CleanupSession.removeAll (removeFile platform "cleanup_state_changed"
      "cleanup_incomplete_exact_entries_remain") work.filePaths work) :=
    (removeFile_removal _ _).all_asks (filePaths_distinct work) work (filePaths_known work)
  apply Asks.bind files
  intro noFiles ran
  have sameDirs : noFiles.dirs = work.dirs := by
    have keeps : Keeps (fun later : Workspace => later.dirs = work.dirs) (CleanupSession.removeAll (removeFile platform
        "cleanup_state_changed" "cleanup_incomplete_exact_entries_remain") work.filePaths) :=
      removeAll_keeps (fun path later same => (removeFile_dirs _ _ path later).trans same) _
    have kept := keeps work rfl
    rw [ran] at kept
    exact kept
  rw [← dirObjects_congr sameDirs]
  apply Asks.bind ((removeDir_removal _ _).all_asks (dirPaths_distinct noFiles) noFiles (dirPaths_known noFiles))
  intro noDirs _
  apply Asks.bind (asks_deletion _ _ noDirs)
  intro noInventory _
  exact asks_deletion _ _ noInventory

theorem deleteExact_contained (session : CleanupSession) {before : Disk}
    (own : session.inventoryLoaded.file.object = session.root.object ++ [inventoryName]) :
    Keeps (Contained session.root.object before) (session.deleteExact platform) := by
  unfold CleanupSession.deleteExact
  refine keeps_bind (keeps_reading _) fun files => ?_
  refine keeps_bind (removeAll_keeps (removeFile_contained _ _) files) fun _ => ?_
  refine keeps_bind (keeps_reading _) fun dirs => ?_
  refine keeps_bind (removeAll_keeps (removeDir_contained _ _) dirs) fun _ => ?_
  refine keeps_bind ?_ fun _ => deletion_contained List.prefix_rfl _
  rw [own]
  exact deletion_contained (List.prefix_append _ _) _

theorem deleteExact_done (session : CleanupSession) {later : Workspace}
    (ran : session.deleteExact platform work = (.ok (), later)) : Absent session.root.object later.disk := by
  simp only [CleanupSession.deleteExact, bind_ran] at ran
  obtain ⟨_, _, _, _, _, _, _, _, _, _, _, _, _, noInventory, _, last⟩ := ran
  have deleted := deleted_ran platform session.root.object "cleanup_incomplete_root_remains" noInventory
  rw [last] at deleted
  exact delete_absent (deleted.done rfl)

theorem deleteExact_deletes (session : CleanupSession) (placed : Placed session.root.object work)
    (own : session.inventoryLoaded.file.object = session.root.object ++ [inventoryName]) :
    DeletesExactly session work (session.deleteExact platform work) := by
  have contained := deleteExact_contained platform session own work ⟨placed, AgreesOutside.refl _ _⟩
  have order : CleanupOrder work [session.inventoryLoaded.file.object, session.root.object] (fileObjects work)
      (dirObjects work) := by
    apply cleanupOrder_of_placed placed
    · simp [own]
    · simp [own]
  constructor
  · refine ⟨fileObjects work, dirObjects work, order, ?_⟩
    rw [List.append_assoc]
    exact deleteExact_asks platform session
  · exact contained.outside
  · intro done
    exact deleteExact_done platform session (Prod.ext done rfl)

end Cleanups

end Onboarding

end RustyFleet
