import RustyFleet.Safety.OnboardingCover

namespace RustyFleet

namespace Onboarding

open Attempt FileTree

section Naming

theorem splitSegments_parts (text : List Char) : ∀ part ∈ splitSegments '/' text, '/' ∉ part := by
  induction text with
  | nil =>
    intro part member
    rw [List.mem_singleton.mp member]
    exact List.not_mem_nil
  | cons c rest ih =>
    intro part member
    rw [splitSegments] at member
    by_cases separator : c = '/'
    · rw [if_pos separator] at member
      rcases List.mem_cons.mp member with rfl | later
      · exact List.not_mem_nil
      · exact ih part later
    · rw [if_neg separator] at member
      obtain ⟨first, others, split⟩ := List.exists_cons_of_ne_nil (splitSegments_filled rest)
      rw [split] at ih member
      rcases List.mem_cons.mp member with rfl | later
      · intro inside
        rcases List.mem_cons.mp inside with same | within
        · exact separator same.symm
        · exact ih first List.mem_cons_self within
      · exact ih part (List.mem_cons_of_mem first later)

theorem segments_parts {relative name : String} (member : name ∈ segments relative) : '/' ∉ name.toList := by
  obtain ⟨part, inside, rfl⟩ := List.mem_map.mp member
  rw [String.toList_ofList]
  exact splitSegments_parts _ part inside

def joined (level name : String) : String := if level.isEmpty then name else level ++ "/" ++ name

theorem joined_root (name : String) : joined "" name = name := if_pos rfl

theorem joined_below {level : String} (filled : level.isEmpty = false) (name : String) :
    joined level name = level ++ "/" ++ name := by
  rw [joined, filled]
  rfl

theorem segments_joined {level name : String} (filled : level.isEmpty = false) (plain : '/' ∉ name.toList) :
    segments (joined level name) = segments level ++ [name] := by
  have text : (joined level name).toList = level.toList ++ '/' :: name.toList := by
    rw [joined_below filled, String.toList_append, String.toList_append, List.append_assoc]
    rfl
  rw [segments_under text plain, String.ofList_toList]

theorem splitLast_joined (text : List Char) :
    splitLast text = (none, text) ∧ '/' ∉ text ∨
      ∃ above leaf, splitLast text = (some above, leaf) ∧
        segments (String.ofList text) = segments (String.ofList above) ++ [String.ofList leaf] := by
  rcases splitLast_cases text with alone | ⟨above, leaf, split, same, unbroken⟩
  · exact .inl alone
  · right
    refine ⟨above, leaf, split, segments_under ?_ unbroken⟩
    rw [String.toList_ofList, String.toList_ofList]
    exact same

def parentPath? (relative : String) : Option String := (splitLast relative.toList).1.map String.ofList

theorem splitLast_unbroken (leaf : List Char) (unbroken : '/' ∉ leaf) : splitLast leaf = (none, leaf) := by
  rcases splitLast_cases leaf with ⟨split, _⟩ | ⟨above, last, _, same, _⟩
  · exact split
  · apply absurd _ unbroken
    rw [same]
    simp

theorem splitLast_separated (front leaf : List Char) (unbroken : '/' ∉ leaf) :
    splitLast (front ++ '/' :: leaf) = (some front, leaf) := by
  induction front with
  | nil =>
    rw [List.nil_append, splitLast, splitLast_unbroken leaf unbroken]
    exact if_pos rfl
  | cons c rest ih => rw [List.cons_append, splitLast, ih]

theorem parentPath?_unbroken {name : String} (plain : '/' ∉ name.toList) : parentPath? name = none := by
  rw [parentPath?, splitLast_unbroken _ plain]
  rfl

theorem parentPath?_joined {level name : String} (filled : level.isEmpty = false) (plain : '/' ∉ name.toList) :
    parentPath? (joined level name) = some level := by
  have text : (joined level name).toList = level.toList ++ '/' :: name.toList := by
    rw [joined_below filled, String.toList_append, String.toList_append, List.append_assoc]
    rfl
  rw [parentPath?, text, splitLast_separated _ _ plain, Option.map_some, String.ofList_toList]

end Naming

section Objects

variable {root : ObjectPath} {work : Workspace}

theorem relativeObject_ok (platform : Platform) {dir : SecureDir} {relative : String} {object : ObjectPath} :
    CleanupSession.relativeObject platform dir work relative = .ok object ↔
      CleanupSession.namedObject dir work relative = .ok object ∧ platform.cloneFails object = false := by
  simp only [CleanupSession.relativeObject, exceptBind_ok, errorIf_ok, exceptPure_ok, Bool.not_eq_true]
  constructor
  · rintro ⟨_, named, _, cloned, rfl⟩
    exact ⟨named, cloned⟩
  · intro reached
    exact ⟨object, reached.1, (), reached.2, rfl⟩

theorem Located.namedObject {dir : SecureDir} {relative : String} {object : ObjectPath}
    (located : Located dir.object work) (leading : relative.toList.head? ≠ some '/')
    (found : CleanupSession.namedObject dir work relative = .ok object) :
    object = dir.object ++ segments relative := by
  have filled := splitLast_parent leading
  rcases splitLast_joined relative.toList with ⟨split, unbroken⟩ | ⟨above, leaf, split, parts⟩
  · simp only [CleanupSession.namedObject, split, String.ofList_toList, Except.ok.injEq] at found
    rw [segments_unbroken unbroken]
    exact found.symm
  · rw [split] at filled
    obtain ⟨first, others, same⟩ := List.exists_cons_of_ne_nil filled.1
    subst same
    simp only [CleanupSession.namedObject, split, exceptBind_ok, orError_ok] at found
    obtain ⟨parent, held, same⟩ := found
    cases same
    rw [String.ofList_toList] at parts
    rw [(located.dirs _ parent held).1, parts, List.append_assoc]

theorem below_extended (front : List Char) (c : Char) (rest : List Char) : front < front ++ c :: rest := by
  induction front with
  | nil => exact List.nil_lt_cons c rest
  | cons first others ih => exact List.cons_lt_cons_iff.mpr (.inr ⟨rfl, ih⟩)

theorem parent_below {relative parent : String} (named : parent ∈ parentPath? relative) :
    compare parent relative = .lt := by
  unfold parentPath? at named
  rcases splitLast_cases relative.toList with ⟨split, _⟩ | ⟨above, leaf, split, same, _⟩
  · rw [split] at named
    cases named
  · rw [split] at named
    cases named
    apply if_pos
    rw [String.lt_iff, String.toList_ofList, same]
    exact below_extended above '/' leaf

theorem namedObject_known {dir : SecureDir} {relative : String}
    (held : ∀ parent ∈ parentPath? relative, (work.dirs[parent]?).isSome = true) :
    ∃ object, CleanupSession.namedObject dir work relative = .ok object := by
  unfold CleanupSession.namedObject
  rcases split : splitLast relative.toList with ⟨_ | above, leaf⟩
  · exact ⟨_, rfl⟩
  · cases above with
    | nil => exact ⟨_, rfl⟩
    | cons first others =>
      have named : String.ofList (first :: others) ∈ parentPath? relative := by
        rw [parentPath?, split]
        rfl
      obtain ⟨parent, found⟩ := Option.isSome_iff_exists.mp (held _ named)
      simp only [found]
      exact ⟨_, rfl⟩

end Objects

section Entries

/-- The ledger holds a handle for each of these entries, at its place and of its kind, and nothing else. -/
structure Opened (root : ObjectPath) (disk : Disk) (entries : List EntryRecord) (work : Workspace) : Prop where
  disk : work.disk = disk
  attempts : work.attempts = []
  located : Located root work
  dirs : ∀ path : String, (work.dirs[path]?).isSome = true ↔
    ∃ entry ∈ entries, entry.kind = .directory ∧ entry.relativePath = path
  files : ∀ path : String, (work.files[path]?).isSome = true ↔
    ∃ entry ∈ entries, entry.kind = .file ∧ entry.relativePath = path

variable (platform : Platform) {root : SecureDir} {disk : Disk} {done : List EntryRecord} {entry : EntryRecord}
  {work later : Workspace}

theorem opened_empty (root : ObjectPath) (disk : Disk) : Opened root disk [] ⟨disk, ∅, ∅, []⟩ where
  disk := rfl
  attempts := rfl
  located := by
    constructor
    · intro path dir found
      rw [Std.ExtTreeMap.getElem?_empty] at found
      cases found
    · intro path file found
      rw [Std.ExtTreeMap.getElem?_empty] at found
      cases found
  dirs path := by
    rw [Std.ExtTreeMap.getElem?_empty]
    simp
  files path := by
    rw [Std.ExtTreeMap.getElem?_empty]
    simp

theorem held_insert {β : Type} {ledger : BTreeMap String β} {value : β} {kind : EntryKind}
    (held : ∀ path : String, (ledger[path]?).isSome = true ↔
      ∃ entry ∈ done, entry.kind = kind ∧ entry.relativePath = path) (same : entry.kind = kind) (path : String) :
    ((ledger.insert entry.relativePath value)[path]?).isSome = true ↔
      ∃ other ∈ done ++ [entry], other.kind = kind ∧ other.relativePath = path := by
  by_cases own : path = entry.relativePath
  · rw [own, BTreeMap.lookup_insert_self]
    exact iff_of_true rfl ⟨entry, List.mem_append_right _ List.mem_cons_self, same, rfl⟩
  · rw [BTreeMap.lookup_insert_of_ne _ _ own, held]
    constructor
    · rintro ⟨other, member, shown⟩
      exact ⟨other, List.mem_append_left _ member, shown⟩
    · rintro ⟨other, member, kinds, path⟩
      rcases List.mem_append.mp member with before | last
      · exact ⟨other, before, kinds, path⟩
      · rw [List.mem_singleton.mp last] at path
        exact absurd path.symm own

theorem held_other {β : Type} {ledger : BTreeMap String β} {kind : EntryKind}
    (held : ∀ path : String, (ledger[path]?).isSome = true ↔
      ∃ entry ∈ done, entry.kind = kind ∧ entry.relativePath = path) (apart : entry.kind ≠ kind) (path : String) :
    (ledger[path]?).isSome = true ↔ ∃ other ∈ done ++ [entry], other.kind = kind ∧ other.relativePath = path := by
  rw [held]
  constructor
  · rintro ⟨other, member, shown⟩
    exact ⟨other, List.mem_append_left _ member, shown⟩
  · rintro ⟨other, member, kinds, same⟩
    rcases List.mem_append.mp member with before | last
    · exact ⟨other, before, kinds, same⟩
    · rw [List.mem_singleton.mp last] at kinds
      exact absurd kinds apart

theorem held_perm {β : Type} {ledger : BTreeMap String β} {kind : EntryKind}
    (held : ∀ path : String, (ledger[path]?).isSome = true ↔
      ∃ entry ∈ done, entry.kind = kind ∧ entry.relativePath = path) (distinct : (done.map (·.relativePath)).Nodup) :
    (ledger.toList.map Prod.fst).Perm ((done.filter (·.kind = kind)).map (·.relativePath)) := by
  apply (List.perm_ext_iff_of_nodup (BTreeMap.toList_keys_nodup ledger) ?_).mpr
  · intro path
    rw [List.mem_map, List.mem_map]
    constructor
    · rintro ⟨⟨_, value⟩, member, rfl⟩
      have stored := Std.ExtTreeMap.mem_toList_iff_getElem?_eq_some.mp member
      obtain ⟨entry, inEntries, same, known⟩ := (held _).mp (by rw [stored]; rfl)
      exact ⟨entry, List.mem_filter.mpr ⟨inEntries, decide_eq_true same⟩, known⟩
    · rintro ⟨entry, member, rfl⟩
      obtain ⟨inEntries, same⟩ := List.mem_filter.mp member
      obtain ⟨value, stored⟩ := Option.isSome_iff_exists.mp
        ((held _).mpr ⟨entry, inEntries, of_decide_eq_true same, rfl⟩)
      exact ⟨(entry.relativePath, value), Std.ExtTreeMap.mem_toList_iff_getElem?_eq_some.mpr stored, rfl⟩
  · exact distinct.sublist (List.filter_sublist.map _)

theorem held_sorted {β : Type} {ledger : BTreeMap String β} {kind : EntryKind}
    (held : ∀ path : String, (ledger[path]?).isSome = true ↔
      ∃ entry ∈ done, entry.kind = kind ∧ entry.relativePath = path)
    (sorted : (done.map (·.relativePath)).Pairwise fun first second => compare first second = .lt) :
    ledger.toList.map Prod.fst = (done.filter (·.kind = kind)).map (·.relativePath) := by
  have distinct : (done.map (·.relativePath)).Nodup := by
    apply sorted.imp
    rintro first second below rfl
    have equal : compare first first = .eq := Std.ReflCmp.compare_self
    rw [equal] at below
    cases below
  have keys : (ledger.toList.map Prod.fst).Pairwise fun first second => compare first second = .lt :=
    List.pairwise_map.mpr Std.ExtTreeMap.ordered_keys_toList
  apply (held_perm held distinct).eq_of_pairwise _ keys (sorted.sublist (List.filter_sublist.map _))
  intro first second _ _ below above
  have swapped : compare second first = (compare first second).swap := Std.OrientedCmp.eq_swap
  rw [swapped, below] at above
  cases above

theorem Opened.insertDir (opened : Opened root.object disk done work) {dir : SecureDir} (kind : entry.kind = .directory)
    (object : dir.object = root.object ++ segments entry.relativePath)
    (stands : disk.entries[dir.object]? = some .directory) :
    Opened root.object disk (done ++ [entry])
      { work with dirs := work.dirs.insert entry.relativePath dir } where
  disk := opened.disk
  attempts := opened.attempts
  located := by
    have here := opened.disk
    constructor
    · apply BTreeMap.insert_forall work.dirs entry.relativePath dir
        (fun path dir => dir.object = root.object ++ segments path ∧ work.disk.entries[dir.object]? = some .directory)
        opened.located.dirs
      rw [here]
      exact ⟨object, stands⟩
    · exact opened.located.files
  dirs := held_insert opened.dirs kind
  files := by
    apply held_other opened.files
    rw [kind]
    decide

theorem Opened.insertFile (opened : Opened root.object disk done work) {file : SecureFile} (kind : entry.kind = .file)
    (object : file.object = root.object ++ segments entry.relativePath)
    (stands : (disk.content file.object).isSome = true) :
    Opened root.object disk (done ++ [entry])
      { work with files := work.files.insert entry.relativePath file } where
  disk := opened.disk
  attempts := opened.attempts
  located := by
    have here := opened.disk
    constructor
    · exact opened.located.dirs
    · apply BTreeMap.insert_forall work.files entry.relativePath file
        (fun path file => file.object = root.object ++ segments path ∧ (work.disk.content file.object).isSome = true)
        opened.located.files
      rw [here]
      exact ⟨object, stands⟩
  dirs := by
    apply held_other opened.dirs
    rw [kind]
    decide
  files := held_insert opened.files kind

theorem openDirComponent_stands {visit : Visit} {object : ObjectPath} {privateAcl : Bool} {dir : SecureDir}
    (opened : openDirComponent platform disk visit object privateAcl = .ok dir) :
    disk.entries[dir.object]? = some .directory := by
  rw [openDirComponent_object platform opened]
  simp only [openDirComponent, exceptBind_ok, errorIf_ok, not_or, not_not] at opened
  obtain ⟨_, _, _, _, _, ⟨directory, _⟩, _⟩ := opened
  exact (isDirectory_iff disk object).mp directory

theorem openFileFrom_stands {object : ObjectPath} {maximum : Nat} {kind : String} {file : SecureFile}
    (opened : CleanupSession.openFileFrom platform disk object maximum kind = .ok file) :
    (disk.content file.object).isSome = true := by
  rw [openFileFrom_object platform opened]
  simp only [CleanupSession.openFileFrom, exceptBind_ok, orError_ok] at opened
  obtain ⟨_, _, _, _, content, read, _⟩ := opened
  rw [read]
  rfl

variable [CleanupEnvironment]

theorem openEntry_opened (leading : entry.relativePath.toList.head? ≠ some '/')
    (opened : Opened root.object disk done work)
    (ran : CleanupSession.openEntry platform root entry work = (.ok (), later)) :
    Opened root.object disk (done ++ [entry]) later := by
  have here := opened.disk
  rcases entry with ⟨relative, kind, identity, sha256⟩
  cases kind
  · obtain ⟨dir, _, looked, stored⟩ := (bind_ran _ _ _ _ _).mp ran
    obtain ⟨looked, rfl⟩ := (reading_ran _ _ _ _).mp looked
    rw [(update_ran _ _ _ _).mp stored]
    simp only [CleanupSession.openEntryDir, exceptBind_ok] at looked
    obtain ⟨object, named, found, handle, _, _, same⟩ := looked
    cases same
    rw [here] at handle
    apply opened.insertDir rfl
    · rw [openDirComponent_object platform handle]
      exact opened.located.namedObject leading ((relativeObject_ok platform).mp named).1
    · exact openDirComponent_stands platform handle
  · obtain ⟨file, _, looked, stored⟩ := (bind_ran _ _ _ _ _).mp ran
    obtain ⟨looked, rfl⟩ := (reading_ran _ _ _ _).mp looked
    rw [(update_ran _ _ _ _).mp stored]
    simp only [CleanupSession.openEntryFile, exceptBind_ok] at looked
    obtain ⟨object, named, found, handle, _, _, _, _, _, _, same⟩ := looked
    cases same
    rw [here] at handle
    apply opened.insertFile rfl
    · rw [openFileFrom_object platform handle]
      exact opened.located.namedObject leading ((relativeObject_ok platform).mp named).1
    · exact openFileFrom_stands platform handle

theorem openEntries_opened {entries : List EntryRecord}
    (leading : ∀ entry ∈ entries, entry.relativePath.toList.head? ≠ some '/')
    (opened : Opened root.object disk done work)
    (ran : CleanupSession.openEntries platform root entries work = (.ok (), later)) :
    Opened root.object disk (done ++ entries) later := by
  induction entries generalizing done work with
  | nil =>
    cases ran
    rw [List.append_nil]
    exact opened
  | cons entry rest ih =>
    obtain ⟨_, middle, first, others⟩ := (bind_ran _ _ _ _ _).mp ran
    have next := openEntry_opened platform (leading entry List.mem_cons_self) opened first
    have last := ih (fun other member => leading other (List.mem_cons_of_mem _ member)) next others
    rw [List.append_assoc] at last
    exact last

structure Opens (root : ObjectPath) (disk : Disk) (entry : EntryRecord) : Prop where
  reached : platform.cloneFails (root ++ segments entry.relativePath) = false
  dir : entry.kind = .directory →
    openDirComponent platform disk .opening (root ++ segments entry.relativePath) true =
      .ok ⟨root ++ segments entry.relativePath, entry.identity⟩
  file : entry.kind = .file → ∃ length sha256,
    CleanupSession.openFileFrom platform disk (root ++ segments entry.relativePath) maxExecutableBytes "inventory_entry" =
        .ok ⟨root ++ segments entry.relativePath, entry.identity, length⟩ ∧
      hashFileHandle platform OnboardingEnvironment.hash disk
          ⟨root ++ segments entry.relativePath, entry.identity, length⟩ = .ok sha256 ∧
      entry.sha256 = some sha256

theorem openEntry_opens (leading : entry.relativePath.toList.head? ≠ some '/')
    (opened : Opened root.object disk done work) (opens : Opens platform root.object disk entry)
    (parents : ∀ parent ∈ parentPath? entry.relativePath,
      ∃ other ∈ done, other.kind = .directory ∧ other.relativePath = parent) :
    ∃ later, CleanupSession.openEntry platform root entry work = (.ok (), later) := by
  have here := opened.disk
  obtain ⟨object, known⟩ := namedObject_known fun parent member => (opened.dirs parent).mpr (parents parent member)
  have place := opened.located.namedObject leading known
  rw [place] at known
  have named := (relativeObject_ok platform).mpr ⟨known, opens.reached⟩
  rcases entry with ⟨relative, kind, identity, sha256⟩
  cases kind
  · have handle := opens.dir rfl
    rw [← here] at handle
    have looked : CleanupSession.openEntryDir platform root ⟨relative, .directory, identity, sha256⟩ work =
        .ok ⟨root.object ++ segments relative, identity⟩ := by
      simp only [CleanupSession.openEntryDir, exceptBind_ok, errorIf_ok]
      exact ⟨_, named, _, handle, (), fun differs => differs rfl, rfl⟩
    exact ⟨_, (bind_of_ok ((reading_ran _ _ _ _).mpr ⟨looked, rfl⟩)).trans rfl⟩
  · obtain ⟨length, digest, handle, hashed, same⟩ := opens.file rfl
    rw [← here] at handle hashed
    have looked : CleanupSession.openEntryFile platform root ⟨relative, .file, identity, sha256⟩ work =
        .ok ⟨root.object ++ segments relative, identity, length⟩ := by
      simp only [CleanupSession.openEntryFile, exceptBind_ok, errorIf_ok]
      exact ⟨_, named, _, handle, (), fun differs => differs rfl, _, hashed, (), fun differs => differs same, rfl⟩
    exact ⟨_, (bind_of_ok ((reading_ran _ _ _ _).mpr ⟨looked, rfl⟩)).trans rfl⟩

theorem openEntries_opens {entries : List EntryRecord}
    (leading : ∀ entry ∈ entries, entry.relativePath.toList.head? ≠ some '/')
    (opened : Opened root.object disk done work) (opens : ∀ entry ∈ entries, Opens platform root.object disk entry)
    (parents : ∀ entry ∈ entries, ∀ parent ∈ parentPath? entry.relativePath,
      ∃ other ∈ done ++ entries, other.kind = .directory ∧ other.relativePath = parent)
    (sorted : (entries.map (·.relativePath)).Pairwise fun first second => compare first second = .lt) :
    ∃ later, CleanupSession.openEntries platform root entries work = (.ok (), later) := by
  induction entries generalizing done work with
  | nil => exact ⟨work, rfl⟩
  | cons entry rest ih =>
    rw [List.map_cons] at sorted
    obtain ⟨below, sortedRest⟩ := List.pairwise_cons.mp sorted
    have early : ∀ parent ∈ parentPath? entry.relativePath,
        ∃ other ∈ done, other.kind = .directory ∧ other.relativePath = parent := by
      intro parent named
      obtain ⟨other, member, kind, same⟩ := parents entry List.mem_cons_self parent named
      have smaller := parent_below named
      rw [← same] at smaller
      rcases List.mem_append.mp member with before | later
      · exact ⟨other, before, kind, same⟩
      · exfalso
        rcases List.mem_cons.mp later with rfl | after
        · have equal : compare other.relativePath other.relativePath = .eq := Std.ReflCmp.compare_self
          rw [equal] at smaller
          cases smaller
        · have larger := below other.relativePath (List.mem_map_of_mem after)
          have swapped : compare entry.relativePath other.relativePath =
              (compare other.relativePath entry.relativePath).swap := Std.OrientedCmp.eq_swap
          rw [swapped, smaller] at larger
          cases larger
    obtain ⟨middle, first⟩ := openEntry_opens platform (leading entry List.mem_cons_self) opened
      (opens entry List.mem_cons_self) early
    have next := openEntry_opened platform (leading entry List.mem_cons_self) opened first
    obtain ⟨later, others⟩ := ih (fun other member => leading other (List.mem_cons_of_mem _ member)) next
      (fun other member => opens other (List.mem_cons_of_mem _ member))
      (by
        intro other member parent named
        rw [List.append_assoc]
        exact parents other (List.mem_cons_of_mem _ member) parent named)
      sortedRest
    refine ⟨later, ?_⟩
    rw [CleanupSession.openEntries, bind_of_ok first]
    exact others

end Entries

section Enumeration

variable (platform : Platform) {disk : Disk}

open CleanupSession

theorem enumerateNames_found {object : ObjectPath} {level : String} {output result names : List String}
    (ran : enumerateNames platform object level output names = .ok result) (relative : String) :
    relative ∈ result ↔ relative ∈ output ∨ ∃ name ∈ names, relative = joined level name := by
  induction names generalizing output with
  | nil =>
    cases ran
    simp
  | cons name rest ih =>
    simp only [enumerateNames, exceptBind_ok] at ran
    obtain ⟨_, _, _, _, _, _, others⟩ := ran
    have later : relative ∈ result ↔
        relative ∈ joined level name :: output ∨ ∃ other ∈ rest, relative = joined level other := ih others
    rw [later]
    simp only [List.mem_cons, exists_eq_or_imp]
    tauto

theorem enumerateOneLevel_found {object : ObjectPath} {level : String} {output result : List String}
    (ran : enumerateOneLevel platform disk object level output = .ok result) (relative : String) :
    relative ∈ result ↔ relative ∈ output ∨ ∃ name ∈ disk.names object, relative = joined level name := by
  simp only [enumerateOneLevel, exceptBind_ok] at ran
  obtain ⟨_, _, ran⟩ := ran
  exact enumerateNames_found platform ran relative

theorem enumerateDirs_found {dirs : List (String × SecureDir)} {output result : List String}
    (ran : enumerateDirs platform disk output dirs = .ok result) (relative : String) :
    relative ∈ result ↔ relative ∈ output ∨
      ∃ entry ∈ dirs, ∃ name ∈ disk.names entry.2.object, relative = joined entry.1 name := by
  induction dirs generalizing output with
  | nil =>
    cases ran
    simp
  | cons entry rest ih =>
    obtain ⟨level, dir⟩ := entry
    simp only [enumerateDirs, exceptBind_ok] at ran
    obtain ⟨middle, first, others⟩ := ran
    rw [ih others, enumerateOneLevel_found platform first]
    simp only [List.mem_cons, exists_eq_or_imp]
    exact or_assoc

structure Enumerates : Prop where
  readable : ∀ object, platform.enumerationFails object = false
  plain : ∀ object, ∃ metadata, platform.metadata .enumerating object = some metadata ∧ metadata.isSymlink = false

variable {platform}

theorem Enumerates.names (enumerates : Enumerates platform) (object : ObjectPath) (level : String)
    {output names : List String} (distinct : (output ++ names.map (joined level)).Nodup) :
    ∃ result, enumerateNames platform object level output names = .ok result ∧
      result.Perm (output ++ names.map (joined level)) := by
  induction names generalizing output with
  | nil => exact ⟨output, rfl, by rw [List.map_nil, List.append_nil]⟩
  | cons name rest ih =>
    have moved : (output ++ (name :: rest).map (joined level)).Perm
        (joined level name :: output ++ rest.map (joined level)) := List.perm_middle
    have fresh : joined level name ∉ output := by
      intro member
      exact (List.nodup_cons.mp (moved.nodup_iff.mp distinct)).1 (List.mem_append_left _ member)
    obtain ⟨metadata, known, plain⟩ := enumerates.plain (object ++ [name])
    obtain ⟨result, ran, same⟩ := ih (moved.nodup_iff.mp distinct)
    refine ⟨result, ?_, same.trans moved.symm⟩
    simp only [enumerateNames, exceptBind_ok, errorIf_ok, orError_ok]
    refine ⟨(), ?_, metadata, known, (), ?_, ran⟩
    · rw [List.contains_iff_mem]
      exact fresh
    · rw [plain]
      exact Bool.false_ne_true

theorem Enumerates.oneLevel (enumerates : Enumerates platform) (object : ObjectPath) (level : String)
    {output : List String} (distinct : (output ++ (disk.names object).map (joined level)).Nodup) :
    ∃ result, enumerateOneLevel platform disk object level output = .ok result ∧
      result.Perm (output ++ (disk.names object).map (joined level)) := by
  obtain ⟨result, ran, same⟩ := enumerates.names object level distinct
  refine ⟨result, ?_, same⟩
  simp only [enumerateOneLevel, exceptBind_ok, errorIf_ok]
  refine ⟨(), ?_, ran⟩
  rw [enumerates.readable]
  exact Bool.false_ne_true

/-- What stands in the directories of the ledger. -/
def listed (disk : Disk) (dirs : List (String × SecureDir)) : List String :=
  dirs.flatMap fun entry => (disk.names entry.2.object).map (joined entry.1)

theorem Enumerates.dirs (enumerates : Enumerates platform) {dirs : List (String × SecureDir)} {output : List String}
    (distinct : (output ++ listed disk dirs).Nodup) :
    ∃ result, enumerateDirs platform disk output dirs = .ok result ∧ result.Perm (output ++ listed disk dirs) := by
  induction dirs generalizing output with
  | nil =>
    refine ⟨output, rfl, ?_⟩
    show output.Perm (output ++ [])
    rw [List.append_nil]
  | cons entry rest ih =>
    obtain ⟨level, dir⟩ := entry
    have whole : output ++ listed disk ((level, dir) :: rest) =
        output ++ (disk.names dir.object).map (joined level) ++ listed disk rest := by
      rw [listed, List.flatMap_cons, List.append_assoc]
      rfl
    rw [whole] at distinct ⊢
    obtain ⟨middle, first, firstSame⟩ := enumerates.oneLevel dir.object level (List.nodup_append'.mp distinct).1
    have moved := firstSame.append_right (listed disk rest)
    obtain ⟨result, others, same⟩ := ih (moved.nodup_iff.mpr distinct)
    refine ⟨result, ?_, same.trans moved⟩
    simp only [enumerateDirs, exceptBind_ok]
    exact ⟨middle, first, others⟩

end Enumeration

section Verification

open CleanupSession

variable (platform : Platform) {root : SecureDir} {work : Workspace} {inventory : Inventory}

def PlainBelow (root : ObjectPath) (disk : Disk) : Prop :=
  ∀ path name, root <+: path → (disk.entries[path ++ [name]]?).isSome = true → '/' ∉ name.toList

theorem inventoryName_unbroken : '/' ∉ inventoryName.toList := by decide

theorem joined_broken {level : String} (filled : level.isEmpty = false) (name : String) :
    '/' ∈ (joined level name).toList := by
  rw [joined_below filled, String.toList_append, String.toList_append]
  simp

theorem entry_held (opened : Opened root.object work.disk inventory.entries work) {relative : String}
    (known : ∃ entry ∈ inventory.entries, entry.relativePath = relative) :
    root.object ++ segments relative ∈ fileObjects work ++ dirObjects work := by
  obtain ⟨entry, inEntries, named⟩ := known
  cases kind : entry.kind with
  | directory =>
    obtain ⟨dir, stored⟩ := Option.isSome_iff_exists.mp ((opened.dirs relative).mpr ⟨entry, inEntries, kind, named⟩)
    apply List.mem_append_right
    exact (mem_dirObjects work _).mpr ⟨relative, dir, stored, (opened.located.dirs relative dir stored).1⟩
  | file =>
    obtain ⟨file, stored⟩ := Option.isSome_iff_exists.mp ((opened.files relative).mpr ⟨entry, inEntries, kind, named⟩)
    apply List.mem_append_left
    exact (mem_fileObjects work _).mpr ⟨relative, file, stored, (opened.located.files relative file stored).1⟩

/-- An enumeration that agreed with the inventory: every name found but the inventory's is an entry. -/
structure Enumerated (root : SecureDir) (inventory : Inventory) (work : Workspace) : Prop where
  top : ∀ name ∈ work.disk.names root.object, name = inventoryName ∨
    ∃ entry ∈ inventory.entries, entry.relativePath = name
  deep : ∀ relative dir, work.dirs[relative]? = some dir → ∀ name ∈ work.disk.names dir.object,
    joined relative name = inventoryName ∨ ∃ entry ∈ inventory.entries, entry.relativePath = joined relative name

theorem verified_enumerated (verified : verifyExactEnumeration platform root inventory work = .ok ()) :
    Enumerated root inventory work := by
  simp only [verifyExactEnumeration, exceptBind_ok, errorIf_ok, not_not] at verified
  obtain ⟨level, first, actual, found, _, _, _, same, _⟩ := verified
  have known : ∀ relative ∈ actual, relative = inventoryName ∨ ∃ entry ∈ inventory.entries, entry.relativePath = relative := by
    intro relative member
    have all := List.all_eq_true.mp (Bool.and_eq_true_iff.mp same).1 relative member
    rcases List.mem_cons.mp (List.contains_iff_mem.mp all) with isInventory | isEntry
    · exact .inl isInventory
    · exact .inr (List.mem_map.mp isEntry)
  constructor
  · intro name member
    have listed : name ∈ level :=
      (enumerateOneLevel_found platform first name).mpr (.inr ⟨name, member, (joined_root name).symm⟩)
    exact known name ((enumerateDirs_found platform found name).mpr (.inl listed))
  · intro relative dir stored name member
    have listed := Std.ExtTreeMap.mem_toList_iff_getElem?_eq_some.mpr stored
    exact known _ ((enumerateDirs_found platform found _).mpr (.inr ⟨(relative, dir), listed, name, member, rfl⟩))

theorem child_held (opened : Opened root.object work.disk inventory.entries work)
    (enumerated : Enumerated root inventory work)
    (filled : ∀ entry ∈ inventory.entries, entry.relativePath.isEmpty = false) {parent : ObjectPath} {name : String}
    (unbroken : '/' ∉ name.toList) (inDirs : parent ∈ dirObjects work)
    (stands : (work.disk.entries[parent ++ [name]]?).isSome = true) :
    parent ++ [name] ∈ fileObjects work ++ dirObjects work := by
  obtain ⟨relative, dir, stored, rfl⟩ := (mem_dirObjects work _).mp inDirs
  have place := (opened.located.dirs relative dir stored).1
  obtain ⟨entry, inEntries, _, named⟩ := (opened.dirs relative).mp (by rw [stored]; rfl)
  have filledLevel : relative.isEmpty = false := by
    rw [← named]
    exact filled entry inEntries
  have broken : joined relative name ≠ inventoryName := by
    intro equal
    apply inventoryName_unbroken
    rw [← equal]
    exact joined_broken filledLevel name
  have known := (enumerated.deep relative dir stored name ((mem_names _ _ _).mpr stands)).resolve_left broken
  have held := entry_held opened known
  rw [segments_joined filledLevel unbroken, ← List.append_assoc, ← place] at held
  exact held

theorem verified_covers (opened : Opened root.object work.disk inventory.entries work)
    (plain : PlainBelow root.object work.disk) (filled : ∀ entry ∈ inventory.entries, entry.relativePath.isEmpty = false)
    (inventoryFile : (work.disk.content (root.object ++ [inventoryName])).isSome = true)
    (verified : verifyExactEnumeration platform root inventory work = .ok ()) :
    Covers root.object [root.object ++ [inventoryName]] work := by
  have enumerated := verified_enumerated platform verified
  rintro path ⟨rest, rfl⟩ apart stands
  induction rest using List.reverseRecOn with
  | nil => exact absurd (List.append_nil root.object) apart
  | append_singleton above name ih =>
    rw [← List.append_assoc] at stands ⊢
    have unbroken := plain (root.object ++ above) name (List.prefix_append _ _) stands
    obtain ⟨node, found⟩ := Option.isSome_iff_exists.mp stands
    have parent := work.disk.closed (root.object ++ above) name node found
    cases above with
    | nil =>
      rw [List.append_nil] at stands ⊢
      rcases enumerated.top name ((mem_names _ _ _).mpr stands) with isInventory | known
      · rw [isInventory]
        exact List.mem_append_right _ List.mem_cons_self
      · have held := entry_held opened known
        rw [segments_unbroken unbroken] at held
        exact List.mem_append_left _ held
    | cons top deeper =>
      have deep : root.object ++ (top :: deeper) ≠ root.object := by simp
      rcases List.mem_append.mp (ih deep (by rw [parent]; rfl)) with inLedger | inOthers
      · rcases List.mem_append.mp inLedger with inFiles | inDirs
        · obtain ⟨content, file⟩ := opened.located.file_content inFiles
          rw [parent] at file
          cases file
        · exact List.mem_append_left _ (child_held opened enumerated filled unbroken inDirs stands)
      · obtain ⟨content, file⟩ := Option.isSome_iff_exists.mp inventoryFile
        have stored := content_eq _ file
        rw [← List.mem_singleton.mp inOthers, parent] at stored
        cases stored

structure WellNamed (inventory : Inventory) : Prop where
  filled : ∀ entry ∈ inventory.entries, entry.relativePath.isEmpty = false
  leading : ∀ entry ∈ inventory.entries, entry.relativePath.toList.head? ≠ some '/'
  distinct : ((inventoryName :: inventory.entries.map (·.relativePath)).map toAsciiLowercase).Nodup

def found (root : ObjectPath) (work : Workspace) : List String :=
  (work.disk.names root).map (joined "") ++ listed work.disk work.dirs.toList

theorem mem_listed {disk : Disk} {dirs : List (String × SecureDir)} {relative : String} :
    relative ∈ listed disk dirs ↔
      ∃ entry ∈ dirs, ∃ name ∈ disk.names entry.2.object, joined entry.1 name = relative := by
  rw [listed, List.mem_flatMap]
  simp only [List.mem_map]

section Found

variable (opened : Opened root.object work.disk inventory.entries work) (named : WellNamed inventory)

include opened named

theorem Opened.level_filled {level : String} {dir : SecureDir} (stored : work.dirs[level]? = some dir) :
    level.isEmpty = false := by
  obtain ⟨entry, member, _, same⟩ := (opened.dirs level).mp (by rw [stored]; rfl)
  rw [← same]
  exact named.filled entry member

theorem found_distinct (plain : PlainBelow root.object work.disk) : (found root.object work).Nodup := by
  have unbroken : ∀ path, root.object <+: path → ∀ name ∈ work.disk.names path, '/' ∉ name.toList := by
    intro path inside name member
    exact plain path name inside ((mem_names _ _ _).mp member)
  have entries : ∀ entry ∈ work.dirs.toList, entry.1.isEmpty = false ∧
      entry.2.object = root.object ++ segments entry.1 := by
    rintro ⟨level, dir⟩ member
    have stored := Std.ExtTreeMap.mem_toList_iff_getElem?_eq_some.mp member
    exact ⟨opened.level_filled named stored, (opened.located.dirs level dir stored).1⟩
  have parts : ∀ entry ∈ work.dirs.toList, ∀ name ∈ work.disk.names entry.2.object,
      segments (joined entry.1 name) = segments entry.1 ++ [name] := by
    intro entry member name inNames
    obtain ⟨filled, object⟩ := entries entry member
    apply segments_joined filled
    apply unbroken entry.2.object _ name inNames
    rw [object]
    exact List.prefix_append _ _
  apply List.nodup_append'.mpr
  refine ⟨?_, ?_, ?_⟩
  · apply (work.disk.names_distinct root.object).map
    intro first second same
    rw [joined_root, joined_root] at same
    exact same
  · apply List.nodup_flatMap.mpr
    constructor
    · intro entry member
      apply List.Nodup.map_on _ (work.disk.names_distinct entry.2.object)
      intro first firstIn second secondIn same
      have lists := parts entry member first firstIn
      rw [same, parts entry member second secondIn] at lists
      exact (List.singleton_inj.mp (List.append_cancel_left lists)).symm
    · have keys := List.pairwise_map.mp (BTreeMap.toList_keys_nodup work.dirs)
      apply keys.imp_of_mem
      intro first second firstIn secondIn apart relative inFirst inSecond
      obtain ⟨firstName, firstNamed, rfl⟩ := List.mem_map.mp inFirst
      obtain ⟨secondName, secondNamed, same⟩ := List.mem_map.mp inSecond
      have lists := parts first firstIn firstName firstNamed
      rw [← same, parts second secondIn secondName secondNamed] at lists
      exact apart (segments_injective (List.append_inj_left' lists rfl)).symm
  · intro relative inRoot inDirs
    obtain ⟨name, inNames, rfl⟩ := List.mem_map.mp inRoot
    obtain ⟨entry, member, below, _, same⟩ := mem_listed.mp inDirs
    rw [joined_root] at same
    apply unbroken root.object List.prefix_rfl name inNames
    rw [← same]
    exact joined_broken (entries entry member).1 below

omit named in
theorem Opened.entryNamed {relative : String} {parts : List String}
    (member : root.object ++ parts ∈ fileObjects work ++ dirObjects work) (same : segments relative = parts) :
    ∃ entry ∈ inventory.entries, entry.relativePath = relative := by
  rw [← same] at member
  rcases List.mem_append.mp member with inFiles | inDirs
  · obtain ⟨path, file, stored, object⟩ := (mem_fileObjects work _).mp inFiles
    rw [(opened.located.files path file stored).1] at object
    obtain ⟨entry, inEntries, _, known⟩ := (opened.files path).mp (by rw [stored]; rfl)
    exact ⟨entry, inEntries, known.trans (segments_injective (List.append_cancel_left object))⟩
  · obtain ⟨path, dir, stored, object⟩ := (mem_dirObjects work _).mp inDirs
    rw [(opened.located.dirs path dir stored).1] at object
    obtain ⟨entry, inEntries, _, known⟩ := (opened.dirs path).mp (by rw [stored]; rfl)
    exact ⟨entry, inEntries, known.trans (segments_injective (List.append_cancel_left object))⟩

theorem found_known (plain : PlainBelow root.object work.disk)
    (covers : Covers root.object [root.object ++ [inventoryName]] work) {relative : String}
    (member : relative ∈ found root.object work) :
    relative ∈ inventoryName :: inventory.entries.map (·.relativePath) := by
  rcases List.mem_append.mp member with inRoot | inDirs
  · obtain ⟨name, inNames, rfl⟩ := List.mem_map.mp inRoot
    have stands := (mem_names _ _ _).mp inNames
    have unbroken := plain root.object name List.prefix_rfl stands
    rw [joined_root]
    rcases List.mem_append.mp (covers _ (List.prefix_append _ _) (by simp) stands) with inLedger | inOthers
    · obtain ⟨entry, inEntries, same⟩ := opened.entryNamed inLedger (segments_unbroken unbroken)
      exact List.mem_cons_of_mem _ (List.mem_map.mpr ⟨entry, inEntries, same⟩)
    · have same := List.append_cancel_left (List.mem_singleton.mp inOthers)
      rw [List.singleton_inj.mp same]
      exact List.mem_cons_self
  · obtain ⟨⟨level, dir⟩, inLedger, name, inNames, rfl⟩ := mem_listed.mp inDirs
    have stored := Std.ExtTreeMap.mem_toList_iff_getElem?_eq_some.mp inLedger
    have object := (opened.located.dirs level dir stored).1
    have stands := (mem_names _ _ _).mp inNames
    have inside : root.object <+: dir.object := by
      rw [object]
      exact List.prefix_append _ _
    have unbroken := plain dir.object name inside stands
    have parts := segments_joined (opened.level_filled named stored) unbroken
    apply List.mem_cons_of_mem
    have apart : dir.object ++ [name] ≠ root.object := by
      intro same
      have lengths := inside.length_le
      rw [← same, List.length_append, List.length_singleton] at lengths
      omega
    rcases List.mem_append.mp (covers _ (inside.trans (List.prefix_append _ _)) apart stands) with inObjects | inOthers
    · rw [object, List.append_assoc] at inObjects
      obtain ⟨entry, inEntries, same⟩ := opened.entryNamed inObjects parts
      exact List.mem_map.mpr ⟨entry, inEntries, same⟩
    · have same := List.mem_singleton.mp inOthers
      rw [object, List.append_assoc] at same
      have lengths := congrArg List.length (List.append_cancel_left same)
      rw [List.length_append, List.length_singleton, List.length_singleton, segments_length] at lengths
      omega

theorem known_found (inventoryFile : (work.disk.content (root.object ++ [inventoryName])).isSome = true)
    (parents : ∀ entry ∈ inventory.entries, ∀ parent ∈ parentPath? entry.relativePath,
      ∃ other ∈ inventory.entries, other.kind = .directory ∧ other.relativePath = parent)
    {relative : String} (member : relative ∈ inventoryName :: inventory.entries.map (·.relativePath)) :
    relative ∈ found root.object work := by
  rcases List.mem_cons.mp member with rfl | inPaths
  · obtain ⟨content, file⟩ := Option.isSome_iff_exists.mp inventoryFile
    apply List.mem_append_left
    refine List.mem_map.mpr ⟨inventoryName, (mem_names _ _ _).mpr ?_, joined_root _⟩
    rw [content_eq _ file]
    rfl
  · obtain ⟨entry, inEntries, rfl⟩ := List.mem_map.mp inPaths
    have stands : (work.disk.entries[root.object ++ segments entry.relativePath]?).isSome = true := by
      cases kind : entry.kind with
      | directory =>
        obtain ⟨dir, stored⟩ := Option.isSome_iff_exists.mp ((opened.dirs _).mpr ⟨entry, inEntries, kind, rfl⟩)
        obtain ⟨object, directory⟩ := opened.located.dirs _ dir stored
        rw [← object, directory]
        rfl
      | file =>
        obtain ⟨file, stored⟩ := Option.isSome_iff_exists.mp ((opened.files _).mpr ⟨entry, inEntries, kind, rfl⟩)
        obtain ⟨object, content⟩ := opened.located.files _ file stored
        obtain ⟨content, read⟩ := Option.isSome_iff_exists.mp content
        rw [← object, content_eq _ read]
        rfl
    have needed := parents entry inEntries
    have filled := splitLast_parent (named.leading entry inEntries)
    rcases splitLast_joined entry.relativePath.toList with ⟨split, unbroken⟩ | ⟨above, leaf, split, parts⟩
    · rw [segments_unbroken unbroken] at stands
      apply List.mem_append_left
      exact List.mem_map.mpr ⟨_, (mem_names _ _ _).mpr stands, joined_root _⟩
    · rw [split] at filled
      rw [String.ofList_toList] at parts
      obtain ⟨other, inOther, kind, same⟩ := needed (String.ofList above) (by rw [parentPath?, split]; rfl)
      obtain ⟨dir, stored⟩ := Option.isSome_iff_exists.mp ((opened.dirs _).mpr ⟨other, inOther, kind, same⟩)
      have object := (opened.located.dirs _ dir stored).1
      have unbroken : '/' ∉ (String.ofList leaf).toList := by
        apply segments_parts
        rw [parts]
        exact List.mem_append_right _ List.mem_cons_self
      have whole := segments_joined (opened.level_filled named stored) unbroken
      rw [← parts] at whole
      apply List.mem_append_right
      apply mem_listed.mpr
      refine ⟨(String.ofList above, dir), Std.ExtTreeMap.mem_toList_iff_getElem?_eq_some.mpr stored, String.ofList leaf,
        (mem_names _ _ _).mpr ?_, segments_injective whole⟩
      rw [parts, ← List.append_assoc, ← object] at stands
      exact stands

theorem verified_accepts {platform : Platform} (enumerates : Enumerates platform)
    (plain : PlainBelow root.object work.disk) (covers : Covers root.object [root.object ++ [inventoryName]] work)
    (inventoryFile : (work.disk.content (root.object ++ [inventoryName])).isSome = true)
    (parents : ∀ entry ∈ inventory.entries, ∀ parent ∈ parentPath? entry.relativePath,
      ∃ other ∈ inventory.entries, other.kind = .directory ∧ other.relativePath = parent) :
    verifyExactEnumeration platform root inventory work = .ok () := by
  have distinct := found_distinct opened named plain
  have paths : (inventoryName :: inventory.entries.map (·.relativePath)).Nodup := named.distinct.of_map _
  have same : (found root.object work).Perm (inventoryName :: inventory.entries.map (·.relativePath)) := by
    apply (List.perm_ext_iff_of_nodup distinct paths).mpr
    intro relative
    exact ⟨found_known opened named plain covers, known_found opened named inventoryFile parents⟩
  have rootNames : ([] ++ (work.disk.names root.object).map (joined "")).Nodup := (List.nodup_append'.mp distinct).1
  obtain ⟨level, first, levelSame⟩ := enumerates.oneLevel root.object "" rootNames
  have moved := levelSame.append_right (listed work.disk work.dirs.toList)
  obtain ⟨actual, others, actualSame⟩ := enumerates.dirs (moved.nodup_iff.mpr distinct)
  have all : actual.Perm (inventoryName :: inventory.entries.map (·.relativePath)) :=
    (actualSame.trans moved).trans same
  have dirPaths := held_perm opened.dirs (List.nodup_cons.mp paths).2
  simp only [verifyExactEnumeration, exceptBind_ok, errorIf_ok, not_not]
  refine ⟨level, first, actual, others, (), ?_, (), ?_, ?_⟩
  · exact (all.map toAsciiLowercase).nodup_iff.mpr named.distinct
  · apply Bool.and_eq_true_iff.mpr
    constructor
    · apply List.all_eq_true.mpr
      intro relative member
      exact List.contains_iff_mem.mpr (all.mem_iff.mp member)
    · apply List.all_eq_true.mpr
      intro relative member
      exact List.contains_iff_mem.mpr (all.mem_iff.mpr member)
  · have lengths := dirPaths.length_eq
    rw [List.length_map, List.length_map, Std.ExtTreeMap.length_toList] at lengths
    exact lengths

end Found

end Verification

end Onboarding

end RustyFleet
