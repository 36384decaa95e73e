import Mathlib.Data.List.Induction
import RustyFleet.Support.OrderedMap

/-! A tree of named directories and files, and what may be said of the part of it below one directory. -/

inductive TreeNode (β : Type)
  | directory
  | file (content : β)

def TreeNode.isDirectory {β : Type} : TreeNode β → Bool
  | .directory => true
  | .file _ => false

/-- Everything in the tree stands in a directory of the tree. -/
structure FileTree (ν β : Type) [Ord ν] [Std.TransOrd ν] [Std.LawfulEqOrd ν] where
  entries : BTreeMap (List ν) (TreeNode β)
  closed : ∀ (path : List ν) (name : ν) (node : TreeNode β), entries[path ++ [name]]? = some node →
    entries[path]? = some .directory

namespace FileTree

variable {ν β : Type} [Ord ν] [Std.TransOrd ν] [Std.LawfulEqOrd ν]

theorem ext_entries {left right : FileTree ν β} (same : left.entries = right.entries) : left = right := by
  cases left
  cases right
  cases same
  rfl

section Operations

variable (tree : FileTree ν β)

def isDirectory (path : List ν) : Bool := (tree.entries[path]?).any TreeNode.isDirectory

theorem isDirectory_iff (path : List ν) : tree.isDirectory path = true ↔ tree.entries[path]? = some .directory := by
  unfold isDirectory
  cases tree.entries[path]? with
  | none => simp
  | some node => cases node <;> simp [TreeNode.isDirectory]

def content (path : List ν) : Option β :=
  match tree.entries[path]? with
  | some (.file content) => some content
  | _ => none

theorem content_eq {path : List ν} {content : β} (found : tree.content path = some content) :
    tree.entries[path]? = some (.file content) := by
  unfold FileTree.content at found
  split at found
  · cases found
    assumption
  · cases found

theorem content_of_entry {left right : FileTree ν β} {path : List ν}
    (same : left.entries[path]? = right.entries[path]?) : left.content path = right.content path := by
  rw [content, content, same]

variable [DecidableEq ν]

/-- The names in a directory. -/
def names (path : List ν) : List ν :=
  (tree.entries.toList.filter fun entry => entry.1 ≠ [] ∧ entry.1.dropLast = path).filterMap (·.1.getLast?)

def hasChild (path : List ν) : Bool := BTreeMap.anyEntry tree.entries fun other _ => other ≠ [] ∧ other.dropLast = path

theorem childless (path : List ν) (empty : tree.hasChild path = false) (name : ν) :
    tree.entries[path ++ [name]]? = none := by
  cases found : tree.entries[path ++ [name]]? with
  | none => rfl
  | some node =>
    have clear := (BTreeMap.anyEntry_false_iff _ _).mp empty (path ++ [name]) node found
    simp at clear

/-- A new object in a directory, where the name is free. -/
def create (path : List ν) (name : ν) (node : TreeNode β) : Option (FileTree ν β) :=
  if standing : tree.isDirectory path = true ∧ tree.entries[path ++ [name]]? = none then
    some {
      entries := tree.entries.insert (path ++ [name]) node
      closed := by
        obtain ⟨directory, free⟩ := standing
        rw [isDirectory_iff] at directory
        intro above last other found
        by_cases own : above ++ [last] = path ++ [name]
        · obtain ⟨rfl, _⟩ := List.append_inj' own rfl
          have apart : above ≠ above ++ [name] := by simp
          rw [BTreeMap.lookup_insert_of_ne _ _ apart]
          exact directory
        · rw [BTreeMap.lookup_insert_of_ne _ _ own] at found
          have stands := tree.closed above last other found
          by_cases same : above = path ++ [name]
          · rw [same, free] at stands
            cases stands
          · rw [BTreeMap.lookup_insert_of_ne _ _ same]
            exact stands }
  else none

/-- New content for a file of the tree. -/
def write (path : List ν) (content : β) : Option (FileTree ν β) :=
  if file : (tree.content path).isSome then
    some {
      entries := tree.entries.insert path (.file content)
      closed := by
        obtain ⟨before, found⟩ := Option.isSome_iff_exists.mp file
        have stands := tree.content_eq found
        intro above last other reached
        have known : ∃ node, tree.entries[above ++ [last]]? = some node := by
          by_cases own : above ++ [last] = path
          · rw [own]
            exact ⟨_, stands⟩
          · rw [BTreeMap.lookup_insert_of_ne _ _ own] at reached
            exact ⟨_, reached⟩
        obtain ⟨node, known⟩ := known
        have directory := tree.closed above last node known
        by_cases same : above = path
        · rw [same, stands] at directory
          cases directory
        · rw [BTreeMap.lookup_insert_of_ne _ _ same]
          exact directory }
  else none

/-- The tree without an object that nothing stands in. -/
def delete (path : List ν) : Option (FileTree ν β) :=
  if gone : (tree.entries[path]?).isSome ∧ tree.hasChild path = false then
    some {
      entries := tree.entries.erase path
      closed := by
        intro above last other found
        by_cases own : above ++ [last] = path
        · rw [own, BTreeMap.lookup_erase_self] at found
          cases found
        · rw [BTreeMap.lookup_erase_of_ne _ own] at found
          have stands := tree.closed above last other found
          by_cases same : above = path
          · rw [same, tree.childless path gone.2 last] at found
            cases found
          · rw [BTreeMap.lookup_erase_of_ne _ same]
            exact stands }
  else none

end Operations

section Below

/-- Everything that is not the object or inside it is as before. -/
def AgreesOutside (root : List ν) (before after : FileTree ν β) : Prop :=
  ∀ path, ¬ root <+: path → after.entries[path]? = before.entries[path]?

/-- Neither the object nor anything inside it is in the tree. -/
def Absent (root : List ν) (tree : FileTree ν β) : Prop :=
  ∀ path, root <+: path → tree.entries[path]? = none

variable {root : List ν} {before tree next : FileTree ν β}

theorem AgreesOutside.refl (root : List ν) (tree : FileTree ν β) : AgreesOutside root tree tree := fun _ _ => rfl

theorem AgreesOutside.trans (first : AgreesOutside root before tree) (second : AgreesOutside root tree next) :
    AgreesOutside root before next := by
  intro path outside
  rw [second path outside]
  exact first path outside

theorem eq_of_absent (agrees : AgreesOutside root before tree) (never : Absent root before) (gone : Absent root tree) :
    tree = before := by
  apply ext_entries
  apply Std.ExtTreeMap.ext_getElem?
  intro path
  by_cases inside : root <+: path
  · rw [never path inside, gone path inside]
  · exact agrees path inside

theorem absent_of_none (missing : tree.entries[root]? = none) : Absent root tree := by
  rintro _ ⟨rest, rfl⟩
  induction rest using List.reverseRecOn with
  | nil =>
    rw [List.append_nil]
    exact missing
  | append_singleton rest name ih =>
    cases found : tree.entries[root ++ (rest ++ [name])]? with
    | none => rfl
    | some node =>
      rw [← List.append_assoc] at found
      have stands := tree.closed (root ++ rest) name node found
      rw [ih] at stands
      cases stands

variable [DecidableEq ν]

theorem create_some {path : List ν} {name : ν} {node : TreeNode β} (created : tree.create path name node = some next) :
    tree.isDirectory path = true ∧ tree.entries[path ++ [name]]? = none ∧
      next.entries = tree.entries.insert (path ++ [name]) node := by
  unfold create at created
  split at created
  · rename_i standing
    cases created
    exact ⟨standing.1, standing.2, rfl⟩
  · cases created

theorem create_outside {path : List ν} {name : ν} {node : TreeNode β} (created : tree.create path name node = some next)
    (inside : root <+: path ++ [name]) : AgreesOutside root tree next := by
  obtain ⟨_, _, entries⟩ := create_some created
  intro other outside
  have apart : other ≠ path ++ [name] := by
    rintro rfl
    exact outside inside
  rw [entries, BTreeMap.lookup_insert_of_ne _ _ apart]

theorem write_some {path : List ν} {written : β} (wrote : tree.write path written = some next) :
    next.entries = tree.entries.insert path (.file written) := by
  unfold write at wrote
  split at wrote
  · cases wrote
    rfl
  · cases wrote

theorem write_outside {path : List ν} {written : β} (wrote : tree.write path written = some next)
    (inside : root <+: path) : AgreesOutside root tree next := by
  intro other outside
  have apart : other ≠ path := by
    rintro rfl
    exact outside inside
  rw [write_some wrote, BTreeMap.lookup_insert_of_ne _ _ apart]

theorem delete_some {path : List ν} (deleted : tree.delete path = some next) :
    next.entries = tree.entries.erase path := by
  unfold delete at deleted
  split at deleted
  · cases deleted
    rfl
  · cases deleted

theorem delete_outside {path : List ν} (deleted : tree.delete path = some next) (inside : root <+: path) :
    AgreesOutside root tree next := by
  intro other outside
  have apart : other ≠ path := by
    rintro rfl
    exact outside inside
  rw [delete_some deleted, BTreeMap.lookup_erase_of_ne _ apart]

theorem delete_absent {path : List ν} (deleted : tree.delete path = some next) : Absent path next := by
  apply absent_of_none
  rw [delete_some deleted, BTreeMap.lookup_erase_self]

theorem delete_create {path : List ν} {name : ν} {made : TreeNode β} (created : tree.create path name made = some next) :
    next.delete (path ++ [name]) = some tree := by
  obtain ⟨_, free, entries⟩ := create_some created
  have childless : next.hasChild (path ++ [name]) = false := by
    apply (BTreeMap.anyEntry_false_iff _ _).mpr
    intro other node found
    rw [decide_eq_false_iff_not]
    rintro ⟨filled, parent⟩
    obtain ⟨above, last, rfl⟩ := (List.eq_nil_or_concat' other).resolve_left filled
    rw [List.dropLast_concat] at parent
    subst parent
    have apart : path ++ [name] ++ [last] ≠ path ++ [name] := by simp
    rw [entries, BTreeMap.lookup_insert_of_ne _ _ apart] at found
    have stands := tree.closed _ _ _ found
    rw [free] at stands
    cases stands
  have present : (next.entries[path ++ [name]]?).isSome = true := by
    rw [entries, BTreeMap.lookup_insert_self]
    rfl
  rw [delete, dif_pos ⟨present, childless⟩]
  apply congrArg some
  apply ext_entries
  apply Std.ExtTreeMap.ext_getElem?
  intro other
  by_cases same : other = path ++ [name]
  · rw [same, BTreeMap.lookup_erase_self, free]
  · rw [BTreeMap.lookup_erase_of_ne _ same, entries, BTreeMap.lookup_insert_of_ne _ _ same]

end Below

section Emptying

variable [DecidableEq ν] {tree next : FileTree ν β}

theorem above_directory {above path : List ν} {node : TreeNode β} (found : tree.entries[path]? = some node)
    (inside : above <+: path) (apart : above ≠ path) : tree.entries[above]? = some .directory := by
  obtain ⟨rest, rfl⟩ := inside
  induction rest using List.reverseRecOn generalizing node with
  | nil => exact absurd (List.append_nil above).symm apart
  | append_singleton rest name ih =>
    rw [← List.append_assoc] at found
    have stands := tree.closed (above ++ rest) name node found
    by_cases last : above = above ++ rest
    · rw [← last] at stands
      exact stands
    · exact ih stands last

/-- The objects deleted one after the other; none is skipped. -/
def deleteAll : List (List ν) → FileTree ν β → Option (FileTree ν β)
  | [], tree => some tree
  | path :: rest, tree => (tree.delete path).bind (deleteAll rest)

theorem deleteAll_append (first second : List (List ν)) (tree : FileTree ν β) :
    deleteAll (first ++ second) tree = (deleteAll first tree).bind (deleteAll second) := by
  induction first generalizing tree with
  | nil => rfl
  | cons path rest ih =>
    rw [List.cons_append, deleteAll, deleteAll, Option.bind_assoc]
    apply congrArg ((tree.delete path).bind ·)
    funext after
    exact ih after

theorem delete_of_childless {path : List ν} (stands : (tree.entries[path]?).isSome = true)
    (childless : ∀ name, tree.entries[path ++ [name]]? = none) :
    ∃ after, tree.delete path = some after ∧ after.entries = tree.entries.erase path := by
  have empty : tree.hasChild path = false := by
    apply (BTreeMap.anyEntry_false_iff _ _).mpr
    intro other node found
    rw [decide_eq_false_iff_not]
    rintro ⟨filled, parent⟩
    obtain ⟨above, last, rfl⟩ := (List.eq_nil_or_concat' other).resolve_left filled
    rw [List.dropLast_concat] at parent
    rw [parent, childless last] at found
    cases found
  rw [delete, dif_pos ⟨stands, empty⟩]
  exact ⟨_, rfl, rfl⟩

/-- Objects of the tree, each after everything that stands in it. -/
structure InnerFirst (tree : FileTree ν β) (objects : List (List ν)) : Prop where
  stands : ∀ path ∈ objects, (tree.entries[path]?).isSome = true
  distinct : objects.Nodup
  ordered : objects.Pairwise fun earlier later => ¬ (earlier <+: later ∧ earlier ≠ later)
  whole : ∀ path ∈ objects, ∀ name, (tree.entries[path ++ [name]]?).isSome = true → path ++ [name] ∈ objects

omit [DecidableEq ν] in
theorem InnerFirst.childless {path : List ν} {rest : List (List ν)} (inner : InnerFirst tree (path :: rest))
    (name : ν) : tree.entries[path ++ [name]]? = none := by
  cases found : tree.entries[path ++ [name]]? with
  | none => rfl
  | some node =>
    have known := inner.whole path List.mem_cons_self name (by rw [found]; rfl)
    have apart : path ≠ path ++ [name] := by simp
    rcases List.mem_cons.mp known with same | later
    · exact absurd same.symm apart
    · have order := (List.pairwise_cons.mp inner.ordered).1 _ later
      exact absurd ⟨List.prefix_append path [name], apart⟩ order

theorem InnerFirst.deleteAll {objects : List (List ν)} (inner : InnerFirst tree objects) :
    ∃ after, deleteAll objects tree = some after ∧
      ∀ path, after.entries[path]? = if path ∈ objects then none else tree.entries[path]? := by
  induction objects generalizing tree with
  | nil => exact ⟨tree, rfl, fun path => by simp⟩
  | cons first rest ih =>
    obtain ⟨middle, deleted, entries⟩ := delete_of_childless (inner.stands first List.mem_cons_self) inner.childless
    obtain ⟨fresh, distinct⟩ := List.nodup_cons.mp inner.distinct
    have kept : ∀ path, path ≠ first → middle.entries[path]? = tree.entries[path]? := by
      intro path apart
      rw [entries, BTreeMap.lookup_erase_of_ne _ apart]
    have apart : ∀ path ∈ rest, path ≠ first := by
      rintro path member rfl
      exact fresh member
    have innerRest : InnerFirst middle rest := by
      refine ⟨?_, distinct, (List.pairwise_cons.mp inner.ordered).2, ?_⟩
      · intro path member
        rw [kept path (apart path member)]
        exact inner.stands path (List.mem_cons_of_mem _ member)
      · intro path member name found
        by_cases same : path ++ [name] = first
        · rw [same, entries, BTreeMap.lookup_erase_self] at found
          cases found
        · rw [kept _ same] at found
          have known := inner.whole path (List.mem_cons_of_mem _ member) name found
          exact (List.mem_cons.mp known).resolve_left same
    obtain ⟨after, finished, gone⟩ := ih innerRest
    refine ⟨after, by rw [FileTree.deleteAll, deleted]; exact finished, ?_⟩
    intro path
    rw [gone path]
    by_cases later : path ∈ rest
    · rw [if_pos later, if_pos (List.mem_cons_of_mem _ later)]
    · rw [if_neg later]
      by_cases same : path = first
      · rw [if_pos (by simp [same]), same, entries, BTreeMap.lookup_erase_self]
      · have absent : path ∉ first :: rest := by
          intro member
          rcases List.mem_cons.mp member with equal | within
          · exact same equal
          · exact later within
        rw [if_neg absent, kept path same]

end Emptying

section Names

variable [DecidableEq ν] (tree : FileTree ν β) (path : List ν)

theorem mem_names (name : ν) : name ∈ tree.names path ↔ (tree.entries[path ++ [name]]?).isSome = true := by
  rw [names, List.mem_filterMap]
  constructor
  · rintro ⟨⟨other, node⟩, member, last⟩
    obtain ⟨stored, shape⟩ := List.mem_filter.mp member
    obtain ⟨filled, parent⟩ := of_decide_eq_true shape
    have whole : other = path ++ [name] := by
      rw [← parent]
      exact (List.dropLast_append_getLast? name last).symm
    rw [← whole, Std.ExtTreeMap.mem_toList_iff_getElem?_eq_some.mp stored]
    rfl
  · intro found
    obtain ⟨node, found⟩ := Option.isSome_iff_exists.mp found
    refine ⟨(path ++ [name], node), List.mem_filter.mpr ⟨?_, ?_⟩, List.getLast?_concat⟩
    · exact Std.ExtTreeMap.mem_toList_iff_getElem?_eq_some.mpr found
    · simp

theorem names_distinct : (tree.names path).Nodup := by
  rw [names, List.Nodup, List.pairwise_filterMap]
  have keys := List.pairwise_map.mp (BTreeMap.toList_keys_nodup tree.entries)
  apply (keys.filter _).imp_of_mem
  intro first second firstIn secondIn apart last firstLast other secondLast same
  obtain ⟨_, firstParent⟩ := of_decide_eq_true (List.mem_filter.mp firstIn).2
  obtain ⟨_, secondParent⟩ := of_decide_eq_true (List.mem_filter.mp secondIn).2
  apply apart
  rw [← List.dropLast_append_getLast? last firstLast, ← List.dropLast_append_getLast? other secondLast, firstParent,
    secondParent, same]

end Names

section Contents

variable [DecidableEq ν] {tree next : FileTree ν β}

theorem write_of_content {path : List ν} (written : β) (file : (tree.content path).isSome = true) :
    ∃ filled, tree.write path written = some filled := by
  rw [write, dif_pos file]
  exact ⟨_, rfl⟩

end Contents

end FileTree
