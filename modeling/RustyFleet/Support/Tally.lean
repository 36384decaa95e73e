import RustyFleet.Support.OrderedMap

/-! Values collected under a key, one addition at a time. -/

namespace Tally

section Map

variable {α κ ν : Type} [Ord κ] [Std.TransOrd κ] [Std.LawfulEqOrd κ] (key : α → κ) (new : α → ν) (add : ν → α → ν)

/-- Each element is added to the value under its key; the first one under a key starts it. -/
def tally (held : BTreeMap κ ν) (elements : List α) : BTreeMap κ ν :=
  elements.foldl (fun held a => held.insert (key a) (add (held[key a]?.getD (new a)) a)) held

omit [Std.LawfulEqOrd κ] in
theorem tally_append (held : BTreeMap κ ν) (front back : List α) :
    tally key new add held (front ++ back) = tally key new add (tally key new add held front) back :=
  List.foldl_append

theorem tally_lookup [DecidableEq κ] (held : BTreeMap κ ν) (elements : List α) (k : κ) :
    (tally key new add held elements)[k]? =
      (elements.filter (key · = k)).foldl (fun value a => some (add (value.getD (new a)) a)) held[k]? := by
  induction elements generalizing held with
  | nil => rfl
  | cons first rest ih =>
    have step : tally key new add held (first :: rest) =
        tally key new add (held.insert (key first) (add (held[key first]?.getD (new first)) first)) rest := rfl
    rw [step, ih]
    by_cases same : key first = k
    · subst same
      simp only [BTreeMap.lookup_insert_self, decide_true, List.filter_cons_of_pos, List.foldl_cons]
    · rw [BTreeMap.lookup_insert_of_ne _ _ (Ne.symm same), List.filter_cons_of_neg (by simpa using same)]

variable {key new add}

theorem tally_forall (P : κ → ν → Prop) (starts : ∀ a, P (key a) (new a))
    (adds : ∀ v a, P (key a) v → P (key a) (add v a)) {held : BTreeMap κ ν} {elements : List α}
    (all : ∀ k v, held[k]? = some v → P k v) :
    ∀ k v, (tally key new add held elements)[k]? = some v → P k v := by
  induction elements generalizing held with
  | nil => exact all
  | cons first rest ih =>
    apply ih
    apply BTreeMap.insert_forall _ _ _ P all
    apply adds
    cases found : held[key first]? with
    | none => exact starts first
    | some v => exact all _ v found

omit [Ord κ] [Std.TransOrd κ] [Std.LawfulEqOrd κ] in
theorem folded_measure {measure : ν → Nat} (counts : ∀ v a, measure (add v a) = measure v + 1)
    (starts : ∀ a, measure (new a) = 0) (elements : List α) (value : Option ν) {final : ν}
    (folded : elements.foldl (fun value a => some (add (value.getD (new a)) a)) value = some final) :
    measure final = value.elim 0 measure + elements.length := by
  induction elements generalizing value with
  | nil =>
    have same : value = some final := folded
    rw [same]
    rfl
  | cons first rest ih =>
    have later := ih _ folded
    rw [later, List.length_cons]
    cases value with
    | none =>
      simp only [Option.getD_none, Option.elim_some, Option.elim_none, counts, starts]
      omega
    | some prior =>
      simp only [Option.getD_some, Option.elim_some, counts]
      omega

theorem tally_measure [DecidableEq κ] {measure : ν → Nat} (counts : ∀ v a, measure (add v a) = measure v + 1)
    (starts : ∀ a, measure (new a) = 0) {elements : List α} {k : κ} {v : ν}
    (found : (tally key new add ∅ elements)[k]? = some v) : measure v = elements.countP (key · = k) := by
  rw [tally_lookup] at found
  have folded := folded_measure counts starts _ _ found
  rw [folded, List.countP_eq_length_filter]
  simp

omit [Ord κ] [Std.TransOrd κ] [Std.LawfulEqOrd κ] in
theorem folded_isSome (elements : List α) (value : Option ν) :
    (elements.foldl (fun value a => some (add (value.getD (new a)) a)) value).isSome = true ↔
      value.isSome = true ∨ elements ≠ [] := by
  induction elements generalizing value with
  | nil => simp
  | cons first rest ih =>
    rw [List.foldl_cons, ih]
    simp

theorem tally_isSome_iff [DecidableEq κ] {elements : List α} {k : κ} :
    (tally key new add ∅ elements)[k]?.isSome = true ↔ ∃ a ∈ elements, key a = k := by
  rw [tally_lookup, folded_isSome]
  simp [List.filter_eq_nil_iff]

end Map

section Groups

variable {α γ : Type} (p : α → Bool) (members : γ → List α)

theorem groups_le_members (groups : List γ) :
    groups.countP (fun group => (members group).any p) ≤ (groups.flatMap members).countP p := by
  induction groups with
  | nil => exact Nat.le_refl 0
  | cons first rest ih =>
    rw [List.flatMap_cons, List.countP_append, List.countP_cons]
    by_cases holds : (members first).any p = true
    · have counted : 0 < (members first).countP p := List.countP_pos_iff.mpr (List.any_eq_true.mp holds)
      rw [if_pos holds]
      omega
    · rw [if_neg holds]
      omega

theorem members_eq_groups_iff (groups : List γ) :
    (groups.flatMap members).countP p = groups.countP (fun group => (members group).any p) ↔
      ∀ group ∈ groups, (members group).countP p ≤ 1 := by
  induction groups with
  | nil => simp
  | cons first rest ih =>
    have fewer := groups_le_members p members rest
    rw [List.flatMap_cons, List.countP_append, List.countP_cons, List.forall_mem_cons, ← ih]
    by_cases holds : (members first).any p = true
    · have counted : 0 < (members first).countP p := List.countP_pos_iff.mpr (List.any_eq_true.mp holds)
      rw [if_pos holds]
      omega
    · have clear : (members first).countP p = 0 := by
        apply List.countP_eq_zero.mpr
        intro a member held
        exact holds (List.any_eq_true.mpr ⟨a, member, held⟩)
      rw [if_neg holds]
      omega

end Groups

end Tally
