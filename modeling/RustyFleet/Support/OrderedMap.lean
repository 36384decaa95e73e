import Mathlib.Data.List.Forall2
import Mathlib.Tactic.Common

/-- An ordered map with one value per key; two maps with the same entries are equal. -/
abbrev BTreeMap (κ ν : Type) [Ord κ] := Std.ExtTreeMap κ ν compare

namespace BTreeMap

variable {κ ν : Type} [Ord κ] [Std.TransOrd κ] [Std.LawfulEqOrd κ]

def anyEntry (m : BTreeMap κ ν) (p : κ → ν → Bool) : Bool :=
  m.toList.any fun entry => p entry.1 entry.2

theorem anyEntry_false_iff (m : BTreeMap κ ν) (p : κ → ν → Bool) :
    anyEntry m p = false ↔ ∀ k v, m[k]? = some v → p k v = false := by
  simp only [anyEntry, List.any_eq_false, Bool.not_eq_true, Prod.forall]
  constructor
  · intro clear k v found
    exact clear k v (Std.ExtTreeMap.mem_toList_iff_getElem?_eq_some.mpr found)
  · intro clear k v member
    exact clear k v (Std.ExtTreeMap.mem_toList_iff_getElem?_eq_some.mp member)

def storedValues (m : BTreeMap κ ν) : List ν :=
  m.toList.map Prod.snd

theorem mem_storedValues_iff (m : BTreeMap κ ν) (v : ν) :
    v ∈ storedValues m ↔ ∃ k : κ, m[k]? = some v := by
  rw [storedValues, List.mem_map]
  constructor
  · rintro ⟨⟨k, w⟩, member, rfl⟩
    exact ⟨k, Std.ExtTreeMap.mem_toList_iff_getElem?_eq_some.mp member⟩
  · rintro ⟨k, found⟩
    exact ⟨(k, v), Std.ExtTreeMap.mem_toList_iff_getElem?_eq_some.mpr found, rfl⟩

omit [Std.LawfulEqOrd κ] in
theorem toList_keys_nodup (m : BTreeMap κ ν) : (m.toList.map Prod.fst).Nodup := by
  rw [List.nodup_iff_pairwise_ne, List.pairwise_map]
  refine Std.ExtTreeMap.distinct_keys_toList.imp fun {a b} distinct same => distinct ?_
  rw [same]
  exact Std.ReflOrd.compare_self

theorem insert_forall (m : BTreeMap κ ν) (k₀ : κ) (v₀ : ν) (P : κ → ν → Prop)
    (all : ∀ k v, m[k]? = some v → P k v) (added : P k₀ v₀) :
    ∀ k v, (m.insert k₀ v₀)[k]? = some v → P k v := by
  intro k v found
  rw [Std.ExtTreeMap.getElem?_insert] at found
  split at found
  · rename_i same
    cases found
    exact Std.LawfulEqOrd.eq_of_compare same ▸ added
  · exact all k v found

omit [Std.LawfulEqOrd κ] in
theorem erase_forall (m : BTreeMap κ ν) (k₀ : κ) (P : κ → ν → Prop)
    (all : ∀ k v, m[k]? = some v → P k v) : ∀ k v, (m.erase k₀)[k]? = some v → P k v := by
  intro k v found
  rw [Std.ExtTreeMap.getElem?_erase] at found
  split at found
  · cases found
  · exact all k v found

theorem lookup_insert_self (m : BTreeMap κ ν) (k : κ) (v : ν) : (m.insert k v)[k]? = some v := by
  rw [Std.ExtTreeMap.getElem?_insert, if_pos (Std.ReflOrd.compare_self)]

theorem lookup_insert_of_ne (m : BTreeMap κ ν) {k k₀ : κ} (v : ν) (other : k ≠ k₀) :
    (m.insert k₀ v)[k]? = m[k]? := by
  rw [Std.ExtTreeMap.getElem?_insert, if_neg]
  exact fun same => other (Std.LawfulEqOrd.eq_of_compare same).symm

theorem lookup_erase_self (m : BTreeMap κ ν) (k : κ) : (m.erase k)[k]? = none := by
  rw [Std.ExtTreeMap.getElem?_erase, if_pos (Std.ReflOrd.compare_self)]

theorem lookup_erase_of_ne (m : BTreeMap κ ν) {k k₀ : κ} (other : k ≠ k₀) :
    (m.erase k₀)[k]? = m[k]? := by
  rw [Std.ExtTreeMap.getElem?_erase, if_neg]
  exact fun same => other (Std.LawfulEqOrd.eq_of_compare same).symm

theorem lookup_filter_iff (m : BTreeMap κ ν) (p : κ → ν → Bool) (k : κ) (v : ν) :
    (m.filter p)[k]? = some v ↔ m[k]? = some v ∧ p k v = true := by
  rw [← Std.ExtTreeMap.mem_toList_iff_getElem?_eq_some, Std.ExtTreeMap.toList_filter, List.mem_filter,
    Std.ExtTreeMap.mem_toList_iff_getElem?_eq_some]

omit [Std.LawfulEqOrd κ] in
theorem size_insert_present (m : BTreeMap κ ν) (k : κ) (v w : ν) (found : m[k]? = some w) :
    (m.insert k v).size = m.size := by
  have member : k ∈ m := Std.ExtTreeMap.mem_iff_isSome_getElem?.mpr (by simp [found])
  simp [Std.ExtTreeMap.size_insert, member]

omit [Std.LawfulEqOrd κ] in
theorem size_insert_le (m : BTreeMap κ ν) (k : κ) (v : ν) : (m.insert k v).size ≤ m.size + 1 := by
  rw [Std.ExtTreeMap.size_insert]
  split <;> omega

omit [Ord κ] [Std.TransOrd κ] [Std.LawfulEqOrd κ] in
theorem countP_values_le_one (p : ν → Bool) (entries : List (κ × ν))
    (distinct : (entries.map Prod.fst).Nodup) :
    (entries.map Prod.snd).countP p ≤ 1 ↔
      ∀ a ∈ entries, ∀ b ∈ entries, p a.2 = true → p b.2 = true → a.1 = b.1 := by
  induction entries with
  | nil => simp
  | cons first rest ih =>
    obtain ⟨notLater, distinctRest⟩ := List.nodup_cons.mp distinct
    have apart : ∀ b ∈ rest, first.1 ≠ b.1 :=
      fun b member same => notLater (List.mem_map.mpr ⟨b, member, same.symm⟩)
    cases holds : p first.2 with
    | true =>
      have others : (rest.map Prod.snd).countP p + 1 ≤ 1 ↔ (rest.map Prod.snd).countP p = 0 := by omega
      simp only [List.map_cons, List.countP_cons, holds, if_true, others, List.countP_eq_zero, List.mem_map]
      constructor
      · intro none a inA b inB left right
        have clear : ∀ e ∈ rest, ¬ p e.2 = true := fun e member => none e.2 ⟨e, member, rfl⟩
        rcases List.mem_cons.mp inA with rfl | laterA
        · rcases List.mem_cons.mp inB with rfl | laterB
          · rfl
          · exact absurd right (clear b laterB)
        · exact absurd left (clear a laterA)
      · rintro unique value ⟨b, member, rfl⟩ right
        exact apart b member (unique first List.mem_cons_self b (List.mem_cons_of_mem _ member) holds right)
    | false =>
      simp only [List.map_cons, List.countP_cons, holds, Bool.false_eq_true, if_false, Nat.add_zero,
        ih distinctRest, List.forall_mem_cons, false_implies, implies_true, true_and]

theorem countP_storedValues_le_one (m : BTreeMap κ ν) (p : ν → Bool) :
    (storedValues m).countP p ≤ 1 ↔ ∀ (k : κ) v (k' : κ) v', m[k]? = some v → m[k']? = some v' →
      p v = true → p v' = true → k = k' := by
  rw [storedValues, countP_values_le_one p m.toList (toList_keys_nodup m)]
  constructor
  · intro unique k v k' v' left right
    exact unique (k, v) (Std.ExtTreeMap.mem_toList_iff_getElem?_eq_some.mpr left) (k', v')
      (Std.ExtTreeMap.mem_toList_iff_getElem?_eq_some.mpr right)
  · rintro unique ⟨k, v⟩ inLeft ⟨k', v'⟩ inRight
    exact unique k v k' v' (Std.ExtTreeMap.mem_toList_iff_getElem?_eq_some.mp inLeft)
      (Std.ExtTreeMap.mem_toList_iff_getElem?_eq_some.mp inRight)

end BTreeMap
