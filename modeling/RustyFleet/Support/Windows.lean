import Mathlib.Data.List.Sort
import Mathlib.Tactic.Common

/-! Sorting by a comparison and reading the sorted list through windows. -/

namespace Windows

section Comparisons

variable {α : Type*} {first second : α → α → Ordering}

instance swap_trans [Std.TransCmp first] : Std.TransCmp fun a b => (first a b).swap := by
  have same : (fun a b => (first a b).swap) = fun a b => first b a := by
    funext a b
    exact Std.OrientedCmp.eq_swap.symm
  rw [same]
  infer_instance

instance const_trans : Std.TransCmp fun _ _ : α => Ordering.eq where
  eq_swap := rfl
  isLE_trans _ _ := rfl

instance then_trans [Std.TransCmp first] [Std.TransCmp second] :
    Std.TransCmp fun a b => (first a b).then (second a b) :=
  inferInstanceAs (Std.TransCmp (compareLex first second))

end Comparisons

section Sorted

variable {α : Type*} (order : α → α → Ordering)

/-- `sort_by`: stable, smallest first. -/
def sortBy (l : List α) : List α := l.insertionSort fun a b => (order a b).isLE

theorem mem_sortBy {l : List α} {a : α} : a ∈ sortBy order l ↔ a ∈ l := List.mem_insertionSort _

theorem sortBy_perm (l : List α) : (sortBy order l).Perm l := List.perm_insertionSort _ l

theorem sortBy_length (l : List α) : (sortBy order l).length = l.length := List.length_insertionSort _ l

theorem sortBy_pairwise [Std.TransCmp order] (l : List α) :
    (sortBy order l).Pairwise fun a b => (order a b).isLE = true := by
  have total : Std.Total fun a b => (order a b).isLE = true := by
    constructor
    intro a b
    rw [@Std.OrientedCmp.eq_swap _ order _ b a]
    cases order a b <;> decide
  have transitive : IsTrans α fun a b => (order a b).isLE = true := by
    constructor
    intro a b c before after
    exact Std.TransCmp.isLE_trans before after
  exact List.pairwise_insertionSort _ l

theorem sortBy_strict [Std.TransCmp order] {l : List α} (distinct : l.Nodup)
    (separates : ∀ a ∈ l, ∀ b ∈ l, order a b = .eq → a = b) :
    (sortBy order l).Pairwise fun a b => order a b = .lt := by
  have apart : (sortBy order l).Nodup := (sortBy_perm order l).nodup_iff.mpr distinct
  have ordered := (sortBy_pairwise order l).and apart
  refine ordered.imp_of_mem ?_
  intro a b inA inB holds
  obtain ⟨before, different⟩ := holds
  cases ordering : order a b with
  | lt => rfl
  | eq =>
    have same := separates a ((mem_sortBy order).mp inA) b ((mem_sortBy order).mp inB) ordering
    exact absurd same different
  | gt =>
    rw [ordering] at before
    cases before

end Sorted

section Window

variable {α : Type*}

def window (offset limit : Nat) (l : List α) : List α := (l.drop offset).take limit

theorem exists_window {limit : Nat} (wide : 0 < limit) {l : List α} {a : α} (member : a ∈ l) :
    ∃ offset, a ∈ window offset limit l := by
  obtain ⟨offset, inside, rfl⟩ := List.getElem_of_mem member
  refine ⟨offset, ?_⟩
  rw [window, List.drop_eq_getElem_cons inside]
  obtain ⟨count, rfl⟩ := Nat.exists_eq_succ_of_ne_zero (Nat.ne_of_gt wide)
  exact List.mem_cons_self

theorem slice_eq_window (offset limit : Nat) (l : List α) :
    (l.take (min (min offset l.length + limit) l.length)).drop (min offset l.length) =
      window offset limit l := by
  rw [List.drop_take, window]
  by_cases inside : offset ≤ l.length
  · rw [Nat.min_eq_left inside]
    have size : (l.drop offset).length = l.length - offset := List.length_drop
    by_cases fits : offset + limit ≤ l.length
    · rw [Nat.min_eq_left fits, Nat.add_sub_cancel_left]
    · rw [Nat.min_eq_right (by omega), List.take_of_length_le (by omega), List.take_of_length_le (by omega)]
  · have past : l.length ≤ offset := by omega
    have clamped : min offset l.length = l.length := Nat.min_eq_right past
    rw [clamped, List.drop_length, List.take_nil, List.drop_of_length_le past, List.take_nil]

theorem windows_take (limit count : Nat) (l : List α) :
    (List.range count).flatMap (fun index => window (index * limit) limit l) = l.take (count * limit) := by
  induction count with
  | zero => rw [Nat.zero_mul, List.take_zero, List.range_zero, List.flatMap_nil]
  | succ count ih =>
    rw [List.range_succ, List.flatMap_append, ih, List.flatMap_singleton, window, Nat.succ_mul, List.take_add]

theorem windows_cover {limit count : Nat} {l : List α} (enough : l.length ≤ count * limit) :
    (List.range count).flatMap (fun index => window (index * limit) limit l) = l := by
  rw [windows_take, List.take_of_length_le enough]

end Window

end Windows
