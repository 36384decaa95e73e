import Mathlib.Data.List.Nodup
import Mathlib.Data.List.Perm.Subperm
import RustyFleet.Support.Lists

/-! Lists whose items correspond one to one, in whatever order they stand. -/

namespace Support

/-- Each item on the left belongs to one item on the right, and no item on the right is left. -/
def OneToOne {α : Type*} (R : α → α → Prop) (left right : List α) : Prop :=
  ∃ arranged, arranged.Perm right ∧ List.Forall₂ R left arranged

namespace OneToOne

variable {α β : Type*} {R S T : α → α → Prop} {left middle right : List α}

theorem length_eq (related : OneToOne R left right) : left.length = right.length := by
  obtain ⟨arranged, same, items⟩ := related
  exact items.length_eq.trans same.length_eq

theorem of_left (related : OneToOne R left right) : ∀ a ∈ left, ∃ b ∈ right, R a b := by
  obtain ⟨arranged, same, items⟩ := related
  intro a member
  obtain ⟨b, listed, holds⟩ := forall₂_left items a member
  exact ⟨b, same.mem_iff.mp listed, holds⟩

theorem of_right (related : OneToOne R left right) : ∀ b ∈ right, ∃ a ∈ left, R a b := by
  obtain ⟨arranged, same, items⟩ := related
  intro b member
  exact forall₂_right items b (same.mem_iff.mpr member)

theorem keys (key : α → β) (sameKey : ∀ a b, R a b → key b = key a) (related : OneToOne R left right) :
    (right.map key).Perm (left.map key) := by
  obtain ⟨arranged, same, items⟩ := related
  rw [← forall₂_map_congr key sameKey items]
  exact (same.map key).symm

theorem symm (turned : ∀ a b, R a b → S b a) (related : OneToOne R left right) : OneToOne S right left := by
  obtain ⟨arranged, same, items⟩ := related
  have flipped : List.Forall₂ S arranged left := (items.imp turned).flip
  obtain ⟨other, moved, perm⟩ := List.perm_comp_forall₂ same.symm flipped
  exact ⟨other, perm, moved⟩

theorem trans (composes : ∀ a b c, R a b → S b c → T a c) (first : OneToOne R left middle)
    (second : OneToOne S middle right) : OneToOne T left right := by
  obtain ⟨arranged, same, items⟩ := first
  obtain ⟨others, sameRight, itemsRight⟩ := second
  obtain ⟨final, moved, perm⟩ := List.perm_comp_forall₂ same itemsRight
  exact ⟨final, perm.trans sameRight, forall₂_comp composes items moved⟩

theorem of_contained (key : α → β) (sameKey : ∀ a b, R a b → key b = key a)
    (distinct : (left.map key).Nodup) (length : right.length = left.length)
    (contained : ∀ a ∈ left, ∃ b ∈ right, R a b) : OneToOne R left right := by
  have chosen : ∃ arranged, List.Forall₂ R left arranged ∧ arranged ⊆ right := by
    clear distinct length
    induction left with
    | nil => exact ⟨[], .nil, List.nil_subset _⟩
    | cons a left ih =>
      obtain ⟨b, member, holds⟩ := contained a List.mem_cons_self
      obtain ⟨arranged, items, inside⟩ := ih fun other listed => contained other (List.mem_cons_of_mem _ listed)
      exact ⟨b :: arranged, .cons holds items, List.cons_subset.mpr ⟨member, inside⟩⟩
  obtain ⟨arranged, items, inside⟩ := chosen
  have keys := forall₂_map_congr key sameKey items
  have nodup : arranged.Nodup := List.Nodup.of_map key (keys ▸ distinct)
  refine ⟨arranged, ?_, items⟩
  apply (List.subperm_of_subset nodup inside).perm_of_length_le
  exact Nat.le_of_eq (length.trans items.length_eq)

end OneToOne

theorem perm_of_contained {α : Type*} {left right : List α} (distinct : left.Nodup)
    (length : right.length = left.length) (contained : ∀ a ∈ left, a ∈ right) : right.Perm left :=
  ((List.subperm_of_subset distinct contained).perm_of_length_le (Nat.le_of_eq length)).symm

end Support
