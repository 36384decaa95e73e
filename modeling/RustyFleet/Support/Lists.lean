import Mathlib.Algebra.Ring.Nat
import Mathlib.Data.List.Count
import Mathlib.Data.List.Forall2
import Mathlib.Tactic.Common

namespace Support

variable {α β : Type*}

/-- The list after `iter_mut().find(p)` has been handed to `f`: only the first match is rewritten. -/
def modifyFirst (p : α → Bool) (f : α → α) : List α → List α
  | [] => []
  | a :: rest => if p a then f a :: rest else a :: modifyFirst p f rest

theorem modifyFirst_map (p : α → Bool) (f : α → α) (g : α → β) (l : List α)
    (same : ∀ a, g (f a) = g a) : (modifyFirst p f l).map g = l.map g := by
  induction l with
  | nil => rfl
  | cons a rest ih =>
    cases ha : p a <;> simp [modifyFirst, ha, same, ih]

theorem modifyFirst_length (p : α → Bool) (f : α → α) (l : List α) :
    (modifyFirst p f l).length = l.length := by
  simpa using congrArg List.length (modifyFirst_map p f (fun _ => ()) l fun _ => rfl)

theorem modifyFirst_forall₂ (p : α → Bool) (f : α → α) (l : List α) (a : α)
    (found : l.find? p = some a) :
    List.Forall₂ (fun x y => y = x ∨ (x = a ∧ y = f a)) l (modifyFirst p f l) := by
  induction l with
  | nil => cases found
  | cons b rest ih =>
    cases hb : p b with
    | true =>
      simp only [List.find?_cons, hb, Option.some.injEq] at found
      subst found
      simp only [modifyFirst, hb, if_true]
      exact .cons (.inr ⟨rfl, rfl⟩) (List.forall₂_same.mpr fun _ _ => .inl rfl)
    | false =>
      simp only [List.find?_cons, hb] at found
      simp only [modifyFirst, hb]
      exact .cons (.inl rfl) (ih found)

theorem mem_modifyFirst (p : α → Bool) (f : α → α) (l : List α) (a x : α)
    (found : l.find? p = some a) (member : x ∈ modifyFirst p f l) : x ∈ l ∨ x = f a := by
  induction l with
  | nil => cases found
  | cons b rest ih =>
    cases hb : p b with
    | true =>
      simp only [List.find?_cons, hb, Option.some.injEq] at found
      subst found
      simp only [modifyFirst, hb, if_true, List.mem_cons] at member
      rcases member with changed | tail
      · exact .inr changed
      · exact .inl (List.mem_cons_of_mem _ tail)
    | false =>
      simp only [List.find?_cons, hb] at found
      simp only [modifyFirst, hb, Bool.false_eq_true, if_false, List.mem_cons] at member
      rcases member with same | tail
      · exact .inl (same ▸ List.mem_cons_self)
      · exact (ih found tail).imp_left (List.mem_cons_of_mem _)

theorem modified_mem (p : α → Bool) (f : α → α) (l : List α) (a : α)
    (found : l.find? p = some a) : f a ∈ modifyFirst p f l := by
  induction l with
  | nil => cases found
  | cons b rest ih =>
    cases hb : p b with
    | true =>
      simp only [List.find?_cons, hb, Option.some.injEq] at found
      subst found
      simp [modifyFirst, hb]
    | false =>
      simp only [List.find?_cons, hb] at found
      simp [modifyFirst, hb, ih found]

theorem countP_modifyFirst (p q : α → Bool) (f : α → α) (l : List α) (a : α)
    (found : l.find? p = some a) :
    (modifyFirst p f l).countP q + (if q a then 1 else 0) =
      l.countP q + (if q (f a) then 1 else 0) := by
  induction l with
  | nil => cases found
  | cons b rest ih =>
    cases hb : p b with
    | true =>
      simp only [List.find?_cons, hb, Option.some.injEq] at found
      subst found
      simp only [modifyFirst, hb, if_true, List.countP_cons]
      omega
    | false =>
      simp only [List.find?_cons, hb] at found
      have step := ih found
      simp only [modifyFirst, hb, Bool.false_eq_true, if_false, List.countP_cons]
      omega

theorem countP_partition (parts : List (α → Bool)) (q : α → Bool) (l : List α)
    (exact : ∀ a ∈ l, parts.countP (fun part => part a) = if q a then 1 else 0) :
    (parts.map fun part => l.countP part).sum = l.countP q := by
  induction l with
  | nil =>
    simp only [List.countP_nil]
    induction parts with
    | nil => rfl
    | cons part rest ih => rw [List.map_cons, List.sum_cons, ih fun a member => absurd member List.not_mem_nil]
  | cons a rest ih =>
    have first := exact a List.mem_cons_self
    have later := ih fun b member => exact b (List.mem_cons_of_mem a member)
    have split : (parts.map fun part => (a :: rest).countP part).sum =
        (parts.map fun part => rest.countP part).sum + parts.countP fun part => part a := by
      clear first later ih exact
      induction parts with
      | nil => rfl
      | cons part others ih =>
        rw [List.map_cons, List.sum_cons, ih, List.map_cons, List.sum_cons, List.countP_cons, List.countP_cons]
        omega
    rw [split, later, first, List.countP_cons]

theorem find?_mem_of_some {p : α → Bool} {l : List α} {a : α} (found : l.find? p = some a) :
    a ∈ l ∧ p a = true :=
  ⟨List.mem_of_find?_eq_some found, List.find?_some found⟩

theorem find?_key_eq [DecidableEq β] (key : α → β) (l : List α) (a : α)
    (distinct : (l.map key).Nodup) (member : a ∈ l) :
    l.find? (fun x => key x = key a) = some a := by
  induction l with
  | nil => cases member
  | cons b rest ih =>
    simp only [List.map_cons, List.nodup_cons, List.mem_map, not_exists, not_and] at distinct
    rcases List.mem_cons.mp member with rfl | tail
    · simp
    · have other : key b ≠ key a := fun same => distinct.1 a tail same.symm
      simp [other, ih distinct.2 tail]

theorem find?_modifyFirst_same [BEq β] (key : α → β) (f : α → α) (l : List α) (d : β) (a : α)
    (found : l.find? (key · == d) = some a) (kept : key (f a) = key a) :
    (modifyFirst (key · == d) f l).find? (key · == d) = some (f a) := by
  induction l with
  | nil => cases found
  | cons b rest ih =>
    cases hb : key b == d with
    | true =>
      simp only [List.find?_cons, hb, Option.some.injEq] at found
      subst found
      simp only [modifyFirst, hb, if_true, List.find?_cons, kept]
    | false =>
      simp only [List.find?_cons, hb] at found
      simp only [modifyFirst, hb, Bool.false_eq_true, if_false, List.find?_cons]
      exact ih found

theorem find?_modifyFirst_other [BEq β] [LawfulBEq β] (key : α → β) (f : α → α) (l : List α) (d e : β)
    (kept : ∀ a, key (f a) = key a) (other : e ≠ d) :
    (modifyFirst (key · == d) f l).find? (key · == e) = l.find? (key · == e) := by
  induction l with
  | nil => rfl
  | cons b rest ih =>
    cases hb : key b == d with
    | true =>
      have apart : (key b == e) = false := by
        rw [beq_iff_eq.mp hb]
        exact beq_false_of_ne (Ne.symm other)
      simp only [modifyFirst, hb, if_true, List.find?_cons, kept, apart]
    | false =>
      simp only [modifyFirst, hb, Bool.false_eq_true, if_false, List.find?_cons, ih]

section Forall₂

variable {γ : Type*} {R S T : α → α → Prop} {l m n : List α}

theorem forall₂_map_congr (g : α → γ) (same : ∀ a b, R a b → g b = g a) (related : List.Forall₂ R l m) :
    m.map g = l.map g := by
  induction related with
  | nil => rfl
  | cons head _ ih => rw [List.map_cons, List.map_cons, same _ _ head, ih]

theorem forall₂_right (related : List.Forall₂ R l m) : ∀ b ∈ m, ∃ a ∈ l, R a b := by
  induction related with
  | nil => intro b member; cases member
  | cons head _ ih =>
    intro b member
    rcases List.mem_cons.mp member with rfl | later
    · exact ⟨_, List.mem_cons_self, head⟩
    · obtain ⟨a, known, also⟩ := ih b later
      exact ⟨a, List.mem_cons_of_mem _ known, also⟩

theorem forall₂_left (related : List.Forall₂ R l m) : ∀ a ∈ l, ∃ b ∈ m, R a b := by
  induction related with
  | nil => intro a member; cases member
  | cons head _ ih =>
    intro a member
    rcases List.mem_cons.mp member with rfl | later
    · exact ⟨_, List.mem_cons_self, head⟩
    · obtain ⟨b, known, also⟩ := ih a later
      exact ⟨b, List.mem_cons_of_mem _ known, also⟩

theorem forall₂_mem_imp (related : List.Forall₂ R l m)
    (gives : ∀ a b, a ∈ l → b ∈ m → R a b → S a b) : List.Forall₂ S l m := by
  induction related with
  | nil => exact .nil
  | cons head _ ih =>
    refine .cons (gives _ _ List.mem_cons_self List.mem_cons_self head) (ih fun a b inLeft inRight => ?_)
    exact gives a b (List.mem_cons_of_mem _ inLeft) (List.mem_cons_of_mem _ inRight)

theorem forall₂_comp (composes : ∀ a b c, R a b → S b c → T a c) (first : List.Forall₂ R l m)
    (second : List.Forall₂ S m n) : List.Forall₂ T l n := by
  induction first generalizing n with
  | nil => cases second; exact .nil
  | cons head _ ih =>
    cases second with
    | cons next rest => exact .cons (composes _ _ _ head next) (ih rest)

end Forall₂

theorem pairwise_snoc {R : α → α → Prop} {accepted : List α} {next : α}
    (ordered : accepted.Pairwise R) (after : ∀ a ∈ accepted, R a next) :
    (accepted ++ [next]).Pairwise R := by
  rw [List.pairwise_append]
  refine ⟨ordered, List.pairwise_singleton R next, ?_⟩
  intro a member b single
  rw [List.mem_singleton] at single
  rw [single]
  exact after a member

theorem pairwise_last {R : α → α → Prop} {accepted : List α} {last : α}
    (ordered : accepted.Pairwise R) (final : accepted.getLast? = some last) :
    ∀ a ∈ accepted, a = last ∨ R a last := by
  obtain ⟨earlier, rfl⟩ := List.getLast?_eq_some_iff.mp final
  rw [List.pairwise_append] at ordered
  intro a member
  rcases List.mem_append.mp member with before | single
  · exact .inr (ordered.2.2 a before last (List.mem_singleton_self last))
  · exact .inl (List.mem_singleton.mp single)

end Support
