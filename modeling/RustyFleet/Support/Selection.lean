import Mathlib.Data.List.MinMax

namespace Support

variable {α β : Type*} [LinearOrder β]

/-- The first element of the greatest key. -/
def firstGreatest (f : α → β) (l : List α) : Option α := l.argmax f

theorem find?_of_argmax (f : α → β) (l : List α) (m : α) (selected : l.argmax f = some m) :
    l.find? (f · = f m) = some m := by
  induction l using List.reverseRecOn generalizing m with
  | nil => cases selected
  | append_singleton l last ih =>
    rw [List.argmax_concat] at selected
    cases greatest : l.argmax f with
    | none =>
      rw [greatest] at selected
      have empty : l = [] := List.argmax_eq_none.mp greatest
      have same : last = m := Option.some.inj selected
      simp [empty, same]
    | some best =>
      simp only [greatest] at selected
      rw [List.find?_append]
      by_cases outdone : f best < f last
      · rw [if_pos outdone] at selected
        have same : last = m := Option.some.inj selected
        have nobody : l.find? (f · = f m) = none := by
          rw [List.find?_eq_none]
          intro a member equal
          have below := List.le_of_mem_argmax member greatest
          have key : f a = f m := by simpa using equal
          rw [key, ← same] at below
          exact absurd outdone (not_lt.mpr below)
        rw [nobody]
        simp [same]
      · rw [if_neg outdone] at selected
        have same : best = m := Option.some.inj selected
        rw [ih m (same ▸ greatest)]
        rfl

theorem argmax_map (f : α → β) (g : α → α) (keeps : ∀ a, f (g a) = f a) (l : List α) :
    (l.map g).argmax f = (l.argmax f).map g := by
  induction l using List.reverseRecOn with
  | nil => rfl
  | append_singleton l last ih =>
    rw [List.map_append, List.map_singleton, List.argmax_concat, List.argmax_concat, ih]
    cases l.argmax f with
    | none => rfl
    | some best =>
      have same : f (g best) < f (g last) ↔ f best < f last := by rw [keeps, keeps]
      by_cases outdone : f best < f last
      · simp only [Option.map_some, if_pos (same.mpr outdone), if_pos outdone]
      · simp only [Option.map_some, if_neg (mt same.mp outdone), if_neg outdone]

theorem argmax_concat_self_iff (f : α → β) (l : List α) (x : α) :
    (l ++ [x]).argmax f = some x ↔
      (∀ a ∈ l, f a ≤ f x) ∧ ∀ a, l.find? (f · = f x) = some a → a = x := by
  constructor
  · intro selected
    refine ⟨fun a member => ?_, fun a found => ?_⟩
    · exact List.le_of_mem_argmax (List.mem_append_left [x] member) selected
    · have first := find?_of_argmax f _ x selected
      rw [List.find?_append, found] at first
      exact Option.some.inj first
  · rintro ⟨bounded, tied⟩
    cases selected : (l ++ [x]).argmax f with
    | none => simp at selected
    | some m =>
      have lower : f x ≤ f m := List.le_of_mem_argmax (by simp) selected
      have upper : f m ≤ f x := by
        rcases List.mem_append.mp (List.argmax_mem selected) with earlier | last
        · exact bounded m earlier
        · rw [List.mem_singleton.mp last]
      have key : f m = f x := le_antisymm upper lower
      have first := find?_of_argmax f _ m selected
      rw [key, List.find?_append] at first
      cases found : l.find? (f · = f x) with
      | none => simpa [found] using first.symm
      | some a =>
        have same : a = m := by simpa [found] using first
        rw [← same, tied a found]

end Support
