import Mathlib.Data.List.Induction
import Mathlib.Data.List.Infix
import RustyFleet.Support.Terminated

/-! Words of a text between separators, and words that follow one another in it. -/

namespace Words

variable {α : Type}

/-- The runs of items that separate nothing. -/
def words (separates : α → Bool) (text : List α) : List (List α) :=
  (text.splitOnP separates).filter (!·.isEmpty)

section Runs

variable {separates : α → Bool}

theorem words_split {separator : α} (stops : separates separator = true) (front back : List α) :
    words separates (front ++ separator :: back) = words separates front ++ words separates back := by
  rw [words, List.splitOnP_append_cons front back stops, List.filter_append]
  rfl

theorem words_nil : words separates [] = [] := rfl

theorem words_cons {separator : α} (stops : separates separator = true) (back : List α) :
    words separates (separator :: back) = words separates back := by
  have split := words_split stops [] back
  rwa [List.nil_append, words_nil, List.nil_append] at split

theorem words_map {β : Type} (rename : α → β) (stops : β → Bool)
    (same : ∀ item, stops (rename item) = separates item) (text : List α) :
    words stops (text.map rename) = (words separates text).map (List.map rename) := by
  have pieces : ∀ text : List α, (text.map rename).splitOnP stops =
      (text.splitOnP separates).map (List.map rename) := by
    intro text
    induction text with
    | nil => rfl
    | cons item text ih =>
      rw [List.map_cons, List.splitOnP_cons_eq_if_modifyHead, List.splitOnP_cons_eq_if_modifyHead, same, ih]
      split
      · rfl
      · cases text.splitOnP separates <;> rfl
  rw [words, pieces, List.filter_map, words]
  congr 2
  funext word
  simp

theorem mem_words {text word : List α} (member : word ∈ words separates text) :
    word ≠ [] ∧ ∀ item ∈ word, separates item = false := by
  obtain ⟨piece, nonempty⟩ := List.mem_filter.mp member
  refine ⟨by simpa using nonempty, ?_⟩
  clear member nonempty
  induction text generalizing word with
  | nil =>
    rw [List.splitOnP_nil, List.mem_singleton] at piece
    subst piece
    exact fun item inside => absurd inside List.not_mem_nil
  | cons first text ih =>
    rw [List.splitOnP_cons_eq_if_modifyHead] at piece
    split at piece
    · rcases List.mem_cons.mp piece with rfl | later
      · exact fun item inside => absurd inside List.not_mem_nil
      · exact ih later
    · rename_i unseparated
      obtain ⟨run, runs, pieces⟩ := List.exists_cons_of_ne_nil (List.splitOnP_ne_nil separates text)
      rw [pieces, List.modifyHead_cons] at piece
      rcases List.mem_cons.mp piece with rfl | later
      · intro item inside
        rcases List.mem_cons.mp inside with rfl | inside
        · exact Bool.eq_false_iff.mpr unseparated
        · exact ih (pieces ▸ List.mem_cons_self) item inside
      · exact ih (pieces ▸ List.mem_cons_of_mem _ later)

end Runs

section Stop

variable [DecidableEq α] {stop : α}

/-- A text with a stop on either side. -/
def delimited (stop : α) (text : List α) : List α := stop :: (text ++ [stop])

theorem terminated_splitOn (text : List α) : terminated stop (text.splitOn stop) = text ++ [stop] := by
  induction text with
  | nil => rfl
  | cons item text ih =>
    rw [List.splitOn_cons_eq_if_modifyHead]
    by_cases stopped : item = stop
    · subst stopped
      rw [if_pos (beq_self_eq_true item), Terminated.cons, ih]
      rfl
    · rw [if_neg (by simpa using stopped)]
      obtain ⟨run, runs, pieces⟩ := List.exists_cons_of_ne_nil (List.splitOn_ne_nil stop text)
      rw [pieces, Terminated.cons] at ih
      rw [pieces, List.modifyHead_cons, Terminated.cons, List.cons_append, ih, List.cons_append]

theorem free_of_mem_splitOn {text piece : List α} (member : piece ∈ text.splitOn stop) : stop ∉ piece := by
  by_cases empty : piece = []
  · rw [empty]
    exact List.not_mem_nil
  · have word : piece ∈ words (· == stop) text :=
      List.mem_filter.mpr ⟨member, by simpa using empty⟩
    intro inside
    have unseparated := (mem_words word).2 stop inside
    simp at unseparated

omit [DecidableEq α] in
theorem leads_of_terminated {first all : List (List α)} {rest : List α} (free : ∀ word ∈ first, stop ∉ word)
    (freeAll : ∀ word ∈ all, stop ∉ word) (same : terminated stop all = terminated stop first ++ rest) :
    first <+: all := by
  induction first generalizing all with
  | nil => exact List.nil_prefix
  | cons word first ih =>
    cases all with
    | nil =>
      rw [Terminated.cons] at same
      exact absurd same (by simp)
    | cons other all =>
      rw [Terminated.cons, Terminated.cons, List.append_assoc, List.cons_append] at same
      obtain ⟨rfl, rests⟩ := Terminated.split (freeAll other List.mem_cons_self) (free word List.mem_cons_self) same
      rw [List.cons_prefix_cons]
      exact ⟨rfl, ih (fun w member => free w (List.mem_cons_of_mem _ member))
        (fun w member => freeAll w (List.mem_cons_of_mem _ member)) rests⟩

omit [DecidableEq α] in
theorem cut_at_stop {all : List (List α)} {front back : List α} (free : ∀ word ∈ all, stop ∉ word)
    (same : stop :: terminated stop all = front ++ stop :: back) :
    ∃ before after, all = before ++ after ∧ back = terminated stop after := by
  induction all generalizing front with
  | nil =>
    cases front with
    | nil => exact ⟨[], [], rfl, (List.cons.inj same).2.symm⟩
    | cons item front => exact absurd same (by simp)
  | cons word all ih =>
    cases front with
    | nil => exact ⟨[], word :: all, rfl, (List.cons.inj same).2.symm⟩
    | cons item front =>
      have tails := (List.cons.inj same).2
      rw [Terminated.cons] at tails
      have longer : ∃ middle, front = word ++ middle ∧ stop :: terminated stop all = middle ++ stop :: back := by
        rcases List.append_eq_append_iff.mp tails with ⟨middle, rfl, rest⟩ | ⟨middle, rfl, rest⟩
        · exact ⟨middle, rfl, rest⟩
        · cases middle with
          | nil => exact ⟨[], by rw [List.append_nil, List.append_nil], rest.symm⟩
          | cons item middle =>
            obtain ⟨rfl, -⟩ := List.cons.inj rest
            exact absurd (List.mem_append_right _ List.mem_cons_self) (free _ List.mem_cons_self)
      obtain ⟨middle, -, rest⟩ := longer
      obtain ⟨before, after, rfl, behind⟩ := ih (fun w member => free w (List.mem_cons_of_mem _ member)) rest
      exact ⟨word :: before, after, rfl, behind⟩

omit [DecidableEq α] in
theorem terminated_append (first second : List (List α)) :
    terminated stop (first ++ second) = terminated stop first ++ terminated stop second :=
  List.flatMap_append

omit [DecidableEq α] in
theorem last_stop (all : List (List α)) : ∃ front, stop :: terminated stop all = front ++ [stop] := by
  induction all using List.reverseRecOn with
  | nil => exact ⟨[], rfl⟩
  | append_singleton all word _ =>
    refine ⟨stop :: (terminated stop all ++ word), ?_⟩
    rw [terminated_append, Terminated.cons, Terminated.nil, List.cons_append, List.append_assoc]

theorem pieces_nonempty {text : List α} (nonempty : text ≠ []) (first : text.head? ≠ some stop)
    (last : text.getLast? ≠ some stop) (alone : ¬ [stop, stop] <:+: text) : [] ∉ text.splitOn stop := by
  intro empty
  obtain ⟨before, after, split⟩ := List.append_of_mem empty
  have whole : terminated stop (text.splitOn stop) = text ++ [stop] := terminated_splitOn text
  rw [split, terminated_append, Terminated.cons, List.nil_append] at whole
  obtain ⟨front, ends⟩ : ∃ front, stop :: terminated stop before = front ++ [stop] := last_stop before
  have doubled : front ++ [stop, stop] ++ terminated stop after = stop :: (text ++ [stop]) := by
    rw [← whole, ← List.cons_append, ends]
    simp only [List.append_assoc, List.cons_append, List.nil_append]
  cases front with
  | nil =>
    have tail := (List.cons.inj doubled).2
    cases text with
    | nil => exact nonempty rfl
    | cons item text =>
      have head := (List.cons.inj tail).1
      exact first (by rw [List.head?_cons, ← head])
  | cons item front =>
    have tail : front ++ [stop, stop] ++ terminated stop after = text ++ [stop] := (List.cons.inj doubled).2
    rcases List.eq_nil_or_concat (terminated stop after) with none | ⟨body, final, some⟩
    · rw [none, List.append_nil] at tail
      have shorter : front ++ [stop] = text := by
        apply List.append_cancel_right (_ : _ ++ [stop] = _)
        rw [← tail, List.append_assoc]
        rfl
      exact last (by rw [← shorter, List.getLast?_append, List.getLast?_singleton]; rfl)
    · rw [some, List.concat_eq_append, ← List.append_assoc] at tail
      have inside := (List.append_inj' tail rfl).1
      exact alone ⟨front, body, inside⟩

theorem words_eq_splitOn {text : List α} (full : [] ∉ text.splitOn stop) :
    words (· == stop) text = text.splitOn stop := by
  apply List.filter_eq_self.mpr
  intro piece member
  have nonempty : piece ≠ [] := fun empty => full (empty ▸ member)
  simpa using nonempty

theorem delimited_infix_iff (part text : List α) :
    delimited stop part <:+: delimited stop text ↔ part.splitOn stop <:+: text.splitOn stop := by
  rw [delimited, delimited, ← terminated_splitOn, ← terminated_splitOn]
  constructor
  · rintro ⟨front, back, same⟩
    rw [List.append_assoc, List.cons_append] at same
    obtain ⟨before, after, whole, behind⟩ :=
      cut_at_stop (fun word member => free_of_mem_splitOn member) same.symm
    have freeAfter : ∀ word ∈ after, stop ∉ word := fun word member =>
      free_of_mem_splitOn (whole ▸ List.mem_append_right _ member)
    have leads := leads_of_terminated (fun word member => free_of_mem_splitOn member) freeAfter behind.symm
    rw [whole]
    exact leads.isInfix.trans (List.suffix_append _ _).isInfix
  · rintro ⟨before, after, same⟩
    obtain ⟨front, ends⟩ : ∃ front, stop :: terminated stop before = front ++ [stop] := last_stop before
    refine ⟨front, terminated stop after, ?_⟩
    rw [← same, terminated_append, terminated_append, ← List.cons_append, ← List.cons_append, ends]
    simp only [List.append_assoc, List.nil_append, List.cons_append]

omit [DecidableEq α] in
theorem delimited_cases (part text : List α) :
    delimited stop part <:+: delimited stop text ↔ text = part ∨ part ++ [stop] <+: text ∨
      stop :: part <:+ text ∨ delimited stop part <:+: text := by
  constructor
  · rintro ⟨front, back, same⟩
    rcases List.eq_nil_or_concat back with none | ⟨back, last, some⟩
    · rw [none, List.append_nil] at same
      cases front with
      | nil =>
        have inside := List.append_cancel_right (List.cons.inj same).2
        exact .inl inside.symm
      | cons item front =>
        have inside : (front ++ stop :: part) ++ [stop] = text ++ [stop] := by
          rw [List.append_assoc]
          exact (List.cons.inj same).2
        exact .inr (.inr (.inl ⟨front, List.append_cancel_right inside⟩))
    · rw [some, List.concat_eq_append, ← List.append_assoc] at same
      cases front with
      | nil =>
        have inside : part ++ [stop] ++ back ++ [last] = text ++ [stop] := (List.cons.inj same).2
        exact .inr (.inl ⟨back, (List.append_inj' inside rfl).1⟩)
      | cons item front =>
        have inside : front ++ delimited stop part ++ back ++ [last] = text ++ [stop] := (List.cons.inj same).2
        exact .inr (.inr (.inr ⟨front, back, (List.append_inj' inside rfl).1⟩))
  · rintro (rfl | ⟨back, rfl⟩ | ⟨front, rfl⟩ | ⟨front, back, rfl⟩)
    · exact List.infix_refl _
    · exact ⟨[], back ++ [stop], by simp [delimited]⟩
    · exact ⟨stop :: front, [], by simp [delimited]⟩
    · exact ⟨stop :: front, back ++ [stop], by simp [delimited]⟩

end Stop

end Words
