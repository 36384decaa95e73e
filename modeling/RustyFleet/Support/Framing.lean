import Mathlib.Tactic.Common

/-! Reading one framed message from a stream that arrives in pieces of any size. -/

namespace Framing

section Matches

variable {α : Type} [DecidableEq α] {pattern items : List α}

/-- Where a pattern first occurs. -/
def firstMatch (pattern : List α) : List α → Option Nat
  | [] => none
  | item :: rest =>
    if pattern.isPrefixOf (item :: rest) then some 0 else (firstMatch pattern rest).map (· + 1)

theorem firstMatch_bound {position : Nat} (found : firstMatch pattern items = some position) :
    position + pattern.length ≤ items.length := by
  induction items generalizing position with
  | nil => cases found
  | cons item rest ih =>
    unfold firstMatch at found
    split at found
    · rename_i here
      have inside := (List.isPrefixOf_iff_prefix.mp here).length_le
      cases found
      omega
    · obtain ⟨earlier, later, rfl⟩ := Option.map_eq_some_iff.mp found
      have bound := ih later
      rw [List.length_cons]
      omega

theorem firstMatch_append {position : Nat} (found : firstMatch pattern items = some position) (more : List α) :
    firstMatch pattern (items ++ more) = some position := by
  induction items generalizing position with
  | nil => cases found
  | cons item rest ih =>
    unfold firstMatch at found
    rw [List.cons_append, firstMatch]
    split at found
    · rename_i here
      have longer : pattern.isPrefixOf (item :: (rest ++ more)) = true := by
        have reaches := List.isPrefixOf_iff_prefix.mp here
        exact List.isPrefixOf_iff_prefix.mpr (reaches.trans (List.prefix_append (item :: rest) more))
      rw [if_pos longer]
      exact found
    · rename_i elsewhere
      have bound := @firstMatch_bound _ _ pattern (item :: rest) position (by
        unfold firstMatch
        rw [if_neg elsewhere]
        exact found)
      obtain ⟨earlier, later, rfl⟩ := Option.map_eq_some_iff.mp found
      have still : ¬ pattern.isPrefixOf (item :: (rest ++ more)) = true := by
        intro here
        apply elsewhere
        have reaches := List.isPrefixOf_iff_prefix.mp here
        have fits : pattern.length ≤ (item :: rest).length := by omega
        exact List.isPrefixOf_iff_prefix.mpr
          (List.prefix_of_prefix_length_le reaches (List.prefix_append (item :: rest) more) fits)
      rw [if_neg still, ih later]
      rfl

theorem firstMatch_take_none {position count : Nat} (found : firstMatch pattern items = some position)
    (short : count < position + pattern.length) : firstMatch pattern (items.take count) = none := by
  cases early : firstMatch pattern (items.take count) with
  | none => rfl
  | some other =>
    have whole := firstMatch_append early (items.drop count)
    rw [List.take_append_drop, found] at whole
    have bound := firstMatch_bound early
    rw [List.length_take] at bound
    cases whole
    omega

theorem firstMatch_take_some (filled : pattern ≠ []) {position count : Nat}
    (found : firstMatch pattern items = some position) (enough : position + pattern.length ≤ count) : firstMatch pattern (items.take count) = some position := by
  induction items generalizing position count with
  | nil => cases found
  | cons item rest ih =>
    have whole := found
    unfold firstMatch at found
    split at found
    · rename_i here
      have reaches := List.isPrefixOf_iff_prefix.mp here
      cases found
      cases count with
      | zero => exact absurd (List.length_eq_zero_iff.mp (by omega)) filled
      | succ count =>
        rw [List.take_succ_cons, firstMatch, if_pos]
        rw [← List.take_succ_cons]
        exact List.isPrefixOf_iff_prefix.mpr (List.prefix_take_iff.mpr ⟨reaches, by omega⟩)
    · rename_i elsewhere
      obtain ⟨earlier, later, rfl⟩ := Option.map_eq_some_iff.mp found
      cases count with
      | zero => omega
      | succ count =>
        have still : ¬ pattern.isPrefixOf (item :: rest.take count) = true := by
          intro here
          apply elsewhere
          have reaches := List.isPrefixOf_iff_prefix.mp here
          rw [← List.take_succ_cons] at reaches
          exact List.isPrefixOf_iff_prefix.mpr (reaches.trans (List.take_prefix _ _))
        rw [List.take_succ_cons, firstMatch, if_neg still, ih later (by omega)]
        rfl

theorem firstMatch_after {front : List α} (tail : List α)
    (apart : ∀ i, i < front.length → ¬ (pattern.take (front.length - i)).isPrefixOf (front.drop i) = true) :
    firstMatch pattern (front ++ tail) = (firstMatch pattern tail).map (· + front.length) := by
  induction front with
  | nil => simp
  | cons item rest ih =>
    have elsewhere : ¬ pattern.isPrefixOf (item :: (rest ++ tail)) = true := by
      intro here
      apply apart 0 (Nat.zero_lt_succ _)
      obtain ⟨beyond, same⟩ := List.isPrefixOf_iff_prefix.mp here
      have cut : (pattern ++ beyond).take (item :: rest).length = item :: rest := by
        rw [same, ← List.cons_append, List.take_left]
      rw [List.take_append] at cut
      exact List.isPrefixOf_iff_prefix.mpr ⟨_, cut⟩
    have later := ih fun i inside => by
      have shifted := apart (i + 1) (Nat.succ_lt_succ inside)
      rwa [List.length_cons, Nat.add_sub_add_right, List.drop_succ_cons] at shifted
    rw [List.cons_append, firstMatch, if_neg elsewhere, later, Option.map_map]
    congr 1

end Matches

section Loops

variable {α ε : Type}

/-- How a loop of reads ends: with what it collected and the reads it left, or with an error, or waiting. -/
inductive ReadOutcome (α ε : Type)
  | finished (collected : List α) (unread : List (Except ε (List α)))
  | failed (error : ε)
  | waiting (collected : List α)

/-- What a loop of reads knows of its messages: their greatest size, and the length a beginning announces. -/
structure Framer (α ε : Type) where
  maximum : Nat
  tooLong : ε
  exceeded : ε
  expectedLength : List α → Except ε (Option Nat)

/-- Read on until the announced length is there, the other side closes, or something is wrong. -/
def readLoop (framer : Framer α ε) (collected : List α) : List (Except ε (List α)) → ReadOutcome α ε
  | [] => .waiting collected
  | .error error :: _ => .failed error
  | .ok chunk :: rest =>
    if chunk.isEmpty then .finished collected rest
    else if collected.length + chunk.length > framer.maximum then .failed framer.tooLong
    else match framer.expectedLength (collected ++ chunk) with
      | .error error => .failed error
      | .ok none => readLoop framer (collected ++ chunk) rest
      | .ok (some expected) =>
        if (collected ++ chunk).length > expected then .failed framer.exceeded
        else if (collected ++ chunk).length = expected then .finished (collected ++ chunk) rest
        else readLoop framer (collected ++ chunk) rest

/-- A read ends after so many items. -/
def ReadEnds (reads : List (List α)) (count : Nat) : Prop :=
  ∃ front back, reads = front ++ back ∧ front ≠ [] ∧ front.flatten.length = count

theorem ReadEnds.later {chunk : List α} {rest : List (List α)} {count : Nat} (ends : ReadEnds rest count) :
    ReadEnds (chunk :: rest) (chunk.length + count) := by
  obtain ⟨front, back, rfl, _, rfl⟩ := ends
  refine ⟨chunk :: front, back, rfl, List.cons_ne_nil _ _, ?_⟩
  rw [List.flatten_cons, List.length_append]

theorem readEnds_cons {chunk : List α} {rest : List (List α)} {count : Nat} (ends : ReadEnds (chunk :: rest) count) :
    count = chunk.length ∨ ∃ later, ReadEnds rest later ∧ count = chunk.length + later := by
  obtain ⟨front, back, same, filled, rfl⟩ := ends
  cases front with
  | nil => exact absurd rfl filled
  | cons first others =>
    cases same
    rw [List.flatten_cons, List.length_append]
    cases others with
    | nil => exact .inl rfl
    | cons second others => exact .inr ⟨_, ⟨second :: others, back, rfl, List.cons_ne_nil _ _, rfl⟩, rfl⟩

/-- The framer recognises a message: its whole length is announced, and no beginning announces another. -/
structure Recognises (framer : Framer α ε) (message : List α) : Prop where
  filled : message ≠ []
  whole : framer.expectedLength message = .ok (some message.length)
  early : ∀ count, count < message.length → ∀ expected,
    framer.expectedLength (message.take count) = .ok (some expected) → expected = message.length

variable {framer : Framer α ε} {message : List α}

/-- No read ends where the framer refuses what has arrived. -/
def Tolerated (framer : Framer α ε) (message : List α) (reads : List (List α)) (start : Nat) : Prop :=
  message.length ≤ framer.maximum ∧ ∀ count, ReadEnds reads count →
    ∃ expected, framer.expectedLength (message.take (start + count)) = .ok expected

theorem tolerated_cons (chunk : List α) (rest : List (List α)) (start : Nat) :
    Tolerated framer message (chunk :: rest) start ↔
      (∃ expected, framer.expectedLength (message.take (start + chunk.length)) = .ok expected) ∧
        Tolerated framer message rest (start + chunk.length) := by
  constructor
  · rintro ⟨small, announced⟩
    refine ⟨?_, small, ?_⟩
    · apply announced
      exact ⟨[chunk], rest, rfl, List.cons_ne_nil _ _, by rw [List.flatten_cons, List.flatten_nil, List.append_nil]⟩
    · intro count ends
      rw [Nat.add_assoc]
      exact announced _ ends.later
  · rintro ⟨first, small, announced⟩
    refine ⟨small, ?_⟩
    intro count ends
    rcases readEnds_cons ends with rfl | ⟨later, inner, rfl⟩
    · exact first
    · rw [← Nat.add_assoc]
      exact announced later inner

theorem tolerated_nil (small : message.length ≤ framer.maximum) (start : Nat) :
    Tolerated framer message [] start := by
  refine ⟨small, ?_⟩
  rintro count ⟨front, back, empty, filled, _⟩
  exact absurd (List.append_eq_nil_iff.mp empty.symm).1 filled

theorem readLoop_from (recognised : Recognises framer message) (reads : List (List α)) :
    ∀ start, start < message.length → reads.flatten = message.drop start → (∀ chunk ∈ reads, chunk ≠ []) →
      (Tolerated framer message reads start →
        readLoop framer (message.take start) (reads.map .ok) = .finished message []) ∧
      (¬ Tolerated framer message reads start →
        ∃ error, readLoop framer (message.take start) (reads.map .ok) = .failed error) := by
  induction reads with
  | nil =>
    intro start inside content _
    have size := congrArg List.length content
    rw [List.flatten_nil, List.length_nil, List.length_drop] at size
    omega
  | cons chunk rest ih =>
    intro start inside content filled
    rw [List.flatten_cons] at content
    have size := congrArg List.length content
    rw [List.length_append, List.length_drop] at size
    have nonempty : chunk.isEmpty = false := List.isEmpty_eq_false_iff.mpr (filled chunk List.mem_cons_self)
    have others : ∀ other ∈ rest, other ≠ [] := fun other member => filled other (List.mem_cons_of_mem _ member)
    have collected : message.take start ++ chunk = message.take (start + chunk.length) := by
      rw [List.take_add, ← content, List.take_left]
    have remaining : rest.flatten = message.drop (start + chunk.length) := by
      rw [← List.drop_drop, ← content, List.drop_left]
    have before : (message.take start).length = start := List.length_take_of_le (Nat.le_of_lt inside)
    have after : (message.take (start + chunk.length)).length = start + chunk.length :=
      List.length_take_of_le (by omega)
    simp only [List.map_cons, readLoop, nonempty, collected, before, after, Bool.false_eq_true, if_false,
      tolerated_cons]
    by_cases large : start + chunk.length > framer.maximum
    · rw [if_pos large]
      refine ⟨?_, fun _ => ⟨_, rfl⟩⟩
      rintro ⟨_, small, _⟩
      omega
    · rw [if_neg large]
      cases announced : framer.expectedLength (message.take (start + chunk.length)) with
      | error error =>
        refine ⟨?_, fun _ => ⟨error, rfl⟩⟩
        rintro ⟨⟨_, ok⟩, _⟩
        cases ok
      | ok expected =>
        have known : (∃ length, (Except.ok expected : Except ε (Option Nat)) = .ok length) := ⟨expected, rfl⟩
        simp only [known, true_and]
        by_cases whole : start + chunk.length = message.length
        · have all : message.take (start + chunk.length) = message := by rw [whole, List.take_length]
          rw [all, recognised.whole] at announced
          cases announced
          have last : rest = [] := by
            rw [whole, List.drop_length] at remaining
            apply List.eq_nil_iff_forall_not_mem.mpr
            intro other member
            exact others other member (List.flatten_eq_nil_iff.mp remaining other member)
          subst last
          simp only [whole, List.take_length, gt_iff_lt, Nat.lt_irrefl, if_false, if_true, List.map_nil]
          refine ⟨fun _ => trivial, fun refused => absurd (tolerated_nil (by omega) _) refused⟩
        · have next := ih (start + chunk.length) (by omega) remaining others
          cases expected with
          | none => exact next
          | some expected =>
            have same := recognised.early _ (by omega) expected announced
            subst same
            dsimp only
            rw [if_neg (by omega), if_neg whole]
            exact next

theorem readLoop_collects (recognised : Recognises framer message) {reads : List (List α)}
    (content : reads.flatten = message) (filled : ∀ chunk ∈ reads, chunk ≠ []) :
    (Tolerated framer message reads 0 → readLoop framer [] (reads.map .ok) = .finished message []) ∧
      (¬ Tolerated framer message reads 0 → ∃ error, readLoop framer [] (reads.map .ok) = .failed error) :=
  readLoop_from recognised reads 0 (List.length_pos_iff.mpr recognised.filled) content filled

end Loops

end Framing
