import Mathlib.Data.List.Nodup
import Mathlib.Tactic.Common

/-! A log that counts its entries, a bounded window on its end, and a reader that keeps a cursor. -/

namespace NumberedLog

variable {α : Type*} {number : α → Nat} {log : List α}

/-- What is left of a log that only keeps its newest entries. -/
def retained (limit : Nat) (log : List α) : List α := log.drop (log.length - limit)

theorem retained_length (limit : Nat) (log : List α) : (retained limit log).length = min limit log.length := by
  rw [retained, List.length_drop]
  omega

theorem retained_snoc (limit : Nat) (log : List α) (entry : α) :
    retained limit (retained limit log ++ [entry]) = retained limit (log ++ [entry]) := by
  have size := retained_length limit log
  have front : log.length - limit ≤ log.length := Nat.sub_le _ _
  simp only [retained] at size ⊢
  rw [← List.drop_append_of_le_length front, List.drop_drop]
  congr 1
  simp only [List.length_drop, List.length_append, List.length_singleton]
  omega

/-- The entries are numbered from one. -/
def Numbered (number : α → Nat) (log : List α) : Prop := log.map number = List.range' 1 log.length

theorem Numbered.nil (number : α → Nat) : Numbered number [] := rfl

theorem Numbered.snoc (numbered : Numbered number log) {entry : α} (next : number entry = log.length + 1) :
    Numbered number (log ++ [entry]) := by
  have before : log.map number = List.range' 1 log.length := numbered
  rw [Numbered, List.map_append, before, List.length_append, List.length_singleton, List.range'_concat,
    List.map_singleton, next, Nat.one_mul, Nat.add_comm 1]

theorem Numbered.getElem (numbered : Numbered number log) (i : Nat) (bound : i < log.length) :
    number log[i] = i + 1 := by
  have same : (log.map number)[i]? = (List.range' 1 log.length)[i]? := congrArg (·[i]?) numbered
  rw [List.getElem?_map, List.getElem?_eq_getElem bound, List.getElem?_range' bound] at same
  simp only [Option.map_some, Option.some.injEq] at same
  omega

theorem Numbered.mem_drop (numbered : Numbered number log) {k : Nat} {entry : α} (member : entry ∈ log.drop k) :
    k < number entry := by
  obtain ⟨i, bound, rfl⟩ := List.mem_iff_getElem.mp member
  rw [List.length_drop] at bound
  rw [List.getElem_drop, numbered.getElem (k + i) (by omega)]
  omega

theorem Numbered.mem_take (numbered : Numbered number log) {k : Nat} {entry : α} (member : entry ∈ log.take k) :
    number entry ≤ k := by
  obtain ⟨i, bound, rfl⟩ := List.mem_iff_getElem.mp member
  rw [List.length_take] at bound
  rw [List.getElem_take, numbered.getElem i (by omega)]
  omega

theorem Numbered.nodup (numbered : Numbered number log) : log.Nodup := by
  have distinct : (log.map number).Nodup := by
    rw [show log.map number = _ from numbered]
    exact List.nodup_range'
  exact List.Nodup.of_map number distinct

theorem Numbered.after (numbered : Numbered number log) (k cursor : Nat) :
    (log.drop k).filter (fun entry => decide (number entry > cursor)) = log.drop (max cursor k) := by
  have split : log.drop k = (log.drop k).take (max cursor k - k) ++ log.drop (max cursor k) := by
    conv_lhs => rw [← List.take_append_drop (max cursor k - k) (log.drop k)]
    rw [List.drop_drop]
    congr 2
    omega
  have early : ((log.drop k).take (max cursor k - k)).filter (fun entry => decide (number entry > cursor)) = [] := by
    apply List.filter_eq_nil_iff.mpr
    intro entry member
    have later := numbered.mem_drop (List.mem_of_mem_take member)
    rw [List.take_drop] at member
    have bound := numbered.mem_take (List.mem_of_mem_drop member)
    have past : ¬ number entry > cursor := by omega
    simpa using past
  have late : (log.drop (max cursor k)).filter (fun entry => decide (number entry > cursor)) =
      log.drop (max cursor k) := by
    apply List.filter_eq_self.mpr
    intro entry member
    have bound := numbered.mem_drop member
    exact decide_eq_true (by omega)
  rw [split, List.filter_append, early, late, List.nil_append]

theorem Numbered.retained_numbers (numbered : Numbered number log) (limit : Nat) :
    (retained limit log).map number =
      List.range' (log.length + 1 - (retained limit log).length) (retained limit log).length := by
  have size := retained_length limit log
  apply List.ext_getElem
  · rw [List.length_map, List.length_range']
  · intro i left right
    rw [List.length_map] at left
    rw [List.getElem_map, List.getElem_range', Nat.one_mul]
    have bound : log.length - limit + i < log.length := by omega
    have entry : (retained limit log)[i] = log[log.length - limit + i] := List.getElem_drop
    rw [entry, numbered.getElem _ bound]
    omega

theorem Numbered.evicted_iff (numbered : Numbered number log) (limit cursor : Nat) :
    (∃ entry ∈ log, cursor < number entry ∧ entry ∉ retained limit log) ↔ cursor < log.length - limit := by
  constructor
  · rintro ⟨entry, member, past, dropped⟩
    obtain ⟨i, bound, rfl⟩ := List.mem_iff_getElem.mp member
    rw [numbered.getElem i bound] at past
    by_contra inside
    apply dropped
    have position : log.length - limit ≤ i := by omega
    apply List.mem_iff_getElem.mpr
    refine ⟨i - (log.length - limit), ?_, ?_⟩
    · rw [retained, List.length_drop]
      omega
    · simp only [retained, List.getElem_drop]
      congr 1
      omega
  · intro outside
    have bound : cursor < log.length := by omega
    refine ⟨log[cursor], List.getElem_mem bound, ?_, ?_⟩
    · rw [numbered.getElem cursor bound]
      omega
    · intro kept
      have late := numbered.mem_drop kept
      rw [numbered.getElem cursor bound] at late
      omega

section Readers

/-- The entries past a cursor that a bounded read of the window returns. -/
def read (number : α → Nat) (window : List α) (cursor limit : Nat) : List α :=
  (window.filter fun entry => decide (number entry > cursor)).take limit

def advanced (number : α → Nat) (cursor : Nat) (delivered : List α) : Nat :=
  (delivered.getLast?.map number).getD cursor

theorem read_retained (numbered : Numbered number log) (capacity cursor limit : Nat) :
    read number (retained capacity log) cursor limit = (log.drop (max cursor (log.length - capacity))).take limit := by
  rw [read, retained, numbered.after]

theorem read_in_time (numbered : Numbered number log) {capacity cursor : Nat} (limit : Nat)
    (inTime : log.length ≤ cursor + capacity) :
    read number (retained capacity log) cursor limit = (log.drop cursor).take limit := by
  rw [read_retained numbered]
  congr 2
  omega

theorem advanced_eq (numbered : Numbered number log) {cursor : Nat} (within : cursor ≤ log.length) (limit : Nat) :
    advanced number cursor ((log.drop cursor).take limit) = cursor + ((log.drop cursor).take limit).length := by
  have size : ((log.drop cursor).take limit).length = min limit (log.length - cursor) := by
    rw [List.length_take, List.length_drop]
  rw [advanced, List.getLast?_eq_getElem?]
  by_cases empty : ((log.drop cursor).take limit).length = 0
  · rw [List.length_eq_zero_iff.mp empty]
    rfl
  · have bound : ((log.drop cursor).take limit).length - 1 < ((log.drop cursor).take limit).length := by omega
    rw [List.getElem?_eq_getElem bound, Option.map_some, Option.getD_some, List.getElem_take, List.getElem_drop,
      numbered.getElem _ (by omega)]
    omega

theorem gap_iff (numbered : Numbered number log) {capacity cursor limit : Nat} {first : α} {rest : List α}
    (delivered : read number (retained capacity log) cursor limit = first :: rest) :
    cursor + 1 < number first ↔ ∃ entry ∈ log, cursor < number entry ∧ entry ∉ retained capacity log := by
  rw [read_retained numbered] at delivered
  have head : ((log.drop (max cursor (log.length - capacity))).take limit)[0]? = some first := by
    rw [delivered]
    rfl
  obtain ⟨bound, same⟩ := List.getElem?_eq_some_iff.mp head
  have inside := bound
  rw [List.length_take, List.length_drop] at inside
  rw [List.getElem_take, List.getElem_drop] at same
  have position := numbered.getElem (max cursor (log.length - capacity) + 0) (by omega)
  rw [same] at position
  rw [numbered.evicted_iff, position]
  omega

/-- What a reader that started at one position has received when its cursor stands at another. -/
structure Reading (start cursor : Nat) (received log : List α) : Prop where
  started : start ≤ cursor
  within : cursor ≤ log.length
  content : received = (log.drop start).take (cursor - start)

variable {start cursor : Nat} {received : List α}

theorem Reading.begin (log : List α) : Reading log.length log.length [] log where
  started := Nat.le_refl _
  within := Nat.le_refl _
  content := by rw [Nat.sub_self, List.take_zero]

theorem Reading.snoc (reading : Reading start cursor received log) (entry : α) :
    Reading start cursor received (log ++ [entry]) where
  started := reading.started
  within := by
    have within := reading.within
    rw [List.length_append]
    omega
  content := by
    have started := reading.started
    have within := reading.within
    rw [reading.content, List.drop_append_of_le_length (by omega), List.take_append_of_le_length]
    rw [List.length_drop]
    omega

theorem Reading.receive (reading : Reading start cursor received log) (limit : Nat) :
    Reading start (cursor + ((log.drop cursor).take limit).length) (received ++ (log.drop cursor).take limit) log := by
  have started := reading.started
  have within := reading.within
  have size : ((log.drop cursor).take limit).length = min limit (log.length - cursor) := by
    rw [List.length_take, List.length_drop]
  refine ⟨by omega, by omega, ?_⟩
  have later : log.drop cursor = (log.drop start).drop (cursor - start) := by
    rw [List.drop_drop]
    congr 1
    omega
  have count : cursor + min limit (log.length - cursor) - start =
      (cursor - start) + min limit (log.length - cursor) := by omega
  rw [size, count, List.take_add, ← later, ← reading.content]
  congr 1
  rw [← List.length_drop, List.take_eq_take_min]

theorem Reading.split (reading : Reading start cursor received log) : received ++ log.drop cursor = log.drop start := by
  have started := reading.started
  have later : log.drop cursor = (log.drop start).drop (cursor - start) := by
    rw [List.drop_drop]
    congr 1
    omega
  rw [reading.content, later, List.take_append_drop]

end Readers

end NumberedLog
