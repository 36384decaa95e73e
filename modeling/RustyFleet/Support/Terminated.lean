import Mathlib.Data.List.Basic
import Mathlib.Data.List.Count

/-- Words written one after another, each closed by the same stop. -/
def terminated {α : Type*} (stop : α) (words : List (List α)) : List α := words.flatMap (· ++ [stop])

namespace Terminated

variable {α : Type*} {stop : α}

@[simp] theorem nil : terminated stop ([] : List (List α)) = [] := rfl

theorem cons (word : List α) (words : List (List α)) :
    terminated stop (word :: words) = word ++ stop :: terminated stop words := by
  unfold terminated
  rw [List.flatMap_cons, List.append_assoc]
  rfl

theorem split {left right leftRest rightRest : List α} (leftFree : stop ∉ left) (rightFree : stop ∉ right)
    (same : left ++ stop :: leftRest = right ++ stop :: rightRest) : left = right ∧ leftRest = rightRest := by
  induction left generalizing right with
  | nil =>
    cases right with
    | nil => exact ⟨rfl, (List.cons.inj same).2⟩
    | cons first rest =>
      have stopped := (List.cons.inj same).1
      exact absurd (stopped ▸ List.mem_cons_self) rightFree
  | cons first rest ih =>
    cases right with
    | nil =>
      have stopped := (List.cons.inj same).1
      exact absurd (stopped ▸ List.mem_cons_self) leftFree
    | cons other others =>
      obtain ⟨rfl, tails⟩ := List.cons.inj same
      have later := ih (fun member => leftFree (List.mem_cons_of_mem _ member))
        (fun member => rightFree (List.mem_cons_of_mem _ member)) tails
      exact ⟨by rw [later.1], later.2⟩

theorem split_last {left right leftFront rightFront : List α} (leftFree : stop ∉ left)
    (rightFree : stop ∉ right) (same : leftFront ++ stop :: left = rightFront ++ stop :: right) :
    leftFront = rightFront ∧ left = right := by
  have turned := congrArg List.reverse same
  simp only [List.reverse_append, List.reverse_cons, List.append_assoc, List.singleton_append] at turned
  have parts := split (by rwa [List.mem_reverse]) (by rwa [List.mem_reverse]) turned
  exact ⟨List.reverse_injective parts.2, List.reverse_injective parts.1⟩

theorem injective_of_free {left right : List (List α)} (leftFree : ∀ word ∈ left, stop ∉ word)
    (rightFree : ∀ word ∈ right, stop ∉ word) (same : terminated stop left = terminated stop right) :
    left = right := by
  induction left generalizing right with
  | nil =>
    cases right with
    | nil => rfl
    | cons word words =>
      rw [cons] at same
      exact absurd same (by simp)
  | cons word words ih =>
    cases right with
    | nil =>
      rw [cons] at same
      exact absurd same (by simp)
    | cons other others =>
      rw [cons, cons] at same
      obtain ⟨rfl, rests⟩ := split (leftFree _ List.mem_cons_self) (rightFree _ List.mem_cons_self) same
      have later := ih (fun w member => leftFree w (List.mem_cons_of_mem _ member))
        (fun w member => rightFree w (List.mem_cons_of_mem _ member)) rests
      rw [later]

variable [DecidableEq α]

theorem count_stop (words : List (List α)) :
    (terminated stop words).count stop = words.length + words.flatten.count stop := by
  induction words with
  | nil => rfl
  | cons word words ih =>
    rw [cons, List.count_append, List.count_cons_self, ih, List.flatten_cons, List.count_append,
      List.length_cons]
    omega

theorem injective {left right : List (List α)} (free : ∀ word ∈ left, stop ∉ word)
    (counted : left.length = right.length) (same : terminated stop left = terminated stop right) :
    left = right := by
  apply injective_of_free free ?_ same
  have counts := congrArg (List.count stop) same
  rw [count_stop, count_stop, counted] at counts
  have none : left.flatten.count stop = 0 := by
    rw [List.count_eq_zero, List.mem_flatten]
    rintro ⟨word, listed, member⟩
    exact free word listed member
  have unstopped : stop ∉ right.flatten := by
    rw [← List.count_eq_zero]
    omega
  intro word listed member
  exact unstopped (List.mem_flatten.mpr ⟨word, listed, member⟩)

omit [DecidableEq α] in
theorem boundary_moves (front back next : List α) (rest : List (List α)) :
    terminated stop ((front ++ stop :: back) :: next :: rest) =
      terminated stop (front :: (back ++ stop :: next) :: rest) := by
  simp only [cons, List.append_assoc, List.cons_append]

end Terminated

section Utf8

theorem ByteArray.toList_loop (bytes : ByteArray) (index : Nat) (done : List UInt8) :
    ByteArray.toList.loop bytes index done = done.reverse ++ bytes.data.toList.drop index := by
  fun_induction ByteArray.toList.loop bytes index done with
  | case1 index done within ih =>
    have inside : index < bytes.data.toList.length := within
    rw [ih, List.reverse_cons, List.append_assoc, List.drop_eq_getElem_cons inside]
    congr 1
    show _ :: _ = _ :: _
    congr 1
    exact getElem!_pos bytes.data index within
  | case2 index done outside =>
    have past : bytes.data.toList.length ≤ index := Nat.not_lt.mp outside
    rw [List.drop_eq_nil_of_le past, List.append_nil]

theorem String.utf8Bytes_eq (value : String) :
    value.toUTF8.toList = value.toList.flatMap String.utf8EncodeChar := by
  have encoded : value.toUTF8 = (value.toList.flatMap String.utf8EncodeChar).toByteArray :=
    String.utf8Encode_toList.symm
  rw [encoded, ByteArray.toList, ByteArray.toList_loop]
  exact List.toList_data_toByteArray

theorem String.utf8Bytes_append (left right : String) :
    (left ++ right).toUTF8.toList = left.toUTF8.toList ++ right.toUTF8.toList := by
  simp only [String.utf8Bytes_eq, String.toList_append, List.flatMap_append]

theorem String.utf8Bytes_injective {left right : String}
    (same : left.toUTF8.toList = right.toUTF8.toList) : left = right := by
  rw [ByteArray.toList, ByteArray.toList, ByteArray.toList_loop, ByteArray.toList_loop] at same
  have bytes : left.toUTF8 = right.toUTF8 := by
    apply ByteArray.ext
    exact Array.toList_inj.mp same
  exact String.toByteArray_inj.mp bytes

theorem Char.zero_mem_utf8 (c : Char) : 0 ∈ String.utf8EncodeChar c ↔ c = Char.ofNat 0 := by
  have zero : c = Char.ofNat 0 ↔ c.val.toNat = 0 := by
    rw [Char.ext_iff, ← UInt32.toNat_inj]
    rfl
  rw [zero]
  fun_cases String.utf8EncodeChar c with
  | case1 v ascii =>
    rw [List.mem_singleton, ← UInt8.toNat_inj, UInt8.toNat_ofNat']
    show 0 = v % 256 ↔ v = 0
    omega
  | case2 v _ _ | case3 v _ _ _ | case4 v _ _ _ =>
    simp only [List.mem_cons, List.not_mem_nil, ← UInt8.toNat_inj, UInt8.toNat_ofNat', UInt8.toNat_ofNat,
      or_false]
    omega

theorem String.zero_mem_utf8 (value : String) :
    0 ∈ value.toUTF8.toList ↔ Char.ofNat 0 ∈ value.toList := by
  rw [String.utf8Bytes_eq, List.mem_flatMap]
  constructor
  · rintro ⟨c, member, zero⟩
    exact (Char.zero_mem_utf8 c).mp zero ▸ member
  · intro member
    exact ⟨_, member, (Char.zero_mem_utf8 _).mpr rfl⟩

end Utf8
