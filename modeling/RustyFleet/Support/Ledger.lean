import RustyFleet.Support.OrderedMap

namespace Ledger

variable {κ α : Type} [Ord κ] [Std.TransOrd κ] [Std.LawfulEqOrd κ]

/-- A bounded store that files every entry under its own name. -/
structure Sound (name : α → κ) (limit : Nat) (accepts : α → Prop) (stored : BTreeMap κ α) : Prop where
  named : ∀ (key : κ) entry, stored[key]? = some entry → name entry = key
  accepted : ∀ (key : κ) entry, stored[key]? = some entry → accepts entry
  bounded : stored.size ≤ limit

/-- What may be filed under a key: a new entry where there is room, or the next state of the one there. -/
inductive Write (name : α → κ) (limit : Nat) (fresh : α → Prop) (keeps : α → α → Prop)
    (stored : BTreeMap κ α) (key : κ) (entry : α) : Prop
  | created (room : stored.size < limit) (named : name entry = key) (new : fresh entry)
  | edited (prior : α) (found : stored[key]? = some prior) (kept : keeps prior entry)

variable {name : α → κ} {limit : Nat} {accepts : α → Prop} {fresh : α → Prop} {keeps : α → α → Prop}
  {stored : BTreeMap κ α} {key : κ} {entry : α}

omit [Std.LawfulEqOrd κ] in
theorem sound_empty : Sound name limit accepts (∅ : BTreeMap κ α) where
  named := by intro key entry found; simp at found
  accepted := by intro key entry found; simp at found
  bounded := by simp

omit [Std.LawfulEqOrd κ] in
theorem Sound.mono {permits : α → Prop} (weaker : ∀ entry, accepts entry → permits entry)
    (sound : Sound name limit accepts stored) : Sound name limit permits stored where
  named := sound.named
  accepted := fun key entry found => weaker entry (sound.accepted key entry found)
  bounded := sound.bounded

omit [Std.LawfulEqOrd κ] in
theorem Write.holds (holds : α → Prop) (write : Write name limit fresh keeps stored key entry)
    (sound : ∀ (key : κ) entry, stored[key]? = some entry → holds entry)
    (starts : ∀ entry, fresh entry → holds entry)
    (carried : ∀ prior next, keeps prior next → holds prior → holds next) : holds entry := by
  cases write with
  | created room named new => exact starts entry new
  | edited prior found kept => exact carried prior entry kept (sound key prior found)

theorem Sound.write (sound : Sound name limit accepts stored)
    (sameName : ∀ prior next, keeps prior next → name next = name prior)
    (write : Write name limit fresh keeps stored key entry) (accepted : accepts entry) :
    Sound name limit accepts (stored.insert key entry) := by
  refine ⟨?_, BTreeMap.insert_forall stored key entry (fun _ kept => accepts kept) sound.accepted accepted,
    ?_⟩
  · refine BTreeMap.insert_forall stored key entry (fun key kept => name kept = key) sound.named ?_
    cases write with
    | created room named new => exact named
    | edited prior found kept => exact (sameName prior entry kept).trans (sound.named key prior found)
  · cases write with
    | created room named new =>
      have grown := BTreeMap.size_insert_le stored key entry
      omega
    | edited prior found kept =>
      rw [BTreeMap.size_insert_present stored key entry prior found]
      exact sound.bounded

omit [Std.LawfulEqOrd κ] in
theorem Sound.erase (sound : Sound name limit accepts stored) (key : κ) :
    Sound name limit accepts (stored.erase key) where
  named := BTreeMap.erase_forall stored key (fun key entry => name entry = key) sound.named
  accepted := BTreeMap.erase_forall stored key (fun _ entry => accepts entry) sound.accepted
  bounded := Nat.le_trans Std.ExtTreeMap.size_erase_le sound.bounded

theorem Sound.ordered (sound : Sound name limit accepts stored) :
    (BTreeMap.storedValues stored).Pairwise fun a b => compare (name a) (name b) = .lt := by
  rw [BTreeMap.storedValues, List.pairwise_map]
  refine Std.ExtTreeMap.ordered_keys_toList.imp_of_mem fun {a b} inA inB before => ?_
  have left := sound.named a.1 a.2 (Std.ExtTreeMap.mem_toList_iff_getElem?_eq_some.mp inA)
  have right := sound.named b.1 b.2 (Std.ExtTreeMap.mem_toList_iff_getElem?_eq_some.mp inB)
  rw [left, right]
  exact before

end Ledger
