import RustyFleet.Support.OrderedMap
import Mathlib.Logic.Relation

/-- Live entries under their keys, and what is kept of the entries that were retired. -/
structure Retention (κ α β : Type) [Ord κ] where
  active : BTreeMap κ α
  archived : BTreeMap κ β

namespace Retention

variable {κ α β : Type} [Ord κ] [Std.TransOrd κ]

/-- No key is both live and retired. -/
def Apart (shelf : Retention κ α β) : Prop :=
  ∀ (key : κ) entry, shelf.active[key]? = some entry → shelf.archived[key]? = none

def Holds (P : κ → α → Prop) (Q : κ → β → Prop) (shelf : Retention κ α β) : Prop :=
  (∀ (key : κ) entry, shelf.active[key]? = some entry → P key entry) ∧
    ∀ (key : κ) record, shelf.archived[key]? = some record → Q key record

/-- One change of one entry: it appears under a new key, is rewritten, or is retired. -/
inductive Step (fresh : κ → α → Prop) (edit : κ → α → α → Prop) (retire : κ → α → β → Prop)
    (shelf : Retention κ α β) : Retention κ α β → Prop
  | created (key : κ) (entry : α) (unused : shelf.active[key]? = none)
      (unretired : shelf.archived[key]? = none) (new : fresh key entry) :
      Step fresh edit retire shelf { shelf with active := shelf.active.insert key entry }
  | edited (key : κ) (entry next : α) (stored : shelf.active[key]? = some entry)
      (change : edit key entry next) :
      Step fresh edit retire shelf { shelf with active := shelf.active.insert key next }
  | retired (key : κ) (entry : α) (record : β) (stored : shelf.active[key]? = some entry)
      (change : retire key entry record) :
      Step fresh edit retire shelf
        { active := shelf.active.erase key, archived := shelf.archived.insert key record }

/-- Nothing is lost between two shelves: live entries go on or are retired, retired ones stay. -/
structure Keeps (later : α → α → Prop) (content : β → α) (before after : Retention κ α β) : Prop where
  active : ∀ (key : κ) entry, before.active[key]? = some entry →
    (∃ next, after.active[key]? = some next ∧ later entry next) ∨
      ∃ record, after.archived[key]? = some record ∧ later entry (content record)
  archived : ∀ (key : κ) record, before.archived[key]? = some record → after.archived[key]? = some record

section Keeps

variable {later : α → α → Prop} {content : β → α}

theorem Keeps.refl (reflexive : ∀ entry, later entry entry) (shelf : Retention κ α β) :
    Keeps later content shelf shelf where
  active := fun _ entry stored => .inl ⟨entry, stored, reflexive entry⟩
  archived := fun _ _ stored => stored

theorem Keeps.trans (transitive : ∀ a b c, later a b → later b c → later a c) {a b c : Retention κ α β}
    (first : Keeps later content a b) (second : Keeps later content b c) :
    Keeps later content a c where
  active := by
    intro key entry stored
    rcases first.active key entry stored with ⟨next, live, before⟩ | ⟨record, retired, before⟩
    · rcases second.active key next live with ⟨last, also, after⟩ | ⟨record, retired, after⟩
      · exact .inl ⟨last, also, transitive _ _ _ before after⟩
      · exact .inr ⟨record, retired, transitive _ _ _ before after⟩
    · exact .inr ⟨record, second.archived key record retired, before⟩
  archived := fun key record stored => second.archived key record (first.archived key record stored)

end Keeps

variable [Std.LawfulEqOrd κ] {fresh : κ → α → Prop} {edit : κ → α → α → Prop}
  {retire : κ → α → β → Prop} {P : κ → α → Prop} {Q : κ → β → Prop} {before after : Retention κ α β}

theorem Step.apart (apart : before.Apart) (step : Step fresh edit retire before after) : after.Apart := by
  cases step with
  | created key entry unused unretired new =>
    exact BTreeMap.insert_forall _ key entry (fun k _ => before.archived[k]? = none) apart unretired
  | edited key entry next stored change =>
    exact BTreeMap.insert_forall _ key next (fun k _ => before.archived[k]? = none) apart
      (apart key entry stored)
  | retired key entry record stored change =>
    intro other kept live
    by_cases same : other = key
    · rw [same, BTreeMap.lookup_erase_self] at live
      cases live
    · rw [BTreeMap.lookup_erase_of_ne _ same] at live
      show (before.archived.insert key record)[other]? = none
      rw [BTreeMap.lookup_insert_of_ne _ _ same]
      exact apart other kept live

theorem Step.holds (starts : ∀ key entry, fresh key entry → P key entry)
    (edits : ∀ key entry next, P key entry → edit key entry next → P key next)
    (retires : ∀ key entry record, P key entry → retire key entry record → Q key record)
    (holds : before.Holds P Q) (step : Step fresh edit retire before after) : after.Holds P Q := by
  obtain ⟨active, archived⟩ := holds
  cases step with
  | created key entry unused unretired new =>
    exact ⟨BTreeMap.insert_forall _ key entry P active (starts key entry new), archived⟩
  | edited key entry next stored change =>
    exact ⟨BTreeMap.insert_forall _ key next P active
      (edits key entry next (active key entry stored) change), archived⟩
  | retired key entry record stored change =>
    exact ⟨BTreeMap.erase_forall _ key P active, BTreeMap.insert_forall _ key record Q archived
      (retires key entry record (active key entry stored) change)⟩

theorem Step.keeps {later : α → α → Prop} {content : β → α}
    (reflexive : ∀ entry, later entry entry)
    (edits : ∀ key entry next, P key entry → edit key entry next → later entry next)
    (retires : ∀ key entry record, retire key entry record → later entry (content record))
    (holds : before.Holds P Q) (apart : before.Apart) (step : Step fresh edit retire before after) :
    Keeps later content before after := by
  obtain ⟨active, _⟩ := holds
  cases step with
  | created key entry unused unretired new =>
    refine ⟨fun other kept live => .inl ⟨kept, ?_, reflexive kept⟩, fun _ _ stored => stored⟩
    have different : other ≠ key := fun same => by
      rw [same, unused] at live
      cases live
    exact (BTreeMap.lookup_insert_of_ne _ _ different).trans live
  | edited key entry next stored change =>
    refine ⟨fun other kept live => .inl ?_, fun _ _ stored => stored⟩
    by_cases same : other = key
    · subst same
      cases stored.symm.trans live
      exact ⟨next, BTreeMap.lookup_insert_self _ _ _, edits _ _ _ (active _ _ stored) change⟩
    · exact ⟨kept, (BTreeMap.lookup_insert_of_ne _ _ same).trans live, reflexive kept⟩
  | retired key entry record stored change =>
    refine ⟨fun other kept live => ?_, fun other old known => ?_⟩
    · by_cases same : other = key
      · subst same
        cases stored.symm.trans live
        exact .inr ⟨record, BTreeMap.lookup_insert_self _ _ _, retires _ _ _ change⟩
      · exact .inl ⟨kept, (BTreeMap.lookup_erase_of_ne _ same).trans live, reflexive kept⟩
    · have different : other ≠ key := fun same => by
        rw [same, apart key entry stored] at known
        cases known
      exact (BTreeMap.lookup_insert_of_ne _ _ different).trans known

theorem path_keeps {later : α → α → Prop} {content : β → α}
    (reflexive : ∀ entry, later entry entry)
    (transitive : ∀ a b c, later a b → later b c → later a c)
    (starts : ∀ key entry, fresh key entry → P key entry)
    (edits : ∀ key entry next, P key entry → edit key entry next → P key next ∧ later entry next)
    (retires : ∀ key entry record, P key entry → retire key entry record → Q key record)
    (contents : ∀ key entry record, retire key entry record → later entry (content record))
    (holds : before.Holds P Q) (apart : before.Apart)
    (path : Relation.ReflTransGen (Step fresh edit retire) before after) :
    after.Holds P Q ∧ after.Apart ∧ Keeps later content before after := by
  induction path with
  | refl => exact ⟨holds, apart, .refl reflexive before⟩
  | tail _ step ih =>
    obtain ⟨held, separate, kept⟩ := ih
    exact ⟨step.holds starts (fun key entry next own change => (edits key entry next own change).1) retires
        held,
      step.apart separate,
      kept.trans transitive (step.keeps reflexive
        (fun key entry next own change => (edits key entry next own change).2) contents held separate)⟩

end Retention
