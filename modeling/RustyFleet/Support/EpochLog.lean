import RustyFleet.Support.Lists

/-- Evidence that restarts its counter with every new epoch, under a revision that only grows. -/
structure Stamp (ε : Type*) where
  revision : Nat
  epoch : ε
  counter : Nat

namespace EpochLog

variable {ε : Type*} [DecidableEq ε]

/-- Lexicographic order by revision, by the epoch's position among those seen, and by counter. -/
def Before (seen : List ε) (a b : Stamp ε) : Prop :=
  a.revision < b.revision ∨
    (a.revision = b.revision ∧
      (seen.idxOf a.epoch < seen.idxOf b.epoch ∨
        (seen.idxOf a.epoch = seen.idxOf b.epoch ∧ a.counter < b.counter)))

/-- Neither the revision nor the epoch goes back. -/
def NotAfter (seen : List ε) (a b : Stamp ε) : Prop :=
  a.revision ≤ b.revision ∧ seen.idxOf a.epoch ≤ seen.idxOf b.epoch

theorem Before.irrefl (seen : List ε) (a : Stamp ε) : ¬ Before seen a a := by
  unfold Before
  omega

theorem Before.trans {seen : List ε} {a b c : Stamp ε} (first : Before seen a b)
    (second : Before seen b c) : Before seen a c := by
  unfold Before at first second ⊢
  omega

theorem NotAfter.trans {seen : List ε} {a b c : Stamp ε} (first : NotAfter seen a b)
    (second : NotAfter seen b c) : NotAfter seen a c := by
  unfold NotAfter at first second ⊢
  omega

theorem Before.later {seen further : List ε} {a b : Stamp ε} (known : a.epoch ∈ seen)
    (also : b.epoch ∈ seen) (before : Before seen a b) : Before (seen ++ further) a b := by
  unfold Before at before ⊢
  rwa [List.idxOf_append_of_mem known, List.idxOf_append_of_mem also]

theorem NotAfter.later {seen further : List ε} {a b : Stamp ε} (known : a.epoch ∈ seen)
    (also : b.epoch ∈ seen) (ordered : NotAfter seen a b) : NotAfter (seen ++ further) a b := by
  unfold NotAfter at ordered ⊢
  rwa [List.idxOf_append_of_mem known, List.idxOf_append_of_mem also]

theorem epoch_of_position {seen : List ε} {a b : ε} (known : a ∈ seen)
    (same : seen.idxOf a = seen.idxOf b) : a = b := by
  have bound : seen.idxOf b < seen.length := same ▸ List.idxOf_lt_length_of_mem known
  have first := List.getElem_idxOf (List.idxOf_lt_length_of_mem known)
  have second := List.getElem_idxOf bound
  rw [← first, ← second]
  congr 1

/-- The log of everything accepted so far against the epochs seen so far. -/
structure History (seen : List ε) (accepted : List (Stamp ε)) : Prop where
  distinct : seen.Nodup
  listed : ∀ stamp ∈ accepted, stamp.epoch ∈ seen
  increasing : accepted.Pairwise (Before seen)
  monotone : accepted.Pairwise (NotAfter seen)
  current : accepted.getLast?.map (·.epoch) = seen.getLast?

theorem History.first (stamp : Stamp ε) : History [stamp.epoch] [stamp] where
  distinct := by simp
  listed := by simp
  increasing := by simp
  monotone := by simp
  current := by simp

variable {seen : List ε} {accepted : List (Stamp ε)} {last next : Stamp ε}

theorem History.advance (history : History seen accepted) (final : accepted.getLast? = some last)
    (sameEpoch : next.epoch = last.epoch)
    (newer : last.revision < next.revision ∨
      (last.revision = next.revision ∧ last.counter < next.counter)) :
    History seen (accepted ++ [next]) where
  distinct := history.distinct
  listed := by
    intro stamp member
    rcases List.mem_append.mp member with earlier | single
    · exact history.listed stamp earlier
    · rw [List.mem_singleton.mp single, sameEpoch]
      exact history.listed last (List.mem_of_getLast? final)
  increasing := by
    have step : Before seen last next := by
      unfold Before
      rw [sameEpoch]
      omega
    refine Support.pairwise_snoc history.increasing fun a member => ?_
    rcases Support.pairwise_last history.increasing final a member with rfl | before
    · exact step
    · exact before.trans step
  monotone := by
    have step : NotAfter seen last next := by
      unfold NotAfter
      rw [sameEpoch]
      omega
    refine Support.pairwise_snoc history.monotone fun a member => ?_
    rcases Support.pairwise_last history.monotone final a member with rfl | before
    · exact step
    · exact before.trans step
  current := by
    rw [← history.current, final]
    simp [sameEpoch]

theorem History.move (history : History seen accepted) (final : accepted.getLast? = some last)
    (fresh : next.epoch ∉ seen) (newer : last.revision ≤ next.revision) :
    History (seen ++ [next.epoch]) (accepted ++ [next]) where
  distinct := by
    rw [List.nodup_append]
    refine ⟨history.distinct, by simp, ?_⟩
    intro a member b single same
    rw [List.mem_singleton] at single
    exact fresh (single ▸ same ▸ member)
  listed := by
    intro stamp member
    rcases List.mem_append.mp member with earlier | single
    · exact List.mem_append_left _ (history.listed stamp earlier)
    · rw [List.mem_singleton.mp single]
      simp
  increasing := by
    have known := history.listed last (List.mem_of_getLast? final)
    have step : Before (seen ++ [next.epoch]) last next := by
      unfold Before
      have earlier := List.idxOf_lt_length_of_mem known
      rw [List.idxOf_append_of_mem known, List.idxOf_append_of_notMem fresh]
      omega
    refine Support.pairwise_snoc (history.increasing.imp_of_mem fun {a b} first second before =>
      before.later (history.listed a first) (history.listed b second)) fun a member => ?_
    rcases Support.pairwise_last history.increasing final a member with rfl | before
    · exact step
    · exact (before.later (history.listed a member) known).trans step
  monotone := by
    have known := history.listed last (List.mem_of_getLast? final)
    have step : NotAfter (seen ++ [next.epoch]) last next := by
      unfold NotAfter
      have earlier := List.idxOf_lt_length_of_mem known
      rw [List.idxOf_append_of_mem known, List.idxOf_append_of_notMem fresh]
      omega
    refine Support.pairwise_snoc (history.monotone.imp_of_mem fun {a b} first second ordered =>
      ordered.later (history.listed a first) (history.listed b second)) fun a member => ?_
    rcases Support.pairwise_last history.monotone final a member with rfl | ordered
    · exact step
    · exact (ordered.later (history.listed a member) known).trans step
  current := by simp

theorem History.no_return (history : History seen accepted) {a b c : Stamp ε}
    (order : [a, b, c].Sublist accepted) (moved : a.epoch ≠ b.epoch) : c.epoch ≠ a.epoch := by
  have pairs := history.monotone.sublist order
  simp only [List.pairwise_cons, List.mem_cons, List.not_mem_nil, or_false, forall_eq_or_imp,
    forall_eq] at pairs
  intro back
  have known := history.listed a (order.subset List.mem_cons_self)
  obtain ⟨⟨first, _⟩, second, _⟩ := pairs
  have same : seen.idxOf a.epoch = seen.idxOf b.epoch := by
    have lower := first.2
    have upper := second.2
    rw [back] at upper
    omega
  exact moved (epoch_of_position known same)

end EpochLog
