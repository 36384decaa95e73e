import Mathlib.Data.List.Nodup
import Mathlib.Tactic.Common

/-! A bounded pool of workers: each holds one resource, no two the same one. -/

namespace WorkerPool

variable {κ δ : Type*} (resource : κ → δ) (limit : Nat)

structure Sound (running : List κ) : Prop where
  exclusive : (running.map resource).Nodup
  bounded : running.length ≤ limit

/-- The workers a pool may start together. -/
structure Admits (running started : List κ) : Prop where
  exclusive : (started.map resource).Nodup
  free : ∀ worker ∈ started, ∀ other ∈ running, resource worker ≠ resource other
  room : running.length + started.length ≤ limit

variable {resource limit} {running started : List κ}

theorem sound_nil : Sound resource limit [] where
  exclusive := List.nodup_nil
  bounded := Nat.zero_le _

theorem Sound.distinct (sound : Sound resource limit running) : running.Nodup :=
  List.Nodup.of_map resource sound.exclusive

theorem Sound.start (sound : Sound resource limit running) (admits : Admits resource limit running started) :
    Sound resource limit (running ++ started) where
  exclusive := by
    rw [List.map_append, List.nodup_append]
    refine ⟨sound.exclusive, admits.exclusive, ?_⟩
    intro held inRunning taken inStarted same
    obtain ⟨other, running, rfl⟩ := List.mem_map.mp inRunning
    obtain ⟨worker, starting, rfl⟩ := List.mem_map.mp inStarted
    exact admits.free worker starting other running same.symm
  bounded := by
    rw [List.length_append]
    exact admits.room

theorem Sound.perm (sound : Sound resource limit running) {same : List κ} (perm : running.Perm same) :
    Sound resource limit same where
  exclusive := (perm.map resource).nodup_iff.mp sound.exclusive
  bounded := by
    rw [← perm.length_eq]
    exact sound.bounded

theorem Sound.sublist (sound : Sound resource limit running) {fewer : List κ} (sub : fewer.Sublist running) :
    Sound resource limit fewer where
  exclusive := sound.exclusive.sublist (sub.map resource)
  bounded := Nat.le_trans sub.length_le sound.bounded

theorem admits_nil (sound : Sound resource limit running) : Admits resource limit running [] where
  exclusive := List.nodup_nil
  free := by
    intro worker member
    cases member
  room := sound.bounded

theorem Admits.snoc (admits : Admits resource limit running started) {worker : κ}
    (free : ∀ other ∈ running ++ started, resource worker ≠ resource other)
    (room : running.length + started.length < limit) :
    Admits resource limit running (started ++ [worker]) where
  exclusive := by
    rw [List.map_append, List.nodup_append]
    refine ⟨admits.exclusive, List.nodup_singleton _, ?_⟩
    intro held inStarted taken new same
    obtain ⟨other, starting, rfl⟩ := List.mem_map.mp inStarted
    rw [List.map_singleton, List.mem_singleton] at new
    exact free other (List.mem_append_right _ starting) (new ▸ same).symm
  free := by
    intro next member other inRunning
    rcases List.mem_append.mp member with earlier | new
    · exact admits.free next earlier other inRunning
    · rw [List.mem_singleton.mp new]
      exact free other (List.mem_append_left _ inRunning)
  room := by
    rw [List.length_append, List.length_singleton]
    omega

end WorkerPool
