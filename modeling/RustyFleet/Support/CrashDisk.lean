import Mathlib.Logic.Function.Basic
import Mathlib.Tactic.Common

/-- A file's content, and whether a crash keeps it. -/
structure StoredFile (β : Type*) where
  content : β
  synced : Bool

abbrev FileDirectory (π β : Type*) := π → Option (StoredFile β)

/-- What a running system sees, and the older directories a crash may still fall back to. -/
structure CrashDisk (π β : Type*) where
  present : FileDirectory π β
  pending : List (FileDirectory π β)

/-- The calls a program makes to a file system. -/
inductive FileStep (π β : Type*)
  | createDirectory
  | removeIfPresent (path : π)
  | createNew (path : π)
  | writeAll (path : π) (content : β)
  | syncAll (path : π)
  | rename (source target : π)
  | syncDirectory

/-- How one call ends; a failed write leaves some content, a crash picks what survives it. -/
inductive StepOutcome (β : Type*)
  | done
  | failed (error : String) (left : β)
  | crashed (survivor : Nat) (left : β)

inductive StepsEnd
  | finished
  | refused (text : String)
  | crashed
deriving DecidableEq

namespace FileDirectory

variable {π β : Type*} (directory : FileDirectory π β)

/-- What a crash leaves of a directory: content that was never synced may be anything. -/
def afterCrash (left : β) : FileDirectory π β := fun path =>
  (directory path).map fun file => if file.synced then file else { content := left, synced := true }

theorem afterCrash_eq (left : β) {path : π} {file : StoredFile β} (found : directory path = some file)
    (synced : file.synced = true) : directory.afterCrash left path = some file := by
  simp [afterCrash, found, synced]

theorem afterCrash_none_iff (left : β) (path : π) :
    directory.afterCrash left path = none ↔ directory path = none := by
  simp [afterCrash]

end FileDirectory

namespace FileStep

variable {π β : Type*} [DecidableEq π] [Inhabited β]

/-- A removal that finds nothing to remove makes no call. -/
def skipped (directory : FileDirectory π β) : FileStep π β → Bool
  | .removeIfPresent path => (directory path).isNone
  | _ => false

/-- The directory after a call that does what it is asked; `none` where the system refuses it. -/
def effect (directory : FileDirectory π β) : FileStep π β → Option (FileDirectory π β)
  | .createDirectory => some directory
  | .removeIfPresent path => some (Function.update directory path none)
  | .createNew path =>
    if (directory path).isNone then
      some (Function.update directory path (some { content := default, synced := false }))
    else none
  | .writeAll path content =>
    (directory path).map fun _ => Function.update directory path (some { content, synced := false })
  | .syncAll path =>
    (directory path).map fun file =>
      Function.update directory path (some { file with synced := true })
  | .rename source target =>
    (directory source).map fun file =>
      Function.update (Function.update directory source none) target (some file)
  | .syncDirectory => some directory

/-- The directory after a call that fails. -/
def failure (directory : FileDirectory π β) (left : β) : FileStep π β → FileDirectory π β
  | .writeAll path _ => Function.update directory path
      ((directory path).map fun _ => { content := left, synced := false })
  | _ => directory

def isBarrier : FileStep π β → Bool
  | .syncDirectory => true
  | _ => false

/-- The files a call may change. -/
def paths : FileStep π β → List π
  | .createDirectory | .syncDirectory => []
  | .removeIfPresent path | .createNew path | .writeAll path _ | .syncAll path => [path]
  | .rename source target => [source, target]

end FileStep

namespace CrashDisk

variable {π β : Type*}

def empty : CrashDisk π β where
  present := fun _ => none
  pending := []

variable (disk : CrashDisk π β)

/-- A statement about every directory the system may find itself with. -/
def Throughout (P : FileDirectory π β → Prop) : Prop :=
  P disk.present ∧ ∀ directory ∈ disk.pending, P directory

def changed (directory : FileDirectory π β) : CrashDisk π β where
  present := directory
  pending := disk.present :: disk.pending

def crash (survivor : Nat) (left : β) : CrashDisk π β where
  present := ((disk.present :: disk.pending).getD survivor disk.present).afterCrash left
  pending := []

variable [DecidableEq π] [Inhabited β]

def perform (step : FileStep π β) : Option (CrashDisk π β) :=
  (step.effect disk.present).map fun directory =>
    if step.isBarrier then { present := directory, pending := [] } else disk.changed directory

/-- Run steps in order, each with the outcome it meets; the first that does not succeed ends the run. -/
def runSteps : List (FileStep π β × String) → List (StepOutcome β) → CrashDisk π β →
    CrashDisk π β × StepsEnd
  | [], _, disk => (disk, .finished)
  | (step, refusal) :: rest, outcomes, disk =>
    if step.skipped disk.present then runSteps rest outcomes disk
    else
      match outcomes.headD .done, disk.perform step with
      | .failed error left, _ => (disk.changed (step.failure disk.present left), .refused (refusal ++ error))
      | .done, none => (disk, .refused refusal)
      | .done, some next => runSteps rest outcomes.tail next
      | .crashed survivor left, none => (disk.crash survivor left, .crashed)
      | .crashed survivor left, some next => (next.crash survivor left, .crashed)

omit [DecidableEq π] [Inhabited β] in
theorem changed_throughout {P : FileDirectory π β → Prop} {directory : FileDirectory π β}
    (kept : disk.Throughout P) (added : P directory) : (disk.changed directory).Throughout P := by
  constructor
  · exact added
  · intro older member
    rcases List.mem_cons.mp member with rfl | earlier
    · exact kept.1
    · exact kept.2 older earlier

omit [DecidableEq π] [Inhabited β] in
theorem crash_throughout {P : FileDirectory π β → Prop}
    (survives : ∀ directory left, P directory → P (directory.afterCrash left))
    (kept : disk.Throughout P) (survivor : Nat) (left : β) : (disk.crash survivor left).Throughout P := by
  constructor
  · apply survives
    rw [List.getD_eq_getElem?_getD]
    cases found : (disk.present :: disk.pending)[survivor]? with
    | none => exact kept.1
    | some directory =>
      rcases List.mem_cons.mp (List.mem_of_getElem? found) with rfl | earlier
      · exact kept.1
      · exact kept.2 directory earlier
  · intro directory member
    cases member

omit [DecidableEq π] [Inhabited β] in
theorem throughout_mono {P Q : FileDirectory π β → Prop} (weaker : ∀ directory, P directory → Q directory)
    (kept : disk.Throughout P) : disk.Throughout Q :=
  ⟨weaker _ kept.1, fun directory member => weaker directory (kept.2 directory member)⟩

/-- From a directory that satisfies `A`, one step keeps `P` however it ends, and ends in `B` when it is done. -/
structure StepSpec (P A : FileDirectory π β → Prop) (step : FileStep π β)
    (B : FileDirectory π β → Prop) : Prop where
  done : ∀ directory next, P directory → A directory → step.skipped directory = false →
    step.effect directory = some next → P next ∧ B next
  skipped : ∀ directory, P directory → A directory → step.skipped directory = true → B directory
  failed : ∀ directory left, P directory → A directory → P (step.failure directory left)

/-- Started in `A`, the steps keep `P` in every directory a crash may leave, and end in `B`. -/
def StepsSpec (P A : FileDirectory π β → Prop) (steps : List (FileStep π β × String))
    (B : FileDirectory π β → Prop) : Prop :=
  ∀ outcomes (disk : CrashDisk π β), disk.Throughout P → A disk.present →
    (disk.runSteps steps outcomes).1.Throughout P ∧
      ((disk.runSteps steps outcomes).2 = .finished → B (disk.runSteps steps outcomes).1.present)

theorem StepsSpec.nil (P A : FileDirectory π β → Prop) : StepsSpec P A [] A :=
  fun _ _ kept start => ⟨kept, fun _ => start⟩

theorem perform_throughout {P A B : FileDirectory π β → Prop} {step : FileStep π β} {next : CrashDisk π β}
    (spec : StepSpec P A step B) (kept : disk.Throughout P) (start : A disk.present)
    (called : step.skipped disk.present = false) (performed : disk.perform step = some next) :
    next.Throughout P ∧ B next.present := by
  rw [perform, Option.map_eq_some_iff] at performed
  obtain ⟨directory, effect, rfl⟩ := performed
  have reached := spec.done disk.present directory kept.1 start called effect
  by_cases barrier : step.isBarrier = true
  · rw [if_pos barrier]
    exact ⟨⟨reached.1, fun _ member => by cases member⟩, reached.2⟩
  · rw [if_neg barrier]
    exact ⟨disk.changed_throughout kept reached.1, reached.2⟩

theorem StepsSpec.cons {P A B C : FileDirectory π β → Prop} {step : FileStep π β}
    {rest : List (FileStep π β × String)} (refusal : String)
    (survives : ∀ directory left, P directory → P (directory.afterCrash left))
    (first : StepSpec P A step B) (later : StepsSpec P B rest C) :
    StepsSpec P A ((step, refusal) :: rest) C := by
  intro outcomes disk kept start
  rw [runSteps]
  by_cases skipped : step.skipped disk.present = true
  · rw [if_pos skipped]
    exact later outcomes disk kept (first.skipped disk.present kept.1 start skipped)
  · rw [if_neg skipped]
    have called := Bool.eq_false_iff.mpr skipped
    cases outcomes.headD .done with
    | failed error left =>
      exact ⟨disk.changed_throughout kept (first.failed disk.present left kept.1 start), nofun⟩
    | done =>
      cases performed : disk.perform step with
      | none => exact ⟨kept, nofun⟩
      | some next =>
        have reached := disk.perform_throughout first kept start called performed
        exact later outcomes.tail next reached.1 reached.2
    | crashed survivor left =>
      cases performed : disk.perform step with
      | none => exact ⟨disk.crash_throughout survives kept survivor left, nofun⟩
      | some next =>
        have reached := disk.perform_throughout first kept start called performed
        exact ⟨next.crash_throughout survives reached.1 survivor left, nofun⟩

end CrashDisk
