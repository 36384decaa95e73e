import Mathlib.Tactic.Common

/-! A fixed-window counter against every interval shorter than its window: at most two of its windows meet one. -/

namespace FixedWindow

/-- What a counter that started its window at `start` knows of the events it counted between `first` and `last`. -/
structure Within (limit : Nat) (width first last start now : Int) (count within : Nat) : Prop where
  counted : count ≤ limit
  started : start ≤ now
  early : now < first → within = 0
  before : start < first → within ≤ count
  inside : first ≤ start → start ≤ last → within ≤ limit + count
  after : last < start → within ≤ 2 * limit

variable {limit count within : Nat} {width first last start now later : Int}

theorem within_fresh (now : Int) : Within limit width first last now now 0 0 := by
  constructor <;> omega

theorem Within.pass (known : Within limit width first last start now count within) (passes : now ≤ later) :
    Within limit width first last start later count within where
  counted := known.counted
  started := Int.le_trans known.started passes
  early early := known.early (Int.lt_of_le_of_lt passes early)
  before := known.before
  inside := known.inside
  after := known.after

theorem Within.bound (known : Within limit width first last start now count within) : within ≤ 2 * limit := by
  have counted := known.counted
  have before := known.before
  have inside := known.inside
  have after := known.after
  omega

theorem Within.roll (known : Within limit width first last start now count within) (passes : now ≤ later)
    (short : last - first < width) (expired : within = 0 ∨ start + width ≤ later) :
    Within limit width first last later later 0 within := by
  have bound := known.bound
  have counted := known.counted
  have early := known.early
  have before := known.before
  constructor
  case counted => omega
  case started => omega
  case early => omega
  case before => omega
  case inside =>
    intro reached unpassed
    rcases expired with none | ended
    · omega
    · have began : start < first := by omega
      have few := before began
      omega
  case after => omega

theorem Within.charge (known : Within limit width first last start now count within) (room : count < limit) :
    Within limit width first last start now (count + 1)
      (within + if first ≤ now ∧ now ≤ last then 1 else 0) := by
  have started := known.started
  have early := known.early
  have before := known.before
  have inside := known.inside
  have after := known.after
  constructor
  case counted => omega
  case started => omega
  case early =>
    intro soon
    rw [if_neg (by omega)]
    exact early soon
  case before =>
    intro began
    split <;> omega
  case inside =>
    intro reached unpassed
    split <;> omega
  case after =>
    intro passed
    rw [if_neg (by omega)]
    exact after passed

end FixedWindow
