import Mathlib.Data.List.Perm.Subperm
import RustyFleet.Local.IngressRate
import RustyFleet.Support.FixedWindow

namespace RustyFleet.Ingress

open FixedWindow IngressRateLimiter

structure IngressEvent where
  call : IngressCall
  charged : Bool
  admitted : Bool

def recordEvent (limiter : IngressRateLimiter) (call : IngressCall) (admitted : Bool) : List IngressEvent :=
  [{ call := call, charged := limiter.charges call.nowMs, admitted := admitted }]

def eventsOf (calls : List IngressCall) : List IngressEvent :=
  ingressMachine.history recordEvent .empty calls

/-- The clock does not go back. -/
def OrderedFrom (nowMs : Int) : List IngressCall → Prop
  | [] => True
  | call :: rest => nowMs ≤ call.nowMs ∧ OrderedFrom call.nowMs rest

def during (first last : Int) (event : IngressEvent) : Bool :=
  first ≤ event.call.nowMs && event.call.nowMs ≤ last

def admittedWithin (first last : Int) (past : List IngressEvent) : Nat :=
  past.countP fun event => event.admitted && during first last event

def admittedFor (keyId : String) (first last : Int) (past : List IngressEvent) : Nat :=
  past.countP fun event => event.admitted && event.call.keyId == some keyId && during first last event

def chargedWithin (first last : Int) (past : List IngressEvent) : Nat :=
  past.countP fun event => event.charged && during first last event

def chargedSince (start : Int) (past : List IngressEvent) : Nat :=
  past.countP fun event => event.charged && decide (start ≤ event.call.nowMs)

def callsSince (keyId : String) (start : Int) (past : List IngressEvent) : Nat :=
  past.countP fun event => event.call.keyId == some keyId && decide (start ≤ event.call.nowMs)

section Windows

theorem windowAge_lt_iff (window : CounterWindow) (nowMs : Int) :
    windowAgeMs window nowMs < rateWindowMs ↔ nowMs < window.startedAtMs + rateWindowMs := by
  simp only [windowAgeMs, saturateI64, i64Max, i64Min, rateWindowMs]
  omega

theorem rollWindow_cases (window : CounterWindow) (nowMs : Int) :
    rollWindow window nowMs = ⟨nowMs, 0⟩ ∧ (window.startedAtMs = 0 ∨ nowMs < window.startedAtMs ∨
        window.startedAtMs + rateWindowMs ≤ nowMs) ∨
      rollWindow window nowMs = window ∧ window.startedAtMs ≠ 0 ∧ window.startedAtMs ≤ nowMs ∧
        nowMs < window.startedAtMs + rateWindowMs := by
  have age := windowAge_lt_iff window nowMs
  unfold rollWindow
  by_cases ended : window.startedAtMs = 0 ∨ nowMs < window.startedAtMs ∨ windowAgeMs window nowMs ≥ rateWindowMs
  · rw [if_pos ended]
    refine .inl ⟨rfl, ?_⟩
    omega
  · rw [if_neg ended]
    refine .inr ⟨rfl, ?_, ?_, ?_⟩ <;> omega

end Windows

section Tracking

variable {nowMs laterMs : Int} {limiter : IngressRateLimiter} {past : List IngressEvent}

abbrev Counts (limit : Nat) (first last : Int) (window : CounterWindow) (nowMs : Int) (within : Nat) : Prop :=
  Within limit rateWindowMs first last window.startedAtMs nowMs window.count within

structure GlobalTracked (nowMs : Int) (global : CounterWindow) (past : List IngressEvent) : Prop where
  fresh : global.startedAtMs = 0 → past.countP (·.charged) = 0
  made : global.count ≤ chargedSince global.startedAtMs past
  counts : ∀ first last, last - first < rateWindowMs →
    Counts maxGlobalCheckinsPerWindow first last global nowMs (chargedWithin first last past)

structure CredentialsTracked (nowMs : Int) (stored : BTreeMap String CounterWindow) (past : List IngressEvent) :
    Prop where
  begun : ∀ (keyId : String) window, stored[keyId]? = some window → 0 < window.startedAtMs
  running : ∀ (keyId : String) window, stored[keyId]? = some window → nowMs < window.startedAtMs + rateWindowMs
  opened : ∀ (keyId : String) window, stored[keyId]? = some window → ∃ event ∈ past,
    event.charged = true ∧ event.call.keyId = some keyId ∧ event.call.nowMs = window.startedAtMs
  made : ∀ (keyId : String) window, stored[keyId]? = some window →
    window.count ≤ callsSince keyId window.startedAtMs past
  counts : ∀ (keyId : String) window, stored[keyId]? = some window → ∀ first last,
    last - first < rateWindowMs → Counts maxCheckinsPerCredentialPerWindow first last window nowMs
      (admittedFor keyId first last past)
  absent : ∀ (keyId : String), stored[keyId]? = none → ∀ first last, last - first < rateWindowMs →
    ∃ window : CounterWindow,
      Counts maxCheckinsPerCredentialPerWindow first last window nowMs (admittedFor keyId first last past) ∧
        (admittedFor keyId first last past = 0 ∨ window.startedAtMs + rateWindowMs ≤ nowMs)

theorem empty_counts (limit : Nat) (first last : Int) (started : 0 ≤ nowMs) :
    Counts limit first last emptyWindow nowMs 0 :=
  (within_fresh 0).pass started

theorem global_empty (started : 0 ≤ nowMs) : GlobalTracked nowMs emptyWindow [] where
  fresh _ := rfl
  made := Nat.zero_le _
  counts first last _ := empty_counts _ first last started

theorem credentials_empty (started : 0 ≤ nowMs) : CredentialsTracked nowMs ∅ [] := by
  have none : ∀ (keyId : String) window, (∅ : BTreeMap String CounterWindow)[keyId]? = some window → False := by
    intro keyId window stored
    simp at stored
  exact {
    begun := fun keyId window stored => absurd stored (none keyId window)
    running := fun keyId window stored => absurd stored (none keyId window)
    opened := fun keyId window stored => absurd stored (none keyId window)
    made := fun keyId window stored => absurd stored (none keyId window)
    counts := fun keyId window stored => absurd stored (none keyId window)
    absent := fun keyId _ first last _ => ⟨emptyWindow, empty_counts _ first last started, .inl rfl⟩ }

section Events

variable {global : CounterWindow} {event : IngressEvent}

theorem chargedWithin_snoc (first last : Int) (past : List IngressEvent) (event : IngressEvent) :
    chargedWithin first last (past ++ [event]) =
      chargedWithin first last past + if event.charged = true ∧ first ≤ event.call.nowMs ∧
        event.call.nowMs ≤ last then 1 else 0 := by
  simp [chargedWithin, List.countP_append, List.countP_singleton, during]

theorem admittedFor_snoc (keyId : String) (first last : Int) (past : List IngressEvent) (event : IngressEvent) :
    admittedFor keyId first last (past ++ [event]) =
      admittedFor keyId first last past + if (event.admitted = true ∧ event.call.keyId = some keyId) ∧
        first ≤ event.call.nowMs ∧ event.call.nowMs ≤ last then 1 else 0 := by
  simp [admittedFor, List.countP_append, List.countP_singleton, during]

theorem chargedSince_snoc (start : Int) (past : List IngressEvent) (event : IngressEvent) :
    chargedSince start (past ++ [event]) =
      chargedSince start past + if event.charged = true ∧ start ≤ event.call.nowMs then 1 else 0 := by
  simp [chargedSince, List.countP_append, List.countP_singleton]

theorem callsSince_snoc (keyId : String) (start : Int) (past : List IngressEvent) (event : IngressEvent) :
    callsSince keyId start (past ++ [event]) =
      callsSince keyId start past +
        if event.call.keyId = some keyId ∧ start ≤ event.call.nowMs then 1 else 0 := by
  simp [callsSince, List.countP_append, List.countP_singleton]

theorem chargedWithin_le (first last : Int) (past : List IngressEvent) :
    chargedWithin first last past ≤ past.countP (·.charged) := by
  apply List.countP_mono_left
  intro event _ counted
  simp only [Bool.and_eq_true] at counted
  exact counted.1

theorem GlobalTracked.started (tracked : GlobalTracked nowMs global past) : global.startedAtMs ≤ nowMs :=
  (tracked.counts 0 0 (by decide)).started

theorem GlobalTracked.roll (tracked : GlobalTracked nowMs global past) (passes : nowMs ≤ laterMs)
    (positive : 0 < laterMs) : GlobalTracked laterMs (rollWindow global laterMs) past := by
  have started := tracked.started
  rcases rollWindow_cases global laterMs with ⟨rolled, ended⟩ | ⟨kept, _⟩
  · rw [rolled]
    refine ⟨?_, Nat.zero_le _, ?_⟩
    · intro never
      have start : laterMs = 0 := never
      omega
    · intro first last short
      apply (tracked.counts first last short).roll passes short
      rcases ended with never | back | gone
      · have none := tracked.fresh never
        have few := chargedWithin_le first last past
        omega
      · omega
      · exact .inr gone
  · rw [kept]
    exact ⟨tracked.fresh, tracked.made, fun first last short => (tracked.counts first last short).pass passes⟩

theorem GlobalTracked.uncharged (tracked : GlobalTracked nowMs global past) (free : event.charged = false) :
    GlobalTracked nowMs global (past ++ [event]) := by
  refine ⟨?_, ?_, ?_⟩
  · intro never
    rw [List.countP_append, tracked.fresh never]
    simp [free]
  · rw [chargedSince_snoc]
    exact Nat.le_add_right_of_le tracked.made
  · intro first last short
    rw [chargedWithin_snoc, if_neg (by rw [free]; simp), Nat.add_zero]
    exact tracked.counts first last short

theorem GlobalTracked.charge (tracked : GlobalTracked nowMs global past) (begun : global.startedAtMs ≠ 0)
    (charged : event.charged = true) (now : event.call.nowMs = nowMs)
    (room : global.count < maxGlobalCheckinsPerWindow) :
    GlobalTracked nowMs global.charged (past ++ [event]) := by
  refine ⟨fun never => absurd never begun, ?_, ?_⟩
  · have made := tracked.made
    have started := tracked.started
    have since : global.charged.startedAtMs = global.startedAtMs := rfl
    rw [since, chargedSince_snoc, if_pos ⟨charged, by rw [now]; exact started⟩]
    exact Nat.succ_le_succ made
  · intro first last short
    have counted := (tracked.counts first last short).charge room
    rw [chargedWithin_snoc, now]
    simp only [charged, true_and]
    exact counted

end Events

section Credentials

variable {stored : BTreeMap String CounterWindow} {event : IngressEvent} {keyId : String}

theorem retained_iff (limiter : IngressRateLimiter) (nowMs : Int) (keyId : String) (window : CounterWindow) :
    (limiter.retained nowMs)[keyId]? = some window ↔
      limiter.byCredential[keyId]? = some window ∧ nowMs < window.startedAtMs + rateWindowMs := by
  rw [retained, BTreeMap.lookup_filter_iff, decide_eq_true_iff, windowAge_lt_iff]

theorem CredentialsTracked.retain (tracked : CredentialsTracked nowMs limiter.byCredential past)
    (passes : nowMs ≤ laterMs) : CredentialsTracked laterMs (limiter.retained laterMs) past where
  begun keyId window kept := tracked.begun keyId window ((retained_iff limiter laterMs keyId window).mp kept).1
  running keyId window kept := ((retained_iff limiter laterMs keyId window).mp kept).2
  opened keyId window kept := tracked.opened keyId window ((retained_iff limiter laterMs keyId window).mp kept).1
  made keyId window kept := tracked.made keyId window ((retained_iff limiter laterMs keyId window).mp kept).1
  counts keyId window kept first last short :=
    (tracked.counts keyId window ((retained_iff limiter laterMs keyId window).mp kept).1 first last short).pass passes
  absent keyId dropped first last short := by
    cases held : limiter.byCredential[keyId]? with
    | none =>
      obtain ⟨window, counts, ended⟩ := tracked.absent keyId held first last short
      refine ⟨window, counts.pass passes, ?_⟩
      omega
    | some window =>
      refine ⟨window, (tracked.counts keyId window held first last short).pass passes, .inr ?_⟩
      have gone : ¬ laterMs < window.startedAtMs + rateWindowMs := by
        intro running
        have kept := (retained_iff limiter laterMs keyId window).mpr ⟨held, running⟩
        rw [dropped] at kept
        cases kept
      omega

theorem CredentialsTracked.unadmitted (tracked : CredentialsTracked nowMs stored past)
    (without : ∀ keyId, ¬ (event.admitted = true ∧ event.call.keyId = some keyId)) :
    CredentialsTracked nowMs stored (past ++ [event]) := by
  have same : ∀ keyId first last, admittedFor keyId first last (past ++ [event]) =
      admittedFor keyId first last past := by
    intro keyId first last
    rw [admittedFor_snoc, if_neg (fun both => without keyId both.1), Nat.add_zero]
  constructor
  case begun => exact tracked.begun
  case running => exact tracked.running
  case opened =>
    intro keyId window kept
    obtain ⟨opening, member, facts⟩ := tracked.opened keyId window kept
    exact ⟨opening, List.mem_append_left _ member, facts⟩
  case made =>
    intro keyId window kept
    rw [callsSince_snoc]
    exact Nat.le_add_right_of_le (tracked.made keyId window kept)
  case counts =>
    intro keyId window kept first last short
    rw [same]
    exact tracked.counts keyId window kept first last short
  case absent =>
    intro keyId none first last short
    rw [same]
    exact tracked.absent keyId none first last short

theorem CredentialsTracked.window_cases (tracked : CredentialsTracked nowMs stored past) (keyId : String) :
    stored[keyId]? = some (rollWindow (stored[keyId]?.getD emptyWindow) nowMs) ∨
      stored[keyId]? = none ∧ rollWindow (stored[keyId]?.getD emptyWindow) nowMs = ⟨nowMs, 0⟩ := by
  cases held : stored[keyId]? with
  | none =>
    refine .inr ⟨rfl, ?_⟩
    rcases rollWindow_cases emptyWindow nowMs with ⟨rolled, _⟩ | ⟨_, begun, _⟩
    · exact rolled
    · exact absurd rfl begun
  | some window =>
    refine .inl ?_
    have begun := tracked.begun keyId window held
    have running := tracked.running keyId window held
    have started := (tracked.counts keyId window held 0 0 (by decide)).started
    rcases rollWindow_cases window nowMs with ⟨_, ended⟩ | ⟨kept, _⟩
    · omega
    · rw [Option.getD_some, kept]

structure WindowTracked (nowMs : Int) (keyId : String) (window : CounterWindow) (past : List IngressEvent) :
    Prop where
  begun : 0 < window.startedAtMs
  started : window.startedAtMs ≤ nowMs
  running : nowMs < window.startedAtMs + rateWindowMs
  opened : window.startedAtMs = nowMs ∨ ∃ event ∈ past,
    event.charged = true ∧ event.call.keyId = some keyId ∧ event.call.nowMs = window.startedAtMs
  made : window.count ≤ callsSince keyId window.startedAtMs past
  counts : ∀ first last, last - first < rateWindowMs →
    Counts maxCheckinsPerCredentialPerWindow first last window nowMs (admittedFor keyId first last past)

theorem CredentialsTracked.window (tracked : CredentialsTracked nowMs stored past) (positive : 0 < nowMs)
    (keyId : String) :
    WindowTracked nowMs keyId (rollWindow (stored[keyId]?.getD emptyWindow) nowMs) past := by
  rcases tracked.window_cases keyId with held | ⟨none, rolled⟩
  · exact ⟨tracked.begun _ _ held, (tracked.counts _ _ held 0 0 (by decide)).started, tracked.running _ _ held,
      .inr (tracked.opened _ _ held), tracked.made _ _ held, tracked.counts _ _ held⟩
  · rw [rolled]
    refine ⟨positive, Int.le_refl _, ?_, .inl rfl, Nat.zero_le _, ?_⟩
    · have width : 0 < rateWindowMs := by decide
      exact Int.lt_add_of_pos_right nowMs width
    · intro first last short
      obtain ⟨window, counts, ended⟩ := tracked.absent keyId none first last short
      exact counts.roll (Int.le_refl _) short ended

theorem CredentialsTracked.file (tracked : CredentialsTracked nowMs stored past) {window : CounterWindow}
    (known : WindowTracked nowMs keyId window (past ++ [event])) (named : event.call.keyId = some keyId)
    (now : event.call.nowMs = nowMs) (charged : event.charged = true) :
    CredentialsTracked nowMs (stored.insert keyId window) (past ++ [event]) := by
  have other : ∀ (otherId : String), otherId ≠ keyId → ∀ first last,
      admittedFor otherId first last (past ++ [event]) = admittedFor otherId first last past := by
    intro otherId apart first last
    rw [admittedFor_snoc, if_neg, Nat.add_zero]
    rintro ⟨⟨_, same⟩, _⟩
    rw [named] at same
    exact apart (Option.some.inj same).symm
  have lookup : ∀ (otherId : String) held, (stored.insert keyId window)[otherId]? = some held →
      otherId = keyId ∧ held = window ∨ otherId ≠ keyId ∧ stored[otherId]? = some held := by
    intro otherId held found
    by_cases same : otherId = keyId
    · subst same
      rw [BTreeMap.lookup_insert_self] at found
      exact .inl ⟨rfl, (Option.some.inj found).symm⟩
    · rw [BTreeMap.lookup_insert_of_ne _ _ same] at found
      exact .inr ⟨same, found⟩
  constructor
  case begun =>
    intro otherId held found
    rcases lookup otherId held found with ⟨rfl, rfl⟩ | ⟨_, kept⟩
    · exact known.begun
    · exact tracked.begun otherId held kept
  case running =>
    intro otherId held found
    rcases lookup otherId held found with ⟨rfl, rfl⟩ | ⟨_, kept⟩
    · exact known.running
    · exact tracked.running otherId held kept
  case opened =>
    intro otherId held found
    rcases lookup otherId held found with ⟨rfl, rfl⟩ | ⟨_, kept⟩
    · rcases known.opened with fresh | opened
      · exact ⟨event, List.mem_append_right _ (List.mem_singleton_self _), charged, named, now.trans fresh.symm⟩
      · exact opened
    · obtain ⟨opening, member, facts⟩ := tracked.opened otherId held kept
      exact ⟨opening, List.mem_append_left _ member, facts⟩
  case made =>
    intro otherId held found
    rcases lookup otherId held found with ⟨rfl, rfl⟩ | ⟨_, kept⟩
    · exact known.made
    · rw [callsSince_snoc]
      exact Nat.le_add_right_of_le (tracked.made otherId held kept)
  case counts =>
    intro otherId held found first last short
    rcases lookup otherId held found with ⟨rfl, rfl⟩ | ⟨apart, kept⟩
    · exact known.counts first last short
    · rw [other otherId apart]
      exact tracked.counts otherId held kept first last short
  case absent =>
    intro otherId missing first last short
    have apart : otherId ≠ keyId := by
      rintro rfl
      rw [BTreeMap.lookup_insert_self] at missing
      cases missing
    rw [BTreeMap.lookup_insert_of_ne _ _ apart] at missing
    rw [other otherId apart]
    exact tracked.absent otherId missing first last short

theorem WindowTracked.refuse {window : CounterWindow} (known : WindowTracked nowMs keyId window past)
    (refused : event.admitted = false) : WindowTracked nowMs keyId window (past ++ [event]) := by
  refine ⟨known.begun, known.started, known.running, ?_, ?_, ?_⟩
  · rcases known.opened with fresh | ⟨opening, member, facts⟩
    · exact .inl fresh
    · exact .inr ⟨opening, List.mem_append_left _ member, facts⟩
  · rw [callsSince_snoc]
    exact Nat.le_add_right_of_le known.made
  · intro first last short
    rw [admittedFor_snoc, if_neg (by rw [refused]; simp), Nat.add_zero]
    exact known.counts first last short

theorem WindowTracked.admitted {window : CounterWindow} (known : WindowTracked nowMs keyId window past)
    (admitted : event.admitted = true) (named : event.call.keyId = some keyId) (now : event.call.nowMs = nowMs)
    (room : window.count < maxCheckinsPerCredentialPerWindow) :
    WindowTracked nowMs keyId window.charged (past ++ [event]) := by
  have since : window.charged.startedAtMs = window.startedAtMs := rfl
  refine ⟨known.begun, known.started, known.running, ?_, ?_, ?_⟩
  · rcases known.opened with fresh | ⟨opening, member, facts⟩
    · exact .inl fresh
    · exact .inr ⟨opening, List.mem_append_left _ member, facts⟩
  · have started := known.started
    rw [since, callsSince_snoc, if_pos ⟨named, by rw [now]; exact started⟩]
    exact Nat.succ_le_succ known.made
  · intro first last short
    have counted := (known.counts first last short).charge room
    rw [admittedFor_snoc, now]
    simp only [admitted, named, true_and]
    exact counted

end Credentials

end Tracking

section Runs

variable {nowMs laterMs : Int} {limiter : IngressRateLimiter} {past : List IngressEvent}

structure LimiterTracked (nowMs : Int) (limiter : IngressRateLimiter) (past : List IngressEvent) : Prop where
  global : GlobalTracked nowMs limiter.global past
  credentials : CredentialsTracked nowMs limiter.byCredential past

theorem admit_tracked (tracked : LimiterTracked nowMs limiter past) (passes : nowMs ≤ laterMs)
    (positive : 0 < laterMs) (keyId : Option String) :
    LimiterTracked laterMs (limiter.admitCall keyId laterMs).1
      (past ++ recordEvent limiter ⟨keyId, laterMs⟩ (limiter.admitCall keyId laterMs).2) := by
  have global := tracked.global.roll passes positive
  have credentials := tracked.credentials.retain passes
  have begun : (rollWindow limiter.global laterMs).startedAtMs ≠ 0 := by
    rcases rollWindow_cases limiter.global laterMs with ⟨rolled, _⟩ | ⟨kept, begun, _⟩
    · rw [rolled]
      exact Int.ne_of_gt positive
    · rw [kept]
      exact begun
  unfold IngressRateLimiter.admitCall recordEvent
  cases full : limiter.charges laterMs with
  | false =>
    simp only [if_true]
    exact ⟨global.uncharged rfl, credentials.unadmitted (fun _ both => Bool.false_ne_true both.1)⟩
  | true =>
    have room : (rollWindow limiter.global laterMs).count < maxGlobalCheckinsPerWindow := by
      simpa only [charges, decide_eq_true_eq] using full
    simp only [Bool.true_eq_false, if_false]
    cases keyId with
    | none => exact ⟨global.charge begun rfl rfl room, credentials.unadmitted (fun _ both => nomatch both.2)⟩
    | some keyId =>
      have window := credentials.window positive keyId
      by_cases spent : (limiter.credentialWindow keyId laterMs).count ≥ maxCheckinsPerCredentialPerWindow
      · simp only [if_pos spent]
        exact ⟨global.charge begun rfl rfl room, credentials.file (window.refuse rfl) rfl rfl rfl⟩
      · simp only [if_neg spent]
        exact ⟨global.charge begun rfl rfl room,
          credentials.file (window.admitted rfl rfl rfl (Nat.lt_of_not_le spent)) rfl rfl rfl⟩

def lastTime (nowMs : Int) : List IngressCall → Int
  | [] => nowMs
  | call :: rest => lastTime call.nowMs rest

theorem orderedFrom_append (nowMs : Int) (calls later : List IngressCall) :
    OrderedFrom nowMs (calls ++ later) ↔ OrderedFrom nowMs calls ∧ OrderedFrom (lastTime nowMs calls) later := by
  induction calls generalizing nowMs with
  | nil => simp [OrderedFrom, lastTime]
  | cons call rest ih => simp [OrderedFrom, lastTime, ih, and_assoc]

theorem run_tracked (calls : List IngressCall) (nowMs : Int) (positive : 0 < nowMs) (limiter : IngressRateLimiter)
    (past : List IngressEvent) (ordered : OrderedFrom nowMs calls) (tracked : LimiterTracked nowMs limiter past) :
    LimiterTracked (lastTime nowMs calls) (ingressMachine.run limiter calls)
        (past ++ ingressMachine.history recordEvent limiter calls) ∧ 0 < lastTime nowMs calls := by
  induction calls generalizing nowMs limiter past with
  | nil => simpa [Machine.run, Machine.history, lastTime] using ⟨tracked, positive⟩
  | cons call rest ih =>
    have later : 0 < call.nowMs := Int.lt_of_lt_of_le positive ordered.1
    have next := admit_tracked tracked ordered.1 later call.keyId
    have ended := ih call.nowMs later _ _ ordered.2 next
    rw [List.append_assoc] at ended
    exact ended

theorem limiter_tracked (calls : List IngressCall) (ordered : OrderedFrom 1 calls) :
    LimiterTracked (lastTime 1 calls) (ingressMachine.run .empty calls) (eventsOf calls) ∧ 0 < lastTime 1 calls := by
  have start : LimiterTracked 1 .empty [] := ⟨global_empty (by decide), credentials_empty (by decide)⟩
  have ended := run_tracked calls 1 (by decide) .empty [] ordered start
  rwa [List.nil_append] at ended

/-- Calls that were charged to the shared budget with a credential after `start`. -/
def credentialCharges (start : Int) (past : List IngressEvent) : Nat :=
  past.countP fun event => event.charged && event.call.keyId.isSome && decide (start < event.call.nowMs)

theorem stored_bounded (tracked : LimiterTracked nowMs limiter past) :
    limiter.byCredential.size ≤ credentialCharges (nowMs - rateWindowMs) past := by
  let opening := past.filter fun event =>
    event.charged && event.call.keyId.isSome && decide (nowMs - rateWindowMs < event.call.nowMs)
  have within : limiter.byCredential.toList.map Prod.fst ⊆ opening.filterMap (·.call.keyId) := by
    intro keyId member
    obtain ⟨⟨stored, window⟩, listed, rfl⟩ := List.mem_map.mp member
    have held := Std.ExtTreeMap.mem_toList_iff_getElem?_eq_some.mp listed
    have running := tracked.credentials.running stored window held
    obtain ⟨event, known, charged, named, now⟩ := tracked.credentials.opened stored window held
    apply List.mem_filterMap.mpr
    refine ⟨event, List.mem_filter.mpr ⟨known, ?_⟩, named⟩
    have recent : nowMs - rateWindowMs < event.call.nowMs := by omega
    simp [charged, named, recent]
  have few := ((BTreeMap.toList_keys_nodup limiter.byCredential).subperm within).length_le
  have shrinks := List.length_filterMap_le (fun event : IngressEvent => event.call.keyId) opening
  have counted : opening.length = credentialCharges (nowMs - rateWindowMs) past := List.countP_eq_length_filter.symm
  rw [List.length_map, Std.ExtTreeMap.length_toList] at few
  omega

/-- A call that is within its credential's limit is refused only when the shared window is used up; `spent` counts
what used it up. -/
def RefusedOnlyWhenSpent (spent : Int → List IngressEvent → Nat) (calls : List IngressCall) : Prop :=
  ∀ keyId nowMs, OrderedFrom 1 (calls ++ [⟨some keyId, nowMs⟩]) →
    let limiter := ingressMachine.run .empty calls
    (limiter.admitCall (some keyId) nowMs).2 = false →
    callsSince keyId (limiter.credentialWindow keyId nowMs).startedAtMs (eventsOf calls) + 1 ≤
      maxCheckinsPerCredentialPerWindow →
    maxGlobalCheckinsPerWindow ≤ spent (rollWindow limiter.global nowMs).startedAtMs (eventsOf calls)

theorem refused_only_when_charged (calls : List IngressCall) : RefusedOnlyWhenSpent chargedSince calls := by
  intro keyId nowMs ordered limiter refused few
  obtain ⟨before, now, _⟩ := (orderedFrom_append 1 calls [⟨some keyId, nowMs⟩]).mp ordered
  obtain ⟨tracked, started⟩ := limiter_tracked calls before
  have positive : 0 < nowMs := Int.lt_of_lt_of_le started now
  have global := tracked.global.roll now positive
  have window := (tracked.credentials.retain now).window positive keyId
  have made : (limiter.credentialWindow keyId nowMs).count ≤
      callsSince keyId (limiter.credentialWindow keyId nowMs).startedAtMs (eventsOf calls) := window.made
  unfold IngressRateLimiter.admitCall at refused
  cases full : limiter.charges nowMs with
  | false =>
    have spent : maxGlobalCheckinsPerWindow ≤ (rollWindow limiter.global nowMs).count := by
      simpa only [charges, decide_eq_false_iff_not, Nat.not_lt] using full
    exact Nat.le_trans spent global.made
  | true =>
    have room : ¬ (limiter.credentialWindow keyId nowMs).count ≥ maxCheckinsPerCredentialPerWindow := by omega
    simp only [full, Bool.true_eq_false, if_false, if_neg room] at refused

theorem admittedFor_bounded (tracked : LimiterTracked nowMs limiter past) (keyId : String) (first last : Int)
    (short : last - first < rateWindowMs) :
    admittedFor keyId first last past ≤ 2 * maxCheckinsPerCredentialPerWindow := by
  cases held : limiter.byCredential[keyId]? with
  | some window => exact (tracked.credentials.counts keyId window held first last short).bound
  | none =>
    obtain ⟨window, counts, _⟩ := tracked.credentials.absent keyId held first last short
    exact counts.bound

theorem admitted_charged (limiter : IngressRateLimiter) (call : IngressCall) :
    ∀ event ∈ recordEvent limiter call (ingressMachine.answer limiter call),
      event.admitted = true → event.charged = true := by
  intro event member admitted
  rw [recordEvent, List.mem_singleton] at member
  subst member
  cases full : limiter.charges call.nowMs with
  | true => rfl
  | false =>
    have refused : ingressMachine.answer limiter call = false := by
      simp only [Machine.answer, ingressMachine, IngressRateLimiter.admitCall, full, if_true]
    rw [refused] at admitted
    cases admitted

theorem history_admitted_charged (calls : List IngressCall) (limiter : IngressRateLimiter) :
    ∀ event ∈ ingressMachine.history recordEvent limiter calls, event.admitted = true → event.charged = true := by
  induction calls generalizing limiter with
  | nil => exact fun event member => nomatch member
  | cons call rest ih =>
    intro event member
    rcases List.mem_append.mp member with first | later
    · exact admitted_charged limiter call event first
    · exact ih _ event later

theorem admittedWithin_le (calls : List IngressCall) (first last : Int) :
    admittedWithin first last (eventsOf calls) ≤ chargedWithin first last (eventsOf calls) := by
  apply List.countP_mono_left
  intro event member counted
  simp only [Bool.and_eq_true] at counted ⊢
  exact ⟨history_admitted_charged calls .empty event member counted.1, counted.2⟩

/-- Under a clock that does not go back: what an interval shorter than the window lets through, what the map holds,
and when a call within its credential's limit is refused. -/
theorem ingress_rate_bounded (calls : List IngressCall) (ordered : OrderedFrom 1 calls) :
    (∀ keyId first last, last - first < rateWindowMs →
        admittedFor keyId first last (eventsOf calls) ≤ 2 * maxCheckinsPerCredentialPerWindow) ∧
      (∀ first last, last - first < rateWindowMs →
        admittedWithin first last (eventsOf calls) ≤ 2 * maxGlobalCheckinsPerWindow) ∧
      (ingressMachine.run .empty calls).byCredential.size ≤
        credentialCharges (lastTime 1 calls - rateWindowMs) (eventsOf calls) ∧
      RefusedOnlyWhenSpent chargedSince calls := by
  have tracked := (limiter_tracked calls ordered).1
  refine ⟨admittedFor_bounded tracked, ?_, stored_bounded tracked, refused_only_when_charged calls⟩
  intro first last short
  exact Nat.le_trans (admittedWithin_le calls first last) (tracked.global.counts first last short).bound

section Samples

def sampleIngress : List IngressCall :=
  [⟨some "key-a", 1000⟩, ⟨some "key-b", 1000⟩, ⟨some "key-a", 11000⟩]

theorem sample_ingress_bounded :
    (∀ keyId first last, last - first < rateWindowMs →
        admittedFor keyId first last (eventsOf sampleIngress) ≤ 2 * maxCheckinsPerCredentialPerWindow) ∧
      (∀ first last, last - first < rateWindowMs →
        admittedWithin first last (eventsOf sampleIngress) ≤ 2 * maxGlobalCheckinsPerWindow) ∧
      (ingressMachine.run .empty sampleIngress).byCredential.size ≤
        credentialCharges (lastTime 1 sampleIngress - rateWindowMs) (eventsOf sampleIngress) ∧
      RefusedOnlyWhenSpent chargedSince sampleIngress :=
  ingress_rate_bounded sampleIngress ⟨by decide, by decide, by decide, trivial⟩

def admittedSince (start : Int) (past : List IngressEvent) : Nat :=
  past.countP fun event => event.admitted && decide (start ≤ event.call.nowMs)

theorem instant_charges (calls : List IngressCall) (instant : ∀ call ∈ calls, call.nowMs = 1)
    (limiter : IngressRateLimiter) (spent : Nat) (global : limiter.global = ⟨1, spent⟩)
    (room : spent + calls.length ≤ maxGlobalCheckinsPerWindow) :
    (ingressMachine.run limiter calls).global = ⟨1, spent + calls.length⟩ := by
  induction calls generalizing limiter spent with
  | nil => simpa [Machine.run] using global
  | cons call rest ih =>
    have now := instant call List.mem_cons_self
    have kept : rollWindow limiter.global call.nowMs = ⟨1, spent⟩ := by
      rw [global, now]
      rfl
    have free : limiter.charges call.nowMs = true := by
      rw [charges, kept, decide_eq_true_eq]
      simp only [List.length_cons] at room
      have short : spent < maxGlobalCheckinsPerWindow := by omega
      exact short
    have stepped : (ingressMachine.next limiter call).global = ⟨1, spent + 1⟩ := by
      simp only [Machine.next, ingressMachine, IngressRateLimiter.admitCall, free, Bool.true_eq_false, if_false, kept]
      cases call.keyId with
      | none => rfl
      | some keyId =>
        simp only
        split <;> rfl
    have ended := ih (fun later member => instant later (List.mem_cons_of_mem _ member))
      (ingressMachine.next limiter call) (spent + 1) stepped (by simp only [List.length_cons] at room; omega)
    rw [Machine.run, ended, List.length_cons]
    congr 1
    omega

theorem events_calls (calls : List IngressCall) (limiter : IngressRateLimiter) :
    (ingressMachine.history recordEvent limiter calls).map (·.call) = calls := by
  induction calls generalizing limiter with
  | nil => rfl
  | cons call rest ih =>
    rw [Machine.history, List.map_append, ih]
    rfl

def noisyCalls (count : Nat) : List IngressCall := List.replicate count ⟨some "key-noisy", 1⟩

theorem noisy_ordered (count : Nat) : OrderedFrom 1 (noisyCalls count ++ [⟨some "key-quiet", 1⟩]) := by
  induction count with
  | zero => exact ⟨by decide, trivial⟩
  | succ count ih => exact ⟨Int.le_refl 1, ih⟩

theorem noisy_spends (count : Nat) (room : count + 1 ≤ maxGlobalCheckinsPerWindow) :
    (ingressMachine.run .empty (noisyCalls (count + 1))).global = ⟨1, count + 1⟩ := by
  have first : (ingressMachine.next .empty ⟨some "key-noisy", 1⟩).global = ⟨1, 1⟩ := by decide
  have instant : ∀ call ∈ noisyCalls count, call.nowMs = 1 := by
    intro call member
    rw [List.eq_of_mem_replicate member]
  have length : (noisyCalls count).length = count := List.length_replicate
  have rest := instant_charges (noisyCalls count) instant _ 1 first (by rw [length]; omega)
  rw [length, Nat.add_comm] at rest
  exact rest

theorem noisy_callers (count : Nat) : ∀ event ∈ eventsOf (noisyCalls count),
    event.call = ⟨some "key-noisy", 1⟩ := by
  intro event member
  have listed : event.call ∈ (eventsOf (noisyCalls count)).map (·.call) := List.mem_map_of_mem member
  rw [eventsOf, events_calls] at listed
  exact List.eq_of_mem_replicate listed

theorem noisy_isolated_false (count : Nat) (budget : count + 1 = maxGlobalCheckinsPerWindow) :
    ¬ RefusedOnlyWhenSpent admittedSince (noisyCalls (count + 1)) := by
  have ordered := noisy_ordered (count + 1)
  obtain ⟨before, _⟩ := (orderedFrom_append 1 _ [⟨some "key-quiet", 1⟩]).mp ordered
  have tracked := (limiter_tracked _ before).1
  have callers := noisy_callers (count + 1)
  have rolled : rollWindow (ingressMachine.run .empty (noisyCalls (count + 1))).global 1 = ⟨1, count + 1⟩ := by
    rw [noisy_spends count (Nat.le_of_eq budget)]
    rfl
  have refused : ((ingressMachine.run .empty (noisyCalls (count + 1))).admitCall (some "key-quiet") 1).2 = false := by
    have full : (ingressMachine.run .empty (noisyCalls (count + 1))).charges 1 = false := by
      rw [charges, rolled, budget, decide_eq_false_iff_not]
      exact Nat.lt_irrefl _
    simp only [IngressRateLimiter.admitCall, full, if_true]
  have silent : ∀ start, callsSince "key-quiet" start (eventsOf (noisyCalls (count + 1))) = 0 := by
    intro start
    apply List.countP_eq_zero.mpr
    intro event member counted
    rw [callers event member] at counted
    simp at counted
  have few : admittedSince 1 (eventsOf (noisyCalls (count + 1))) ≤ 2 * maxCheckinsPerCredentialPerWindow := by
    apply Nat.le_trans _ (admittedFor_bounded tracked "key-noisy" 1 1 (by decide))
    apply List.countP_mono_left
    intro event member counted
    have caller := callers event member
    simp only [Bool.and_eq_true] at counted
    simp [counted.1, caller, during]
  intro isolated
  have claimed := isolated "key-quiet" 1 ordered refused (by rw [silent]; decide)
  rw [rolled] at claimed
  exact absurd (Nat.le_trans claimed few) (by decide)

/-- One credential's refused calls use up the shared budget: another one's first call is refused, though hardly any
call was admitted. -/
theorem excess_spends_shared_budget : ¬ RefusedOnlyWhenSpent admittedSince (noisyCalls (4095 + 1)) :=
  noisy_isolated_false 4095 rfl

end Samples

end Runs

end RustyFleet.Ingress
