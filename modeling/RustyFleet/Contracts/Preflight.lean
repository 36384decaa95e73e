import RustyFleet.Contracts.Observation

namespace RustyFleet

inductive CommandLifecycle
  | proposed | accepted | rejected | dispatched | running | applied | failed | expired
  | cancellationRequested | cancelled | cleanupPending | cleaned
deriving DecidableEq, Repr

/-- The lifecycles every Hub ledger treats as final for a target. -/
def CommandLifecycle.isSettled : CommandLifecycle → Bool
  | .rejected | .applied | .failed | .expired | .cancelled => true
  | _ => false

/-- Frozen capability facts of one target; the four operation families share its fields. -/
structure TargetPreflight where
  deviceId : String
  identityRevision : Nat
  capabilityId : String
  capabilityEvidenceRevision : Nat
  capabilityOwner : String
  support : SupportState
  enablement : EnablementState
  authorization : AuthorizationState
  reachability : ReachabilityState
  freshness : FreshnessState
  observedAtMs : Int
  freshUntilMs : Int
  evaluatedAtMs : Int
  eligible : Bool
  reasonCode : String
  message : String
deriving DecidableEq

/-- The reason derived from the facts; families differ in the text for an unavailable route. -/
def TargetPreflight.expectedReasonCode (unavailable : String) (preflight : TargetPreflight) : String :=
  match preflight.support with
  | .unsupported => "unsupported"
  | .unknown => "support_unknown"
  | .supported => match preflight.enablement with
    | .disabled => "disabled"
    | .unknown => "enablement_unknown"
    | .enabled => match preflight.authorization with
      | .unauthorized => "unauthorized"
      | .restricted => "restricted"
      | .unknown => "authorization_unknown"
      | .authorized => match preflight.reachability with
        | .disconnected => "disconnected"
        | .unavailable => unavailable
        | .unknown => "reachability_unknown"
        | .reachable =>
          if preflight.freshness = .current ∧ preflight.evaluatedAtMs ≤ preflight.freshUntilMs then "ready"
          else if preflight.freshness = .unknown then "freshness_unknown"
          else "stale"

def TargetPreflight.expectedEligibility (unavailable : String) (preflight : TargetPreflight) : Bool :=
  preflight.expectedReasonCode unavailable == "ready"

def TargetPreflight.resultMismatch (unavailable : String) (preflight : TargetPreflight) : Prop :=
  preflight.eligible ≠ preflight.expectedEligibility unavailable ∨
    preflight.reasonCode ≠ preflight.expectedReasonCode unavailable

instance (unavailable : String) (preflight : TargetPreflight) :
    Decidable (preflight.resultMismatch unavailable) :=
  inferInstanceAs (Decidable (_ ∨ _))

/-- What one family's preflight contract fixes: its capability, its texts, its name for "unavailable". -/
structure PreflightProfile where
  capabilityId : String
  owner : String
  unavailable : String
  revisionMessage : String
  ownerMessage : String

def PreflightProfile.violations (profile : PreflightProfile) (preflight : TargetPreflight) :
    List ContractViolation :=
  requireNonempty preflight.deviceId "device_id" ++
  requireNonempty preflight.message "message" ++
  violationIf (preflight.identityRevision = 0 ∨ preflight.capabilityEvidenceRevision = 0)
    "invalid_revision" "identity_revision" profile.revisionMessage ++
  violationIf (preflight.capabilityId ≠ profile.capabilityId ∨ preflight.capabilityOwner ≠ profile.owner)
    "wrong_capability_owner" "capability_id" profile.ownerMessage ++
  violationIf (preflight.freshUntilMs < preflight.observedAtMs ∨
      preflight.evaluatedAtMs < preflight.observedAtMs)
    "invalid_preflight_window" "evaluated_at_ms" "preflight timestamps are not coherent" ++
  violationIf (preflight.resultMismatch profile.unavailable)
    "preflight_result_mismatch" "eligible"
    "eligibility and reason must match the frozen capability facts"

/-- The loop over a preview's preflights, remembering the device id of the one before. -/
def preflightListViolations (check : TargetPreflight → List ContractViolation) (message : String)
    (createdAtMs expiresAtMs : Int) (last : Option String) (index : Nat) :
    List TargetPreflight → List ContractViolation
  | [] => []
  | target :: rest =>
    (check target).map (·.within ("targets[" ++ toString index ++ "].")) ++
    violationIf (target.evaluatedAtMs < createdAtMs ∨ target.evaluatedAtMs > expiresAtMs ∨
        last.any fun previous => decide (target.deviceId ≤ previous))
      "noncanonical_preflight" ("targets[" ++ toString index ++ "]") message ++
    preflightListViolations check message createdAtMs expiresAtMs (some target.deviceId) (index + 1) rest

def isPortableByte (c : Char) : Bool := asciiAlphanumeric c || c == '.' || c == '_' || c == '-' || c == '/'

def isPortableId (value : String) (max : Nat) : Bool :=
  !value.isEmpty && value.utf8ByteSize ≤ max && value.toList.all isPortableByte

def isLowerHex (c : Char) : Bool := asciiDigit c || ('a' ≤ c && c ≤ 'f')

def isPrefixedSha256 (value : String) : Bool :=
  (value.toList.dropPrefix? "sha256:".toList).any fun hex =>
    hex.length == 64 && hex.all isLowerHex

/-- The keys of sorted, duplicate-free preflights are distinct. -/
theorem preflightList_nodup (check : TargetPreflight → List ContractViolation) (message : String)
    (createdAtMs expiresAtMs : Int) (last : Option String) (index : Nat) (targets : List TargetPreflight)
    (clear : preflightListViolations check message createdAtMs expiresAtMs last index targets = []) :
    (targets.map (·.deviceId)).Nodup ∧
      ∀ target ∈ targets, (∀ previous, last = some previous → previous < target.deviceId) ∧
        check target = [] ∧ createdAtMs ≤ target.evaluatedAtMs ∧ target.evaluatedAtMs ≤ expiresAtMs := by
  induction targets generalizing last index with
  | nil => simp
  | cons target rest ih =>
    simp only [preflightListViolations, List.append_eq_nil_iff, List.map_eq_nil_iff, violationIf_nil,
      not_or] at clear
    obtain ⟨⟨own, early, late, ordered⟩, tail⟩ := clear
    obtain ⟨distinct, bounds⟩ := ih _ _ tail
    have first : ∀ previous, last = some previous → previous < target.deviceId := by
      intro previous same
      simp only [same, Option.any_some, decide_eq_true_eq, String.not_le] at ordered
      exact ordered
    refine ⟨?_, ?_⟩
    · simp only [List.map_cons, List.nodup_cons, List.mem_map, not_exists, not_and]
      refine ⟨fun other member same => ?_, distinct⟩
      exact absurd ((bounds other member).1 _ rfl) (by rw [same]; exact String.lt_irrefl _)
    · intro other member
      rcases List.mem_cons.mp member with rfl | later
      · exact ⟨first, own, by omega, by omega⟩
      · obtain ⟨after, rest⟩ := bounds other later
        exact ⟨fun previous same => String.lt_trans (first previous same) (after _ rfl), rest⟩

end RustyFleet
