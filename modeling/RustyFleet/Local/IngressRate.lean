import RustyFleet.Contracts.Violation
import RustyFleet.Support.Machine

namespace RustyFleet

def rateWindowMs : Int := 10000

def maxGlobalCheckinsPerWindow : Nat := 4096

def maxCheckinsPerCredentialPerWindow : Nat := 8

structure CounterWindow where
  startedAtMs : Int
  count : Nat
deriving DecidableEq

/-- `CounterWindow::default()`; a start of zero marks a window that never began. -/
def emptyWindow : CounterWindow where
  startedAtMs := 0
  count := 0

def windowAgeMs (window : CounterWindow) (nowMs : Int) : Int := max (saturateI64 (nowMs - window.startedAtMs)) 0

def rollWindow (window : CounterWindow) (nowMs : Int) : CounterWindow :=
  if window.startedAtMs = 0 ∨ nowMs < window.startedAtMs ∨ windowAgeMs window nowMs ≥ rateWindowMs then
    { startedAtMs := nowMs, count := 0 }
  else window

def CounterWindow.charged (window : CounterWindow) : CounterWindow := { window with count := window.count + 1 }

structure IngressRateLimiter where
  global : CounterWindow
  byCredential : BTreeMap String CounterWindow

namespace IngressRateLimiter

def empty : IngressRateLimiter where
  global := emptyWindow
  byCredential := ∅

variable (limiter : IngressRateLimiter)

/-- The credentials whose window has not run out. -/
def retained (nowMs : Int) : BTreeMap String CounterWindow :=
  limiter.byCredential.filter fun _ window => windowAgeMs window nowMs < rateWindowMs

/-- The shared budget is not used up. -/
def charges (nowMs : Int) : Bool := (rollWindow limiter.global nowMs).count < maxGlobalCheckinsPerWindow

def credentialWindow (keyId : String) (nowMs : Int) : CounterWindow :=
  rollWindow ((limiter.retained nowMs)[keyId]?.getD emptyWindow) nowMs

/-- The shared counter is charged before the credential's own one is looked at. -/
def admitCall (enrolledKeyId : Option String) (nowMs : Int) : IngressRateLimiter × Bool :=
  let global := rollWindow limiter.global nowMs
  if limiter.charges nowMs = false then
    ({ global := global, byCredential := limiter.retained nowMs }, false)
  else
    match enrolledKeyId with
    | none => ({ global := global.charged, byCredential := limiter.retained nowMs }, true)
    | some keyId =>
      let window := limiter.credentialWindow keyId nowMs
      if window.count ≥ maxCheckinsPerCredentialPerWindow then
        ({ global := global.charged, byCredential := (limiter.retained nowMs).insert keyId window }, false)
      else
        ({ global := global.charged, byCredential := (limiter.retained nowMs).insert keyId window.charged }, true)

end IngressRateLimiter

structure IngressCall where
  keyId : Option String
  nowMs : Int

def ingressMachine : Machine IngressRateLimiter IngressCall Bool where
  step limiter call := limiter.admitCall call.keyId call.nowMs

end RustyFleet
