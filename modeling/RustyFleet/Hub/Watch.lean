import RustyFleet.Hub.Calls

namespace RustyFleet

def FleetHub.watch (hub : FleetHub) (afterSequence limit : Nat) : List WatchEvent :=
  (hub.events.filter fun event => decide (event.eventSequence > afterSequence)).take
    (min limit hub.policy.eventLimit)

/-- A client that polls for events and remembers the last sequence it received. -/
structure WatchClient where
  cursor : Nat
  received : List WatchEvent

def WatchClient.receive (client : WatchClient) (delivered : List WatchEvent) : WatchClient where
  cursor := (delivered.getLast?.map (·.eventSequence)).getD client.cursor
  received := client.received ++ delivered

structure WatchState where
  hub : FleetHub
  client : WatchClient

/-- A client starts at the Hub's current sequence. -/
def FleetHub.attachWatch (hub : FleetHub) : WatchState := ⟨hub, ⟨hub.eventSequence, []⟩⟩

inductive WatchStep
  | call (call : HubCall)
  | poll (limit : Nat)

inductive WatchAnswer
  | answered (answer : HubAnswer)
  | delivered (events : List WatchEvent)

variable [HubEnvironment]

/-- The Hub's calls, restarts among them, interleaved with the polls of one client. -/
def watchMachine : Machine WatchState WatchStep WatchAnswer where
  step
    | state, .call call =>
      let (next, answer) := state.hub.handle call
      ({ state with hub := next }, .answered answer)
    | state, .poll limit =>
      let delivered := state.hub.watch state.client.cursor limit
      ({ state with client := state.client.receive delivered }, .delivered delivered)

omit [HubEnvironment] in
/-- The event a call recorded: one for each decision on an observation. -/
def FleetHub.recordedEvents (hub : FleetHub) : HubCall → HubAnswer → List WatchEvent
  | .observe _ nowMs, .observed (.ok decision) =>
    [⟨watchEventSchema, saturatingSucc hub.eventSequence, nowMs, decision⟩]
  | _, _ => []

omit [HubEnvironment] in
def WatchState.recordedEvents (state : WatchState) : WatchStep → WatchAnswer → List WatchEvent
  | .call call, .answered answer => state.hub.recordedEvents call answer
  | _, _ => []

/-- Every poll asks for something, and at most as many events as the Hub keeps were recorded since the cursor. -/
def WatchState.pollsInTime (state : WatchState) : WatchStep → Prop
  | .call _ => True
  | .poll limit => 0 < limit ∧ state.hub.eventSequence ≤ state.client.cursor + state.hub.policy.eventLimit

end RustyFleet
