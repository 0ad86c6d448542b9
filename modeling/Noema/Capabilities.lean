import Mathlib.Logic.Function.Basic
import Noema.Authority

/-!
# Capabilities and the events of an agent

The agent writes its decisions and actions to the event log, under ids it draws
from `uuid4`; results, reflections and other parts of the application bring ids of
their own.  A payload is given by the fields the agent writes or reads.
-/
namespace Noema

inductive EventId
  | uuid (number : Nat)
  | app (id : String)
deriving DecidableEq

inductive AgentEventType
  | agentStarted
  | agentStopped
  | cycleFailed
  | decisionProposed
  | decisionAuthorized
  | decisionDenied
  | decisionDeferred
  | decisionReauthorized
  | recoveryRequested
  | actionDispatched
  | actionStarted
  | actionSucceeded
  | actionFailed
  | actionSkipped
  | actionCompensated
  | actionCompensationFailed
  | actionAbandoned
  | factObserved
  | timerHeartbeat
  | other (type : String)
deriving DecidableEq

structure AgentPayload where
  intent : Option ActionIntent := none
  reason : Option String := none
  effectiveAuthority : Option AuthorityLevel := none
  effectiveRisk : Option RiskLevel := none
  capability : Option String := none
  idempotencyKey : Option String := none
  attempts : Option Nat := none
  output : Option Payload := none
  error : Option String := none
  retryable : Option Bool := none
  success : Option Bool := none
  key : Option String := none
  value : Option JSONValue := none
  workers : Option Nat := none
  triggerId : Option EventId := none
  accepted : Option Nat := none
  authorizationEventId : Option EventId := none
  originalAuthorizationEventId : Option EventId := none

structure AgentEvent where
  id : EventId
  type : AgentEventType
  source : String
  subject : Option String
  causationId : Option EventId
  payload : AgentPayload

/-- An event with an id of its own, as a result or a reflection brings it. -/
structure AppEvent where
  id : String
  type : AgentEventType
  source : String
  subject : Option String := none
  causationId : Option EventId := none
  payload : AgentPayload := {}

structure CapabilityResult where
  success : Bool
  output : Payload := .empty
  facts : List (String × JSONValue) := []
  events : List AppEvent := []
  error : Option String := none
  retryable : Bool := false

/-- What is emitted for a result: its facts, then its events. -/
inductive ResultEffect
  | fact (key : String) (value : JSONValue)
  | event (event : AppEvent)

def CapabilityResult.effects (result : CapabilityResult) : List ResultEffect :=
  result.facts.map (fun fact => .fact fact.1 fact.2) ++ result.events.map .event

/-- A capability: which object it is, and its spec. -/
structure Capability where
  object : Nat
  spec : CapabilitySpec
deriving DecidableEq

/-- `CapabilityRegistry`. -/
def CapabilityRegistry := String → Option Capability

namespace CapabilityRegistry

def empty : CapabilityRegistry := fun _ => none

/-- `register`: a name is taken once, unless it is replaced. -/
def register (registry : CapabilityRegistry) (capability : Capability) (replace : Bool) :
    Except PyError CapabilityRegistry :=
  if (registry capability.spec.name).isSome ∧ replace = false then
    .error (.valueError s!"capability already registered: {capability.spec.name}")
  else .ok (Function.update registry capability.spec.name (some capability))

/-- `get`. -/
def get (registry : CapabilityRegistry) (name : String) : Except PyError Capability :=
  match registry name with
  | some capability => .ok capability
  | none => .error (.keyError s!"unknown capability: {name}")

end CapabilityRegistry
end Noema
