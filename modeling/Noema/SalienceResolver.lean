import Mathlib.Data.Prod.Lex
import Mathlib.Algebra.BigOperators.Group.List.Basic
import Noema.AutonomicModels
import Noema.IntentModels
import Noema.Lib.Binary64
import Noema.Lib.Folding
import Noema.Lib.KeyedTable

/-!
# From signals to attention dispositions

`SalienceResolver` collects the signals that are active at a time, one for each id, lets the
inhibitory ones act on the excitatory ones of each subject, and describes for every subject
what the aware layer would receive.  Numbers are rational here: sums, products and quotients
are exact, and `round(…, 12)` takes the even one of two neighbours.
-/
namespace Noema

/-- What `==` compares of a signal: of its times, the instants. -/
def Signal.atInstants (signal : Signal) : Signal :=
  { signal with
    validFrom := .utc signal.validFrom.instant
    validUntil := .utc signal.validUntil.instant
    valid := signal.valid }

def Signal.excitatory (signal : Signal) : Bool :=
  match signal.role with
  | .excitatory => true
  | .inhibitory _ _ _ => false

/-- `inhibition_mode is InhibitionMode.HARD`. -/
def Signal.hard (signal : Signal) : Bool :=
  match signal.role with
  | .inhibitory _ _ .hard => true
  | _ => false

/-- `modulation_strength or 0.0`. -/
def Signal.strength (signal : Signal) : ℚ :=
  match signal.role with
  | .inhibitory _ _ (.modulate strength _ _) => strength
  | _ => 0

/-- `inhibits`. -/
def Signal.inhibits (signal : Signal) : List String :=
  match signal.role with
  | .inhibitory inhibits _ _ => inhibits
  | .excitatory => []

/-- An inhibitor acts on a signal of a subject. -/
def Signal.actsOn (inhibitor : Signal) (subject : String) (signal : Signal) : Bool :=
  (inhibitor.subject = "*" ∨ inhibitor.subject = subject) ∧
    ¬ inhibitor.precedence < signal.precedence ∧
    inhibitor.inhibits.any fun pattern => Glob.fnmatchcase signal.kind pattern

/-- What `stable_id` digests for a decision, and for one that the wake budget changed. -/
inductive SalienceIdentity
  | resolved (subject : String) (disposition : SalienceDisposition)
      (signalIds inhibitedBy modulatedBy : List String)
  | exhausted (subject : String) (signalIds : List String)

structure SalienceDecision where
  decisionId : String
  subject : String
  disposition : SalienceDisposition
  score : ℚ
  signalIds : List String
  evidenceEventIds : List String
  inhibitedBy : List String
  modulatedBy : List String
  reasons : List String
deriving DecidableEq

structure SalienceResolver where
  wakeThreshold : ℚ
  rememberThreshold : ℚ
  urgencyThreshold : ℚ
  expectedValueScale : ℚ
  wakeBudget : Option Nat
  wakeThreshold_unit : 0 ≤ wakeThreshold ∧ wakeThreshold ≤ 1
  rememberThreshold_unit : 0 ≤ rememberThreshold ∧ rememberThreshold ≤ 1
  urgencyThreshold_unit : 0 ≤ urgencyThreshold ∧ urgencyThreshold ≤ 1
  expectedValueScale_pos : 0 < expectedValueScale

/-- `round(value, 12)`. -/
def round12 (value : ℚ) : ℚ := Binary64.nearestEven (value * 10 ^ 12) / 10 ^ 12

/-- `max(values, default=0.0)`. -/
def maxOrZero : List ℚ → ℚ
  | [] => 0
  | first :: rest => rest.foldl max first

namespace SalienceResolver

variable (r : SalienceResolver)

/-! ## Scores -/

/-- `_contribution`. -/
def contribution (signal : Signal) : ℚ :=
  let normalizedValue := signal.expectedValue / (signal.expectedValue + r.expectedValueScale)
  let weighted := 7 / 10 * signal.salience + 2 / 10 * signal.urgency + 1 / 10 * normalizedValue
  min 1 (signal.confidence * weighted)

/-- `_attenuation`. -/
def attenuation (modulators : List Signal) : ℚ :=
  (modulators.map fun modulator =>
    1 - modulator.strength * modulator.confidence * modulator.salience).prod

/-- `_modulated_contribution`. -/
def modulatedContribution (signal : Signal) (modulators : List Signal) : ℚ :=
  r.contribution signal * attenuation modulators

/-- `_unopposed_disposition`, and the reason that it appends. -/
def unopposedDisposition (requested : List SalienceDisposition) (score maxUrgency : ℚ) :
    SalienceDisposition × String :=
  if .reflexProposal ∈ requested ∧ r.wakeThreshold ≤ score then
    (.reflexProposal, "bounded reflex proposal threshold reached")
  else if .wake ∈ requested ∧ (r.wakeThreshold ≤ score ∨ r.urgencyThreshold ≤ maxUrgency) then
    (.wake, "wake threshold reached")
  else if r.rememberThreshold ≤ score then (.remember, "retention threshold reached")
  else (.defer, "below current attention thresholds")

/-! ## One subject -/

section Subject

variable (subject : String) (signals inhibitors : List Signal)

/-- `hard_blocked_ids`. -/
def blocked (signal : Signal) : Bool :=
  inhibitors.any fun inhibitor => inhibitor.actsOn subject signal && inhibitor.hard

/-- `modulation_by_signal.get(signal.signal_id, ())`. -/
def modulatorsOf (signal : Signal) : List Signal :=
  inhibitors.filter fun inhibitor => inhibitor.actsOn subject signal && !inhibitor.hard

/-- `effective`. -/
def effective : List Signal := signals.filter fun signal => !blocked subject inhibitors signal

/-- The inhibitors that act on a signal in one of the modes, in the order of their ids, which
are distinct: `blocking` and `modulating`. -/
def acting (hard : Bool) : List Signal :=
  (inhibitors.filter fun inhibitor =>
    inhibitor.hard = hard ∧ signals.any fun signal => inhibitor.actsOn subject signal).insertionSort
      fun a b => a.signalId ≤ b.signalId

/-- `score`. -/
def score : ℚ :=
  let scored := if effective subject signals inhibitors = [] then signals
    else effective subject signals inhibitors
  round12 (1 - (scored.map fun signal =>
    1 - r.modulatedContribution signal (modulatorsOf subject inhibitors signal)).prod)

/-- `max_urgency`. -/
def maxUrgency : ℚ :=
  maxOrZero ((effective subject signals inhibitors).map fun signal =>
    signal.urgency * attenuation (modulatorsOf subject inhibitors signal))

/-- The disposition of `_resolve_subject`, and the reasons for it. -/
def dispositionOf : SalienceDisposition × List String :=
  let blocking := acting subject signals inhibitors true
  let modulating := acting subject signals inhibitors false
  let effective := effective subject signals inhibitors
  let aggregated := s!"aggregated {signals.length} signal(s)"
  if blocking ≠ [] ∧ effective = [] then
    (.suppress, [aggregated, "all signals inhibited by equal-or-higher precedence"])
  else
    let requested := effective.map fun signal => signal.suggestedDisposition
    let (disposition, reason) := r.unopposedDisposition requested
      (r.score subject signals inhibitors) (maxUrgency subject signals inhibitors)
    let hardBlocked := signals.length - effective.length
    (disposition,
      [aggregated] ++
        (if blocking ≠ [] then [s!"hard-inhibited {hardBlocked} lower-precedence signal(s)"]
          else []) ++
        (if modulating ≠ [] then [s!"graded by {modulating.length} modulation signal(s)"] else []) ++
        [reason])

/-- `_resolve_subject`. -/
def resolveSubject (ids : SalienceIdentity → String) : SalienceDecision :=
  let blocking := acting subject signals inhibitors true
  let modulating := acting subject signals inhibitors false
  let (disposition, reasons) := r.dispositionOf subject signals inhibitors
  let signalIds := signals.map Signal.signalId
  let inhibitedBy := blocking.map Signal.signalId
  let modulatedBy := modulating.map Signal.signalId
  { decisionId := "salience-decision:" ++
      ids (.resolved subject disposition signalIds inhibitedBy modulatedBy)
    subject, disposition, score := r.score subject signals inhibitors, signalIds
    evidenceEventIds := sortedIds
      ((signals ++ blocking ++ modulating).flatMap fun signal => signal.evidenceEventIds)
    inhibitedBy, modulatedBy, reasons }

end Subject

/-! ## All subjects -/

/-- What decisions to wake are ranked by. -/
def wakeKey (decision : SalienceDecision) : ℚ ×ₗ String := toLex (-decision.score, decision.subject)

/-- The ids of the decisions to wake that a budget allows. -/
def allowedIds (budget : Nat) (decisions : List SalienceDecision) : List String :=
  let waking := decisions.filter fun decision => decision.disposition = .wake
  ((waking.insertionSort fun a b => wakeKey a ≤ wakeKey b).take budget).map
    SalienceDecision.decisionId

/-- A decision to wake becomes one to defer. -/
def exhausted (ids : SalienceIdentity → String) (decision : SalienceDecision) : SalienceDecision :=
  { decision with
    decisionId := "salience-decision:" ++ ids (.exhausted decision.subject decision.signalIds)
    disposition := .defer
    reasons := decision.reasons ++ ["wake budget exhausted"] }

/-- `_apply_wake_budget`. -/
def applyWakeBudget (ids : SalienceIdentity → String) (decisions : List SalienceDecision) :
    List SalienceDecision :=
  match r.wakeBudget with
  | none => decisions
  | some budget =>
    decisions.map fun decision =>
      if decision.disposition = .wake ∧ decision.decisionId ∉ allowedIds budget decisions then
        exhausted ids decision
      else decision

/-- One signal is put into `active_by_id`. -/
def collect (at' : Datetime) (activeById : KeyedTable Signal.signalId) (signal : Signal) :
    Except PyError (KeyedTable Signal.signalId) :=
  if signal.activeAt at' = true then do
    refuse (∃ previous ∈ activeById.find signal.signalId, previous.atInstants ≠ signal.atInstants)
      s!"conflicting content for signal id {signal.signalId}"
    return activeById.put signal
  else .ok activeById

/-- `_key`. -/
def key (signal : Signal) : String ×ₗ String ×ₗ String :=
  toLex (signal.subject, toLex (signal.kind, signal.signalId))

/-- What `resolve` makes of the active signals, in the order of their keys. -/
def resolveActive (ids : SalienceIdentity → String) (active : List Signal) :
    List SalienceDecision :=
  let inhibitors := active.filter fun signal => !signal.excitatory
  let excitatory := active.filter Signal.excitatory
  let subjects := sortedIds (excitatory.map Signal.subject)
  r.applyWakeBudget ids (subjects.map fun subject =>
    r.resolveSubject subject (excitatory.filter fun signal => signal.subject = subject) inhibitors ids)

/-- `resolve`. -/
def resolve (ids : SalienceIdentity → String) (signals : List Signal) (at' : Datetime) :
    Except PyError (List SalienceDecision) := do
  let activeById ← Folding.run (collect at') .empty signals
  return r.resolveActive ids (activeById.rows.insertionSort fun a b => key a ≤ key b)

end SalienceResolver

end Noema
