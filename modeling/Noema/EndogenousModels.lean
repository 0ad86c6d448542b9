import Noema.InformationModels
import Noema.IntentPayloads
import Noema.Lib.Binary64

/-!
# The records of endogenous cognition

Policies, scan requests, dream epochs, inquiries, intrinsic activities, estimates and
agendas, with what their constructors check and how they are read off payloads.  Floats are
doubles; a sum or a product is the double nearest to the exact one.  The ids are digests of
the content (`EndogenousIds`), of which nothing is assumed.  All times carry a time zone.
-/
namespace Noema

/-! ## Float arithmetic -/

namespace PyFloat

/-- The double nearest to a number. -/
def ofRat (q : ℚ) : PyFloat :=
  match Binary64.round q with
  | some value => finite value
  | none => infinity (q < 0)

def plus : PyFloat → PyFloat → PyFloat
  | finite a, finite b => ofRat (a + b)
  | finite _, infinity negative => infinity negative
  | infinity negative, finite _ => infinity negative
  | infinity negative, infinity negative' => if negative = negative' then infinity negative else nan
  | _, _ => nan

def negated : PyFloat → PyFloat
  | finite a => finite (-a)
  | infinity negative => infinity !negative
  | nan => nan

def minus (a b : PyFloat) : PyFloat := a.plus b.negated

def times : PyFloat → PyFloat → PyFloat
  | finite a, finite b => ofRat (a * b)
  | finite a, infinity negative => if a = 0 then nan else infinity (negative != (a < 0 : Bool))
  | infinity negative, finite a => if a = 0 then nan else infinity (negative != (a < 0 : Bool))
  | infinity negative, infinity negative' => infinity (negative != negative')
  | _, _ => nan

/-- `round(value, 12)`. -/
def rounded : PyFloat → PyFloat
  | finite a =>
    match Binary64.decimals 12 a with
    | some value => finite value
    | none => infinity (a < 0)
  | value => value

/-- `a <= b`. -/
def atMost : PyFloat → PyFloat → Bool
  | finite a, finite b => a ≤ b
  | infinity negative, finite _ => negative
  | finite _, infinity negative => !negative
  | infinity negative, infinity negative' => negative || !negative'
  | _, _ => false

/-- `max(a, b)`. -/
def maximum (a b : PyFloat) : PyFloat := if b.atMost a then a else b

/-- `1e-12`. -/
def tolerance : PyFloat := ofRat (1 / 10 ^ 12)

theorem zero_atMost_plus_tolerance {ceiling : ℚ} (h : 0 ≤ ceiling) :
    (finite 0).atMost ((finite ceiling).plus tolerance) = true := by
  have hnear : ∀ {q : ℚ}, 0 ≤ q → (∃ value, 0 ≤ value ∧ ofRat q = finite value) ∨
      ofRat q = infinity false := fun {q} hq => by
    unfold ofRat
    cases hround : Binary64.round q with
    | some value => exact .inl ⟨value, Binary64.round_nonneg hq hround, rfl⟩
    | none => exact .inr (by rw [decide_eq_false (not_lt.mpr hq)])
  have htolerance : (0 : ℚ) ≤ 1 / 10 ^ 12 := by positivity
  unfold tolerance
  rcases hnear htolerance with ⟨small, hsmall, heq⟩ | heq
  · rw [heq]
    rcases hnear (add_nonneg h hsmall) with ⟨sum, hsum, hplus⟩ | hplus
    · rw [plus, hplus, atMost]
      exact decide_eq_true hsum
    · rw [plus, hplus]
      rfl
  · rw [heq]
    rfl

theorem atMost_trans {a c d : PyFloat} (h : a.atMost c = true) (h' : c.atMost d = true) :
    a.atMost d = true := by
  cases a with
  | finite q =>
    cases c with
    | finite r =>
      cases d with
      | finite s => exact decide_eq_true ((of_decide_eq_true h).trans (of_decide_eq_true h'))
      | infinity negative => exact h'
      | nan => cases h'
    | infinity negative => cases d <;> cases negative <;> simp_all [atMost]
    | nan => cases h
  | infinity negative => cases c <;> cases d <;> cases negative <;> simp_all [atMost]
  | nan => cases h

/-- A greater number has no smaller double. -/
theorem ofRat_atMost {p q : ℚ} (h : p ≤ q) : (ofRat p).atMost (ofRat q) = true := by
  have hnear : Binary64.nearest p ≤ Binary64.nearest q := Binary64.nearest_mono h
  unfold ofRat
  rw [Binary64.round_eq, Binary64.round_eq]
  by_cases hp : |Binary64.nearest p| < Binary64.pow2 1024
  · rw [if_pos hp]
    by_cases hq : |Binary64.nearest q| < Binary64.pow2 1024
    · rw [if_pos hq]
      exact decide_eq_true hnear
    · -- `q` is beyond the range, and not below it, as `p` is not.
      rw [if_neg hq]
      have hsign : ¬q < 0 := fun hneg => hq <| by
        rw [abs_of_nonpos (Binary64.nearest_nonpos hneg.le)]
        rw [abs_of_nonpos (hnear.trans (Binary64.nearest_nonpos hneg.le))] at hp
        linarith
      rw [decide_eq_false hsign]
      rfl
  · rw [if_neg hp]
    by_cases hq : |Binary64.nearest q| < Binary64.pow2 1024
    · rw [if_pos hq]
      have hsign : p < 0 := by
        by_contra hneg
        refine hp ?_
        rw [abs_of_nonneg (Binary64.nearest_nonneg (not_lt.mp hneg))]
        exact hnear.trans_lt ((le_abs_self _).trans_lt hq)
      rw [decide_eq_true hsign]
      rfl
    · rw [if_neg hq]
      by_cases hsign : p < 0
      · rw [decide_eq_true hsign]
        rfl
      · rw [decide_eq_false hsign, decide_eq_false fun hneg => hsign (h.trans_lt hneg)]
        rfl
end PyFloat

/-! ## Enumerations -/

inductive EndogenousDrive
  | coherence
  | curiosity
  | goalMaintenance
  | socialCalibration
deriving DecidableEq, Repr

inductive InquiryStatus
  | isOpen
deriving DecidableEq, Repr

inductive IntrinsicActivityKind
  | inquiry
  | beliefMaintenance
  | goalOrRoadmapMaintenance
  | peerCalibration
  | boundedSimulationCandidate
deriving DecidableEq, Repr

inductive ActivityDisposition
  | selected
  | deferred
  | suppressed
deriving DecidableEq, Repr

inductive DreamEpochStatus
  | active
  | preempted
  | expired
  | abandoned
deriving DecidableEq, Repr

inductive DreamAbandonmentReason
  | governingIntentChanged
deriving DecidableEq, Repr

inductive CognitiveAuthorityCeiling
  | dreamProposalOnly
deriving DecidableEq, Repr

def EndogenousDrive.text : EndogenousDrive → String
  | coherence => "coherence"
  | curiosity => "curiosity"
  | goalMaintenance => "goal_maintenance"
  | socialCalibration => "social_calibration"

def EndogenousDrive.ofText : String → Except PyError EndogenousDrive :=
  enumOf "EndogenousDrive" [coherence, curiosity, goalMaintenance, socialCalibration] text

def InquiryStatus.ofText : String → Except PyError InquiryStatus :=
  enumOf "InquiryStatus" [isOpen] fun _ => "open"

def IntrinsicActivityKind.text : IntrinsicActivityKind → String
  | inquiry => "inquiry"
  | beliefMaintenance => "belief_maintenance"
  | goalOrRoadmapMaintenance => "goal_or_roadmap_maintenance"
  | peerCalibration => "peer_calibration"
  | boundedSimulationCandidate => "bounded_simulation_candidate"

def IntrinsicActivityKind.ofText : String → Except PyError IntrinsicActivityKind :=
  enumOf "IntrinsicActivityKind"
    [inquiry, beliefMaintenance, goalOrRoadmapMaintenance, peerCalibration,
     boundedSimulationCandidate] text

def ActivityDisposition.text : ActivityDisposition → String
  | selected => "selected"
  | deferred => "deferred"
  | suppressed => "suppressed"

def ActivityDisposition.ofText : String → Except PyError ActivityDisposition :=
  enumOf "ActivityDisposition" [selected, deferred, suppressed] text

def DreamAbandonmentReason.ofText : String → Except PyError DreamAbandonmentReason :=
  enumOf "DreamAbandonmentReason" [governingIntentChanged] fun _ => "governing_intent_changed"

def CognitiveAuthorityCeiling.ofText : String → Except PyError CognitiveAuthorityCeiling :=
  enumOf "CognitiveAuthorityCeiling" [dreamProposalOnly] fun _ => "dream_proposal_only"

/-! ## Resources -/

/-- `_non_negative`. -/
def requireNonNegative (value : PyFloat) (name : String) : Except PyError Unit :=
  requireAmount value s!"{name} must be finite and non-negative"

structure ResourceContent where
  activities : Int
  computeUnits : PyFloat
  wallTimeSeconds : PyFloat
  attentionUnits : PyFloat
  privacyRiskUnits : PyFloat
deriving DecidableEq

def ResourceContent.check (content : ResourceContent) : Except PyError Unit := do
  refuse (content.activities < 0) "cognitive activity count cannot be negative"
  requireNonNegative content.computeUnits "compute units"
  requireNonNegative content.wallTimeSeconds "wall-time seconds"
  requireNonNegative content.attentionUnits "attention units"
  requireNonNegative content.privacyRiskUnits "privacy/risk units"

/-- `CognitiveResourceVector`. -/
structure CognitiveResourceVector extends ResourceContent where
  checked : toResourceContent.check = .ok ()
deriving DecidableEq

namespace CognitiveResourceVector

def create (content : ResourceContent) : Except PyError CognitiveResourceVector :=
  checkedBy content.check fun checked => ⟨content, checked⟩

/-- `CognitiveResourceVector()`. -/
def zero : CognitiveResourceVector := ⟨⟨0, .finite 0, .finite 0, .finite 0, .finite 0⟩, by decide⟩

/-- `plus`. -/
def plus (r other : CognitiveResourceVector) : Except PyError CognitiveResourceVector :=
  create
    { activities := r.activities + other.activities
      computeUnits := (r.computeUnits.plus other.computeUnits).rounded
      wallTimeSeconds := (r.wallTimeSeconds.plus other.wallTimeSeconds).rounded
      attentionUnits := (r.attentionUnits.plus other.attentionUnits).rounded
      privacyRiskUnits := (r.privacyRiskUnits.plus other.privacyRiskUnits).rounded }

/-- `minus`. -/
def minus (r other : CognitiveResourceVector) : Except PyError CognitiveResourceVector := do
  let units :=
    [r.computeUnits.minus other.computeUnits, r.wallTimeSeconds.minus other.wallTimeSeconds,
     r.attentionUnits.minus other.attentionUnits, r.privacyRiskUnits.minus other.privacyRiskUnits]
  let floor := PyFloat.ofRat (-1 / 10 ^ 9)
  refuse (r.activities - other.activities < 0 ∨ units.any fun value => !floor.atMost value)
    "cognitive resource use exceeds its budget"
  let left (value : PyFloat) := (PyFloat.maximum (.finite 0) value).rounded
  create
    { activities := max 0 (r.activities - other.activities)
      computeUnits := left (r.computeUnits.minus other.computeUnits)
      wallTimeSeconds := left (r.wallTimeSeconds.minus other.wallTimeSeconds)
      attentionUnits := left (r.attentionUnits.minus other.attentionUnits)
      privacyRiskUnits := left (r.privacyRiskUnits.minus other.privacyRiskUnits) }

/-- `fits_within`. -/
def fitsWithin (r ceiling : CognitiveResourceVector) : Bool :=
  r.activities ≤ ceiling.activities &&
    r.computeUnits.atMost (ceiling.computeUnits.plus .tolerance) &&
    r.wallTimeSeconds.atMost (ceiling.wallTimeSeconds.plus .tolerance) &&
    r.attentionUnits.atMost (ceiling.attentionUnits.plus .tolerance) &&
    r.privacyRiskUnits.atMost (ceiling.privacyRiskUnits.plus .tolerance)

theorem requireAmount_ok {value : PyFloat} {message : String} {answer : Unit}
    (h : requireAmount value message = .ok answer) : ∃ q, 0 ≤ q ∧ value = .finite q := by
  cases value with
  | finite q =>
    unfold requireAmount at h
    dsimp only at h
    split_ifs at h with hq
    exact ⟨q, hq, rfl⟩
  | infinity | nan => cases h

/-- Nothing at all fits within any ceiling. -/
theorem zero_fitsWithin (ceiling : CognitiveResourceVector) : zero.fitsWithin ceiling = true := by
  obtain ⟨_, hactivities, h⟩ := bind_eq_ok ceiling.checked
  obtain ⟨_, hcompute, h⟩ := bind_eq_ok h
  obtain ⟨_, hwall, h⟩ := bind_eq_ok h
  obtain ⟨_, hattention, hprivacy⟩ := bind_eq_ok h
  obtain ⟨compute, hcompute, heqCompute⟩ := requireAmount_ok hcompute
  obtain ⟨wall, hwall, heqWall⟩ := requireAmount_ok hwall
  obtain ⟨attention, hattention, heqAttention⟩ := requireAmount_ok hattention
  obtain ⟨privacy, hprivacy, heqPrivacy⟩ := requireAmount_ok hprivacy
  have hactivities : (0 : Int) ≤ ceiling.activities := not_lt.mp (refuse_ok hactivities)
  unfold fitsWithin
  rw [heqCompute, heqWall, heqAttention, heqPrivacy]
  simp only [Bool.and_eq_true, decide_eq_true_eq]
  exact ⟨⟨⟨⟨hactivities, PyFloat.zero_atMost_plus_tolerance hcompute⟩,
    PyFloat.zero_atMost_plus_tolerance hwall⟩, PyFloat.zero_atMost_plus_tolerance hattention⟩,
    PyFloat.zero_atMost_plus_tolerance hprivacy⟩

end CognitiveResourceVector

/-! ## Policies, scans and epochs -/

/-- `GoverningIntentRef`. -/
structure GoverningIntentRef where
  goalId : String
  goalRevisionId : String
deriving DecidableEq

/-- What the id of a policy is made of. -/
structure EndogenousPolicyContent where
  version : String
  selectorId : String
  selectorVersion : Int
  computeCostWeight : PyFloat
  delayCostWeight : PyFloat
  attentionCostWeight : PyFloat
  opportunityCostWeight : PyFloat
  privacyRiskCostWeight : PyFloat
  minimumNetVoc : PyFloat
deriving DecidableEq

/-- `EndogenousPolicySnapshot`. -/
structure EndogenousPolicySnapshot extends EndogenousPolicyContent where
  policyId : String
deriving DecidableEq

/-- `BackgroundCognitiveBudget`. -/
structure BackgroundCognitiveBudget where
  budgetId : String
  ceiling : CognitiveResourceVector
deriving DecidableEq

/-- What the id of a scan request is made of. -/
structure ScanContent where
  policyId : String
  budget : BackgroundCognitiveBudget
  requestedAt : Datetime
  expiresAt : Datetime
deriving BEq, ReflBEq

/-- `CognitionScanRequest`. -/
structure CognitionScanRequest extends ScanContent where
  requestId : String
deriving BEq, ReflBEq

/-- What the id of an epoch is made of. -/
structure EpochContent where
  consumerId : String
  triggerEventId : String
  eventLogCursor : Int
  policyId : String
  policyVersion : String
  selectorId : String
  selectorVersion : Int
  budget : BackgroundCognitiveBudget
  startedAt : Datetime
  expiresAt : Datetime
  authorityCeiling : CognitiveAuthorityCeiling
deriving BEq, ReflBEq

/-- `DreamEpoch`. -/
structure DreamEpoch extends EpochContent where
  epochId : String
deriving BEq, ReflBEq

/-! ## Inquiries and activities -/

/-- What the id of an inquiry is made of: neither its cut nor its times. -/
structure InquiryIdentity where
  question : String
  origin : EndogenousDrive
  governingIntentRefs : List GoverningIntentRef
  evidenceRefs : List String
  targetRefs : List String
  producerId : String
deriving DecidableEq

/-- `Inquiry`. -/
structure Inquiry extends InquiryIdentity where
  inquiryId : String
  decisionRelevance : PyFloat
  expectedInformationValue : PyFloat
  uncertainty : PyFloat
  possibleMethods : List String
  estimatedCognitiveCost : PyFloat
  privacyRiskCost : PyFloat
  deadline : Option Datetime
  expiresAt : Datetime
  status : InquiryStatus
  causalCursor : Int
  createdAt : Datetime
deriving BEq, ReflBEq

/-- `ValueOfCognitionInputs`. -/
structure ValueOfCognitionInputs where
  expectedDecisionImprovement : PyFloat
  computeCostBasis : PyFloat
  delayCostBasis : PyFloat
  attentionCostBasis : PyFloat
  opportunityCostBasis : PyFloat
  privacyRiskCostBasis : PyFloat
deriving DecidableEq

/-- What the id of an activity is made of. -/
structure ActivityContent where
  kind : IntrinsicActivityKind
  inquiryId : String
  governingIntentRefs : List GoverningIntentRef
  evidenceRefs : List String
  targetRefs : List String
  vocInputs : ValueOfCognitionInputs
  urgency : PyFloat
  confidence : PyFloat
  interruptible : Bool
  expiresAt : Datetime
  resources : CognitiveResourceVector
  causalCursor : Int
  producerId : String
deriving BEq, ReflBEq

/-- `IntrinsicActivity`. -/
structure IntrinsicActivity extends ActivityContent where
  activityId : String
deriving BEq, ReflBEq

/-! ## Estimates, agendas and calibrations -/

/-- What the id of an estimate is made of. -/
structure VocContent where
  epochId : String
  activityId : String
  policyId : String
  expectedDecisionImprovement : PyFloat
  computeCost : PyFloat
  delayCost : PyFloat
  attentionCost : PyFloat
  opportunityCost : PyFloat
  privacyRiskCost : PyFloat
  netValue : PyFloat
  evaluatedAt : Datetime
deriving BEq, ReflBEq

/-- `ValueOfCognitionEstimate`. -/
structure ValueOfCognitionEstimate extends VocContent where
  estimateId : String
deriving BEq, ReflBEq

/-- `AgendaDecision`. -/
structure AgendaDecision where
  activityId : String
  disposition : ActivityDisposition
  reason : String
deriving DecidableEq

/-- What the id of an agenda is made of. -/
structure AgendaContent where
  epochId : String
  policyId : String
  decisions : List AgendaDecision
  consumed : CognitiveResourceVector
  remaining : CognitiveResourceVector
  selectedAt : Datetime
deriving BEq, ReflBEq

/-- `IntrinsicAgendaSelection`. -/
structure IntrinsicAgendaSelection extends AgendaContent where
  selectionId : String
deriving BEq, ReflBEq

/-- What the id of a calibration is made of. -/
structure CalibrationContent where
  proposition : String
  localConfidence : PyFloat
  peerConfidence : PyFloat
  localEvidenceRefs : List String
  peerEvidenceRefs : List String
  localAssumptions : List String
  peerAssumptions : List String
  governingIntentRefs : List GoverningIntentRef
  peerId : String
  protocolVersion : String
  requestProvenanceRef : String
  responseProvenanceRef : String
  recordedAt : Datetime
deriving BEq, ReflBEq

/-- `CalibrationExchange`. -/
structure CalibrationExchange extends CalibrationContent where
  exchangeId : String
deriving BEq, ReflBEq

/-! ## What the constructors check -/

/-- `_canonical_id` on each kind of content: the digests, without their prefixes. -/
structure EndogenousIds where
  budget : CognitiveResourceVector → String
  policy : EndogenousPolicyContent → String
  scan : ScanContent → String
  epoch : EpochContent → String
  inquiry : InquiryIdentity → String
  activity : ActivityContent → String
  estimate : VocContent → String
  agenda : AgendaContent → String
  calibration : CalibrationContent → String

def GoverningIntentRef.check (ref : GoverningIntentRef) : Except PyError Unit := do
  requireText ref.goalId "governing goal id"
  requireText ref.goalRevisionId "governing goal revision id"

section Checks

variable (ids : EndogenousIds)

def BackgroundCognitiveBudget.check (budget : BackgroundCognitiveBudget) : Except PyError Unit := do
  requireText budget.budgetId "background cognitive budget id"
  refuse (budget.ceiling.activities ≤ 0)
    "background cognitive budget must permit at least one activity"
  refuse (budget.budgetId ≠ "cognitive-budget:" ++ ids.budget budget.ceiling)
    "background cognitive budget id does not match its ceiling"

def EndogenousPolicySnapshot.check (policy : EndogenousPolicySnapshot) : Except PyError Unit := do
  requireText policy.policyId "endogenous policy id"
  requireText policy.version "endogenous policy version"
  requireText policy.selectorId "endogenous agenda selector id"
  refuse (policy.selectorVersion ≤ 0) "endogenous agenda selector version must be positive"
  requireNonNegative policy.computeCostWeight "compute cost weight"
  requireNonNegative policy.delayCostWeight "delay cost weight"
  requireNonNegative policy.attentionCostWeight "attention cost weight"
  requireNonNegative policy.opportunityCostWeight "opportunity cost weight"
  requireNonNegative policy.privacyRiskCostWeight "privacy/risk cost weight"
  requireNonNegative policy.minimumNetVoc "minimum NetVOC"
  refuse (policy.policyId ≠ "endogenous-policy:" ++ ids.policy policy.toEndogenousPolicyContent)
    "endogenous policy id does not match its immutable weights"

def CognitionScanRequest.check (request : CognitionScanRequest) : Except PyError Unit := do
  requireText request.requestId "cognition scan request id"
  requireText request.policyId "cognition scan policy id"
  refuse (request.expiresAt.instant ≤ request.requestedAt.instant)
    "cognition scan expiry must follow its request time"
  refuse (request.requestId ≠ "cognition-scan:" ++ ids.scan request.toScanContent)
    "cognition scan request id does not match its content"

def DreamEpoch.check (epoch : DreamEpoch) : Except PyError Unit := do
  requireText epoch.epochId "dream epoch id"
  requireText epoch.consumerId "dream epoch consumer id"
  requireText epoch.triggerEventId "dream epoch trigger event id"
  requireText epoch.policyId "dream epoch policy id"
  requireText epoch.policyVersion "dream epoch policy version"
  requireText epoch.selectorId "dream epoch selector id"
  refuse (epoch.selectorVersion ≤ 0) "dream epoch selector version must be positive"
  refuse (epoch.eventLogCursor ≤ 0) "dream epoch cursor must identify a canonical event"
  refuse (epoch.expiresAt.instant ≤ epoch.startedAt.instant) "dream epoch expiry must follow its start"
  refuse (epoch.epochId ≠ "dream-epoch:" ++ ids.epoch epoch.toEpochContent)
    "dream epoch id does not match its immutable content"

def Inquiry.check (inquiry : Inquiry) : Except PyError Unit := do
  requireText inquiry.inquiryId "inquiry id"
  requireText inquiry.question "inquiry question"
  requireText inquiry.producerId "inquiry producer id"
  refuse (inquiry.governingIntentRefs = [])
    "inquiry requires at least one governing intent reference"
  refuse (¬inquiry.governingIntentRefs.Nodup) "inquiry governing intent references must be unique"
  requireUnique inquiry.evidenceRefs "inquiry evidence refs" true
  requireUnique inquiry.targetRefs "inquiry target refs" true
  requireUnique inquiry.possibleMethods "inquiry methods" true
  requireBounded inquiry.decisionRelevance "inquiry decision relevance"
  requireBounded inquiry.expectedInformationValue "inquiry information value"
  requireBounded inquiry.uncertainty "inquiry uncertainty"
  requireNonNegative inquiry.estimatedCognitiveCost "inquiry cognitive cost"
  requireNonNegative inquiry.privacyRiskCost "inquiry privacy/risk cost"
  refuse (inquiry.causalCursor ≤ 0) "inquiry causal cursor must identify a canonical cut"
  refuse (inquiry.expiresAt.instant ≤ inquiry.createdAt.instant)
    "inquiry expiry must follow creation"
  refuse (∃ deadline ∈ inquiry.deadline, deadline.instant < inquiry.createdAt.instant)
    "inquiry deadline cannot precede creation"
  refuse (inquiry.inquiryId ≠ "inquiry:" ++ ids.inquiry inquiry.toInquiryIdentity)
    "inquiry id does not match its semantic identity"

def ValueOfCognitionInputs.check (inputs : ValueOfCognitionInputs) : Except PyError Unit := do
  requireNonNegative inputs.expectedDecisionImprovement "expected decision improvement"
  requireNonNegative inputs.computeCostBasis "compute cost basis"
  requireNonNegative inputs.delayCostBasis "delay cost basis"
  requireNonNegative inputs.attentionCostBasis "attention cost basis"
  requireNonNegative inputs.opportunityCostBasis "opportunity cost basis"
  requireNonNegative inputs.privacyRiskCostBasis "privacy/risk cost basis"

def IntrinsicActivity.check (activity : IntrinsicActivity) : Except PyError Unit := do
  requireText activity.activityId "intrinsic activity id"
  requireText activity.inquiryId "intrinsic activity inquiry id"
  requireText activity.producerId "intrinsic activity producer id"
  refuse (activity.governingIntentRefs = []) "intrinsic activity requires governing intent"
  refuse (¬activity.governingIntentRefs.Nodup)
    "intrinsic activity governing intent refs must be unique"
  requireUnique activity.evidenceRefs "intrinsic activity evidence refs" true
  requireUnique activity.targetRefs "intrinsic activity target refs" true
  requireBounded activity.urgency "intrinsic activity urgency"
  requireBounded activity.confidence "intrinsic activity confidence"
  refuse (activity.resources.activities ≠ 1)
    "each intrinsic activity consumes exactly one activity slot"
  refuse (activity.causalCursor ≤ 0)
    "intrinsic activity causal cursor must identify a canonical cut"
  refuse (activity.activityId ≠ "intrinsic-activity:" ++ ids.activity activity.toActivityContent)
    "intrinsic activity id does not match its immutable content"

/-- `expected_net`. -/
def VocContent.net (content : VocContent) : PyFloat :=
  (((((content.expectedDecisionImprovement.minus content.computeCost).minus content.delayCost).minus
    content.attentionCost).minus content.opportunityCost).minus content.privacyRiskCost).rounded

def ValueOfCognitionEstimate.check (estimate : ValueOfCognitionEstimate) : Except PyError Unit := do
  requireText estimate.estimateId "VOC estimate id"
  requireText estimate.epochId "VOC epoch id"
  requireText estimate.activityId "VOC activity id"
  requireText estimate.policyId "VOC policy id"
  requireNonNegative estimate.expectedDecisionImprovement "VOC expected improvement"
  requireNonNegative estimate.computeCost "VOC compute cost"
  requireNonNegative estimate.delayCost "VOC delay cost"
  requireNonNegative estimate.attentionCost "VOC attention cost"
  requireNonNegative estimate.opportunityCost "VOC opportunity cost"
  requireNonNegative estimate.privacyRiskCost "VOC privacy/risk cost"
  refuse (estimate.netValue.isFinite = false) "VOC net value must be finite"
  refuse (estimate.netValue ≠ estimate.net) "VOC net value does not match its recorded terms"

def AgendaDecision.check (decision : AgendaDecision) : Except PyError Unit := do
  requireText decision.activityId "agenda activity id"
  requireText decision.reason "agenda decision reason"

def IntrinsicAgendaSelection.check (selection : IntrinsicAgendaSelection) : Except PyError Unit := do
  requireText selection.selectionId "intrinsic agenda selection id"
  requireText selection.epochId "intrinsic agenda epoch id"
  requireText selection.policyId "intrinsic agenda policy id"
  refuse (selection.decisions = []) "intrinsic agenda selection requires candidate decisions"
  requireUnique (selection.decisions.map AgendaDecision.activityId)
    "intrinsic agenda activity ids" true
  refuse (selection.selectionId ≠ "intrinsic-agenda:" ++ ids.agenda selection.toAgendaContent)
    "intrinsic agenda id does not match its semantic decision"

def CalibrationExchange.check (exchange : CalibrationExchange) : Except PyError Unit := do
  requireText exchange.exchangeId "calibration exchange id"
  requireText exchange.proposition "calibration proposition"
  requireText exchange.peerId "calibration peer id"
  requireText exchange.protocolVersion "calibration protocol version"
  requireText exchange.requestProvenanceRef "calibration request provenance"
  requireText exchange.responseProvenanceRef "calibration response provenance"
  requireBounded exchange.localConfidence "local calibration confidence"
  requireBounded exchange.peerConfidence "peer calibration confidence"
  requireUnique exchange.localEvidenceRefs "local calibration evidence" true
  requireUnique exchange.peerEvidenceRefs "peer calibration evidence" true
  requireUnique exchange.localAssumptions "local calibration assumptions" false
  requireUnique exchange.peerAssumptions "peer calibration assumptions" false
  refuse (exchange.governingIntentRefs = []) "calibration exchange requires governing intent"
  refuse (¬exchange.governingIntentRefs.Nodup) "calibration governing intent refs must be unique"
  refuse (exchange.exchangeId ≠ "calibration-exchange:" ++ ids.calibration exchange.toCalibrationContent)
    "calibration exchange id does not match its immutable content"

end Checks

end Noema
