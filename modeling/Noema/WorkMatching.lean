import Noema.WorkSafety

/-!
# The ready frontier and the worker matcher

`ReadyFrontier.derive` sorts the nodes of a graph by what they wait for, and the matcher
looks for a worker of a ready node: each agent that is present, free, capable and, on
governed inputs, cleared by the access evaluator is a candidate, and the best one is
taken.

A match meets what the projection asks of a lease, and its decisions are all that the
evidence has under their ids (`matchWithAccessEvidence_spec`).
-/
namespace Noema
open WorkProjection

/-! ## Coverage -/

/-- What the barrier reads of a `CoverageEntry`. -/
structure CoverageEntry where
  sourceId : String
  freshness : ℚ
  confidence : ℚ

/-- `AwarenessCoverage`. -/
structure AwarenessCoverage where
  entries : List CoverageEntry
  unique : (entries.map (·.sourceId)).Nodup

def AwarenessCoverage.get (coverage : AwarenessCoverage) (sourceId : String) :
    Option CoverageEntry :=
  coverage.entries.find? fun entry => entry.sourceId = sourceId

namespace OrientationBarrier

/-- `_satisfies`. -/
def satisfies (prerequisite : ActionPrerequisite) (coverage : AwarenessCoverage) : Bool :=
  (coverage.get prerequisite.sourceId).any fun entry =>
    prerequisite.minimumFreshness ≤ entry.freshness &&
      prerequisite.minimumConfidence ≤ entry.confidence

/-- `evaluate(…).would_block`. -/
def wouldBlock (prerequisites : List ActionPrerequisite) (coverage : AwarenessCoverage) : Bool :=
  prerequisites.any fun prerequisite => !satisfies prerequisite coverage

end OrientationBarrier

/-! ## The frontier -/

/-- `ReadyFrontier`. -/
structure ReadyFrontier where
  graphId : String
  ready : List WorkNode
  dependencyBlocked : List String
  epistemicBlocked : List String
  leased : List String
  completed : List String
  invalidated : Bool

/-- The list of the frontier that a node goes to. -/
inductive NodeStatus
  | completed
  | leased
  | dependencyBlocked
  | epistemicBlocked
  | ready
deriving DecidableEq

theorem Bounded.max {a b : ℚ} (ha : Bounded a) (hb : Bounded b) : Bounded (max a b) :=
  ⟨ha.1.trans (le_max_left a b), max_le ha.2 hb.2⟩

namespace ReadyFrontier

/-- The stricter of two requirements on a source. -/
def stricter (current value : ActionPrerequisite) : ActionPrerequisite where
  sourceId := value.sourceId
  minimumFreshness := max current.minimumFreshness value.minimumFreshness
  minimumConfidence := max current.minimumConfidence value.minimumConfidence
  sourceId_nonblank := value.sourceId_nonblank
  freshness := current.freshness.max value.freshness
  confidence := current.confidence.max value.confidence

/-- `requirements_by_source`. -/
def requirementsBySource (order : WorkOrder) (node : WorkNode) :
    KeyedTable ActionPrerequisite.sourceId :=
  node.epistemicPrerequisites.foldl (fun requirements value =>
    requirements.put (match requirements.find value.sourceId with
      | none => value
      | some current => stricter current value))
    (.ofList order.epistemicPrerequisites)

/-- The requirements are there and the coverage does not meet them. -/
def epistemicallyBlocked (requirements : List ActionPrerequisite)
    (coverage : Option AwarenessCoverage) : Bool :=
  requirements ≠ [] && coverage.all fun coverage => OrientationBarrier.wouldBlock requirements coverage

/-- The body of the loop. -/
def nodeStatus (graph : WorkGraph) (p : WorkProjection) (order : WorkOrder)
    (coverage : Option AwarenessCoverage) (node : WorkNode) : NodeStatus :=
  if p.completed graph.graphId node.nodeId then .completed
  else if (p.activeLeaseForNode graph.graphId node.nodeId).isSome then .leased
  else if (graph.predecessors node.nodeId).any fun predecessorId =>
      !p.completed graph.graphId predecessorId then .dependencyBlocked
  else if epistemicallyBlocked (requirementsBySource order node).sorted coverage then
    .epistemicBlocked
  else .ready

/-- `derive`. -/
def derive (graph : WorkGraph) (p : WorkProjection) (coverage : Option AwarenessCoverage) :
    Except PyError ReadyFrontier :=
  if p.graphIsActive graph.graphId then
    match p.orders.find graph.workOrderId with
    | none => .error (.valueError "ready frontier requires the graph work order")
    | some order =>
      let nodes status := graph.nodes.filter fun node =>
        nodeStatus graph p order coverage node = status
      let nodeIds status := (nodes status).map (·.nodeId)
      .ok
        { graphId := graph.graphId, ready := nodes .ready
          dependencyBlocked := nodeIds .dependencyBlocked
          epistemicBlocked := nodeIds .epistemicBlocked, leased := nodeIds .leased
          completed := nodeIds .completed, invalidated := false }
  else
    .ok
      { graphId := graph.graphId, ready := [], dependencyBlocked := [], epistemicBlocked := []
        leased := []
        completed := (graph.nodes.filter fun node =>
          p.completed graph.graphId node.nodeId).map (·.nodeId)
        invalidated := true }

variable {graph : WorkGraph} {p : WorkProjection} {coverage : Option AwarenessCoverage}

/-- What a ready node has. -/
theorem ready_spec {frontier : ReadyFrontier} (h : derive graph p coverage = .ok frontier)
    {node : WorkNode} (hnode : node ∈ frontier.ready) :
    p.graphIsActive graph.graphId = true ∧ node ∈ graph.nodes ∧
      p.completed graph.graphId node.nodeId = false ∧
      p.activeLeaseForNode graph.graphId node.nodeId = none ∧
      ∀ predecessorId ∈ graph.predecessors node.nodeId,
        p.completed graph.graphId predecessorId = true := by
  unfold derive at h
  split at h
  · rename_i hactive
    split at h
    · cases h
    · rename_i order horder
      cases h
      obtain ⟨hmem, hstatus⟩ := List.mem_filter.mp hnode
      rw [decide_eq_true_eq] at hstatus
      unfold nodeStatus at hstatus
      split at hstatus
      · cases hstatus
      · rename_i hincomplete
        split at hstatus
        · cases hstatus
        · rename_i hfree
          split at hstatus
          · cases hstatus
          · rename_i hdone
            refine ⟨hactive, hmem, Bool.not_eq_true _ ▸ hincomplete,
              Option.not_isSome_iff_eq_none.mp hfree, fun predecessorId hpredecessor => ?_⟩
            by_contra hnot
            refine hdone (List.any_eq_true.mpr ⟨predecessorId, hpredecessor, ?_⟩)
            simpa using hnot
  · cases h
    cases hnode

end ReadyFrontier

/-! ## The matcher -/

inductive DecisionKind
  | access
  | disclosure
deriving DecidableEq

/-- An `InformationAccessDecision` or a `DisclosureDecision`. -/
structure EvaluatedDecision where
  kind : DecisionKind
  decision : InformationDecision
deriving DecidableEq

/-- `WorkerMatch`. -/
structure WorkerMatch where
  nodeId : String
  agentId : String
  score : ℚ
  competenceEstimateRefs : List String
  accessDecisions : List InformationDecision
  disclosureDecisions : List InformationDecision

namespace WorkerMatcher

/-- The decisions of a kind. -/
def ofKind (kind : DecisionKind) (evaluated : List EvaluatedDecision) : List InformationDecision :=
  (evaluated.filter fun value => value.kind = kind).map (·.decision)

/-- The decision lets the agent use the information at the time. -/
def usable (agentId : String) (time : Datetime) (decision : InformationDecision) : Bool :=
  decision.allowed && decision.workAssign && decision.principalId = agentId &&
    decision.recipient = some agentId && decision.decidedAt.instant = time.instant

/-- `_access_is_feasible`. -/
def accessIsFeasible (node : WorkNode) (agentId : String) (time : Datetime)
    (access disclosure : List InformationDecision) : Bool :=
  let crossingIds := ((access.filter crossing).map (·.informationId)).dedup
  decide (access.length = node.governedInformationRefs.length) &&
  decide (SameSet (access.map (·.informationId)) node.governedInformationRefs) &&
  access.all (usable agentId time) &&
  decide (disclosure.length = crossingIds.length) &&
  decide (SameSet (disclosure.map (·.informationId)) crossingIds) &&
  disclosure.all fun decision => usable agentId time decision && crossing decision

/-- The checks on the agent itself, in front of the evaluation. -/
def feasible (p : WorkProjection) (graph : WorkGraph) (node : WorkNode) (time : Datetime)
    (presence : AgentPresence) : Bool :=
  presence.status = .available && presence.isValidAt time &&
  presence.agentId ∉ p.excludedWorkers graph.graphId node &&
  p.activeLeaseCount presence.agentId < presence.maxConcurrency &&
  (p.manifests.find presence.agentId).any (fun manifest =>
    node.requiredCapabilities.all fun capability => capability ∈ manifest.capabilities)

/-- A `WorkerAccessEvaluator`.  The id of a decision is a digest of its request, which
names the agent as the recipient. -/
structure WorkerAccessEvaluator where
  evaluate : WorkNode → String → Except PyError (List EvaluatedDecision)
  apart : ∀ node agentId otherId evaluated others, agentId ≠ otherId →
    evaluate node agentId = .ok evaluated → evaluate node otherId = .ok others →
    ∀ value ∈ evaluated, ∀ other ∈ others, value.decision.decisionId ≠ other.decision.decisionId

/-- The body of the loop: the agent as a candidate, and the evidence of its evaluation. -/
def candidate (floats : FloatProduct) (evaluator : Option WorkerAccessEvaluator) (graph : WorkGraph)
    (node : WorkNode) (p : WorkProjection) (time : Datetime) (presence : AgentPresence) :
    Except PyError (Option WorkerMatch × List EvaluatedDecision) :=
  if feasible p graph node time presence then
    match p.estimates presence.agentId node.requiredCapabilities with
    | none => .ok (none, [])
    | some estimates =>
      let found access disclosure : WorkerMatch :=
        { nodeId := node.nodeId, agentId := presence.agentId, score := matchScore floats estimates
          competenceEstimateRefs := estimates.map (·.estimateId)
          accessDecisions := access, disclosureDecisions := disclosure }
      if ¬ estimates.all (·.basis = .seeded) then .ok (none, [])
      else if node.governedInformationRefs = [] then .ok (some (found [] []), [])
      else
        match evaluator with
        | none => .ok (none, [])
        | some evaluator => do
          let evaluated ← evaluator.evaluate node presence.agentId
          let access := ofKind .access evaluated
          let disclosure := ofKind .disclosure evaluated
          if accessIsFeasible node presence.agentId time access disclosure then
            return (some (found access disclosure), evaluated)
          else return (none, evaluated)
  else .ok (none, [])

/-- `candidates.sort(key=…)`. -/
def matchOrder (value : WorkerMatch) : ℚ ×ₗ String := toLex (-value.score, value.agentId)

/-- `match_with_access_evidence`. -/
def matchWithAccessEvidence (floats : FloatProduct) (evaluator : Option WorkerAccessEvaluator)
    (graph : WorkGraph) (node : WorkNode) (p : WorkProjection) (time : Datetime) :
    Except PyError (Option WorkerMatch × List EvaluatedDecision) := do
  let answers ← p.presence.sorted.mapM (candidate floats evaluator graph node p time)
  let candidates := answers.filterMap (·.1)
  return ((candidates.insertionSort fun a b => matchOrder a ≤ matchOrder b).head?,
    answers.flatMap (·.2))

/-- `selected_decision_ids`. -/
def selectedIds (found : Option WorkerMatch) : List String :=
  found.toList.flatMap fun value =>
    (value.accessDecisions ++ value.disclosureDecisions).map (·.decisionId)

/-- `material_decisions`. -/
def materialDecisions (found : Option WorkerMatch) (evidence : List EvaluatedDecision) :
    List EvaluatedDecision :=
  evidence.filter fun value =>
    !value.decision.allowed || value.decision.decisionId ∈ selectedIds found

/-- What a match meets. -/
structure Matched (floats : FloatProduct) (p : WorkProjection) (graph : WorkGraph) (node : WorkNode)
    (time : Datetime) (found : WorkerMatch) (presence : AgentPresence)
    (estimates : List CompetenceEstimate) : Prop where
  findPresence : p.presence.find found.agentId = some presence
  available : presence.status = .available ∧ presence.isValidAt time = true
  independent : found.agentId ∉ p.excludedWorkers graph.graphId node
  capacity : p.activeLeaseCount found.agentId < presence.maxConcurrency
  manifest : (p.manifests.find found.agentId).any (fun manifest =>
    node.requiredCapabilities.all fun capability => capability ∈ manifest.capabilities) = true
  findEstimates : p.estimates found.agentId node.requiredCapabilities = some estimates
  seeded : ∀ value ∈ estimates, value.basis = .seeded
  refs : found.competenceEstimateRefs = estimates.map (·.estimateId)
  score : found.score = matchScore floats estimates
  access : node.governedInformationRefs ≠ [] →
    accessIsFeasible node found.agentId time found.accessDecisions found.disclosureDecisions = true

variable {floats : FloatProduct} {evaluator : Option WorkerAccessEvaluator} {graph : WorkGraph}
  {node : WorkNode} {p : WorkProjection} {time : Datetime} {presence : AgentPresence}
  {found : WorkerMatch} {evidence : List EvaluatedDecision}

/-- The evidence of an agent is what the evaluator says of it, and there is none on a
node without governed inputs. -/
theorem candidate_evidence {found : Option WorkerMatch}
    (h : candidate floats evaluator graph node p time presence = .ok (found, evidence)) :
    evidence = [] ∨ node.governedInformationRefs ≠ [] ∧ ∃ value, evaluator = some value ∧
      value.evaluate node presence.agentId = .ok evidence := by
  unfold candidate at h
  split at h
  · split at h
    · cases h
      exact Or.inl rfl
    · dsimp only at h
      split at h
      · cases h
        exact Or.inl rfl
      · split at h
        · cases h
          exact Or.inl rfl
        · rename_i hgoverned
          split at h
          · cases h
            exact Or.inl rfl
          · rename_i value
            obtain ⟨evaluated, hevaluate, h⟩ := bind_eq_ok h
            refine Or.inr ⟨hgoverned, value, rfl, ?_⟩
            split at h
            · cases h
              exact hevaluate
            · cases h
              exact hevaluate
  · cases h
    exact Or.inl rfl

theorem candidate_spec (hpresence : p.presence.find presence.agentId = some presence)
    (h : candidate floats evaluator graph node p time presence = .ok (some found, evidence)) :
    found.agentId = presence.agentId ∧
    (∃ estimates, Matched floats p graph node time found presence estimates) ∧
    found.accessDecisions = ofKind .access evidence ∧
    found.disclosureDecisions = ofKind .disclosure evidence := by
  unfold candidate at h
  split at h
  · rename_i hfeasible
    unfold feasible at hfeasible
    simp only [Bool.and_eq_true, decide_eq_true_eq] at hfeasible
    obtain ⟨⟨⟨⟨hstatus, hvalid⟩, hindependent⟩, hcapacity⟩, hmanifest⟩ := hfeasible
    split at h
    · cases h
    · rename_i estimates hestimates
      dsimp only at h
      split at h
      · cases h
      · rename_i hseeded
        have hseeded : ∀ value ∈ estimates, value.basis = .seeded := by simpa using hseeded
        split at h
        · rename_i hungoverned
          cases h
          exact ⟨rfl, ⟨estimates, hpresence, ⟨hstatus, hvalid⟩, hindependent, hcapacity, hmanifest,
            hestimates, hseeded, rfl, rfl, fun hne => absurd hungoverned hne⟩, rfl, rfl⟩
        · split at h
          · cases h
          · obtain ⟨evaluated, hevaluate, h⟩ := bind_eq_ok h
            split at h
            · rename_i haccess
              cases h
              exact ⟨rfl, ⟨estimates, hpresence, ⟨hstatus, hvalid⟩, hindependent, hcapacity,
                hmanifest, hestimates, hseeded, rfl, rfl, fun _ => haccess⟩, rfl, rfl⟩
            · cases h
  · cases h

theorem ofKind_ids {value : EvaluatedDecision} (hvalue : value ∈ evidence) :
    value.decision.decisionId ∈
      (ofKind .access evidence ++ ofKind .disclosure evidence).map (·.decisionId) := by
  refine List.mem_map_of_mem (List.mem_append.mpr ?_)
  cases hkind : value.kind with
  | access => exact Or.inl (List.mem_map_of_mem (List.mem_filter.mpr ⟨hvalue, by simp [hkind]⟩))
  | disclosure => exact Or.inr (List.mem_map_of_mem (List.mem_filter.mpr ⟨hvalue, by simp [hkind]⟩))

/-- An agent's evidence is apart from that of the others. -/
theorem evidence_apart {presences : List AgentPresence}
    {answers : List (Option WorkerMatch × List EvaluatedDecision)} {agentId : String}
    (hanswers : List.Forall₂ (fun presence answer =>
      candidate floats evaluator graph node p time presence = .ok answer) presences answers)
    (hothers : ∀ presence ∈ presences, presence.agentId ≠ agentId)
    {own : List EvaluatedDecision} (hown : own = [] ∨ ∃ value, evaluator = some value ∧
      value.evaluate node agentId = .ok own) :
    ∀ value ∈ own, ∀ other ∈ answers.flatMap (·.2),
      value.decision.decisionId ≠ other.decision.decisionId := by
  induction hanswers with
  | nil => exact fun _ _ _ h => (nomatch h)
  | @cons presence answer presences answers hanswer _ ih =>
    intro value hvalue other hother
    rw [List.flatMap_cons, List.mem_append] at hother
    rcases hother with hother | hother
    · rcases hown with rfl | ⟨evaluates, rfl, hevaluate⟩
      · cases hvalue
      · rcases candidate_evidence hanswer with hempty | ⟨-, evaluates', hsame, hevaluate'⟩
        · rw [hempty] at hother
          cases hother
        · cases hsame
          exact evaluates.apart node agentId presence.agentId own answer.2
            (hothers presence (List.mem_cons_self ..)).symm hevaluate hevaluate' value hvalue other
            hother
    · exact ih (fun presence hpresence => hothers presence (List.mem_cons_of_mem _ hpresence))
        value hvalue other hother

/-- The decisions that a match is made of. -/
def decisionsOf (kind : DecisionKind) (found : WorkerMatch) : List InformationDecision :=
  match kind with
  | .access => found.accessDecisions
  | .disclosure => found.disclosureDecisions

theorem mem_selectedIds {own : List EvaluatedDecision}
    (haccess : found.accessDecisions = ofKind .access own)
    (hdisclosure : found.disclosureDecisions = ofKind .disclosure own) (id : String) :
    id ∈ selectedIds (some found) ↔ ∃ value ∈ own, value.decision.decisionId = id := by
  have hselected : selectedIds (some found) =
      (ofKind .access own ++ ofKind .disclosure own).map (·.decisionId) := by
    simp [selectedIds, haccess, hdisclosure]
  rw [hselected]
  constructor
  · intro hid
    obtain ⟨decision, hdecision, rfl⟩ := List.mem_map.mp hid
    rcases List.mem_append.mp hdecision with hdecision | hdecision
    all_goals
      obtain ⟨value, hvalue, rfl⟩ := List.mem_map.mp hdecision
      exact ⟨value, (List.mem_filter.mp hvalue).1, rfl⟩
  · rintro ⟨value, hvalue, rfl⟩
    exact ofKind_ids hvalue

/-- The selected part of the evidence is the evidence of the agent that is matched. -/
theorem selected_evidence {before own after : List EvaluatedDecision}
    (hids : ∀ id, id ∈ selectedIds (some found) ↔ ∃ value ∈ own, value.decision.decisionId = id)
    (hbefore : ∀ value ∈ own, ∀ other ∈ before,
      value.decision.decisionId ≠ other.decision.decisionId)
    (hafter : ∀ value ∈ own, ∀ other ∈ after,
      value.decision.decisionId ≠ other.decision.decisionId) :
    (materialDecisions (some found) (before ++ (own ++ after))).filter (fun value =>
      value.decision.decisionId ∈ selectedIds (some found)) = own := by
  have hnone : ∀ others : List EvaluatedDecision,
      (∀ value ∈ own, ∀ other ∈ others,
        value.decision.decisionId ≠ other.decision.decisionId) →
      others.filter (fun value =>
        decide (value.decision.decisionId ∈ selectedIds (some found))) = [] := by
    intro others hapart
    refine List.filter_eq_nil_iff.mpr fun other hother => ?_
    rw [decide_eq_true_eq, hids]
    rintro ⟨value, hvalue, hsame⟩
    exact hapart value hvalue other hother hsame
  have hall : own.filter (fun value =>
      decide (value.decision.decisionId ∈ selectedIds (some found))) = own := by
    refine List.filter_eq_self.mpr fun value hvalue => ?_
    rw [decide_eq_true_eq, hids]
    exact ⟨value, hvalue, rfl⟩
  have hmaterial : (fun value : EvaluatedDecision =>
      decide (value.decision.decisionId ∈ selectedIds (some found)) &&
        (!value.decision.allowed || decide (value.decision.decisionId ∈ selectedIds (some found)))) =
      fun value => decide (value.decision.decisionId ∈ selectedIds (some found)) := by
    funext value
    cases value.decision.allowed <;> simp
  rw [materialDecisions, List.filter_filter, hmaterial, List.filter_append, List.filter_append,
    hall, hnone before hbefore, hnone after hafter, List.nil_append, List.append_nil]

/-- **A match meets the checks, and its decisions are all that the evidence has under
their ids.** -/
theorem matchWithAccessEvidence_spec
    (h : matchWithAccessEvidence floats evaluator graph node p time = .ok (some found, evidence)) :
    (∃ presence estimates, Matched floats p graph node time found presence estimates) ∧
    ∀ kind, ofKind kind ((materialDecisions (some found) evidence).filter fun value =>
      value.decision.decisionId ∈ selectedIds (some found)) = decisionsOf kind found := by
  obtain ⟨answers, hanswers, h⟩ := bind_eq_ok h
  obtain ⟨hfirst, rfl⟩ := Prod.ext_iff.mp (Except.ok.inj h)
  have hcandidate : found ∈ answers.filterMap (·.1) :=
    (List.mem_insertionSort _).mp (List.mem_of_mem_head? hfirst)
  obtain ⟨⟨foundAnswer, own⟩, hanswer, hfound⟩ := List.mem_filterMap.mp hcandidate
  obtain rfl : foundAnswer = some found := hfound
  obtain ⟨before, after, rfl⟩ := List.append_of_mem hanswer
  -- The agents are told apart by their ids, so the other answers are about others.
  have hagents : (p.presence.sorted.map (·.agentId)).Nodup := by
    have hperm := (List.perm_insertionSort (fun a b : AgentPresence => a.agentId ≤ b.agentId)
      p.presence.rows).map (·.agentId)
    exact hperm.nodup_iff.mpr p.presence.unique
  have hanswers := mapM_ok.mp hanswers
  have hbefore := List.forall₂_take_append _ _ _ hanswers
  have hrest := List.forall₂_drop_append _ _ _ hanswers
  have hpresences := List.take_append_drop before.length p.presence.sorted
  generalize p.presence.sorted.take before.length = presences at hbefore hpresences
  generalize p.presence.sorted.drop before.length = rest at hrest hpresences
  cases hrest with
  | @cons presence _ later _ hown hafter =>
    have hmem : presence ∈ p.presence.rows := by
      refine KeyedTable.mem_sorted.mp ?_
      rw [← hpresences]
      simp
    obtain ⟨-, hmatched, haccess, hdisclosure⟩ := candidate_spec (KeyedTable.find_of_mem hmem) hown
    have hevaluated : own = [] ∨ ∃ value, evaluator = some value ∧
        value.evaluate node presence.agentId = .ok own :=
      (candidate_evidence hown).imp id And.right
    rw [← hpresences, List.map_append, List.map_cons, List.nodup_append, List.nodup_cons] at hagents
    obtain ⟨-, ⟨hnotAfter, -⟩, hnotBefore⟩ := hagents
    have hothers : ∀ other ∈ presences, other.agentId ≠ presence.agentId := fun other hother =>
      hnotBefore _ (List.mem_map_of_mem hother) _ (List.mem_cons_self ..)
    have hlater : ∀ other ∈ later, other.agentId ≠ presence.agentId := by
      intro other hother hsame
      rw [← hsame] at hnotAfter
      exact hnotAfter (List.mem_map_of_mem hother)
    have hbeforeApart := evidence_apart hbefore hothers hevaluated
    have hafterApart := evidence_apart hafter hlater hevaluated
    refine ⟨⟨presence, hmatched⟩, fun kind => ?_⟩
    show ofKind kind ((materialDecisions (some found)
      ((before ++ (some found, own) :: after).flatMap (·.2))).filter _) = _
    rw [List.flatMap_append, List.flatMap_cons,
      selected_evidence (mem_selectedIds haccess hdisclosure) hbeforeApart hafterApart]
    cases kind with
    | access => exact haccess.symm
    | disclosure => exact hdisclosure.symm

/-- A node without governed inputs has no evidence. -/
theorem evidence_ungoverned {found : Option WorkerMatch}
    (h : matchWithAccessEvidence floats evaluator graph node p time = .ok (found, evidence))
    (hungoverned : node.governedInformationRefs = []) : evidence = [] := by
  obtain ⟨answers, hanswers, h⟩ := bind_eq_ok h
  have hevidence : answers.flatMap (·.2) = evidence :=
    congrArg Prod.snd (Except.ok.inj h)
  replace hanswers := mapM_ok.mp hanswers
  rw [← hevidence]
  clear h hevidence
  generalize p.presence.sorted = presences at hanswers
  induction hanswers with
  | nil => rfl
  | cons hanswer _ ih =>
    rw [List.flatMap_cons, ih, List.append_nil]
    rcases candidate_evidence hanswer with hempty | ⟨hgoverned, -⟩
    · exact hempty
    · exact absurd hungoverned hgoverned

/-- A match on governed inputs has decisions. -/
theorem material_governed
    (h : matchWithAccessEvidence floats evaluator graph node p time = .ok (some found, evidence))
    (hgoverned : node.governedInformationRefs ≠ []) :
    materialDecisions (some found) evidence ≠ [] := by
  obtain ⟨⟨presence, estimates, hmatched⟩, hmade⟩ := matchWithAccessEvidence_spec h
  intro hempty
  have haccess := hmade .access
  rw [hempty] at haccess
  have hfeasible := hmatched.access hgoverned
  simp only [accessIsFeasible, Bool.and_eq_true, decide_eq_true_eq] at hfeasible
  have hlength := hfeasible.1.1.1.1.1
  have hnone : found.accessDecisions = [] := haccess.symm
  rw [hnone] at hlength
  exact hgoverned (List.length_eq_zero_iff.mp hlength.symm)

end WorkerMatcher
end Noema
