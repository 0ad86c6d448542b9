import Noema.RecordStorage

/-!
# Work orders, estimates and assertions in storage

Their constructors do not look at the id; their readers compare it with the content as read.
-/
namespace Noema

/-- What `==` compares of a time. -/
def Datetime.valued (time : Datetime) : Datetime := .utc time.instant

/-- A check that stays passed when its first step does. -/
theorem check_mono {x y : Except PyError Unit} {f g : Unit → Except PyError Unit}
    (h : (x >>= f) = .ok ()) (hx : x = .ok () → y = .ok ())
    (hf : f () = .ok () → g () = .ok ()) : (y >>= g) = .ok () := by
  obtain ⟨answer, hfirst, hrest⟩ := bind_eq_ok h
  exact (bind_of_ok (hx hfirst) g).trans (hf hrest)

theorem constructed_iff {α : Type} {check : α → Except PyError Unit} {value made : α} :
    constructed check value = .ok made ↔ check value = .ok () ∧ made = value := by
  constructor
  · intro h
    obtain ⟨_, hcheck, hmade⟩ := bind_eq_ok h
    cases hmade
    exact ⟨hcheck, rfl⟩
  · rintro ⟨hcheck, rfl⟩
    exact bind_of_ok hcheck _

namespace PyNumber

variable {b : ContentBuiltins} {number : PyNumber} {name : String}

theorem requireUnit_asFloat (h : number.requireUnit b name = .ok ()) :
    number.asFloat.requireUnit b name = .ok () := by
  cases number with
  | int value =>
    obtain ⟨finite, -, h⟩ := bind_eq_ok h
    have hwithin := (not_or.mp (refuse_ok h)).2
    exact refuse_of (not_or.mpr ⟨nofun, hwithin⟩)
  | float => exact h

theorem requireNonNegative_asFloat (h : number.requireNonNegative b name = .ok ()) :
    number.asFloat.requireNonNegative b name = .ok () := by
  cases number with
  | int value =>
    obtain ⟨finite, -, h⟩ := bind_eq_ok h
    have hwithin := (not_or.mp (refuse_ok h)).2
    exact refuse_of (not_or.mpr ⟨nofun, hwithin⟩)
  | float => exact h

end PyNumber

namespace Given

variable {b : ContentBuiltins} {q : Payload}

/-! ## Competence estimates -/

namespace CompetenceEstimate

variable {estimate value : CompetenceEstimate}

def spelled (estimate : CompetenceEstimate) : CompetenceEstimate :=
  { estimate with
    score := estimate.score.asFloat
    evidenceConfidence := estimate.evidenceConfidence.asFloat }

def valued (estimate : CompetenceEstimate) : CompetenceEstimate :=
  { estimate.spelled with estimatedAt := estimate.estimatedAt.valued }

def code (b : ContentBuiltins) : RecordCode b CompetenceEstimate where
  kind := "competence-estimate"
  idKey := "estimate_id"
  id := estimateId
  identity := fun estimate => identity b estimate.toEstimateContent
  Accepted := fun estimate => check b estimate = .ok ()
  fromDict := fromDict b
  spelled := spelled
  valued := valued
  floats := fun estimate => [estimate.score, estimate.evidenceConfidence]
  counts := fun _ => []

theorem distinct (estimate : CompetenceEstimate) :
    ((code b).idKey :: ((code b).identity estimate).map Prod.fst).Nodup := by
  show ["estimate_id", "agent_id", "capability", "score", "evidence_confidence", "basis",
    "evidence_refs", "estimated_at"].Nodup
  decide

theorem verified_iff : verified b estimate = .ok value ↔
    check b estimate = .ok () ∧ (code b).contentId estimate = .ok estimate.estimateId ∧
      value = estimate := by
  constructor
  · intro h
    obtain ⟨made, hmade, hexpect⟩ := bind_eq_ok h
    obtain ⟨hcheck, heq⟩ := constructed_iff.mp hmade
    rw [heq] at hexpect
    obtain ⟨expected, hexpected, hcompare⟩ := bind_eq_ok hexpect
    obtain ⟨id, hid, hconstructed⟩ := bind_eq_ok hexpected
    rw [(constructed_iff.mp hconstructed).2] at hcompare
    obtain ⟨_, hsame, hreturn⟩ := bind_eq_ok hcompare
    have hsame : estimate.estimateId = id := not_not.mp (refuse_ok hsame)
    exact ⟨hcheck, hid.trans (congrArg Except.ok hsame.symm), (Except.ok.inj hreturn).symm⟩
  · rintro ⟨hcheck, hid, rfl⟩
    have hcreate : create b value.toEstimateContent = .ok value :=
      (bind_of_ok hid _).trans (constructed_iff.mpr ⟨hcheck, rfl⟩)
    refine (bind_of_ok (constructed_iff.mpr ⟨hcheck, rfl⟩) _).trans ?_
    refine (bind_of_ok hcreate _).trans ?_
    exact bind_of_ok (refuse_of (not_not.mpr rfl)) _

theorem check_spelled (h : check b estimate = .ok ()) : check b estimate.spelled = .ok () :=
  check_mono h id fun h => check_mono h id fun h => check_mono h id fun h =>
    check_mono h PyNumber.requireUnit_asFloat fun h =>
      check_mono h PyNumber.requireUnit_asFloat id

theorem fromDict_respells (htimes : b.ReadsTimes) (h : q.Respells ((code b).toDict estimate)) :
    fromDict b q = (do
      let score ← estimate.score.readFloat b
      let evidenceConfidence ← estimate.evidenceConfidence.readFloat b
      verified b { estimate with score, evidenceConfidence }) := by
  have hfields := h.fields (distinct estimate)
  simp only [code, identity, List.forall_mem_cons] at hfields
  obtain ⟨hid, hagent, hcapability, hscore, hconfidence, hbasis, hrefs, htime, -⟩ := hfields
  have hofText : CompetenceBasis.ofText estimate.basis.text = .ok estimate.basis := by
    cases estimate.basis <;> rfl
  simp only [fromDict, hid.text, hagent.text, hcapability.text, hscore.number, hconfidence.number,
    hbasis.text, hofText, hrefs.texts, htime.time htimes, ok_bind]

theorem reads (htimes : b.ReadsTimes) (haccepted : check b estimate = .ok ())
    (h : q.Respells ((code b).toDict estimate)) :
    (code b).ReadsBack estimate q ↔ (code b).Exact estimate ∧
      (code b).contentId estimate.spelled = .ok estimate.estimateId := by
  show (∃ other, fromDict b q = .ok other ∧ _) ↔ _
  rw [fromDict_respells htimes h]
  constructor
  · rintro ⟨other, hread, hsame⟩
    obtain ⟨score, hscore, hread⟩ := bind_eq_ok hread
    obtain ⟨confidence, hconfidence, hread⟩ := bind_eq_ok hread
    obtain ⟨-, hid, rfl⟩ := verified_iff.mp hread
    obtain ⟨hscoreHeld, rfl⟩ := PyNumber.readFloat_ok hscore
      (congrArg (fun estimate : CompetenceEstimate => estimate.score) hsame)
    obtain ⟨hconfidenceHeld, rfl⟩ := PyNumber.readFloat_ok hconfidence
      (congrArg (fun estimate : CompetenceEstimate => estimate.evidenceConfidence) hsame)
    refine ⟨⟨?_, nofun, trivial⟩, hid⟩
    exact List.forall_mem_cons.mpr ⟨hscoreHeld, List.forall_mem_singleton.mpr hconfidenceHeld⟩
  · rintro ⟨⟨hfloats, -, -⟩, hid⟩
    obtain ⟨hscore, hconfidence⟩ := List.forall_mem_cons.mp hfloats
    refine ⟨estimate.spelled, ?_, rfl⟩
    rw [PyNumber.readFloat_of hscore, ok_bind,
      PyNumber.readFloat_of (List.forall_mem_singleton.mp hconfidence), ok_bind]
    exact verified_iff.mpr ⟨check_spelled haccepted, hid, rfl⟩

theorem respelled
    (h : Payload.Respells (.ofList ((code b).identity estimate.spelled))
      (.ofList ((code b).identity estimate))) : estimate.spelled = estimate := by
  have hsame := h.forall₂ (List.nodup_cons.mp (distinct (b := b) _)).2 rfl
  simp only [code, identity, spelled, List.forall₂_cons, PyNumber.sortKeys_inj, true_and] at hsame
  rw [spelled, hsame.1, hsame.2.1]

theorem lawful (htimes : b.ReadsTimes) (hbounded : b.FloatsBounded) : (code b).Lawful where
  distinct := distinct
  reads := reads htimes
  printable := by
    rintro estimate - ⟨hfloats, -, -⟩ hprintable
    obtain ⟨hscore, hconfidence⟩ := List.forall_mem_cons.mp hfloats
    refine printableFields_mono ?_ hprintable
    exact .cons id (.cons id (.cons (fun _ => PyNumber.printable_of_held hbounded hscore)
      (.cons (fun _ => PyNumber.printable_of_held hbounded (List.forall_mem_singleton.mp hconfidence))
        (.cons id (.cons id (.cons id .nil))))))
  respelled := respelled
  plain := fun {estimate} h => by
    exact ⟨PyNumber.held_of_fixed (congrArg (code b).floats h), nofun, trivial⟩

end CompetenceEstimate
/-! ## Work orders -/

namespace ActionPrerequisite

variable {prerequisite read : ActionPrerequisite}

def spelled (prerequisite : ActionPrerequisite) : ActionPrerequisite :=
  { prerequisite with
    minimumFreshness := prerequisite.minimumFreshness.asFloat
    minimumConfidence := prerequisite.minimumConfidence.asFloat }

def floats (prerequisite : ActionPrerequisite) : List PyNumber :=
  [prerequisite.minimumFreshness, prerequisite.minimumConfidence]

/-- A prerequisite with its numbers read again. -/
def reread (b : ContentBuiltins) (prerequisite : ActionPrerequisite) :
    Except PyError ActionPrerequisite := do
  let minimumFreshness ← prerequisite.minimumFreshness.readFloat b
  let minimumConfidence ← prerequisite.minimumConfidence.readFloat b
  constructed (check b) { prerequisite with minimumFreshness, minimumConfidence }

theorem distinct (prerequisite : ActionPrerequisite) : (prerequisite.fields.map Prod.fst).Nodup := by
  show ["source_id", "minimum_freshness", "minimum_confidence"].Nodup
  decide

theorem fromDict_respells (h : q.Respells prerequisite.toDict) :
    fromDict b q = prerequisite.reread b := by
  have hfields := h.fields prerequisite.distinct
  simp only [fields, List.forall_mem_cons] at hfields
  obtain ⟨hsource, hfreshness, hconfidence, -⟩ := hfields
  simp only [fromDict, hsource.text, hfreshness.number, hconfidence.number, ok_bind, reread]

theorem check_spelled (h : check b prerequisite = .ok ()) :
    check b prerequisite.spelled = .ok () :=
  check_mono h id fun h => check_mono h PyNumber.requireUnit_asFloat PyNumber.requireUnit_asFloat

theorem reread_ok (h : prerequisite.reread b = .ok read) (hsame : read.spelled = prerequisite.spelled) :
    (∀ number ∈ prerequisite.floats, number.Held b) ∧ read = prerequisite.spelled := by
  obtain ⟨freshness, hfreshness, h⟩ := bind_eq_ok h
  obtain ⟨confidence, hconfidence, h⟩ := bind_eq_ok h
  obtain ⟨-, rfl⟩ := constructed_iff.mp h
  obtain ⟨hheld, rfl⟩ := PyNumber.readFloat_ok hfreshness
    (congrArg (fun p : ActionPrerequisite => p.minimumFreshness) hsame)
  obtain ⟨hheld', rfl⟩ := PyNumber.readFloat_ok hconfidence
    (congrArg (fun p : ActionPrerequisite => p.minimumConfidence) hsame)
  exact ⟨List.forall_mem_cons.mpr ⟨hheld, List.forall_mem_singleton.mpr hheld'⟩, rfl⟩

theorem reread_of (hcheck : check b prerequisite = .ok ())
    (h : ∀ number ∈ prerequisite.floats, number.Held b) :
    prerequisite.reread b = .ok prerequisite.spelled := by
  obtain ⟨hfreshness, hconfidence⟩ := List.forall_mem_cons.mp h
  rw [reread, PyNumber.readFloat_of hfreshness, ok_bind,
    PyNumber.readFloat_of (List.forall_mem_singleton.mp hconfidence), ok_bind]
  exact constructed_iff.mpr ⟨check_spelled hcheck, rfl⟩

theorem printable_spelled (hbounded : b.FloatsBounded)
    (hheld : ∀ number ∈ prerequisite.floats, number.Held b)
    (h : prerequisite.spelled.toDict.value.printable = true) :
    prerequisite.toDict.value.printable = true := by
  rw [Payload.value, JSONValue.printable, toDict, Payload.ofList_rows_of_nodup (distinct _)] at h ⊢
  obtain ⟨hfreshness, hconfidence⟩ := List.forall_mem_cons.mp hheld
  refine printableFields_mono ?_ h
  exact .cons id (.cons (fun _ => PyNumber.printable_of_held hbounded hfreshness)
    (.cons (fun _ => PyNumber.printable_of_held hbounded (List.forall_mem_singleton.mp hconfidence))
      .nil))

theorem respelled (h : prerequisite.spelled.toDict.Respells prerequisite.toDict) :
    prerequisite.spelled = prerequisite := by
  have hsame := h.forall₂ (distinct _) rfl
  simp only [fields, spelled, List.forall₂_cons, PyNumber.sortKeys_inj, true_and] at hsame
  rw [spelled, hsame.1, hsame.2.1]

theorem held_of_spelled (h : prerequisite.spelled = prerequisite) :
    ∀ number ∈ prerequisite.floats, number.Held b :=
  PyNumber.held_of_fixed (congrArg floats h)

end ActionPrerequisite

theorem prerequisites_stored {key : String} {values : List ActionPrerequisite}
    (h : q.Stored key (.list (values.map fun value => value.toDict.value))) :
    prerequisites b q key = values.mapM (ActionPrerequisite.reread b) := by
  obtain ⟨stored, items, hstored, hitems, hmappings⟩ := stored_parts h
  rw [prerequisites, hstored]
  show (stored.iterate >>= _) = _
  rw [hitems, ok_bind]
  clear h hitems
  induction hmappings with
  | nil => rfl
  | cons hitem _ ih =>
    obtain ⟨data, hdata, hrespells⟩ := hitem
    rw [List.mapM_cons, List.mapM_cons, hdata, ok_bind,
      ActionPrerequisite.fromDict_respells hrespells, ih]

namespace WorkOrder

variable {order value : WorkOrder}

def spelled (order : WorkOrder) : WorkOrder :=
  { order with
    priority := order.priority.asFloat
    epistemicPrerequisites := order.epistemicPrerequisites.map ActionPrerequisite.spelled }

def valued (order : WorkOrder) : WorkOrder :=
  { order.spelled with
    deadline := order.deadline.map Datetime.valued
    opportunityWindowEnd := order.opportunityWindowEnd.map Datetime.valued
    createdAt := order.createdAt.valued }

def code (b : ContentBuiltins) : RecordCode b WorkOrder where
  kind := "work-order"
  idKey := "work_order_id"
  id := workOrderId
  identity := fun order => identity b order.toOrderContent
  Accepted := fun order => check b order = .ok () ∧
    ∀ prerequisite ∈ order.epistemicPrerequisites, prerequisite.check b = .ok ()
  fromDict := fromDict b
  spelled := spelled
  valued := valued
  floats := fun order =>
    order.priority :: order.epistemicPrerequisites.flatMap ActionPrerequisite.floats
  counts := fun _ => []

theorem distinct (order : WorkOrder) :
    ((code b).idKey :: ((code b).identity order).map Prod.fst).Nodup := by
  show ["work_order_id", "purpose", "governing_goal_refs", "created_from", "priority",
    "desired_outcome", "success_criteria", "deadline", "opportunity_window_end",
    "authority_ceiling", "epistemic_prerequisites", "created_at"].Nodup
  decide

theorem verified_iff : verified b order = .ok value ↔
    check b order = .ok () ∧ (code b).contentId order = .ok order.workOrderId ∧
      value = order := by
  constructor
  · intro h
    obtain ⟨made, hmade, hexpect⟩ := bind_eq_ok h
    obtain ⟨hcheck, heq⟩ := constructed_iff.mp hmade
    rw [heq] at hexpect
    obtain ⟨expected, hexpected, hcompare⟩ := bind_eq_ok hexpect
    obtain ⟨id, hid, hconstructed⟩ := bind_eq_ok hexpected
    rw [(constructed_iff.mp hconstructed).2] at hcompare
    obtain ⟨_, hsame, hreturn⟩ := bind_eq_ok hcompare
    have hsame : order.workOrderId = id := not_not.mp (refuse_ok hsame)
    exact ⟨hcheck, hid.trans (congrArg Except.ok hsame.symm), (Except.ok.inj hreturn).symm⟩
  · rintro ⟨hcheck, hid, rfl⟩
    have hcreate : create b value.toOrderContent = .ok value :=
      (bind_of_ok hid _).trans (constructed_iff.mpr ⟨hcheck, rfl⟩)
    refine (bind_of_ok (constructed_iff.mpr ⟨hcheck, rfl⟩) _).trans ?_
    refine (bind_of_ok hcreate _).trans ?_
    exact bind_of_ok (refuse_of (not_not.mpr rfl)) _

theorem check_spelled (h : check b order = .ok ()) : check b order.spelled = .ok () :=
  check_mono h id fun h => check_mono h id fun h => check_mono h id fun h =>
    check_mono h id fun h => check_mono h id fun h => check_mono h id fun h =>
      check_mono h PyNumber.requireUnit_asFloat fun h => check_mono h id fun h =>
        check_mono h id fun h => by
          have hsources : order.spelled.epistemicPrerequisites.map ActionPrerequisite.sourceId =
              order.epistemicPrerequisites.map ActionPrerequisite.sourceId := List.map_map
          rw [hsources]
          exact h

theorem fromDict_respells (htimes : b.ReadsTimes) (h : q.Respells ((code b).toDict order)) :
    fromDict b q = (do
      let priority ← order.priority.readFloat b
      let epistemicPrerequisites ←
        order.epistemicPrerequisites.mapM (ActionPrerequisite.reread b)
      verified b { order with priority, epistemicPrerequisites }) := by
  have hfields := h.fields (distinct order)
  simp only [code, identity, List.forall_mem_cons] at hfields
  obtain ⟨hid, hpurpose, hgoals, hcreated, hpriority, houtcome, hcriteria, hdeadline, hwindow,
    hauthority, hprerequisites, htime, -⟩ := hfields
  have hlevel : itemInt b.toIntentBuiltins q "authority_ceiling" =
      .ok (order.authorityCeiling.value : Int) := by
    rw [itemInt, item_of_get (hauthority.flat rfl)]
    rfl
  have hofInt : AuthorityLevel.ofInt order.authorityCeiling.value = .ok order.authorityCeiling := by
    cases order.authorityCeiling <;> rfl
  simp only [fromDict, hid.text, hpurpose.text, hgoals.texts, hcreated.texts, hpriority.number,
    houtcome.text, hcriteria.texts, hdeadline.timeOrNone htimes, hwindow.timeOrNone htimes,
    hlevel, hofInt, prerequisites_stored hprerequisites, htime.time htimes, ok_bind]

theorem reads (htimes : b.ReadsTimes) (haccepted : (code b).Accepted order)
    (h : q.Respells ((code b).toDict order)) :
    (code b).ReadsBack order q ↔ (code b).Exact order ∧
      (code b).contentId order.spelled = .ok order.workOrderId := by
  show (∃ other, fromDict b q = .ok other ∧ _) ↔ _
  rw [fromDict_respells htimes h]
  obtain ⟨hcheck, hprerequisites⟩ := haccepted
  constructor
  · rintro ⟨other, hread, hsame⟩
    obtain ⟨priority, hpriority, hread⟩ := bind_eq_ok hread
    obtain ⟨reads, hreads, hread⟩ := bind_eq_ok hread
    obtain ⟨-, hid, rfl⟩ := verified_iff.mp hread
    obtain ⟨hheld, rfl⟩ := PyNumber.readFloat_ok hpriority
      (congrArg (fun order : WorkOrder => order.priority) hsame)
    obtain ⟨hheld', rfl⟩ := mapM_same ActionPrerequisite.reread_ok hreads
      (congrArg (fun order : WorkOrder => order.epistemicPrerequisites) hsame)
    refine ⟨⟨List.forall_mem_cons.mpr ⟨hheld, fun number hnumber => ?_⟩, nofun, trivial⟩, hid⟩
    obtain ⟨value, hvalue, hnumber⟩ := List.mem_flatMap.mp hnumber
    exact hheld' value hvalue number hnumber
  · rintro ⟨⟨hfloats, -, -⟩, hid⟩
    obtain ⟨hpriority, hrest⟩ := List.forall_mem_cons.mp hfloats
    have hreads : order.epistemicPrerequisites.mapM (ActionPrerequisite.reread b) =
        .ok (order.epistemicPrerequisites.map ActionPrerequisite.spelled) :=
      mapM_of_forall fun value hvalue =>
        ActionPrerequisite.reread_of (hprerequisites value hvalue) fun number hnumber =>
          hrest number (List.mem_flatMap.mpr ⟨value, hvalue, hnumber⟩)
    refine ⟨order.spelled, ?_, ?_⟩
    · rw [PyNumber.readFloat_of hpriority, ok_bind, hreads, ok_bind]
      exact verified_iff.mpr ⟨check_spelled hcheck, hid, rfl⟩
    · show valued _ = valued _
      rw [valued, valued, spelled, spelled, List.map_map]
      rfl

theorem respelled
    (h : Payload.Respells (.ofList ((code b).identity order.spelled))
      (.ofList ((code b).identity order))) : order.spelled = order := by
  have hsame := h.forall₂ (List.nodup_cons.mp (distinct (b := b) _)).2 rfl
  simp only [code, identity, spelled, List.forall₂_cons, PyNumber.sortKeys_inj, true_and] at hsame
  rw [spelled, hsame.1, respelled_parts ActionPrerequisite.respelled hsame.2.1]

theorem lawful (htimes : b.ReadsTimes) (hbounded : b.FloatsBounded) : (code b).Lawful where
  distinct := distinct
  reads := reads htimes
  printable := by
    rintro order - ⟨hfloats, -, -⟩ hprintable
    obtain ⟨hpriority, hrest⟩ := List.forall_mem_cons.mp hfloats
    have hparts := printable_parts ActionPrerequisite.toDict
      fun value (hvalue : value ∈ order.epistemicPrerequisites) =>
        ActionPrerequisite.printable_spelled hbounded fun number hnumber =>
          hrest number (List.mem_flatMap.mpr ⟨value, hvalue, hnumber⟩)
    refine printableFields_mono ?_ hprintable
    exact .cons id (.cons id (.cons id
      (.cons (fun _ => PyNumber.printable_of_held hbounded hpriority)
        (.cons id (.cons id (.cons id (.cons id (.cons id
          (.cons hparts (.cons id .nil))))))))))
  respelled := respelled
  plain := fun {order} h => by
    refine ⟨List.forall_mem_cons.mpr ⟨?_, ?_⟩, nofun, trivial⟩
    · exact PyNumber.held_of_asFloat (congrArg (fun order : WorkOrder => order.priority) h)
    · have hvalues := forall_map_eq.mp
        (congrArg (fun order : WorkOrder => order.epistemicPrerequisites) h)
      intro number hnumber
      obtain ⟨value, hvalue, hnumber⟩ := List.mem_flatMap.mp hnumber
      exact ActionPrerequisite.held_of_spelled (hvalues value hvalue) number hnumber

end WorkOrder

/-! ## Assertions -/

namespace SemanticAssertion

variable {assertion value : SemanticAssertion}

def spelled (assertion : SemanticAssertion) : SemanticAssertion :=
  { assertion with confidence := assertion.confidence.asFloat }

/-- What `==` compares of a scalar: numbers and booleans by value. -/
def scalarValued (scalar : JSONScalar) : JSONScalar :=
  match scalar.real with
  | some real => .float real
  | none => scalar

def valued (assertion : SemanticAssertion) : SemanticAssertion :=
  { assertion.spelled with
    value := scalarValued assertion.value
    validFrom := assertion.validFrom.valued
    validTo := assertion.validTo.map Datetime.valued
    recordedAt := assertion.recordedAt.valued
    freshUntil := assertion.freshUntil.map Datetime.valued }

def code (b : ContentBuiltins) : RecordCode b SemanticAssertion where
  kind := "assertion"
  idKey := "assertion_id"
  id := assertionId
  identity := fun assertion => identity b assertion.toAssertionContent
  Accepted := fun assertion => check b assertion = .ok ()
  fromDict := fromDict b
  spelled := spelled
  valued := valued
  floats := fun assertion => [assertion.confidence]
  counts := fun _ => []

theorem distinct (assertion : SemanticAssertion) :
    ((code b).idKey :: ((code b).identity assertion).map Prod.fst).Nodup := by
  show ["assertion_id", "subject", "predicate", "value", "epistemic_type", "confidence",
    "valid_from", "valid_to", "recorded_at", "fresh_until", "source_refs", "derivation_refs",
    "supersedes", "status", "mutable_world"].Nodup
  decide

theorem verified_iff : verified b assertion = .ok value ↔
    check b assertion = .ok () ∧ (code b).contentId assertion = .ok assertion.assertionId ∧
      value = assertion := by
  constructor
  · intro h
    obtain ⟨made, hmade, hexpect⟩ := bind_eq_ok h
    obtain ⟨hcheck, heq⟩ := constructed_iff.mp hmade
    rw [heq] at hexpect
    obtain ⟨id, hid, hcompare⟩ := bind_eq_ok hexpect
    obtain ⟨_, hsame, hreturn⟩ := bind_eq_ok hcompare
    have hsame : assertion.assertionId = id := not_not.mp (refuse_ok hsame)
    exact ⟨hcheck, hid.trans (congrArg Except.ok hsame.symm), (Except.ok.inj hreturn).symm⟩
  · rintro ⟨hcheck, hid, rfl⟩
    refine (bind_of_ok (constructed_iff.mpr ⟨hcheck, rfl⟩) _).trans ?_
    refine (bind_of_ok hid _).trans ?_
    exact bind_of_ok (refuse_of (not_not.mpr rfl)) _

theorem check_spelled (h : check b assertion = .ok ()) : check b assertion.spelled = .ok () :=
  check_mono h id fun h => check_mono h id fun h => check_mono h id fun h =>
    check_mono h PyNumber.requireUnit_asFloat id

/-- The assertion that is superseded is named. -/
theorem supersedes_ne (h : check b assertion = .ok ()) :
    ∀ text ∈ assertion.supersedes, text ≠ "" := by
  rintro text htext rfl
  obtain ⟨_, -, h⟩ := bind_eq_ok h
  obtain ⟨_, -, h⟩ := bind_eq_ok h
  obtain ⟨_, -, h⟩ := bind_eq_ok h
  obtain ⟨_, -, h⟩ := bind_eq_ok h
  obtain ⟨_, -, h⟩ := bind_eq_ok h
  obtain ⟨_, -, h⟩ := bind_eq_ok h
  obtain ⟨_, -, h⟩ := bind_eq_ok h
  obtain ⟨_, -, h⟩ := bind_eq_ok h
  rw [checkSupersedes, htext] at h
  obtain ⟨_, hblank, -⟩ := bind_eq_ok h
  exact refuse_ok hblank rfl

theorem scalarField_stored {scalar : JSONScalar} {key : String} (h : q.Stored key scalar.toJson) :
    scalarField q key = .ok scalar := by
  have hget := h.flat (by cases scalar <;> rfl)
  rw [scalarField, Payload.get, hget]
  cases scalar <;> rfl

theorem fromDict_respells (htimes : b.ReadsTimes) (hcheck : check b assertion = .ok ())
    (h : q.Respells ((code b).toDict assertion)) :
    fromDict b q = (do
      let confidence ← assertion.confidence.readFloat b
      verified b { assertion with confidence }) := by
  have hfields := h.fields (distinct assertion)
  simp only [code, identity, List.forall_mem_cons] at hfields
  obtain ⟨hid, hsubject, hpredicate, hvalue, htype, hconfidence, hfrom, hto, hrecorded, hfresh,
    hsources, hderivations, hsupersedes, hstatus, hmutable, -⟩ := hfields
  have hofType : EpistemicType.ofText assertion.epistemicType.text = .ok assertion.epistemicType := by
    cases assertion.epistemicType <;> rfl
  have hofStatus : AssertionStatus.ofText assertion.status.text = .ok assertion.status := by
    cases assertion.status <;> rfl
  simp only [fromDict, hid.text, hsubject.text, hpredicate.text, scalarField_stored hvalue,
    htype.text, hofType, hconfidence.number, hfrom.time htimes, hto.timeOrNone htimes,
    hrecorded.time htimes, hfresh.timeOrNone htimes, hsources.texts, hderivations.texts,
    hsupersedes.textIfAny (supersedes_ne hcheck), hstatus.textOr, hofStatus, hmutable.boolOr,
    ok_bind]

theorem reads (htimes : b.ReadsTimes) (haccepted : check b assertion = .ok ())
    (h : q.Respells ((code b).toDict assertion)) :
    (code b).ReadsBack assertion q ↔ (code b).Exact assertion ∧
      (code b).contentId assertion.spelled = .ok assertion.assertionId := by
  show (∃ other, fromDict b q = .ok other ∧ _) ↔ _
  rw [fromDict_respells htimes haccepted h]
  constructor
  · rintro ⟨other, hread, hsame⟩
    obtain ⟨confidence, hconfidence, hread⟩ := bind_eq_ok hread
    obtain ⟨-, hid, rfl⟩ := verified_iff.mp hread
    obtain ⟨hheld, rfl⟩ := PyNumber.readFloat_ok hconfidence
      (congrArg (fun assertion : SemanticAssertion => assertion.confidence) hsame)
    exact ⟨⟨List.forall_mem_singleton.mpr hheld, nofun, trivial⟩, hid⟩
  · rintro ⟨⟨hfloats, -, -⟩, hid⟩
    refine ⟨assertion.spelled, ?_, rfl⟩
    rw [PyNumber.readFloat_of (List.forall_mem_singleton.mp hfloats), ok_bind]
    exact verified_iff.mpr ⟨check_spelled haccepted, hid, rfl⟩

theorem respelled
    (h : Payload.Respells (.ofList ((code b).identity assertion.spelled))
      (.ofList ((code b).identity assertion))) : assertion.spelled = assertion := by
  have hsame := h.forall₂ (List.nodup_cons.mp (distinct (b := b) _)).2 rfl
  simp only [code, identity, spelled, List.forall₂_cons, PyNumber.sortKeys_inj, true_and] at hsame
  rw [spelled, hsame.1]

theorem lawful (htimes : b.ReadsTimes) (hbounded : b.FloatsBounded) : (code b).Lawful where
  distinct := distinct
  reads := reads htimes
  printable := by
    rintro assertion - ⟨hfloats, -, -⟩ hprintable
    refine printableFields_mono ?_ hprintable
    have hconfidence := PyNumber.printable_of_held hbounded (List.forall_mem_singleton.mp hfloats)
    exact .cons id (.cons id (.cons id (.cons id (.cons (fun _ => hconfidence)
      (.cons id (.cons id (.cons id (.cons id (.cons id (.cons id (.cons id (.cons id (.cons id
        .nil)))))))))))))
  respelled := respelled
  plain := fun {assertion} h =>
    ⟨PyNumber.held_of_fixed (congrArg (code b).floats h), nofun, trivial⟩

end SemanticAssertion

end Given
end Noema
