import Noema.PolicyStorage

/-!
# Scarce budgets and reconsideration policies in storage

A reconsideration policy is read by making it again, with the allocator of this version and
its foreground event types in order.
-/
namespace Noema.Given

variable {b : ContentBuiltins} {q : Payload}

/-! ## Scarce budgets -/

namespace ScarceCognitionCostSnapshot

variable {costs read : ScarceCognitionCostSnapshot}

def spelled (costs : ScarceCognitionCostSnapshot) : ScarceCognitionCostSnapshot where
  computeUnits := costs.computeUnits.asFloat
  wallTimeSeconds := costs.wallTimeSeconds.asFloat
  monetaryCost := costs.monetaryCost.asFloat
  attentionUnits := costs.attentionUnits.asFloat
  contextSwitchingUnits := costs.contextSwitchingUnits.asFloat
  intrusionUnits := costs.intrusionUnits.asFloat
  interruptionUnits := costs.interruptionUnits.asFloat
  privacyExposureUnits := costs.privacyExposureUnits.asFloat
  opportunityCostUnits := costs.opportunityCostUnits.asFloat
  revalidationUnits := costs.revalidationUnits.asFloat

def floats (costs : ScarceCognitionCostSnapshot) : List PyNumber :=
  [costs.computeUnits, costs.wallTimeSeconds, costs.monetaryCost, costs.attentionUnits,
   costs.contextSwitchingUnits, costs.intrusionUnits, costs.interruptionUnits,
   costs.privacyExposureUnits, costs.opportunityCostUnits, costs.revalidationUnits]

/-- Costs with their numbers read again. -/
def reread (b : ContentBuiltins) (costs : ScarceCognitionCostSnapshot) :
    Except PyError ScarceCognitionCostSnapshot := do
  let computeUnits ← costs.computeUnits.readFloat b
  let wallTimeSeconds ← costs.wallTimeSeconds.readFloat b
  let monetaryCost ← costs.monetaryCost.readFloat b
  let attentionUnits ← costs.attentionUnits.readFloat b
  let contextSwitchingUnits ← costs.contextSwitchingUnits.readFloat b
  let intrusionUnits ← costs.intrusionUnits.readFloat b
  let interruptionUnits ← costs.interruptionUnits.readFloat b
  let privacyExposureUnits ← costs.privacyExposureUnits.readFloat b
  let opportunityCostUnits ← costs.opportunityCostUnits.readFloat b
  let revalidationUnits ← costs.revalidationUnits.readFloat b
  constructed (check b)
    { computeUnits, wallTimeSeconds, monetaryCost, attentionUnits, contextSwitchingUnits,
      intrusionUnits, interruptionUnits, privacyExposureUnits, opportunityCostUnits,
      revalidationUnits }

theorem distinct (costs : ScarceCognitionCostSnapshot) : (costs.fields.map Prod.fst).Nodup := by
  show costNames.Nodup
  decide

theorem fromDict_respells (h : q.Respells costs.toDict) : fromDict b q = costs.reread b := by
  have hfields := h.fields costs.distinct
  simp only [fields, List.forall_mem_cons] at hfields
  obtain ⟨hcompute, hwall, hmonetary, hattention, hswitching, hintrusion, hinterruption, hprivacy,
    hopportunity, hrevalidation, -⟩ := hfields
  simp only [fromDict, reread, hcompute.numberOrZero, hwall.numberOrZero, hmonetary.numberOrZero,
    hattention.numberOrZero, hswitching.numberOrZero, hintrusion.numberOrZero,
    hinterruption.numberOrZero, hprivacy.numberOrZero, hopportunity.numberOrZero,
    hrevalidation.numberOrZero]

theorem check_spelled (h : check b costs = .ok ()) : check b costs.spelled = .ok () :=
  check_mono h PyNumber.requireNonNegative_asFloat fun h =>
    check_mono h PyNumber.requireNonNegative_asFloat fun h =>
      check_mono h PyNumber.requireNonNegative_asFloat fun h =>
        check_mono h PyNumber.requireNonNegative_asFloat fun h =>
          check_mono h PyNumber.requireNonNegative_asFloat fun h =>
            check_mono h PyNumber.requireNonNegative_asFloat fun h =>
              check_mono h PyNumber.requireNonNegative_asFloat fun h =>
                check_mono h PyNumber.requireNonNegative_asFloat fun h =>
                  check_mono h PyNumber.requireNonNegative_asFloat
                    PyNumber.requireNonNegative_asFloat

theorem ext_floats (h : read.floats = costs.floats) : read = costs := by
  cases read
  cases costs
  simpa [floats] using h

theorem reread_iff : costs.reread b = .ok read ↔
    List.Forall₂ (fun number value => number.readFloat b = .ok value) costs.floats read.floats ∧
      check b read = .ok () := by
  simp only [reread, floats, bind_ok_iff, constructed_iff, List.forall₂_cons]
  constructor
  · rintro ⟨_, hcompute, _, hwall, _, hmonetary, _, hattention, _, hswitching, _, hintrusion, _,
      hinterruption, _, hprivacy, _, hopportunity, _, hrevalidation, hcheck, rfl⟩
    exact ⟨⟨hcompute, hwall, hmonetary, hattention, hswitching, hintrusion, hinterruption, hprivacy,
      hopportunity, hrevalidation, .nil⟩, hcheck⟩
  · rintro ⟨⟨hcompute, hwall, hmonetary, hattention, hswitching, hintrusion, hinterruption,
      hprivacy, hopportunity, hrevalidation, -⟩, hcheck⟩
    exact ⟨_, hcompute, _, hwall, _, hmonetary, _, hattention, _, hswitching, _, hintrusion, _,
      hinterruption, _, hprivacy, _, hopportunity, _, hrevalidation, hcheck, rfl⟩

theorem reread_ok (h : costs.reread b = .ok read) (hsame : read.spelled = costs.spelled) :
    (∀ number ∈ costs.floats, number.Held b) ∧ read = costs.spelled := by
  obtain ⟨hheld, heq⟩ := mapM_same PyNumber.readFloat_ok (mapM_ok.mpr (reread_iff.mp h).1)
    (congrArg floats hsame)
  exact ⟨hheld, ext_floats heq⟩

theorem reread_of (hcheck : check b costs = .ok ())
    (hheld : ∀ number ∈ costs.floats, number.Held b) : costs.reread b = .ok costs.spelled :=
  reread_iff.mpr ⟨mapM_ok.mp (mapM_of_forall fun number hnumber =>
    PyNumber.readFloat_of (hheld number hnumber)), check_spelled hcheck⟩

theorem printable_spelled (hbounded : b.FloatsBounded)
    (hheld : ∀ number ∈ costs.floats, number.Held b)
    (h : costs.spelled.toDict.value.printable = true) : costs.toDict.value.printable = true := by
  rw [Payload.value, JSONValue.printable, toDict, Payload.ofList_rows_of_nodup (distinct _)] at h ⊢
  have hprintable : ∀ number ∈ costs.floats, number.toJson.printable = true :=
    fun number hnumber => PyNumber.printable_of_held hbounded (hheld number hnumber)
  simp only [floats, List.forall_mem_cons] at hprintable
  obtain ⟨hcompute, hwall, hmonetary, hattention, hswitching, hintrusion, hinterruption, hprivacy,
    hopportunity, hrevalidation, -⟩ := hprintable
  refine printableFields_mono ?_ h
  exact .cons (fun _ => hcompute) (.cons (fun _ => hwall) (.cons (fun _ => hmonetary)
    (.cons (fun _ => hattention) (.cons (fun _ => hswitching) (.cons (fun _ => hintrusion)
      (.cons (fun _ => hinterruption) (.cons (fun _ => hprivacy) (.cons (fun _ => hopportunity)
        (.cons (fun _ => hrevalidation) .nil)))))))))

theorem respelled (h : costs.spelled.toDict.Respells costs.toDict) : costs.spelled = costs := by
  have hsame := h.forall₂ (distinct _) rfl
  simp only [fields, spelled, List.forall₂_cons, PyNumber.sortKeys_inj] at hsame
  obtain ⟨hcompute, hwall, hmonetary, hattention, hswitching, hintrusion, hinterruption, hprivacy,
    hopportunity, hrevalidation, -⟩ := hsame
  rw [spelled, hcompute, hwall, hmonetary, hattention, hswitching, hintrusion, hinterruption,
    hprivacy, hopportunity, hrevalidation]

theorem held_of_spelled (h : costs.spelled = costs) : ∀ number ∈ costs.floats, number.Held b :=
  PyNumber.held_of_fixed (congrArg floats h)

end ScarceCognitionCostSnapshot

namespace ScarceCognitionBudget

variable {budget : ScarceCognitionBudget}

def spelled (budget : ScarceCognitionBudget) : ScarceCognitionBudget :=
  { budget with
    maxCandidates := budget.maxCandidates.asInt
    ceiling := budget.ceiling.spelled }

def valued (budget : ScarceCognitionBudget) : ScarceCognitionBudget :=
  { budget.spelled with maxCandidates := budget.maxCandidates.asFloat }

def code (b : ContentBuiltins) : RecordCode b ScarceCognitionBudget where
  kind := "scarce-cognition-budget"
  idKey := "budget_id"
  id := budgetId
  identity := fun budget => identity budget.toScarceBudgetContent
  Accepted := fun budget => check b budget = .ok () ∧ budget.ceiling.check b = .ok ()
  fromDict := fromDict b
  spelled := spelled
  valued := valued
  floats := fun budget => budget.ceiling.floats
  counts := fun budget => [budget.maxCandidates]

theorem distinct (budget : ScarceCognitionBudget) :
    ((code b).idKey :: ((code b).identity budget).map Prod.fst).Nodup := by
  show ["budget_id", "max_candidates", "ceiling"].Nodup
  decide

theorem created_of_check (h : check b budget = .ok ()) : (code b).Created budget := by
  obtain ⟨_, -, h⟩ := bind_eq_ok h
  obtain ⟨_, -, h⟩ := bind_eq_ok h
  exact compared_iff.mp h

theorem check_spelled (h : check b budget = .ok ()) (hwhole : budget.maxCandidates.Whole)
    (hid : (code b).contentId budget.spelled = .ok budget.budgetId) :
    check b budget.spelled = .ok () := by
  refine check_mono h id fun h => check_mono h (fun h => ?_) fun _ => compared_iff.mpr hid
  show refuse (budget.maxCandidates.asInt.real.atMost (.finite 0) = true) _ = _
  rw [PyNumber.real_asInt hwhole]
  exact h

theorem fromDict_respells (h : q.Respells ((code b).toDict budget)) :
    fromDict b q = (do
      let maxCandidates ← budget.maxCandidates.readInt b
      let ceiling ← budget.ceiling.reread b
      constructed (check b) { budget with maxCandidates, ceiling }) := by
  have hfields := h.fields (distinct budget)
  simp only [code, identity, List.forall_mem_cons] at hfields
  obtain ⟨hid, hcandidates, hceiling, -⟩ := hfields
  obtain ⟨stored, hstored, hrespells⟩ := hceiling.mapping
  simp only [fromDict, hid.text, hcandidates.count, hstored, ok_bind,
    ScarceCognitionCostSnapshot.fromDict_respells hrespells]

theorem reads (haccepted : (code b).Accepted budget) (h : q.Respells ((code b).toDict budget)) :
    (code b).ReadsBack budget q ↔ (code b).Exact budget ∧
      (code b).contentId budget.spelled = .ok budget.budgetId := by
  show (∃ other, fromDict b q = .ok other ∧ _) ↔ _
  rw [fromDict_respells h]
  obtain ⟨hcheck, hceiling⟩ := haccepted
  constructor
  · rintro ⟨other, hread, hsame⟩
    obtain ⟨candidates, hcandidates, hread⟩ := bind_eq_ok hread
    obtain ⟨ceiling, hreread, hread⟩ := bind_eq_ok hread
    obtain ⟨hcheck', rfl⟩ := constructed_iff.mp hread
    have hsame := congrArg toScarceBudgetContent hsame
    obtain ⟨hwhole, rfl⟩ := PyNumber.readInt_ok hcandidates
      (congrArg ScarceBudgetContent.maxCandidates hsame)
    obtain ⟨hheld, rfl⟩ := ScarceCognitionCostSnapshot.reread_ok hreread
      (congrArg ScarceBudgetContent.ceiling hsame)
    exact ⟨⟨hheld, List.forall_mem_singleton.mpr hwhole, trivial⟩, created_of_check hcheck'⟩
  · rintro ⟨⟨hheld, hcounts, -⟩, hid⟩
    have hwhole := List.forall_mem_singleton.mp hcounts
    refine ⟨budget.spelled, ?_, ?_⟩
    · rw [PyNumber.readInt_of hwhole, ok_bind,
        ScarceCognitionCostSnapshot.reread_of hceiling hheld, ok_bind]
      exact constructed_iff.mpr ⟨check_spelled hcheck hwhole hid, rfl⟩
    · have hcandidates : budget.maxCandidates.asInt.asFloat = budget.maxCandidates.asFloat :=
        PyNumber.asFloat_asInt hwhole
      show valued _ = valued _
      rw [valued, valued, spelled, spelled, hcandidates]
      rfl

theorem lawful (hbounded : b.FloatsBounded) : (code b).Lawful where
  distinct := distinct
  reads := reads
  printable := by
    rintro budget - ⟨hheld, -, -⟩ hprintable
    have hheld : ∀ number ∈ budget.ceiling.floats, number.Held b := hheld
    have hceiling := ScarceCognitionCostSnapshot.printable_spelled hbounded hheld
    refine printableFields_mono ?_ hprintable
    exact .cons PyNumber.printable_of_asInt (.cons hceiling .nil)
  respelled := fun {budget} h => by
    have hleft := (Payload.respells_refl _).fields
      (List.nodup_cons.mp (distinct (b := b) budget.spelled)).2
    have hright := h.fields (List.nodup_cons.mp (distinct (b := b) budget)).2
    simp only [code, identity, List.forall_mem_cons] at hleft hright
    obtain ⟨hcandidates, hceiling, -⟩ := hleft
    obtain ⟨hcandidates', hceiling', -⟩ := hright
    have hcandidates : budget.maxCandidates.asInt = budget.maxCandidates :=
      hcandidates.number_unique hcandidates'
    have hceiling := Payload.respells_of_sortKeys (hceiling.unique hceiling')
    show spelled budget = budget
    rw [spelled, hcandidates, ScarceCognitionCostSnapshot.respelled hceiling]
  plain := fun {budget} h => by
    have h := congrArg toScarceBudgetContent h
    exact ⟨ScarceCognitionCostSnapshot.held_of_spelled (congrArg ScarceBudgetContent.ceiling h),
      List.forall_mem_singleton.mpr
        (PyNumber.whole_of_asInt (congrArg ScarceBudgetContent.maxCandidates h)), trivial⟩

end ScarceCognitionBudget

/-! ## Weights -/

namespace Weights

variable {weights read : Weights}

/-- A weight as a field of an object. -/
def jsonRow (row : String × PyNumber) : String × JSONValue := (row.1, row.2.toJson)

/-- A weight in the spelling of a reader. -/
def spelledRow (row : String × PyNumber) : String × PyNumber := (row.1, row.2.asFloat)

theorem toDict_rows (weights : Weights) : weights.toDict.rows = weights.rows.map jsonRow := rfl

def spelled (weights : Weights) : Weights := weights.update spelledRow fun _ => rfl

/-- What `==` compares: the weights by name, whatever their order. -/
def valued (weights : Weights) : Weights where
  rows := weights.spelled.sorted
  unique := by
    have hperm : weights.spelled.sorted.Perm weights.spelled.rows := List.perm_insertionSort _ _
    exact (hperm.map entryKey).nodup_iff.mpr weights.spelled.unique

def floats (weights : Weights) : List PyNumber := weights.rows.map Prod.snd

theorem sortFields_jsonRows (rows : List (String × PyNumber)) :
    sortFields (rows.map jsonRow) = rows.map jsonRow := by
  rw [sortFields_map, List.map_map]
  refine List.map_congr_left fun row _ => ?_
  exact congrArg (Prod.mk row.1) row.2.sortKeys_toJson

/-- Stored weights are the same weights in some order. -/
theorem rows_respells (h : q.Respells weights.toDict) :
    ∃ rows : List (String × PyNumber), q.rows = rows.map jsonRow ∧ rows.Perm weights.rows := by
  have hsorted : (sortFields q.rows).Perm (weights.rows.map jsonRow) := by
    have hrows := congrArg KeyedTable.rows h
    have hleft := List.perm_insertionSort keyLe (sortFields q.rows)
    have hright := List.perm_insertionSort keyLe (sortFields weights.toDict.rows)
    rw [toDict_rows, sortFields_jsonRows] at hright
    have hsame : (sortFields q.rows).insertionSort keyLe =
        (weights.rows.map jsonRow).insertionSort keyLe := by
      rw [← sortFields_jsonRows, ← toDict_rows]
      exact hrows
    rw [hsame] at hleft
    exact hleft.symm.trans hright
  have hflat : sortFields q.rows = q.rows := by
    rw [sortFields_map]
    refine (List.map_congr_left fun row hrow => ?_).trans (List.map_id _)
    have hmem : (row.1, row.2.sortKeys) ∈ sortFields q.rows := by
      rw [sortFields_map]
      exact List.mem_map_of_mem hrow
    obtain ⟨weight, -, hweight⟩ := List.mem_map.mp (hsorted.subset hmem)
    have hvalue : weight.2.toJson = row.2.sortKeys := congrArg Prod.snd hweight
    have hstored : row.2 = weight.2.toJson := by
      refine JSONValue.sortKeys_flat weight.2.flat_toJson ?_
      rw [PyNumber.sortKeys_toJson, hvalue]
    exact Prod.ext rfl (hvalue.symm.trans hstored.symm)
  rw [hflat] at hsorted
  have hcomp : Relation.Comp (· = List.map jsonRow ·) (·.Perm ·) q.rows weights.rows := by
    rw [List.eq_map_comp_perm]
    exact hsorted
  exact hcomp

/-- A weight with its number read again. -/
def rereadRow (b : ContentBuiltins) (row : String × PyNumber) :
    Except PyError (String × PyNumber) := do
  return (row.1, ← row.2.readFloat b)

theorem fromDict_rows {rows : List (String × PyNumber)} (h : q.rows = rows.map jsonRow) :
    fromDict b q = (do return .ofList (← rows.mapM (rereadRow b))) := by
  have hrow : (fun row : String × JSONValue => do
      return (row.1, PyNumber.float (← b.float row.2))) ∘ jsonRow = rereadRow b := by
    funext row
    show (do return (row.1, PyNumber.float (← b.float row.2.toJson))) = rereadRow b row
    rw [rereadRow, PyNumber.readFloat]
    cases b.float row.2.toJson <;> rfl
  rw [fromDict, h, List.mapM_map, hrow]

/-- Weights with the same rows have the same value. -/
theorem valued_of_perm {others : Weights} (h : others.spelled.rows.Perm weights.spelled.rows) :
    others.valued = weights.valued := by
  have hsame : (others.spelled.sorted.filter fun _ => true) =
      weights.spelled.sorted.filter fun _ => true :=
    KeyedTable.filter_sorted_congr fun row _ => h.mem_iff
  rw [List.filter_true, List.filter_true] at hsame
  exact KeyedTable.ext_rows hsame

/-- Weights that floats hold are read from their stored form. -/
theorem fromDict_of (h : q.Respells weights.toDict)
    (hheld : ∀ number ∈ weights.floats, number.Held b) :
    ∃ read : Weights, fromDict b q = .ok read ∧ read.rows.Perm weights.spelled.rows := by
  obtain ⟨rows, hrows, hperm⟩ := rows_respells h
  have hreads : rows.mapM (rereadRow b) = .ok (rows.map spelledRow) := by
    refine mapM_ok.mpr (List.forall₂_map_right_iff.mpr (List.forall₂_same.mpr fun row hrow => ?_))
    have hnumber := hheld row.2 (List.mem_map_of_mem (hperm.subset hrow))
    rw [rereadRow, PyNumber.readFloat_of hnumber]
    rfl
  have hkeys : ((rows.map spelledRow).map entryKey).Nodup := by
    rw [List.map_map]
    exact (hperm.map entryKey).nodup_iff.mpr weights.unique
  refine ⟨⟨rows.map spelledRow, hkeys⟩, ?_, hperm.map spelledRow⟩
  rw [fromDict_rows hrows, hreads, ok_bind]
  exact congrArg Except.ok (KeyedTable.ofList_rows ⟨rows.map spelledRow, hkeys⟩)

theorem rereadRow_keys {rows reads : List (String × PyNumber)}
    (h : List.Forall₂ (fun row read => rereadRow b row = .ok read) rows reads) :
    reads.map entryKey = rows.map entryKey := by
  induction h with
  | nil => rfl
  | cons hread _ ih =>
    obtain ⟨number, -, hnumber⟩ := bind_eq_ok hread
    cases hnumber
    rw [List.map_cons, List.map_cons, ih]
    rfl

/-- What is read from stored weights are the weights in some order, read one by one. -/
theorem fromDict_reads (h : q.Respells weights.toDict) (hread : fromDict b q = .ok read) :
    ∃ rows : List (String × PyNumber),
      rows.Perm weights.rows ∧ rows.mapM (rereadRow b) = .ok read.rows := by
  obtain ⟨rows, hrows, hperm⟩ := rows_respells h
  rw [fromDict_rows hrows] at hread
  obtain ⟨reads, hreads, hmade⟩ := bind_eq_ok hread
  cases hmade
  have hkeys : (reads.map entryKey).Nodup := by
    rw [rereadRow_keys (mapM_ok.mp hreads)]
    exact (hperm.map entryKey).nodup_iff.mpr weights.unique
  have hmade : (KeyedTable.ofList reads : Weights).rows = reads :=
    congrArg KeyedTable.rows (KeyedTable.ofList_rows (⟨reads, hkeys⟩ : Weights))
  refine ⟨rows, hperm, ?_⟩
  rw [hmade]
  exact hreads

theorem fromDict_keys (h : q.Respells weights.toDict) (hread : fromDict b q = .ok read) :
    (read.rows.map entryKey).Perm (weights.rows.map entryKey) := by
  obtain ⟨rows, hperm, hreads⟩ := fromDict_reads h hread
  rw [rereadRow_keys (mapM_ok.mp hreads)]
  exact hperm.map entryKey

/-- What is read as the same weights was held by floats. -/
theorem fromDict_ok (h : q.Respells weights.toDict) (hread : fromDict b q = .ok read)
    (hsame : read.valued = weights.valued) :
    (∀ number ∈ weights.floats, number.Held b) ∧ read.rows.Perm weights.spelled.rows := by
  have hheld : ∀ number ∈ weights.floats, number.Held b := by
    obtain ⟨rows, hperm, hreads⟩ := fromDict_reads h hread
    intro number hnumber
    obtain ⟨row, hrow, rfl⟩ := List.mem_map.mp hnumber
    obtain ⟨made, hmem, hmadeRow⟩ := mapM_mem hreads (hperm.symm.subset hrow)
    obtain ⟨value, hvalue, hpair⟩ := bind_eq_ok hmadeRow
    cases hpair
    -- What was read has the value of the weight of its name.
    have hvalued : spelledRow (row.1, value) ∈ read.valued.rows :=
      KeyedTable.mem_sorted.mpr (List.mem_map_of_mem hmem)
    rw [hsame] at hvalued
    obtain ⟨row', hrow', heq⟩ := List.mem_map.mp (KeyedTable.mem_sorted.mp hvalued)
    obtain ⟨hkey, hnumbers⟩ := Prod.mk.inj heq
    have hrows : row' = row := List.inj_on_of_nodup_map weights.unique hrow' hrow hkey
    rw [hrows] at hnumbers
    exact (PyNumber.readFloat_ok hvalue hnumbers.symm).1
  obtain ⟨other, hother, hperm⟩ := fromDict_of h hheld
  rw [hread] at hother
  cases hother
  exact ⟨hheld, hperm⟩

theorem respells_of_perm {others : Weights} (h : others.rows.Perm weights.rows) :
    others.toDict.Respells weights.toDict := by
  refine KeyedTable.ext_rows ?_
  show (sortFields (others.rows.map jsonRow)).insertionSort keyLe =
    (sortFields (weights.rows.map jsonRow)).insertionSort keyLe
  rw [sortFields_jsonRows, sortFields_jsonRows]
  exact Payload.insertionSort_congr weights.toDict.unique (h.map jsonRow)

theorem respelled (h : weights.spelled.toDict.Respells weights.toDict) :
    weights.spelled = weights := by
  refine KeyedTable.ext_rows ((List.map_congr_left fun row hrow => ?_).trans (List.map_id _))
  have hleft := (Payload.respells_refl weights.spelled.toDict).stored (jsonRow (spelledRow row))
    (List.mem_map_of_mem (List.mem_map_of_mem hrow))
  have hright := h.stored (jsonRow row) (List.mem_map_of_mem hrow)
  have hnumber : row.2.asFloat = row.2 := hleft.number_unique hright
  exact Prod.ext rfl hnumber

theorem held_of_spelled (h : weights.spelled = weights) :
    ∀ number ∈ weights.floats, number.Held b := by
  intro number hnumber
  obtain ⟨row, hrow, rfl⟩ := List.mem_map.mp hnumber
  have hrows : weights.rows.map spelledRow = weights.rows.map id :=
    (congrArg KeyedTable.rows h).trans (List.map_id _).symm
  exact PyNumber.held_of_asFloat (congrArg Prod.snd (List.map_inj_left.mp hrows row hrow))

theorem requireNames_perm {others : Weights} {names : List String} {message : String}
    (h : others.rows.Perm weights.rows) (hnames : weights.requireNames names message = .ok ()) :
    others.requireNames names message = .ok () := by
  obtain ⟨hknown, hall⟩ := not_not.mp (refuse_ok hnames)
  refine refuse_of (not_not.mpr ⟨fun row hrow => hknown row (h.subset hrow), fun name hname => ?_⟩)
  exact ((h.map entryKey).mem_iff).mpr (hall name hname)

end Weights

/-! ## Reconsideration policies -/

namespace ReconsiderationPolicySnapshot

variable {policy : ReconsiderationPolicySnapshot}

/-- The policy that the reader makes again. -/
def spelled (policy : ReconsiderationPolicySnapshot) : ReconsiderationPolicySnapshot :=
  { policy with
    allocatorId := stableAllocatorId
    allocatorVersion := stableAllocatorVersion
    featureWeights := policy.featureWeights.spelled
    costWeights := policy.costWeights.spelled
    minimumNetVoc := policy.minimumNetVoc.asFloat
    foregroundEventTypes := ordered policy.foregroundEventTypes }

def valued (policy : ReconsiderationPolicySnapshot) : ReconsiderationPolicySnapshot :=
  { policy with
    allocatorVersion := policy.allocatorVersion.asFloat
    featureWeights := policy.featureWeights.valued
    costWeights := policy.costWeights.valued
    minimumNetVoc := policy.minimumNetVoc.asFloat }

def code (b : ContentBuiltins) : RecordCode b ReconsiderationPolicySnapshot where
  kind := "reconsideration-policy"
  idKey := "policy_id"
  id := policyId
  identity := fun policy => identity policy.toReconsiderationPolicyContent
  Accepted := fun policy => check b policy = .ok ()
  fromDict := fromDict b
  spelled := spelled
  valued := valued
  floats := fun policy =>
    policy.minimumNetVoc :: (policy.featureWeights.floats ++ policy.costWeights.floats)
  counts := fun _ => []
  Ordered := fun policy => ordered policy.foregroundEventTypes = policy.foregroundEventTypes

theorem distinct (policy : ReconsiderationPolicySnapshot) :
    ((code b).idKey :: ((code b).identity policy).map Prod.fst).Nodup := by
  show ["policy_id", "version", "allocator_id", "allocator_version", "feature_weights",
    "cost_weights", "minimum_net_voc", "foreground_event_types"].Nodup
  decide

theorem identity_keys (content : ReconsiderationPolicyContent) :
    ((identity content).map Prod.fst).Nodup := by
  show ["version", "allocator_id", "allocator_version", "feature_weights", "cost_weights",
    "minimum_net_voc", "foreground_event_types"].Nodup
  decide

theorem created_of_check (h : check b policy = .ok ()) : (code b).Created policy := by
  unfold check at h
  iterate 9 obtain ⟨_, -, h⟩ := bind_eq_ok h
  exact compared_iff.mp h

/-- Contents that differ in the order of their weights. -/
theorem identity_respells (content : ReconsiderationPolicyContent) {features costs : Weights}
    (hfeatures : features.rows.Perm content.featureWeights.rows)
    (hcosts : costs.rows.Perm content.costWeights.rows) :
    Payload.Respells
      (.ofList (identity { content with featureWeights := features, costWeights := costs }))
      (.ofList (identity content)) := by
  refine Payload.respells_of_rows (identity_keys _) (identity_keys _) ?_
  have hfeatures : features.toDict.value.sortKeys = content.featureWeights.toDict.value.sortKeys :=
    congrArg (fun t : Payload => JSONValue.obj t.rows) (Weights.respells_of_perm hfeatures)
  have hcosts : costs.toDict.value.sortKeys = content.costWeights.toDict.value.sortKeys :=
    congrArg (fun t : Payload => JSONValue.obj t.rows) (Weights.respells_of_perm hcosts)
  simp only [identity, sortFields, hfeatures, hcosts]

theorem respelled
    (h : Payload.Respells (.ofList ((code b).identity policy.spelled))
      (.ofList ((code b).identity policy))) : policy.spelled = policy := by
  have hleft := (Payload.respells_refl _).fields (identity_keys policy.spelled.1)
  have hright := h.fields (identity_keys policy.1)
  simp only [code, identity, List.forall_mem_cons] at hleft hright
  obtain ⟨-, hallocator, hversion, hfeatures, hcosts, hminimum, hforeground, -⟩ := hleft
  obtain ⟨-, hallocator', hversion', hfeatures', hcosts', hminimum', hforeground', -⟩ := hright
  have hallocator : stableAllocatorId = policy.allocatorId := by
    have hsame := (hallocator.flat rfl).symm.trans (hallocator'.flat rfl)
    injection hsame with hsame
    injection hsame
  have hversion : stableAllocatorVersion = policy.allocatorVersion :=
    hversion.number_unique hversion'
  have hfeatures := Weights.respelled (Payload.respells_of_sortKeys (hfeatures.unique hfeatures'))
  have hcosts := Weights.respelled (Payload.respells_of_sortKeys (hcosts.unique hcosts'))
  have hminimum : policy.minimumNetVoc.asFloat = policy.minimumNetVoc :=
    hminimum.number_unique hminimum'
  have hforeground : ordered policy.foregroundEventTypes = policy.foregroundEventTypes :=
    hforeground.texts_unique hforeground'
  rw [spelled, hallocator, hversion, hfeatures, hcosts, hminimum, hforeground]

theorem fromDict_respells (h : q.Respells ((code b).toDict policy)) :
    ∃ features costs : Payload, features.Respells policy.featureWeights.toDict ∧
      costs.Respells policy.costWeights.toDict ∧
      fromDict b q = (do
        let featureWeights ← Weights.fromDict b features
        let costWeights ← Weights.fromDict b costs
        let minimumNetVoc ← policy.minimumNetVoc.readFloat b
        let value ← create b policy.version featureWeights costWeights minimumNetVoc
          policy.foregroundEventTypes
        refuse (value.policyId ≠ policy.policyId)
          "reconsideration policy id does not match immutable content"
        return value) := by
  have hfields := h.fields (distinct policy)
  simp only [code, identity, List.forall_mem_cons] at hfields
  obtain ⟨hid, hversion, -, -, hfeatures, hcosts, hminimum, hforeground, -⟩ := hfields
  obtain ⟨features, hfeaturesStored, hfeatures⟩ := hfeatures.mapping
  obtain ⟨costs, hcostsStored, hcosts⟩ := hcosts.mapping
  refine ⟨features, costs, hfeatures, hcosts, ?_⟩
  simp only [fromDict, hid.text, hversion.text, hfeaturesStored, hcostsStored, hminimum.number,
    hforeground.texts, ok_bind]

/-- Weights that have the names of a policy are not taken for none. -/
theorem orDefault_of_perm {weights others default : Weights} {names : List String} {message : String}
    (hnames : weights.requireNames names message = .ok ()) (hne : names ≠ [])
    (h : (others.rows.map entryKey).Perm (weights.rows.map entryKey)) :
    others.orDefault default = others := by
  obtain ⟨-, hall⟩ := not_not.mp (refuse_ok hnames)
  refine if_neg fun hempty => ?_
  obtain ⟨name, hname⟩ := List.exists_mem_of_ne_nil names hne
  have hkey := h.symm.subset (hall name hname)
  rw [hempty] at hkey
  cases hkey

/-- A checked policy stays checked when its weights move. -/
theorem check_perm {features costs : Weights} (h : check b policy = .ok ())
    (hfeatures : features.rows.Perm policy.featureWeights.rows)
    (hcosts : costs.rows.Perm policy.costWeights.rows) :
    check b { policy with featureWeights := features, costWeights := costs } = .ok () := by
  refine check_mono h id fun h => check_mono h id fun h => check_mono h id fun h =>
    check_mono h id fun h => check_mono h (Weights.requireNames_perm hfeatures) fun h =>
      check_mono h (Weights.requireNames_perm hcosts) fun h => check_mono h (fun h => ?_) fun h =>
        check_mono h id fun h => check_mono h id fun h => ?_
  · exact forM_of fun row hrow =>
      forM_ok h row ((hfeatures.append hcosts).subset hrow)
  · refine compared_iff.mpr ?_
    exact (b.contentId_congr _ (identity_respells _ hfeatures hcosts)).trans (compared_iff.mp h)

/-- What `create` returns. -/
theorem create_ok {version : String} {features costs : Weights} {minimum : PyNumber}
    {foreground : List String} {made : ReconsiderationPolicySnapshot}
    (h : create b version features costs minimum foreground = .ok made) :
    made.toReconsiderationPolicyContent =
      { version, allocatorId := stableAllocatorId, allocatorVersion := stableAllocatorVersion
        featureWeights := features.orDefault defaultFeatureWeights
        costWeights := costs.orDefault defaultCostWeights
        minimumNetVoc := minimum, foregroundEventTypes := ordered foreground } ∧
      (code b).Created made := by
  obtain ⟨id, hid, h⟩ := bind_eq_ok h
  obtain ⟨-, rfl⟩ := constructed_iff.mp h
  exact ⟨rfl, hid⟩

theorem names_of_check (h : check b policy = .ok ()) :
    policy.featureWeights.requireNames featureNames
        "reconsideration feature weights are incomplete" = .ok () ∧
      policy.costWeights.requireNames costNames
        "reconsideration cost weights are incomplete" = .ok () := by
  unfold check at h
  iterate 4 obtain ⟨_, -, h⟩ := bind_eq_ok h
  obtain ⟨_, hfeatures, h⟩ := bind_eq_ok h
  obtain ⟨_, hcosts, -⟩ := bind_eq_ok h
  exact ⟨hfeatures, hcosts⟩

/-- What reads as the policy has its numbers, and the id of its spelling. -/
theorem exact_of_read (hcheck : check b policy = .ok ()) (h : q.Respells ((code b).toDict policy))
    (hreads : (code b).ReadsBack policy q) :
    (code b).Exact policy ∧ (code b).contentId policy.spelled = .ok policy.policyId := by
  obtain ⟨made, hread, hsame⟩ := hreads
  obtain ⟨features, costs, hfeatures, hcosts, hfromDict⟩ := fromDict_respells h
  obtain ⟨featureWeights, hfeatureWeights, hread⟩ := bind_eq_ok (hfromDict.symm.trans hread)
  obtain ⟨costWeights, hcostWeights, hread⟩ := bind_eq_ok hread
  obtain ⟨minimum, hminimum, hread⟩ := bind_eq_ok hread
  obtain ⟨value, hvalue, hread⟩ := bind_eq_ok hread
  obtain ⟨_, hid, hread⟩ := bind_eq_ok hread
  cases hread
  have hid : made.policyId = policy.policyId := not_not.mp (refuse_ok hid)
  obtain ⟨hcontent, hcreated⟩ := create_ok hvalue
  obtain ⟨hfeatureNames, hcostNames⟩ := names_of_check hcheck
  rw [orDefault_of_perm hfeatureNames (by decide) (Weights.fromDict_keys hfeatures hfeatureWeights),
    orDefault_of_perm hcostNames (by decide) (Weights.fromDict_keys hcosts hcostWeights)] at hcontent
  have hsame := congrArg toReconsiderationPolicyContent hsame
  have hvalues : (made.featureWeights = featureWeights ∧ made.costWeights = costWeights) ∧
      made.minimumNetVoc = minimum := by
    rw [hcontent]
    exact ⟨⟨rfl, rfl⟩, rfl⟩
  obtain ⟨⟨rfl, rfl⟩, rfl⟩ := hvalues
  obtain ⟨hheldFeatures, hpermFeatures⟩ := Weights.fromDict_ok hfeatures hfeatureWeights
    (congrArg ReconsiderationPolicyContent.featureWeights hsame)
  obtain ⟨hheldCosts, hpermCosts⟩ := Weights.fromDict_ok hcosts hcostWeights
    (congrArg ReconsiderationPolicyContent.costWeights hsame)
  obtain ⟨hheldMinimum, hminimum⟩ := PyNumber.readFloat_ok hminimum
    (congrArg ReconsiderationPolicyContent.minimumNetVoc hsame)
  have hdigest : (code b).contentId policy.spelled = .ok policy.policyId := by
    rw [hminimum] at hcontent
    have hrespells := identity_respells policy.spelled.1 hpermFeatures hpermCosts
    have hcontents : { policy.spelled.1 with featureWeights := made.featureWeights,
                                             costWeights := made.costWeights } = made.1 :=
      hcontent.symm
    rw [hcontents] at hrespells
    have hdigest := b.contentId_congr "reconsideration-policy" hrespells
    rw [← hid]
    exact hdigest.symm.trans hcreated
  have hspelled := respelled (ContentBuiltins.contentId_injective hdigest (created_of_check hcheck))
  refine ⟨⟨?_, nofun, ?_⟩, hdigest⟩
  · refine List.forall_mem_cons.mpr ⟨hheldMinimum, fun number hnumber => ?_⟩
    rcases List.mem_append.mp hnumber with hnumber | hnumber
    · exact hheldFeatures number hnumber
    · exact hheldCosts number hnumber
  · exact congrArg (fun policy : ReconsiderationPolicySnapshot => policy.foregroundEventTypes) hspelled

/-- A policy in the reader's spelling, whose numbers floats hold, reads back. -/
theorem readsBack_of (hcheck : check b policy = .ok ()) (h : q.Respells ((code b).toDict policy))
    (hexact : (code b).Exact policy) (hspelled : policy.spelled = policy) :
    (code b).ReadsBack policy q := by
  obtain ⟨hminimum, hheld⟩ := List.forall_mem_cons.mp hexact.floats
  obtain ⟨features, costs, hfeatures, hcosts, hfromDict⟩ := fromDict_respells h
  obtain ⟨featureWeights, hfeatureWeights, hpermFeatures⟩ := Weights.fromDict_of hfeatures
    fun number hnumber => hheld number (List.mem_append_left _ hnumber)
  obtain ⟨costWeights, hcostWeights, hpermCosts⟩ := Weights.fromDict_of hcosts
    fun number hnumber => hheld number (List.mem_append_right _ hnumber)
  have hcontent := congrArg toReconsiderationPolicyContent hspelled
  have hfeaturesSpelled : policy.featureWeights.spelled = policy.featureWeights :=
    congrArg ReconsiderationPolicyContent.featureWeights hcontent
  have hcostsSpelled : policy.costWeights.spelled = policy.costWeights :=
    congrArg ReconsiderationPolicyContent.costWeights hcontent
  rw [hfeaturesSpelled] at hpermFeatures
  rw [hcostsSpelled] at hpermCosts
  let made : ReconsiderationPolicySnapshot := { policy with featureWeights, costWeights }
  obtain ⟨hfeatureNames, hcostNames⟩ := names_of_check hcheck
  have hcreate : create b policy.version featureWeights costWeights policy.minimumNetVoc.asFloat
      policy.foregroundEventTypes = .ok made := by
    rw [create, orDefault_of_perm hfeatureNames (by decide) (hpermFeatures.map entryKey),
      orDefault_of_perm hcostNames (by decide) (hpermCosts.map entryKey)]
    have hallocator : stableAllocatorId = policy.allocatorId :=
      congrArg ReconsiderationPolicyContent.allocatorId hcontent
    have hversion : stableAllocatorVersion = policy.allocatorVersion :=
      congrArg ReconsiderationPolicyContent.allocatorVersion hcontent
    have hminimum : policy.minimumNetVoc.asFloat = policy.minimumNetVoc :=
      congrArg ReconsiderationPolicyContent.minimumNetVoc hcontent
    have hforeground : ordered policy.foregroundEventTypes = policy.foregroundEventTypes :=
      congrArg ReconsiderationPolicyContent.foregroundEventTypes hcontent
    rw [hallocator, hversion, hminimum, hforeground]
    have hdigest : b.contentId "reconsideration-policy" (.ofList (identity made.1)) =
        .ok policy.policyId :=
      (b.contentId_congr _ (identity_respells _ hpermFeatures hpermCosts)).trans
        (created_of_check hcheck)
    exact (bind_of_ok hdigest _).trans
      (constructed_iff.mpr ⟨check_perm hcheck hpermFeatures hpermCosts, rfl⟩)
  refine ⟨made, ?_, ?_⟩
  · show fromDict b q = _
    rw [hfromDict, hfeatureWeights, ok_bind, hcostWeights, ok_bind, PyNumber.readFloat_of hminimum,
      ok_bind, hcreate, ok_bind]
    exact bind_of_ok (refuse_of (not_not.mpr rfl)) _
  · have hfeaturesValued : featureWeights.valued = policy.featureWeights.valued :=
      Weights.valued_of_perm (hpermFeatures.map Weights.spelledRow)
    have hcostsValued : costWeights.valued = policy.costWeights.valued :=
      Weights.valued_of_perm (hpermCosts.map Weights.spelledRow)
    show ({ policy.valued with
      featureWeights := featureWeights.valued
      costWeights := costWeights.valued } : ReconsiderationPolicySnapshot) = _
    rw [hfeaturesValued, hcostsValued]
    rfl

theorem lawful : (code b).Lawful where
  distinct := distinct
  reads := by
    intro policy q hcheck h
    constructor
    · exact exact_of_read hcheck h
    · rintro ⟨hexact, hid⟩
      exact readsBack_of hcheck h hexact
        (respelled (ContentBuiltins.contentId_injective hid (created_of_check hcheck)))
  printable := fun {policy} hcheck _ _ => by
    have hprintable := ContentBuiltins.printable_of_contentId (created_of_check hcheck)
    have hrows := Payload.ofList_rows_of_nodup (identity_keys policy.1)
    rw [Payload.value, JSONValue.printable] at hprintable
    exact (congrArg printableFields hrows).symm.trans hprintable
  respelled := respelled
  plain := by
    intro policy h
    have h := congrArg toReconsiderationPolicyContent h
    refine ⟨List.forall_mem_cons.mpr ⟨?_, fun number hnumber => ?_⟩,
      fun number hnumber => absurd hnumber List.not_mem_nil,
      congrArg ReconsiderationPolicyContent.foregroundEventTypes h⟩
    · exact PyNumber.held_of_asFloat (congrArg ReconsiderationPolicyContent.minimumNetVoc h)
    · rcases List.mem_append.mp hnumber with hnumber | hnumber
      · exact Weights.held_of_spelled
          (congrArg ReconsiderationPolicyContent.featureWeights h) number hnumber
      · exact Weights.held_of_spelled
          (congrArg ReconsiderationPolicyContent.costWeights h) number hnumber

end ReconsiderationPolicySnapshot

end Noema.Given
