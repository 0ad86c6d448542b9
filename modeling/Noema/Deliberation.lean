import Noema.ActionIntents
import Noema.Lib.Binary64

/-!
# From model output to a deliberation

`StructuredModelReasoner.deliberate` validates what a model returned against one schema and
builds its result with the constructors of intents and hypotheses.  The schema keeps out
what the constructors refuse, but for two things: a capability may be the empty text, which
an intent refuses, and a number may be an integer that no double is near to, which `float`
refuses.  Where neither is there, every listed item becomes one intent or one hypothesis.
-/
namespace Noema
namespace Given

/-- `CognitiveMode`. -/
inductive CognitiveMode
  | observe | expand | structure_ | formalize | falsify | operationalize | govern | reopen
  | restore
deriving DecidableEq

namespace CognitiveMode

def text : CognitiveMode → String
  | observe => "observe"
  | expand => "expand"
  | structure_ => "structure"
  | formalize => "formalize"
  | falsify => "falsify"
  | operationalize => "operationalize"
  | govern => "govern"
  | reopen => "reopen"
  | restore => "restore"

def all : List CognitiveMode :=
  [observe, expand, structure_, formalize, falsify, operationalize, govern, reopen, restore]

/-- `CognitiveMode(text)`. -/
def ofText : String → Except PyError CognitiveMode := enumOf "CognitiveMode" all text

end CognitiveMode

/-- `Hypothesis`. -/
structure Hypothesis where
  statement : String
  probability : PyNumber
  evidenceFor : List String
  evidenceAgainst : List String
  falsifiers : List String

/-- `DeliberationResult`. -/
structure DeliberationResult where
  intents : List ActionIntent
  hypotheses : List Hypothesis
  alternatives : List String
  modes : List CognitiveMode
  notes : List String
  confidence : PyNumber

end Given

open JsonSchema in
def hypothesisProperties : List (String × JsonSchema) :=
  [("statement", ofType "string"), ("probability", unit), ("evidence_for", texts),
   ("evidence_against", texts), ("falsifiers", texts)]

/-- `{"type": "array", "items": schema}`. -/
def JsonSchema.listOf (schema : JsonSchema) : JsonSchema :=
  .node { type := some (.one "array"), items := some schema }

/-- `{"type": "string", "enum": texts}`. -/
def JsonSchema.oneOf (texts : List String) : JsonSchema :=
  .node { type := some (.one "string"), enum := some (texts.map .str) }

open JsonSchema in
def deliberationProperties : List (String × JsonSchema) :=
  [("intents", listOf actionIntentJsonSchema), ("hypotheses", listOf (record hypothesisProperties)),
   ("alternatives", texts), ("modes", listOf (oneOf (Given.CognitiveMode.all.map (·.text)))),
   ("notes", texts), ("confidence", unit)]

/-- `DELIBERATION_JSON_SCHEMA`. -/
def deliberationJsonSchema : JsonSchema := .record deliberationProperties

namespace Given

variable (b : ContentBuiltins)

namespace Hypothesis

/-- `__post_init__`. -/
def check (hypothesis : Hypothesis) : Except PyError Unit :=
  refuse (((PyFloat.finite 0).atMost hypothesis.probability.real &&
    hypothesis.probability.real.atMost (.finite 1)) = false)
    "hypothesis probability must be between 0 and 1"

/-- The hypothesis that `deliberate` makes of one item. -/
def ofItem (data : Payload) : Except PyError Hypothesis := do
  let statement ← itemText b.toBuiltins data "statement"
  let probability ← itemNumber b data "probability"
  let evidenceFor ← ActionIntent.itemTexts b data "evidence_for"
  let evidenceAgainst ← ActionIntent.itemTexts b data "evidence_against"
  let falsifiers ← ActionIntent.itemTexts b data "falsifiers"
  constructed check { statement, probability, evidenceFor, evidenceAgainst, falsifiers }

end Hypothesis

/-- The items that are mappings. -/
def mappings (items : List JSONValue) : List Payload :=
  items.filterMap fun item =>
    match item with
    | .obj fields => some (.ofList fields)
    | _ => none

/-- `deliberate`, from the output of the model on. -/
def deliberate (output : JSONValue) : Except PyError DeliberationResult :=
  match output with
  | .obj fields => do
    validateJsonSchema b.toBuiltins output deliberationJsonSchema "$"
    let data : Payload := .ofList fields
    let intents ← (mappings (← (← data.item "intents").iterate)).mapM (ActionIntent.fromPayload b)
    let hypotheses ← (mappings (← (← data.item "hypotheses").iterate)).mapM (Hypothesis.ofItem b)
    let alternatives ← ActionIntent.itemTexts b data "alternatives"
    let modes ← (← (← data.item "modes").iterate).mapM fun value => do
      CognitiveMode.ofText (← b.str value)
    let notes ← ActionIntent.itemTexts b data "notes"
    let confidence ← itemNumber b data "confidence"
    return { intents, hypotheses, alternatives, modes, notes, confidence }
  | _ => .error (.valueError "structured model response must be a JSON object")

end Given

/-- `float(value)` of an integer: the nearest double, if there is one. -/
def binaryFloat (value : Int) : Except PyError PyFloat :=
  match Binary64.round value with
  | some q => .ok (.finite q)
  | none => .error .overflowError

/-! ### Items of a validated record -/

section
variable {fields : List (String × JSONValue)} {reading : SchemaReading}

/-- A dictionary holds none but the given fields. -/
theorem mem_of_ofList {field : String × JSONValue}
    (h : field ∈ (KeyedTable.ofList fields : Payload).rows) : field ∈ fields := by
  have hfound : Dict.get? (KeyedTable.ofList fields : Payload) field.1 = some field.2 :=
    Payload.get?_of_mem h
  rw [Dict.get?_ofList] at hfound
  obtain ⟨row, hrow, hvalue⟩ := Option.map_eq_some_iff.mp hfound
  have hkey : row.1 = field.1 := by simpa using List.find?_some hrow
  have hsame : row = field := Prod.ext hkey hvalue
  exact hsame ▸ List.mem_reverse.mp (List.mem_of_find?_eq_some hrow)

/-- A dictionary holds every given key. -/
theorem key_mem_ofList {key : String} (h : key ∈ fields.map entryKey) :
    ∃ value, (key, value) ∈ (KeyedTable.ofList fields : Payload).rows := by
  obtain ⟨row, hrow, rfl⟩ := List.mem_map.mp h
  have hsome : (fields.reverse.find? fun other => other.1 = row.1).isSome :=
    List.find?_isSome.mpr ⟨row, List.mem_reverse.mpr hrow, by simp⟩
  obtain ⟨found, hfound⟩ := Option.isSome_iff_exists.mp hsome
  refine ⟨found.2, Payload.mem_of_get? ?_⟩
  rw [Dict.get?_ofList, show entryKey row = row.1 from rfl, hfound]
  rfl

/-- What a closed record says of the fields it says of their dictionary. -/
theorem holds_record_ofList {properties : List (String × JsonSchema)}
    (h : (JsonSchema.record properties).Holds reading (.obj fields)) :
    (JsonSchema.record properties).Holds reading (Payload.value (.ofList fields)) := by
  obtain ⟨_, hobj, hrequired, hfields⟩ := JsonSchema.holds_record.mp h
  obtain rfl := JSONValue.obj.inj hobj
  refine JsonSchema.holds_record.mpr ⟨_, rfl, fun row hrow => ?_, fun field hfield => ?_⟩
  · obtain ⟨value, hvalue⟩ := key_mem_ofList (hrequired row hrow)
    exact List.mem_map.mpr ⟨_, hvalue, rfl⟩
  · exact hfields field (mem_of_ofList hfield)

/-- **A required property of a validated record is there** and fits its schema. -/
theorem item_of_holds {properties : List (String × JsonSchema)} {data : Payload}
    (h : (JsonSchema.record properties).Holds reading data.value)
    (hnodup : (properties.map Prod.fst).Nodup) {key : String} {schema : JsonSchema}
    (hrow : (key, schema) ∈ properties) :
    ∃ value, (key, value) ∈ data.rows ∧ data.item key = .ok value ∧ schema.Holds reading value := by
  obtain ⟨_, hobj, hrequired, hfields⟩ := JsonSchema.holds_record.mp h
  obtain rfl := JSONValue.obj.inj hobj
  obtain ⟨field, hfield, hkey⟩ := List.mem_map.mp (hrequired _ hrow)
  obtain ⟨other, hother, hholds⟩ := hfields field hfield
  have hname : field.1 = key := hkey
  rw [hname, JsonSchema.property?_of_nodup hnodup hrow] at hother
  obtain rfl := Option.some.inj hother
  have hmem : (key, field.2) ∈ data.rows := hname ▸ hfield
  refine ⟨field.2, hmem, ?_, hholds⟩
  rw [Payload.item, Payload.get?_of_mem hmem]

end

/-! ### Numbers that become floats -/

theorem binaryFloat_zero : binaryFloat 0 = .ok (.finite 0) := by decide +kernel

theorem binaryFloat_one : binaryFloat 1 = .ok (.finite 1) := by decide +kernel

theorem PyFloat.finite_less {p q : ℚ} : (PyFloat.finite p).less (.finite q) = decide (p < q) := by
  by_cases hlt : p < q
  · simp [PyFloat.less, PyFloat.atMost, hlt, hlt.le, hlt.ne]
  · by_cases heq : p = q
    · simp [PyFloat.less, heq]
    · have hle : ¬ p ≤ q := fun hle => hlt (lt_of_le_of_ne hle heq)
      simp [PyFloat.less, PyFloat.atMost, hlt, hle]

section
variable {b : ContentBuiltins} {number read : PyNumber}

theorem readFloat_cases (hb : b.floatOfInt = binaryFloat) (h : number.readFloat b = .ok read) :
    (∃ n q, number = .int n ∧ Binary64.round n = some q ∧ read = .float (.finite q)) ∨
      ∃ x, number = .float x ∧ read = .float x := by
  cases number with
  | float x => exact Or.inr ⟨x, rfl, (Except.ok.inj h).symm⟩
  | int n =>
    left
    have hfloat : (PyNumber.float <$> binaryFloat n : Except PyError PyNumber) = .ok read := by
      rw [← hb]
      exact h
    cases hround : Binary64.round n with
    | none =>
      rw [binaryFloat, hround] at hfloat
      cases hfloat
    | some q =>
      rw [binaryFloat, hround] at hfloat
      exact ⟨n, q, rfl, hround, (Except.ok.inj hfloat).symm⟩

/-- A number that is not negative does not become negative. -/
theorem readFloat_nonneg (hb : b.floatOfInt = binaryFloat) (h : number.readFloat b = .ok read)
    (hsign : number.real.less (.finite 0) = false) : read.real.less (.finite 0) = false := by
  rcases readFloat_cases hb h with ⟨n, q, rfl, hround, rfl⟩ | ⟨x, rfl, rfl⟩
  · have hn : (0 : ℚ) ≤ n := by simpa [PyNumber.real, PyFloat.finite_less] using hsign
    simpa [PyNumber.real, PyFloat.finite_less] using Binary64.round_nonneg hn hround
  · exact hsign

/-- A number between zero and one stays there. -/
theorem readFloat_unit (hb : b.floatOfInt = binaryFloat) (h : number.readFloat b = .ok read)
    (hlow : number.real.less (.finite 0) = false)
    (hhigh : (PyFloat.finite 1).less number.real = false) (hnumber : number.real ≠ .nan) :
    ((PyFloat.finite 0).atMost read.real && read.real.atMost (.finite 1)) = true := by
  rcases readFloat_cases hb h with ⟨n, q, rfl, hround, rfl⟩ | ⟨x, rfl, rfl⟩
  · have hn : (0 : ℚ) ≤ n := by simpa [PyNumber.real, PyFloat.finite_less] using hlow
    have hn' : (n : ℚ) ≤ 1 := by simpa [PyNumber.real, PyFloat.finite_less] using hhigh
    have hcases : n = 0 ∨ n = 1 := by
      have hle : 0 ≤ n := by exact_mod_cast hn
      have hle' : n ≤ 1 := by exact_mod_cast hn'
      omega
    have hq : binaryFloat n = .ok (.finite q) := by rw [binaryFloat, hround]
    rcases hcases with rfl | rfl
    · obtain rfl := PyFloat.finite.inj (Except.ok.inj (binaryFloat_zero.symm.trans hq))
      decide
    · obtain rfl := PyFloat.finite.inj (Except.ok.inj (binaryFloat_one.symm.trans hq))
      decide
  · rw [Bool.and_eq_true]
    exact ⟨(PyFloat.less_eq_false_iff (by simp) hnumber).mp hlow,
      (PyFloat.less_eq_false_iff hnumber (by simp)).mp hhigh⟩

/-- A number between zero and one becomes a float. -/
theorem readFloat_of_unit (hb : b.floatOfInt = binaryFloat)
    (hlow : number.real.less (.finite 0) = false)
    (hhigh : (PyFloat.finite 1).less number.real = false) :
    ∃ read, number.readFloat b = .ok read := by
  cases number with
  | float x => exact ⟨_, rfl⟩
  | int n =>
    have hn : (0 : ℚ) ≤ n := by simpa [PyNumber.real, PyFloat.finite_less] using hlow
    have hn' : (n : ℚ) ≤ 1 := by simpa [PyNumber.real, PyFloat.finite_less] using hhigh
    have hcases : n = 0 ∨ n = 1 := by
      have hle : 0 ≤ n := by exact_mod_cast hn
      have hle' : n ≤ 1 := by exact_mod_cast hn'
      omega
    have hread : (PyNumber.int n).readFloat b = PyNumber.float <$> binaryFloat n := by
      rw [← hb]
      rfl
    rw [hread]
    rcases hcases with rfl | rfl
    · exact ⟨_, congrArg (PyNumber.float <$> ·) binaryFloat_zero⟩
    · exact ⟨_, congrArg (PyNumber.float <$> ·) binaryFloat_one⟩

end

namespace Given
namespace ActionIntent

variable (b : ContentBuiltins)

/-- The number fields of an intent. -/
def numberKeys : List String :=
  ["expected_value", "information_value", "risk_reduction", "attention_cost", "switching_cost",
   "branch_cost", "confidence"]

/-- **What the constructors ask of a validated item** and the schema does not: it names a
capability, and `float` takes its numbers. -/
structure Buildable (data : Payload) : Prop where
  capability : data.item "capability" ≠ .ok (.str "")
  numbers : ∀ key ∈ numberKeys, ∃ number, itemNumber b data key = .ok number

/-- A number field of a validated record. -/
theorem itemNumber_eq {data : Payload} {key : String} {number : PyNumber}
    (h : data.item key = .ok number.toJson) : itemNumber b data key = number.readFloat b := by
  rw [itemNumber, itemFloat, h]
  rfl

theorem itemTexts_ok {data : Payload} {key : String} {values : List String}
    (h : data.item key = .ok (.texts values)) : itemTexts b data key = .ok values := by
  rw [itemTexts, h]
  exact mapM_str b values

theorem ofInt_risk_ok {n : Int} (h : n ∈ ([0, 1, 2, 3, 4] : List Int)) :
    ∃ risk, RiskLevel.ofInt n = .ok risk := by
  revert n
  simp only [List.forall_mem_cons, List.not_mem_nil, false_imp_iff, implies_true, and_true]
  exact ⟨⟨_, rfl⟩, ⟨_, rfl⟩, ⟨_, rfl⟩, ⟨_, rfl⟩, ⟨_, rfl⟩⟩

theorem ofInt_authority_ok {n : Int} (h : n ∈ ([0, 1, 2, 3, 4] : List Int)) :
    ∃ level, AuthorityLevel.ofInt n = .ok level := by
  revert n
  simp only [List.forall_mem_cons, List.not_mem_nil, false_imp_iff, implies_true, and_true]
  exact ⟨⟨_, rfl⟩, ⟨_, rfl⟩, ⟨_, rfl⟩, ⟨_, rfl⟩, ⟨_, rfl⟩⟩

/-- The fields of a validated item, as the reader takes them. -/
structure Fields (data : Payload) (capability : String) (confidence attention : PyNumber) :
    Prop where
  capability_item : data.item "capability" = .ok (.str capability)
  arguments : ∃ arguments, itemDict b data "arguments" = .ok arguments
  rationale : ∃ rationale, itemText b.toBuiltins data "rationale" = .ok rationale
  attention_item : data.item "attention_cost" = .ok attention.toJson
  attention_nonneg : attention.real.less (.finite 0) = false
  risk : ∃ n ∈ ([0, 1, 2, 3, 4] : List Int), itemInt b.toIntentBuiltins data "risk" = .ok n
  reversible : ∃ reversible, data.item "reversible" = .ok reversible
  requiredAuthority : ∃ n ∈ ([0, 1, 2, 3, 4] : List Int),
    itemInt b.toIntentBuiltins data "required_authority" = .ok n
  confidence_item : data.item "confidence" = .ok confidence.toJson
  confidence_low : confidence.real.less (.finite 0) = false
  confidence_high : (PyFloat.finite 1).less confidence.real = false
  confidence_number : confidence.real ≠ .nan
  alternatives : ∃ values, itemTexts b data "alternatives" = .ok values
  falsifiers : ∃ values, itemTexts b data "falsifiers" = .ok values
  idempotencyKey : ∃ key, itemTextOrNone b data "idempotency_key" = .ok key
  intentId : ∃ intentId, itemText b.toBuiltins data "intent_id" = .ok intentId
  metadata : ∃ metadata, itemDict b data "metadata" = .ok metadata

section
variable {b}
variable {data : Payload} {key : String} {value : JSONValue}

theorem itemText_of_holds (h : data.item key = .ok value)
    (hschema : (JsonSchema.ofType "string").Holds pythonReading value) :
    ∃ text, itemText b.toBuiltins data key = .ok text := by
  obtain ⟨text, rfl⟩ := JsonSchema.holds_string.mp hschema
  exact ⟨text, bind_of_ok h _⟩

theorem itemDict_of_holds (h : data.item key = .ok value)
    (hschema : (JsonSchema.ofType "object").Holds pythonReading value) :
    ∃ payload, itemDict b data key = .ok payload := by
  obtain ⟨fields, rfl⟩ := JsonSchema.holds_object.mp hschema
  exact ⟨_, bind_of_ok h _⟩

theorem itemInt_of_holds (h : data.item key = .ok value)
    (hschema : JsonSchema.level.Holds pythonReading value) :
    ∃ n ∈ ([0, 1, 2, 3, 4] : List Int), itemInt b.toIntentBuiltins data key = .ok n := by
  obtain ⟨n, hn, rfl⟩ := JsonSchema.holds_level.mp hschema
  exact ⟨n, hn, bind_of_ok h _⟩

theorem itemTexts_of_holds (h : data.item key = .ok value)
    (hschema : JsonSchema.texts.Holds pythonReading value) :
    ∃ values, itemTexts b data key = .ok values := by
  obtain ⟨values, rfl⟩ := JsonSchema.holds_texts.mp hschema
  exact ⟨values, itemTexts_ok b h⟩

/-- **A validated item has its fields.** -/
theorem fields_of_holds (h : actionIntentJsonSchema.Holds pythonReading data.value)
    (hordered : data.value.ordered = true) :
    ∃ capability confidence attention, Fields b data capability confidence attention := by
  have hitems : ∀ row ∈ actionIntentProperties, ∃ value, (row.1, value) ∈ data.rows ∧
      data.item row.1 = .ok value ∧ row.2.Holds pythonReading value :=
    fun row hrow => item_of_holds h keys_nodup hrow
  have hrows := orderedFields_iff.mp hordered
  simp only [actionIntentProperties, List.forall_mem_cons, List.not_mem_nil, false_imp_iff,
    implies_true, and_true] at hitems
  obtain ⟨⟨_, -, hintentId, hintentId'⟩, ⟨_, -, hcapability, hcapability'⟩,
    ⟨_, -, harguments, harguments'⟩, ⟨_, -, hrationale, hrationale'⟩, -, -, -,
    ⟨_, -, hattention, hattention'⟩, -, -, ⟨_, -, hrisk, hrisk'⟩,
    ⟨_, -, hreversible, -⟩, ⟨_, -, hauthority, hauthority'⟩,
    ⟨_, hmem, hconfidence, hconfidence'⟩, ⟨_, -, halternatives, halternatives'⟩,
    ⟨_, -, hfalsifiers, hfalsifiers'⟩, ⟨_, -, hkey, hkey'⟩, ⟨_, -, hmetadata, hmetadata'⟩⟩ := hitems
  obtain ⟨capability, rfl⟩ := JsonSchema.holds_string.mp hcapability'
  obtain ⟨attention, rfl, hnonneg⟩ := JsonSchema.holds_amount.mp hattention'
  obtain ⟨confidence, rfl, hlow, hhigh⟩ := JsonSchema.holds_unit.mp hconfidence'
  have hnumber : confidence.real ≠ .nan :=
    ordered_number (hrows _ hmem) (by cases confidence <;> rfl)
  refine ⟨capability, confidence, attention, hcapability, itemDict_of_holds harguments harguments',
    itemText_of_holds hrationale hrationale', hattention, hnonneg, itemInt_of_holds hrisk hrisk',
    ⟨_, hreversible⟩, itemInt_of_holds hauthority hauthority', hconfidence, hlow, hhigh, hnumber,
    itemTexts_of_holds halternatives halternatives', itemTexts_of_holds hfalsifiers hfalsifiers',
    ?_, itemText_of_holds hintentId hintentId', itemDict_of_holds hmetadata hmetadata'⟩
  rcases JsonSchema.holds_textOrNull.mp hkey' with rfl | ⟨text, rfl⟩
  · exact ⟨none, bind_of_ok hkey _⟩
  · exact ⟨some text, bind_of_ok hkey _⟩

/-- **A validated item becomes an intent exactly when the constructors take it.** -/
theorem fromPayload_iff (hb : b.floatOfInt = binaryFloat)
    (h : actionIntentJsonSchema.Holds pythonReading data.value)
    (hordered : data.value.ordered = true) :
    (∃ intent, fromPayload b data = .ok intent) ↔ Buildable b data := by
  obtain ⟨capability, confidence, attention, hfields⟩ := fields_of_holds (b := b) h hordered
  have hvalid : validateJsonSchema b.toBuiltins data.value actionIntentJsonSchema "$" = .ok () :=
    (validate_iff actionIntentJsonSchema_emitted).mpr h
  constructor
  · rintro ⟨intent, hintent⟩
    unfold fromPayload at hintent
    obtain ⟨_, -, hintent⟩ := bind_eq_ok hintent
    obtain ⟨capability', hcapability, hintent⟩ := bind_eq_ok hintent
    obtain ⟨_, -, hintent⟩ := bind_eq_ok hintent
    obtain ⟨_, -, hintent⟩ := bind_eq_ok hintent
    obtain ⟨_, hexpected, hintent⟩ := bind_eq_ok hintent
    obtain ⟨_, hinformation, hintent⟩ := bind_eq_ok hintent
    obtain ⟨_, hriskReduction, hintent⟩ := bind_eq_ok hintent
    obtain ⟨_, hattention, hintent⟩ := bind_eq_ok hintent
    obtain ⟨_, hswitching, hintent⟩ := bind_eq_ok hintent
    obtain ⟨_, hbranch, hintent⟩ := bind_eq_ok hintent
    obtain ⟨_, -, hintent⟩ := bind_eq_ok hintent
    obtain ⟨_, -, hintent⟩ := bind_eq_ok hintent
    obtain ⟨_, -, hintent⟩ := bind_eq_ok hintent
    obtain ⟨_, -, hintent⟩ := bind_eq_ok hintent
    obtain ⟨_, -, hintent⟩ := bind_eq_ok hintent
    obtain ⟨_, hconfidence, hintent⟩ := bind_eq_ok hintent
    obtain ⟨_, -, hintent⟩ := bind_eq_ok hintent
    obtain ⟨_, -, hintent⟩ := bind_eq_ok hintent
    obtain ⟨_, -, hintent⟩ := bind_eq_ok hintent
    obtain ⟨_, -, hintent⟩ := bind_eq_ok hintent
    obtain ⟨_, -, hintent⟩ := bind_eq_ok hintent
    obtain ⟨_, hcheck, -⟩ := bind_eq_ok hintent
    refine ⟨fun hempty => (check_iff.mp hcheck).1 ?_, ?_⟩
    · have hread : itemText b.toBuiltins data "capability" = .ok "" := bind_of_ok hempty _
      exact (Except.ok.inj (hcapability.symm.trans hread))
    · simp only [numberKeys, List.forall_mem_cons, List.not_mem_nil, false_imp_iff, implies_true,
        and_true]
      exact ⟨⟨_, hexpected⟩, ⟨_, hinformation⟩, ⟨_, hriskReduction⟩, ⟨_, hattention⟩,
        ⟨_, hswitching⟩, ⟨_, hbranch⟩, ⟨_, hconfidence⟩⟩
  · rintro ⟨hcapability, hnumbers⟩
    simp only [numberKeys, List.forall_mem_cons, List.not_mem_nil, false_imp_iff, implies_true,
      and_true] at hnumbers
    obtain ⟨⟨_, hexpected⟩, ⟨_, hinformation⟩, ⟨_, hriskReduction⟩, ⟨attention', hattention⟩,
      ⟨_, hswitching⟩, ⟨_, hbranch⟩, ⟨confidence', hconfidence⟩⟩ := hnumbers
    have htext : itemText b.toBuiltins data "capability" = .ok capability :=
      bind_of_ok hfields.capability_item _
    obtain ⟨_, harguments⟩ := hfields.arguments
    obtain ⟨_, hrationale⟩ := hfields.rationale
    obtain ⟨risk, hrisk, hriskItem⟩ := hfields.risk
    obtain ⟨_, hrisk⟩ := ofInt_risk_ok hrisk
    obtain ⟨_, hreversible⟩ := hfields.reversible
    obtain ⟨authority, hauthority, hauthorityItem⟩ := hfields.requiredAuthority
    obtain ⟨_, hauthority⟩ := ofInt_authority_ok hauthority
    obtain ⟨_, halternatives⟩ := hfields.alternatives
    obtain ⟨_, hfalsifiers⟩ := hfields.falsifiers
    obtain ⟨_, hkey⟩ := hfields.idempotencyKey
    obtain ⟨_, hintentId⟩ := hfields.intentId
    obtain ⟨_, hmetadata⟩ := hfields.metadata
    cases hresult : fromPayload b data with
    | ok intent => exact ⟨intent, rfl⟩
    | error error => ?_
    unfold fromPayload at hresult
    rw [hvalid, htext, harguments, hrationale, hexpected, hinformation, hriskReduction, hattention,
      hswitching, hbranch, hriskItem, hreversible, hauthorityItem, hconfidence, halternatives,
      hfalsifiers, hkey, hintentId, hmetadata] at hresult
    simp only [ok_bind, hrisk, hauthority] at hresult
    refine absurd hresult (fun hresult => nomatch (bind_of_ok (check_iff.mpr
      ⟨fun hempty => hcapability ?_, ?_, ?_⟩) _).symm.trans hresult)
    · have hname : capability = "" := hempty
      rw [hfields.capability_item, hname]
    · rw [itemNumber_eq b hfields.confidence_item] at hconfidence
      exact readFloat_unit hb hconfidence hfields.confidence_low hfields.confidence_high
        hfields.confidence_number
    · rw [itemNumber_eq b hfields.attention_item] at hattention
      exact readFloat_nonneg hb hattention hfields.attention_nonneg

end

end ActionIntent
/-! ### Hypotheses -/

section
variable {b : ContentBuiltins} {data : Payload}

theorem hypothesisKeys_nodup : (hypothesisProperties.map Prod.fst).Nodup := by decide

/-- **A validated item becomes a hypothesis.** -/
theorem ofItem_of_holds (hb : b.floatOfInt = binaryFloat)
    (h : (JsonSchema.record hypothesisProperties).Holds pythonReading data.value)
    (hordered : data.value.ordered = true) :
    ∃ hypothesis, Hypothesis.ofItem b data = .ok hypothesis := by
  have hitems : ∀ row ∈ hypothesisProperties, ∃ value, (row.1, value) ∈ data.rows ∧
      data.item row.1 = .ok value ∧ row.2.Holds pythonReading value :=
    fun row hrow => item_of_holds h hypothesisKeys_nodup hrow
  have hrows := orderedFields_iff.mp hordered
  simp only [hypothesisProperties, List.forall_mem_cons, List.not_mem_nil, false_imp_iff,
    implies_true, and_true] at hitems
  obtain ⟨⟨_, -, hstatement, hstatement'⟩, ⟨_, hmem, hprobability, hprobability'⟩,
    ⟨_, -, hfor, hfor'⟩, ⟨_, -, hagainst, hagainst'⟩, ⟨_, -, hfalsifiers, hfalsifiers'⟩⟩ := hitems
  obtain ⟨_, hstatement⟩ := ActionIntent.itemText_of_holds (b := b) hstatement hstatement'
  obtain ⟨_, hfor⟩ := ActionIntent.itemTexts_of_holds (b := b) hfor hfor'
  obtain ⟨_, hagainst⟩ := ActionIntent.itemTexts_of_holds (b := b) hagainst hagainst'
  obtain ⟨_, hfalsifiers⟩ := ActionIntent.itemTexts_of_holds (b := b) hfalsifiers hfalsifiers'
  obtain ⟨probability, rfl, hlow, hhigh⟩ := JsonSchema.holds_unit.mp hprobability'
  have hnumber : probability.real ≠ .nan :=
    ordered_number (hrows _ hmem) (by cases probability <;> rfl)
  obtain ⟨read, hread⟩ := readFloat_of_unit hb hlow hhigh
  have hunit := readFloat_unit hb hread hlow hhigh hnumber
  have hfloat : itemNumber b data "probability" = .ok read := by
    rw [ActionIntent.itemNumber_eq b hprobability, hread]
  cases hresult : Hypothesis.ofItem b data with
  | ok hypothesis => exact ⟨hypothesis, rfl⟩
  | error error => ?_
  unfold Hypothesis.ofItem at hresult
  rw [hstatement, hfloat, hfor, hagainst, hfalsifiers] at hresult
  simp only [ok_bind] at hresult
  refine absurd hresult (fun hresult => nomatch (bind_of_ok (refuse_of ?_) _).symm.trans hresult)
  rw [Bool.not_eq_false]
  exact hunit

end

/-! ### Lists of records -/

section
variable {items : List JSONValue}

/-- An array of closed records is an array of mappings. -/
theorem mappings_of_holds {properties : List (String × JsonSchema)}
    (h : ∀ item ∈ items, (JsonSchema.record properties).Holds pythonReading item) :
    List.Forall₂ (fun item data => ∃ fields, item = .obj fields ∧ data = .ofList fields)
      items (mappings items) := by
  induction items with
  | nil => exact .nil
  | cons item items ih =>
    obtain ⟨hitem, hrest⟩ := List.forall_mem_cons.mp h
    obtain ⟨fields, rfl, -⟩ := JsonSchema.holds_record.mp hitem
    exact .cons ⟨fields, rfl, rfl⟩ (ih hrest)

theorem holds_listOf {schema : JsonSchema} {reading : SchemaReading} {value : JSONValue} :
    (JsonSchema.listOf schema).Holds reading value ↔
      ∃ items, value = .list items ∧ ∀ item ∈ items, schema.Holds reading item := by
  rw [JsonSchema.listOf, JsonSchema.holds_node]
  constructor
  · rintro ⟨-, hname, hcontent⟩
    obtain ⟨name, hone, hof⟩ := hname _ rfl
    obtain rfl := List.mem_singleton.mp hone
    cases value with
    | list items => exact ⟨items, rfl, fun item hitem => hcontent _ rfl item hitem⟩
    | _ => simp [JSONValue.typeNames] at hof
  · rintro ⟨items, rfl, hitems⟩
    refine ⟨by simp, fun type hmem => ?_, fun meaning hmeaning item hitem => ?_⟩
    · obtain rfl := Option.some.inj hmem
      exact ⟨"array", List.mem_singleton_self _, List.mem_singleton_self _⟩
    · obtain rfl := Option.some.inj hmeaning
      exact hitems item hitem

theorem inEnum_str {texts : List String} {text : String} :
    SchemaNode.inEnum (texts.map JSONScalar.str) (.str text) = true ↔ text ∈ texts := by
  have hequals : ∀ other : String, (JSONScalar.str other).equals (.str text) = true ↔
      other = text := by
    intro other
    simp [JSONScalar.equals]
  simp [SchemaNode.inEnum, JSONValue.scalar, List.any_eq_true, hequals]

/-- A text that an `enum` lists. -/
theorem holds_oneOf {texts : List String} {value : JSONValue} :
    (JsonSchema.oneOf texts).Holds pythonReading value ↔ ∃ text ∈ texts, value = .str text := by
  rw [JsonSchema.oneOf, JsonSchema.holds_node]
  constructor
  · rintro ⟨hlisted, hname, -⟩
    obtain ⟨name, hone, hof⟩ := hname _ rfl
    obtain rfl := List.mem_singleton.mp hone
    cases value with
    | str text => exact ⟨text, inEnum_str.mp (hlisted _ rfl), rfl⟩
    | _ => simp [JSONValue.typeNames] at hof
  · rintro ⟨text, htext, rfl⟩
    refine ⟨fun allowed hallowed => ?_, fun type hmem => ?_, ?_⟩
    · obtain rfl := Option.some.inj hallowed
      exact inEnum_str.mpr htext
    · obtain rfl := Option.some.inj hmem
      exact ⟨"string", List.mem_singleton_self _, List.mem_singleton_self _⟩
    · simp [SchemaNode.Content, SchemaNode.map, JSONValue.number]

/-- The text of a mode names it. -/
theorem ofText_mode {text : String} (h : text ∈ CognitiveMode.all.map (·.text)) :
    ∃ mode, CognitiveMode.ofText text = .ok mode := by
  obtain ⟨mode, -, rfl⟩ := List.mem_map.mp h
  exact ⟨mode, by cases mode <;> rfl⟩

end

/-! ### The boundary -/

/-- **The result has one intent and one hypothesis for each listed item**, made of it. -/
structure OnePerItem (b : ContentBuiltins) (data : Payload) (result : DeliberationResult) :
    Prop where
  intents : ∃ items, data.item "intents" = .ok (.list items) ∧
    List.Forall₂ (fun item intent => ∃ fields, item = .obj fields ∧
      ActionIntent.fromPayload b (.ofList fields) = .ok intent) items result.intents
  hypotheses : ∃ items, data.item "hypotheses" = .ok (.list items) ∧
    List.Forall₂ (fun item hypothesis => ∃ fields, item = .obj fields ∧
      Hypothesis.ofItem b (.ofList fields) = .ok hypothesis) items result.hypotheses

/-- Every listed intent names a capability, and `float` takes its numbers. -/
def IntentsBuildable (b : ContentBuiltins) (data : Payload) : Prop :=
  ∀ items, data.item "intents" = .ok (.list items) → ∀ fields, JSONValue.obj fields ∈ items →
    ActionIntent.Buildable b (.ofList fields)

section
variable {b : ContentBuiltins} {fields : List (String × JSONValue)}

theorem deliberationKeys_nodup : (deliberationProperties.map Prod.fst).Nodup := by decide

theorem deliberationJsonSchema_emitted : deliberationJsonSchema.Emitted := by
  have hlist : ∀ schema : JsonSchema, schema.Emitted → (JsonSchema.listOf schema).Emitted := by
    intro schema h
    refine JsonSchema.emitted_node.mpr ⟨by simp [SchemaNode.map], by simp [SchemaNode.map],
      by simp [SchemaNode.map], by simp [SchemaNode.map], by simp [SchemaNode.map],
      by simp [SchemaNode.map], fun emitted hemitted => ?_⟩
    obtain rfl := Option.some.inj hemitted
    exact h
  have hmodes : (JsonSchema.oneOf (CognitiveMode.all.map (·.text))).Emitted :=
    JsonSchema.emitted_node.mpr (by constructor <;> simp [SchemaNode.map, SchemaType.names])
  have hhypothesis : (JsonSchema.record hypothesisProperties).Emitted := by
    refine JsonSchema.emitted_record ?_
    simp [hypothesisProperties, JsonSchema.emitted_ofType, JsonSchema.emitted_texts,
      JsonSchema.emitted_unit]
  refine JsonSchema.emitted_record ?_
  simp [deliberationProperties, JsonSchema.emitted_texts, JsonSchema.emitted_unit,
    hlist _ actionIntentJsonSchema_emitted, hlist _ hhypothesis, hlist _ hmodes]

/-- The items of a list that a dictionary holds are ordered where the dictionary is. -/
theorem ordered_ofList (h : (JSONValue.obj fields).ordered = true) :
    (Payload.value (.ofList fields)).ordered = true :=
  orderedFields_iff.mpr fun field hfield =>
    orderedFields_iff.mp h field (mem_of_ofList hfield)

/-- Records made of mappings, seen from the items. -/
theorem forall₂_mappings {α : Type} {items : List JSONValue} {make : Payload → Except PyError α}
    {results : List α}
    (hitems : List.Forall₂ (fun item data => ∃ fields, item = .obj fields ∧ data = .ofList fields)
      items (mappings items))
    (hresults : (mappings items).mapM make = .ok results) :
    List.Forall₂ (fun item result => ∃ fields, item = .obj fields ∧
      make (.ofList fields) = .ok result) items results := by
  have hmade := mapM_ok.mp hresults
  clear hresults
  generalize mappings items = payloads at hitems hmade
  induction hitems generalizing results with
  | nil =>
    cases hmade
    exact .nil
  | cons hitem _ ih =>
    cases hmade with
    | cons hmake hrest =>
      obtain ⟨fields, rfl, rfl⟩ := hitem
      exact .cons ⟨fields, rfl, hmake⟩ (ih hrest)

/-- Every mapping comes from an item. -/
theorem item_of_mapping {items : List JSONValue} {data : Payload} (h : data ∈ mappings items) :
    ∃ fields, JSONValue.obj fields ∈ items ∧ data = .ofList fields := by
  obtain ⟨item, hitem, hdata⟩ := List.mem_filterMap.mp h
  cases item with
  | obj fields => exact ⟨fields, hitem, (Option.some.inj hdata).symm⟩
  | _ => cases hdata

/-- **A validated output becomes a deliberation exactly when its intents can be built**, and
then each listed item has its intent or its hypothesis. -/
theorem deliberate_iff (hb : b.floatOfInt = binaryFloat)
    (hvalid : validateJsonSchema b.toBuiltins (.obj fields) deliberationJsonSchema "$" = .ok ())
    (hordered : (JSONValue.obj fields).ordered = true) :
    (∃ result, deliberate b (.obj fields) = .ok result ∧
      OnePerItem b (.ofList fields) result) ↔ IntentsBuildable b (.ofList fields) := by
  have hholds : (JsonSchema.record deliberationProperties).Holds pythonReading
      (Payload.value (.ofList fields)) :=
    holds_record_ofList ((validate_iff deliberationJsonSchema_emitted).mp hvalid)
  have hrows := orderedFields_iff.mp (ordered_ofList hordered)
  have hitems : ∀ row ∈ deliberationProperties, ∃ value,
      (row.1, value) ∈ (KeyedTable.ofList fields : Payload).rows ∧
        Payload.item (.ofList fields) row.1 = .ok value ∧ row.2.Holds pythonReading value :=
    fun row hrow => item_of_holds hholds deliberationKeys_nodup hrow
  simp only [deliberationProperties, List.forall_mem_cons, List.not_mem_nil, false_imp_iff,
    implies_true, and_true] at hitems
  obtain ⟨⟨_, hmemIntents, hintents, hintents'⟩, ⟨_, hmemHypotheses, hhypotheses, hhypotheses'⟩,
    ⟨_, -, halternatives, halternatives'⟩, ⟨_, -, hmodes, hmodes'⟩, ⟨_, -, hnotes, hnotes'⟩,
    ⟨_, hmemConfidence, hconfidence, hconfidence'⟩⟩ := hitems
  obtain ⟨intentItems, rfl, hintentItems⟩ := holds_listOf.mp hintents'
  obtain ⟨hypothesisItems, rfl, hhypothesisItems⟩ := holds_listOf.mp hhypotheses'
  have hintentOrdered := orderedItems_iff.mp (hrows _ hmemIntents)
  have hhypothesisOrdered := orderedItems_iff.mp (hrows _ hmemHypotheses)
  have hbuild : ∀ fields, JSONValue.obj fields ∈ intentItems →
      ((∃ intent, ActionIntent.fromPayload b (.ofList fields) = .ok intent) ↔
        ActionIntent.Buildable b (.ofList fields)) := fun fields hfields =>
    ActionIntent.fromPayload_iff hb (holds_record_ofList (hintentItems _ hfields))
      (ordered_ofList (hintentOrdered _ hfields))
  constructor
  · rintro ⟨result, -, hone⟩ items hitems fields hfields
    obtain ⟨items', hitems', hall⟩ := hone.intents
    obtain rfl := JSONValue.list.inj (Except.ok.inj (hitems.symm.trans hitems'))
    obtain rfl := JSONValue.list.inj (Except.ok.inj (hitems.symm.trans hintents))
    obtain ⟨index, hindex, hget⟩ := List.getElem_of_mem hfields
    have hlength := hall.length_eq
    obtain ⟨fields', hobj, hmade⟩ := hall.get hindex (hlength ▸ hindex)
    rw [List.get_eq_getElem] at hobj
    obtain rfl := JSONValue.obj.inj (hget.symm.trans hobj)
    exact (hbuild _ hfields).mp ⟨_, hmade⟩
  · intro hbuildable
    obtain ⟨intents, hintentsMade⟩ : ∃ intents,
        (mappings intentItems).mapM (ActionIntent.fromPayload b) = .ok intents := by
      refine exists_mapM fun data hdata => ?_
      obtain ⟨fields, hfields, rfl⟩ := item_of_mapping hdata
      exact (hbuild fields hfields).mpr (hbuildable intentItems hintents fields hfields)
    obtain ⟨hypotheses, hhypothesesMade⟩ : ∃ hypotheses,
        (mappings hypothesisItems).mapM (Hypothesis.ofItem b) = .ok hypotheses := by
      refine exists_mapM fun data hdata => ?_
      obtain ⟨fields, hfields, rfl⟩ := item_of_mapping hdata
      exact ofItem_of_holds hb (holds_record_ofList (hhypothesisItems _ hfields))
        (ordered_ofList (hhypothesisOrdered _ hfields))
    obtain ⟨alternatives, halternatives⟩ :=
      ActionIntent.itemTexts_of_holds (b := b) halternatives halternatives'
    obtain ⟨notes, hnotes⟩ := ActionIntent.itemTexts_of_holds (b := b) hnotes hnotes'
    obtain ⟨modeItems, rfl, hmodeItems⟩ := holds_listOf.mp hmodes'
    obtain ⟨modes, hmodesMade⟩ : ∃ modes, (modeItems.mapM fun value => do
        CognitiveMode.ofText (← b.str value)) = .ok modes := by
      refine exists_mapM fun item hitem => ?_
      obtain ⟨text, htext, rfl⟩ := holds_oneOf.mp (hmodeItems item hitem)
      exact ofText_mode htext
    obtain ⟨confidence, rfl, hlow, hhigh⟩ := JsonSchema.holds_unit.mp hconfidence'
    obtain ⟨read, hread⟩ := readFloat_of_unit hb hlow hhigh
    have hfloat : itemNumber b (.ofList fields) "confidence" = .ok read := by
      rw [ActionIntent.itemNumber_eq b hconfidence, hread]
    refine ⟨⟨intents, hypotheses, alternatives, modes, notes, read⟩, ?_, ⟨intentItems, hintents, ?_⟩,
      ⟨hypothesisItems, hhypotheses, ?_⟩⟩
    · unfold deliberate
      simp only [hvalid, hintents, hhypotheses, hmodes, halternatives, hnotes, hfloat, ok_bind,
        JSONValue.iterate, hintentsMade, hhypothesesMade, hmodesMade]
      rfl
    · exact forall₂_mappings (mappings_of_holds hintentItems) hintentsMade
    · exact forall₂_mappings (mappings_of_holds hhypothesisItems) hhypothesesMade

end

/-- **The model-output boundary.**  The validator is exact on every schema of the SDK's
subset, and an output it accepts under the deliberation schema becomes a deliberation with
one intent and one hypothesis an item exactly when every listed intent names a capability
and `float` takes its numbers. -/
theorem model_output_boundary {b : ContentBuiltins} (hb : b.floatOfInt = binaryFloat)
    (value : JSONValue) (hordered : value.ordered = true) :
    (∀ (schema : JsonSchema) (path : String), schema.Emitted →
      (validateJsonSchema b.toBuiltins value schema path = .ok () ↔
        schema.Holds jsonReading value)) ∧
    (validateJsonSchema b.toBuiltins value deliberationJsonSchema "$" = .ok () →
      ∃ fields, value = .obj fields ∧
        ((∃ result, deliberate b value = .ok result ∧
          OnePerItem b (.ofList fields) result) ↔ IntentsBuildable b (.ofList fields))) := by
  refine ⟨fun schema path h => ?_, fun hvalid => ?_⟩
  · rw [validate_iff h, holds_python_iff h hordered]
  · obtain ⟨fields, rfl, -⟩ := JsonSchema.holds_record.mp
      ((validate_iff deliberationJsonSchema_emitted).mp hvalid)
    exact ⟨fields, rfl, deliberate_iff hb hvalid hordered⟩

/-! ### An output that is refused -/

/-- Conversions with the floats of binary64. -/
def binaryContent : ContentBuiltins := { plainContent [] with floatOfInt := binaryFloat }

/-- An intent of a model for this capability. -/
def namedIntent (capability : String) : ActionIntent :=
  { ActionIntent.savesSwitch (.float (.finite 0)) with capability := capability }

/-- An output with one intent. -/
def oneIntent (capability : String) : List (String × JSONValue) :=
  [("intents", .list [(namedIntent capability).toPayload.value]), ("hypotheses", .list []),
   ("alternatives", .list []), ("modes", .list []), ("notes", .list []),
   ("confidence", .float (.finite (1 / 2)))]

theorem model_output_boundary_notify :
    (∀ (schema : JsonSchema) (path : String), schema.Emitted →
      (validateJsonSchema binaryContent.toBuiltins (.obj (oneIntent "notify")) schema path = .ok () ↔
        schema.Holds jsonReading (.obj (oneIntent "notify")))) ∧
    (validateJsonSchema binaryContent.toBuiltins (.obj (oneIntent "notify"))
        deliberationJsonSchema "$" = .ok () →
      ∃ fields, JSONValue.obj (oneIntent "notify") = .obj fields ∧
        ((∃ result, deliberate binaryContent (.obj (oneIntent "notify")) = .ok result ∧
          OnePerItem binaryContent (.ofList fields) result) ↔
            IntentsBuildable binaryContent (.ofList fields))) :=
  model_output_boundary (b := binaryContent) rfl _ (by decide +kernel)

/-- An intent without a capability passes the schema and not the constructor. -/
theorem deliberate_raises : ¬ ∀ (b : ContentBuiltins) (value : JSONValue),
    b.floatOfInt = binaryFloat → value.ordered = true →
    validateJsonSchema b.toBuiltins value deliberationJsonSchema "$" = .ok () →
      ∃ result, deliberate b value = .ok result := by
  intro h
  have hvalid : validateJsonSchema binaryContent.toBuiltins (.obj (oneIntent ""))
      deliberationJsonSchema "$" = .ok () := by decide +kernel
  obtain ⟨result, hresult⟩ := h binaryContent (.obj (oneIntent "")) rfl (by decide +kernel) hvalid
  have hrefused : (deliberate binaryContent (.obj (oneIntent ""))).toOption.isSome = false := by
    decide +kernel
  rw [hresult] at hrefused
  cases hrefused

end Given
end Noema
