import Noema.JsonCode
import Noema.JsonSchema
import Noema.GivenRecords

/-!
# Action intents in the log

An agent writes an intent it was authorized to act on into the log, and reads it back when
it recovers.  The constructor checks the capability, the confidence and the attention cost;
the schema that the reader validates against also asks for a switching cost and a branch
cost of at least zero.  The numbers of an intent are kept as they were given and become
floats when they are read.
-/
namespace Noema

/-- `RiskLevel(value)`. -/
def RiskLevel.ofInt (value : Int) : Except PyError RiskLevel :=
  match [negligible, low, medium, high, critical].find? fun level =>
      (level.value : Int) = value with
  | some level => .ok level
  | none => .error (.valueError s!"{value} is not a valid RiskLevel")

/-! ### The schema -/

namespace JsonSchema

/-- `{"type": name}`. -/
def ofType (name : String) : JsonSchema := .node { type := some (.one name) }

/-- `{"type": "array", "items": {"type": "string"}}`. -/
def texts : JsonSchema :=
  .node { type := some (.one "array"), items := some (ofType "string") }

/-- `{"type": "number", "minimum": 0}`. -/
def amount : JsonSchema := .node { type := some (.one "number"), minimum := some (.int 0) }

/-- `{"type": "number", "minimum": 0, "maximum": 1}`. -/
def unit : JsonSchema :=
  .node { type := some (.one "number"), minimum := some (.int 0), maximum := some (.int 1) }

/-- `{"type": "integer", "enum": [0, 1, 2, 3, 4]}`. -/
def level : JsonSchema :=
  .node { type := some (.one "integer"), enum := some [.int 0, .int 1, .int 2, .int 3, .int 4] }

/-- `{"type": ["string", "null"]}`. -/
def textOrNull : JsonSchema := .node { type := some (.union ["string", "null"]) }

/-- A closed object that has all of these properties. -/
def record (properties : List (String × JsonSchema)) : JsonSchema :=
  .node {
    type := some (.one "object")
    properties := properties
    required := properties.map Prod.fst
    additionalProperties := false }

end JsonSchema

open JsonSchema in
/-- The properties of an action intent, all of them required. -/
def actionIntentProperties : List (String × JsonSchema) :=
  [("intent_id", ofType "string"), ("capability", ofType "string"),
   ("arguments", ofType "object"), ("rationale", ofType "string"),
   ("expected_value", ofType "number"), ("information_value", ofType "number"),
   ("risk_reduction", ofType "number"), ("attention_cost", amount), ("switching_cost", amount),
   ("branch_cost", amount), ("risk", level), ("reversible", ofType "boolean"),
   ("required_authority", level), ("confidence", unit), ("alternatives", texts),
   ("falsifiers", texts), ("idempotency_key", textOrNull), ("metadata", ofType "object")]

/-- `ACTION_INTENT_JSON_SCHEMA`. -/
def actionIntentJsonSchema : JsonSchema := .record actionIntentProperties

namespace JsonSchema

variable {reading : SchemaReading} {value : JSONValue}

theorem holds_node (keywords : SchemaNode JsonSchema) :
    (JsonSchema.node keywords).Holds reading value ↔
      (∀ allowed ∈ keywords.enum, reading.listed allowed value) ∧
      (∀ type ∈ keywords.type, ∃ name ∈ type.names, name ∈ value.typeNames) ∧
      (keywords.map (JsonSchema.Holds reading)).Content reading value := by
  rw [JsonSchema.Holds, fold_node]
  exact ⟨fun h => ⟨h.enum, h.type, h.content⟩, fun h => ⟨h.1, h.2.1, h.2.2⟩⟩

theorem holds_string :
    (ofType "string").Holds reading value ↔ ∃ text : String, value = .str text := by
  rw [ofType, holds_node]
  cases value <;> simp [SchemaType.names, JSONValue.typeNames, SchemaNode.Content,
    SchemaNode.map, JSONValue.number]

theorem holds_boolean :
    (ofType "boolean").Holds reading value ↔ ∃ truth : Bool, value = .bool truth := by
  rw [ofType, holds_node]
  cases value <;> simp [SchemaType.names, JSONValue.typeNames, SchemaNode.Content,
    SchemaNode.map, JSONValue.number]

theorem holds_object : (ofType "object").Holds reading value ↔ ∃ fields, value = .obj fields := by
  rw [ofType, holds_node]
  cases value <;> simp [SchemaType.names, JSONValue.typeNames, SchemaNode.Content,
    SchemaNode.map, SchemaNode.property?]

/-- A node that asks for a number, with its bounds. -/
theorem holds_numeric {keywords : SchemaNode JsonSchema}
    (htype : keywords.type = some (.one "number")) (henum : keywords.enum = none) :
    (JsonSchema.node keywords).Holds reading value ↔ ∃ number : PyNumber, value = number.toJson ∧
      (∀ minimum ∈ keywords.minimum, reading.ordered minimum.real number.real) ∧
      ∀ maximum ∈ keywords.maximum, reading.ordered number.real maximum.real := by
  rw [holds_node, htype, henum]
  constructor
  · rintro ⟨-, hname, hcontent⟩
    obtain ⟨name, hone, hof⟩ := hname _ rfl
    obtain rfl := List.mem_singleton.mp hone
    cases value with
    | int n => exact ⟨.int n, rfl, hcontent _ rfl⟩
    | float x => exact ⟨.float x, rfl, hcontent _ rfl⟩
    | _ => simp [JSONValue.typeNames] at hof
  · rintro ⟨number, rfl, hbounds⟩
    refine ⟨by simp, fun type hmem => ?_, ?_⟩
    · obtain rfl := Option.some.inj hmem
      refine ⟨"number", List.mem_singleton_self _, ?_⟩
      cases number <;> simp [PyNumber.toJson, JSONValue.typeNames]
    · cases number with
      | int n =>
        intro number hnumber
        obtain rfl := Option.some.inj hnumber
        exact hbounds
      | float x =>
        intro number hnumber
        obtain rfl := Option.some.inj hnumber
        exact hbounds

theorem toJson_injective : Function.Injective PyNumber.toJson := by
  intro number number' h
  cases number <;> cases number' <;> simp_all [PyNumber.toJson]

theorem holds_number :
    (ofType "number").Holds reading value ↔ ∃ number : PyNumber, value = number.toJson := by
  rw [ofType, holds_numeric rfl rfl]
  simp

theorem holds_amount : amount.Holds reading value ↔
    ∃ number : PyNumber, value = number.toJson ∧ reading.ordered (.finite 0) number.real := by
  rw [amount, holds_numeric rfl rfl]
  simp [PyNumber.real]

theorem holds_unit : unit.Holds reading value ↔ ∃ number : PyNumber, value = number.toJson ∧
    reading.ordered (.finite 0) number.real ∧ reading.ordered number.real (.finite 1) := by
  rw [unit, holds_numeric rfl rfl]
  simp [PyNumber.real]

/-- An array of texts. -/
theorem holds_texts :
    texts.Holds reading value ↔ ∃ values : List String, value = .texts values := by
  rw [texts, holds_node]
  constructor
  · rintro ⟨-, hname, hcontent⟩
    obtain ⟨name, hone, hof⟩ := hname _ rfl
    obtain rfl := List.mem_singleton.mp hone
    cases value with
    | list items =>
      have hitems : ∀ item ∈ items, ∃ text : String, item = .str text := fun item hitem =>
        holds_string.mp (hcontent _ rfl item hitem)
      clear hcontent hname hof
      induction items with
      | nil => exact ⟨[], rfl⟩
      | cons item items ih =>
        obtain ⟨⟨text, rfl⟩, hrest⟩ := List.forall_mem_cons.mp hitems
        obtain ⟨rest, hlist⟩ := ih hrest
        exact ⟨text :: rest, by rw [JSONValue.list.inj hlist]; rfl⟩
    | _ => simp [JSONValue.typeNames] at hof
  · rintro ⟨values, rfl⟩
    refine ⟨by simp, fun type hmem => ?_, fun meaning hmeaning item hitem => ?_⟩
    · obtain rfl := Option.some.inj hmem
      exact ⟨"array", List.mem_singleton_self _, List.mem_singleton_self _⟩
    · obtain rfl := Option.some.inj hmeaning
      obtain ⟨text, -, rfl⟩ := List.mem_map.mp hitem
      exact holds_string.mpr ⟨text, rfl⟩

theorem holds_textOrNull : textOrNull.Holds reading value ↔
    value = .null ∨ ∃ text : String, value = .str text := by
  rw [textOrNull, holds_node]
  cases value <;> simp [SchemaType.names, JSONValue.typeNames, SchemaNode.Content,
    SchemaNode.map, JSONValue.number]

/-- Python finds an integer among integers where it is one of them. -/
theorem inEnum_int {numbers : List Int} {n : Int} :
    SchemaNode.inEnum (numbers.map JSONScalar.int) (.int n) = true ↔ n ∈ numbers := by
  have hequals : ∀ m : Int, (JSONScalar.int m).equals (.int n) = true ↔ m = n := by
    intro m
    simp [JSONScalar.equals, JSONScalar.real]
  simp [SchemaNode.inEnum, JSONValue.scalar, List.any_eq_true, hequals]

/-- A level from zero to four. -/
theorem holds_level :
    level.Holds pythonReading value ↔ ∃ n ∈ ([0, 1, 2, 3, 4] : List Int), value = .int n := by
  rw [level, holds_node]
  constructor
  · rintro ⟨hlisted, hname, -⟩
    obtain ⟨name, hone, hof⟩ := hname _ rfl
    obtain rfl := List.mem_singleton.mp hone
    cases value with
    | int n =>
      have hin : SchemaNode.inEnum (([0, 1, 2, 3, 4] : List Int).map JSONScalar.int) (.int n) = true :=
        hlisted _ rfl
      exact ⟨n, inEnum_int.mp hin, rfl⟩
    | _ => simp [JSONValue.typeNames] at hof
  · rintro ⟨n, hn, rfl⟩
    refine ⟨fun allowed hallowed => ?_, fun type hmem => ?_, ?_⟩
    · obtain rfl := Option.some.inj hallowed
      exact inEnum_int.mpr hn
    · obtain rfl := Option.some.inj hmem
      exact ⟨"integer", List.mem_singleton_self _, List.mem_cons_self⟩
    · simp [SchemaNode.Content, SchemaNode.map]

theorem property?_of_mem {properties : List (String × JsonSchema)} {key : String}
    (h : key ∈ properties.map Prod.fst) :
    ∃ schema, SchemaNode.property? properties key = some schema := by
  obtain ⟨row, hrow, rfl⟩ := List.mem_map.mp h
  have hsome : (properties.find? fun other => other.1 = row.1).isSome :=
    List.find?_isSome.mpr ⟨row, hrow, by simp⟩
  obtain ⟨found, hfound⟩ := Option.isSome_iff_exists.mp hsome
  exact ⟨found.2, by rw [SchemaNode.property?, hfound]; rfl⟩

/-- **A closed record** holds its properties and nothing else. -/
theorem holds_record {properties : List (String × JsonSchema)} :
    (record properties).Holds reading value ↔ ∃ fields, value = .obj fields ∧
      (∀ row ∈ properties, row.1 ∈ fields.map entryKey) ∧
      ∀ field ∈ fields, ∃ schema, SchemaNode.property? properties field.1 = some schema ∧
        schema.Holds reading field.2 := by
  rw [record, holds_node]
  constructor
  · rintro ⟨-, hname, hcontent⟩
    obtain ⟨name, hone, hof⟩ := hname _ rfl
    obtain rfl := List.mem_singleton.mp hone
    cases value with
    | obj fields =>
      obtain ⟨hrequired, hclosed, hfields⟩ := hcontent
      refine ⟨fields, rfl, fun row hrow => hrequired row.1 (List.mem_map_of_mem hrow),
        fun field hfield => ?_⟩
      have hkey := hclosed rfl field hfield
      rw [SchemaNode.map_keys] at hkey
      obtain ⟨schema, hschema⟩ := property?_of_mem hkey
      refine ⟨schema, hschema, hfields field hfield _ ?_⟩
      simp only [SchemaNode.map, SchemaNode.property?_map, hschema]
      rfl
    | _ => simp [JSONValue.typeNames] at hof
  · rintro ⟨fields, rfl, hrequired, hfields⟩
    refine ⟨by simp, fun type hmem => ?_, ?_, fun _ field hfield => ?_, ?_⟩
    · obtain rfl := Option.some.inj hmem
      exact ⟨"object", List.mem_singleton_self _, List.mem_singleton_self _⟩
    · intro key hkey
      obtain ⟨row, hrow, rfl⟩ := List.mem_map.mp hkey
      exact hrequired row hrow
    · obtain ⟨schema, hschema, -⟩ := hfields field hfield
      rw [SchemaNode.map_keys]
      exact List.mem_map_of_mem (f := Prod.fst) (SchemaNode.mem_of_property? hschema)
    · intro field hfield meaning hmeaning
      obtain ⟨schema, hschema, hholds⟩ := hfields field hfield
      simp only [SchemaNode.map, SchemaNode.property?_map, hschema, Option.map_some,
        Option.mem_def, Option.some.injEq] at hmeaning
      exact hmeaning ▸ hholds

/-- A property is found by its key. -/
theorem property?_of_nodup {properties : List (String × JsonSchema)}
    (hnodup : (properties.map Prod.fst).Nodup) {row : String × JsonSchema}
    (hrow : row ∈ properties) : SchemaNode.property? properties row.1 = some row.2 := by
  obtain ⟨schema, hschema⟩ := property?_of_mem (List.mem_map_of_mem (f := Prod.fst) hrow)
  have hother := SchemaNode.mem_of_property? hschema
  have hsame := List.inj_on_of_nodup_map hnodup hother hrow rfl
  rw [hschema, ← hsame]

/-- Fields in the order of the properties fit the record when each fits its property. -/
theorem holds_record_iff {properties : List (String × JsonSchema)}
    {fields : List (String × JSONValue)} (hkeys : fields.map entryKey = properties.map Prod.fst)
    (hnodup : (properties.map Prod.fst).Nodup) :
    (record properties).Holds reading (.obj fields) ↔
      List.Forall₂ (fun row field => row.2.Holds reading field.2) properties fields := by
  have hsame : List.Forall₂ (fun row field => row.1 = entryKey field) properties fields := by
    have heq : List.Forall₂ (· = ·) (properties.map Prod.fst) (fields.map entryKey) :=
      hkeys ▸ List.forall₂_refl _
    rwa [List.forall₂_map_left_iff, List.forall₂_map_right_iff] at heq
  obtain ⟨hlength, hzip⟩ := List.forall₂_iff_zip.mp hsame
  rw [holds_record, List.forall₂_iff_zip]
  constructor
  · rintro ⟨_, hfields, -, hall⟩
    obtain rfl := JSONValue.obj.inj hfields
    refine ⟨hlength, fun {row field} hmem => ?_⟩
    obtain ⟨hrow, hfield⟩ := List.of_mem_zip hmem
    obtain ⟨schema, hschema, hholds⟩ := hall field hfield
    have hkey : row.1 = field.1 := hzip hmem
    rw [← hkey, property?_of_nodup hnodup hrow] at hschema
    exact Option.some.inj hschema ▸ hholds
  · rintro ⟨-, hall⟩
    refine ⟨fields, rfl, fun row hrow => hkeys ▸ List.mem_map_of_mem hrow, fun field hfield => ?_⟩
    obtain ⟨index, hindex, rfl⟩ := List.getElem_of_mem hfield
    have hmem : (properties[index], fields[index]) ∈ properties.zip fields := by
      have hzipped : index < (properties.zip fields).length := by
        rw [List.length_zip]
        omega
      have hget := List.getElem_mem hzipped
      rwa [List.getElem_zip] at hget
    have hkey : properties[index].1 = fields[index].1 := hzip hmem
    refine ⟨properties[index].2, ?_, hall hmem⟩
    rw [← hkey]
    exact property?_of_nodup hnodup (List.getElem_mem _)

/-! ### Schemas of the subset -/

theorem emitted_node {keywords : SchemaNode JsonSchema} :
    (JsonSchema.node keywords).Emitted ↔ (keywords.map JsonSchema.Emitted).Emitted := by
  rw [JsonSchema.Emitted, fold_node]
  rfl

theorem emitted_ofType (name : String) : (ofType name).Emitted :=
  emitted_node.mpr (by constructor <;> simp [SchemaNode.map])

theorem emitted_texts : texts.Emitted :=
  emitted_node.mpr (by constructor <;> simp [SchemaNode.map, emitted_ofType])

theorem emitted_amount : amount.Emitted :=
  emitted_node.mpr (by constructor <;> simp [SchemaNode.map, PyNumber.real])

theorem emitted_unit : unit.Emitted :=
  emitted_node.mpr (by constructor <;> simp [SchemaNode.map, PyNumber.real])

theorem emitted_level : level.Emitted :=
  emitted_node.mpr (by constructor <;> simp [SchemaNode.map, SchemaType.names])

theorem emitted_textOrNull : textOrNull.Emitted :=
  emitted_node.mpr (by constructor <;> simp [SchemaNode.map])

theorem emitted_record {properties : List (String × JsonSchema)}
    (h : ∀ row ∈ properties, row.2.Emitted) : (record properties).Emitted := by
  refine emitted_node.mpr ⟨by simp [SchemaNode.map], by simp [SchemaNode.map],
    by simp [SchemaNode.map], by simp [SchemaNode.map], by simp [SchemaNode.map],
    fun row hrow => ?_, by simp [SchemaNode.map]⟩
  obtain ⟨property, hproperty, rfl⟩ := List.mem_map.mp hrow
  exact h property hproperty

end JsonSchema

theorem actionIntentJsonSchema_emitted : actionIntentJsonSchema.Emitted := by
  refine JsonSchema.emitted_record ?_
  simp [actionIntentProperties, JsonSchema.emitted_ofType, JsonSchema.emitted_texts,
    JsonSchema.emitted_amount, JsonSchema.emitted_unit, JsonSchema.emitted_level,
    JsonSchema.emitted_textOrNull]

/-! ### The record -/

namespace Given

/-- `ActionIntent`, with its numbers as they were given. -/
structure ActionIntent where
  capability : String
  arguments : Payload
  rationale : String
  expectedValue : PyNumber
  informationValue : PyNumber
  riskReduction : PyNumber
  attentionCost : PyNumber
  switchingCost : PyNumber
  branchCost : PyNumber
  risk : RiskLevel
  reversible : Bool
  requiredAuthority : AuthorityLevel
  confidence : PyNumber
  alternatives : List String
  falsifiers : List String
  idempotencyKey : Option String
  intentId : String
  metadata : Payload

namespace ActionIntent

/-- `__post_init__`. -/
def check (intent : ActionIntent) : Except PyError Unit := do
  refuse (intent.capability = "") "action intent requires a capability"
  refuse (((PyFloat.finite 0).atMost intent.confidence.real &&
    intent.confidence.real.atMost (.finite 1)) = false) "confidence must be between 0 and 1"
  refuse (intent.attentionCost.real.less (.finite 0) = true) "attention_cost cannot be negative"

/-- The fields of `to_payload`. -/
def fields (intent : ActionIntent) : List (String × JSONValue) :=
  [("intent_id", .str intent.intentId), ("capability", .str intent.capability),
   ("arguments", intent.arguments.value), ("rationale", .str intent.rationale),
   ("expected_value", intent.expectedValue.toJson),
   ("information_value", intent.informationValue.toJson),
   ("risk_reduction", intent.riskReduction.toJson),
   ("attention_cost", intent.attentionCost.toJson),
   ("switching_cost", intent.switchingCost.toJson), ("branch_cost", intent.branchCost.toJson),
   ("risk", .int intent.risk.value), ("reversible", .bool intent.reversible),
   ("required_authority", .int intent.requiredAuthority.value),
   ("confidence", intent.confidence.toJson), ("alternatives", .texts intent.alternatives),
   ("falsifiers", .texts intent.falsifiers),
   ("idempotency_key", (intent.idempotencyKey.map JSONValue.str).getD .null),
   ("metadata", intent.metadata.value)]

theorem fields_keys (intent : ActionIntent) :
    intent.fields.map entryKey = actionIntentProperties.map Prod.fst := rfl

theorem keys_nodup : (actionIntentProperties.map Prod.fst).Nodup := by decide

/-- `to_payload()`. -/
def toPayload (intent : ActionIntent) : Payload :=
  ⟨intent.fields, intent.fields_keys ▸ keys_nodup⟩

variable (b : ContentBuiltins)

/-- `tuple(str(value) for value in data[key])`. -/
def itemTexts (data : Payload) (key : String) : Except PyError (List String) := do
  (← (← data.item key).iterate).mapM b.str

/-- `dict(data[key])`. -/
def itemDict (data : Payload) (key : String) : Except PyError Payload := do
  b.dict (← data.item key)

/-- `str(data[key]) if data[key] is not None else None`. -/
def itemTextOrNone (data : Payload) (key : String) : Except PyError (Option String) := do
  match ← data.item key with
  | .null => return none
  | value => return some (← b.str value)

/-- `from_payload`. -/
def fromPayload (data : Payload) : Except PyError ActionIntent := do
  validateJsonSchema b.toBuiltins data.value actionIntentJsonSchema "$"
  let capability ← itemText b.toBuiltins data "capability"
  let arguments ← itemDict b data "arguments"
  let rationale ← itemText b.toBuiltins data "rationale"
  let expectedValue ← itemNumber b data "expected_value"
  let informationValue ← itemNumber b data "information_value"
  let riskReduction ← itemNumber b data "risk_reduction"
  let attentionCost ← itemNumber b data "attention_cost"
  let switchingCost ← itemNumber b data "switching_cost"
  let branchCost ← itemNumber b data "branch_cost"
  let risk ← RiskLevel.ofInt (← itemInt b.toIntentBuiltins data "risk")
  let reversible := (← data.item "reversible").truthy
  let requiredAuthority ← AuthorityLevel.ofInt
    (← itemInt b.toIntentBuiltins data "required_authority")
  let confidence ← itemNumber b data "confidence"
  let alternatives ← itemTexts b data "alternatives"
  let falsifiers ← itemTexts b data "falsifiers"
  let idempotencyKey ← itemTextOrNone b data "idempotency_key"
  let intentId ← itemText b.toBuiltins data "intent_id"
  let metadata ← itemDict b data "metadata"
  constructed check
    { capability, arguments, rationale, expectedValue, informationValue, riskReduction,
      attentionCost, switchingCost, branchCost, risk, reversible, requiredAuthority, confidence,
      alternatives, falsifiers, idempotencyKey, intentId, metadata }

/-- The numbers of an intent. -/
def numbers (intent : ActionIntent) : List PyNumber :=
  [intent.expectedValue, intent.informationValue, intent.riskReduction, intent.attentionCost,
   intent.switchingCost, intent.branchCost, intent.confidence]

/-- The intent with its numbers as floats. -/
def asFloats (intent : ActionIntent) : ActionIntent :=
  { intent with
    expectedValue := intent.expectedValue.asFloat
    informationValue := intent.informationValue.asFloat
    riskReduction := intent.riskReduction.asFloat
    attentionCost := intent.attentionCost.asFloat
    switchingCost := intent.switchingCost.asFloat
    branchCost := intent.branchCost.asFloat
    confidence := intent.confidence.asFloat }

/-- `read == intent`: the numbers have the same values. -/
def Equals (read intent : ActionIntent) : Prop := read.asFloats = intent.asFloats

/-- **The intent can be read back**, and is the same. -/
def ReadBack (intent : ActionIntent) : Prop :=
  ∃ read, fromPayload b intent.toPayload = .ok read ∧ read.Equals intent

/-- The costs that only the schema bounds are not negative, and `float` keeps every number. -/
structure Readable (intent : ActionIntent) : Prop where
  switchingCost : intent.switchingCost.real.less (.finite 0) = false
  branchCost : intent.branchCost.real.less (.finite 0) = false
  numbers : ∀ number ∈ intent.numbers, number.readFloat b = .ok number.asFloat

theorem level_mem (level : AuthorityLevel) :
    (level.value : Int) ∈ ([0, 1, 2, 3, 4] : List Int) := by
  cases level <;> decide

theorem risk_mem (risk : RiskLevel) : (risk.value : Int) ∈ ([0, 1, 2, 3, 4] : List Int) := by
  cases risk <;> decide

theorem amount_holds (number : PyNumber) :
    JsonSchema.amount.Holds pythonReading number.toJson ↔ number.real.less (.finite 0) = false := by
  rw [JsonSchema.holds_amount]
  constructor
  · rintro ⟨other, hsame, hbound⟩
    exact JsonSchema.toJson_injective hsame ▸ hbound
  · exact fun hbound => ⟨number, rfl, hbound⟩

theorem unit_holds (number : PyNumber) :
    JsonSchema.unit.Holds pythonReading number.toJson ↔
      number.real.less (.finite 0) = false ∧ (PyFloat.finite 1).less number.real = false := by
  rw [JsonSchema.holds_unit]
  constructor
  · rintro ⟨other, hsame, hbounds⟩
    exact JsonSchema.toJson_injective hsame ▸ hbounds
  · exact fun hbounds => ⟨number, rfl, hbounds⟩

theorem keyText_holds (key : Option String) :
    JsonSchema.textOrNull.Holds pythonReading ((key.map JSONValue.str).getD .null) := by
  rw [JsonSchema.holds_textOrNull]
  cases key <;> simp

/-- **The schema asks of a written intent** what the constructor checks of its numbers, and
the sign of two costs more. -/
theorem schema_holds_iff (intent : ActionIntent) :
    actionIntentJsonSchema.Holds pythonReading intent.toPayload.value ↔
      intent.attentionCost.real.less (.finite 0) = false ∧
      intent.switchingCost.real.less (.finite 0) = false ∧
      intent.branchCost.real.less (.finite 0) = false ∧
      intent.confidence.real.less (.finite 0) = false ∧
      (PyFloat.finite 1).less intent.confidence.real = false := by
  show (JsonSchema.record actionIntentProperties).Holds pythonReading (.obj intent.fields) ↔ _
  rw [JsonSchema.holds_record_iff intent.fields_keys keys_nodup]
  have hstring : ∀ text : String, (JsonSchema.ofType "string").Holds pythonReading (.str text) :=
    fun text => JsonSchema.holds_string.mpr ⟨text, rfl⟩
  have hobject : ∀ payload : Payload,
      (JsonSchema.ofType "object").Holds pythonReading payload.value :=
    fun payload => JsonSchema.holds_object.mpr ⟨payload.rows, rfl⟩
  have hnumber : ∀ number : PyNumber,
      (JsonSchema.ofType "number").Holds pythonReading number.toJson :=
    fun number => JsonSchema.holds_number.mpr ⟨number, rfl⟩
  have hboolean : ∀ truth, (JsonSchema.ofType "boolean").Holds pythonReading (.bool truth) :=
    fun truth => JsonSchema.holds_boolean.mpr ⟨truth, rfl⟩
  have hlevel : ∀ n ∈ ([0, 1, 2, 3, 4] : List Int), JsonSchema.level.Holds pythonReading (.int n) :=
    fun n hn => JsonSchema.holds_level.mpr ⟨n, hn, rfl⟩
  have htexts : ∀ values, JsonSchema.texts.Holds pythonReading (.texts values) :=
    fun values => JsonSchema.holds_texts.mpr ⟨values, rfl⟩
  simp only [actionIntentProperties, fields, List.forall₂_cons, List.forall₂_nil_right_iff,
    amount_holds, unit_holds, keyText_holds, hstring, hobject, hnumber, hboolean, htexts,
    hlevel _ (level_mem _), hlevel _ (risk_mem _), and_true, true_and]

/-- The order of numbers: what is not below zero and not above one is between them. -/
theorem confidence_bounds {confidence : PyFloat}
    (h : ((PyFloat.finite 0).atMost confidence && confidence.atMost (.finite 1)) = true) :
    confidence.less (.finite 0) = false ∧ (PyFloat.finite 1).less confidence = false := by
  rw [Bool.and_eq_true] at h
  have hnumber : confidence ≠ .nan := by
    rintro rfl
    exact absurd h.1 (by decide)
  exact ⟨(PyFloat.less_eq_false_iff (by simp) hnumber).mpr h.1,
    (PyFloat.less_eq_false_iff hnumber (by simp)).mpr h.2⟩

theorem check_iff {intent : ActionIntent} : intent.check = .ok () ↔ intent.capability ≠ "" ∧
    ((PyFloat.finite 0).atMost intent.confidence.real &&
      intent.confidence.real.atMost (.finite 1)) = true ∧
    intent.attentionCost.real.less (.finite 0) = false := by
  simp only [check, bind_ok_iff, refuse_iff, exists_const, ne_eq, Bool.not_eq_false,
    Bool.not_eq_true]

/-- **The schema takes a written intent** exactly when the two costs are not negative. -/
theorem validate_written_iff {intent : ActionIntent} (h : intent.check = .ok ()) :
    validateJsonSchema b.toBuiltins intent.toPayload.value actionIntentJsonSchema "$" = .ok () ↔
      intent.switchingCost.real.less (.finite 0) = false ∧
      intent.branchCost.real.less (.finite 0) = false := by
  obtain ⟨-, hconfidence, hattention⟩ := check_iff.mp h
  obtain ⟨hlow, hhigh⟩ := confidence_bounds hconfidence
  rw [validate_iff actionIntentJsonSchema_emitted, schema_holds_iff]
  simp only [hattention, hlow, hhigh, and_true, true_and]

theorem mapM_str (values : List String) :
    (values.map JSONValue.str).mapM b.str = (.ok values : Except PyError (List String)) := by
  induction values with
  | nil => rfl
  | cons value values ih =>
    rw [List.map_cons, List.mapM_cons, ih]
    rfl

theorem ofInt_risk (risk : RiskLevel) : RiskLevel.ofInt risk.value = .ok risk := by
  cases risk <;> rfl

theorem ofInt_authority (level : AuthorityLevel) : AuthorityLevel.ofInt level.value = .ok level := by
  cases level <;> rfl

/-- `dict` of a payload copies it. -/
theorem dict_value (payload : Payload) : b.dict payload.value = .ok payload :=
  congrArg Except.ok (KeyedTable.ofList_rows payload)

/-- **What the reader makes of a written intent**, number by number. -/
theorem fromPayload_eq (intent : ActionIntent)
    (hvalid : validateJsonSchema b.toBuiltins intent.toPayload.value actionIntentJsonSchema "$" =
      .ok ()) :
    fromPayload b intent.toPayload = (do
      let expectedValue ← intent.expectedValue.readFloat b
      let informationValue ← intent.informationValue.readFloat b
      let riskReduction ← intent.riskReduction.readFloat b
      let attentionCost ← intent.attentionCost.readFloat b
      let switchingCost ← intent.switchingCost.readFloat b
      let branchCost ← intent.branchCost.readFloat b
      let confidence ← intent.confidence.readFloat b
      constructed check { intent with
        expectedValue := expectedValue, informationValue := informationValue,
        riskReduction := riskReduction, attentionCost := attentionCost,
        switchingCost := switchingCost, branchCost := branchCost, confidence := confidence }) := by
  have htext : ∀ key text, intent.toPayload.item key = .ok (.str text) →
      itemText b.toBuiltins intent.toPayload key = .ok text := by
    intro key text h
    exact bind_of_ok h _
  have hnumber : ∀ key number, intent.toPayload.item key = .ok (PyNumber.toJson number) →
      itemNumber b intent.toPayload key = number.readFloat b := by
    intro key number h
    rw [itemNumber, itemFloat, h]
    rfl
  have hdict : ∀ key payload, intent.toPayload.item key = .ok (Payload.value payload) →
      itemDict b intent.toPayload key = .ok payload := by
    intro key payload h
    rw [itemDict, h]
    exact dict_value b payload
  have htexts : ∀ key values, intent.toPayload.item key = .ok (.texts values) →
      itemTexts b intent.toPayload key = .ok values := by
    intro key values h
    rw [itemTexts, h]
    exact mapM_str b values
  unfold fromPayload
  rw [hvalid, htext "capability" intent.capability rfl, hdict "arguments" intent.arguments rfl,
    htext "rationale" intent.rationale rfl, hnumber "expected_value" intent.expectedValue rfl,
    hnumber "information_value" intent.informationValue rfl,
    hnumber "risk_reduction" intent.riskReduction rfl,
    hnumber "attention_cost" intent.attentionCost rfl,
    hnumber "switching_cost" intent.switchingCost rfl,
    hnumber "branch_cost" intent.branchCost rfl, hnumber "confidence" intent.confidence rfl,
    htexts "alternatives" intent.alternatives rfl, htexts "falsifiers" intent.falsifiers rfl,
    htext "intent_id" intent.intentId rfl, hdict "metadata" intent.metadata rfl]
  have hrisk : itemInt b.toIntentBuiltins intent.toPayload "risk" = .ok (intent.risk.value : Int) :=
    rfl
  have hauthority : itemInt b.toIntentBuiltins intent.toPayload "required_authority" =
      .ok (intent.requiredAuthority.value : Int) := rfl
  have hreversible : intent.toPayload.item "reversible" = .ok (.bool intent.reversible) := rfl
  have hitem : intent.toPayload.item "idempotency_key" =
      .ok ((intent.idempotencyKey.map JSONValue.str).getD .null) := rfl
  have hkey : itemTextOrNone b intent.toPayload "idempotency_key" = .ok intent.idempotencyKey := by
    rw [itemTextOrNone, hitem]
    cases intent.idempotencyKey <;> rfl
  rw [hrisk, hauthority, hreversible, hkey]
  simp only [ok_bind, ofInt_risk, ofInt_authority, JSONValue.truthy]

/-- `float` of a number gives a float. -/
theorem readFloat_float {number read : PyNumber} (h : number.readFloat b = .ok read) :
    read.asFloat = read := by
  rw [PyNumber.readFloat] at h
  cases hfloat : b.float number.toJson with
  | error error =>
    rw [hfloat] at h
    cases h
  | ok value =>
    rw [hfloat] at h
    obtain rfl := Except.ok.inj h
    rfl

/-- `float` keeps a number when what it gives has the same value. -/
theorem kept_of_same {number read : PyNumber} (h : number.readFloat b = .ok read)
    (hsame : read.asFloat = number.asFloat) : number.readFloat b = .ok number.asFloat := by
  rw [h, ← hsame, readFloat_float b h]

/-- **A written intent is read back as it was exactly when the reader's own bounds hold of
it and `float` keeps its numbers.** -/
theorem readBack_iff {intent : ActionIntent} (h : intent.check = .ok ()) :
    intent.ReadBack b ↔ intent.Readable b := by
  constructor
  · rintro ⟨read, hread, hsame⟩
    have hvalid : validateJsonSchema b.toBuiltins intent.toPayload.value actionIntentJsonSchema "$" =
        .ok () := (bind_eq_ok hread).choose_spec.1
    obtain ⟨hswitching, hbranch⟩ := (validate_written_iff b h).mp hvalid
    rw [fromPayload_eq b intent hvalid] at hread
    obtain ⟨expected, hexpected, hread⟩ := bind_eq_ok hread
    obtain ⟨information, hinformation, hread⟩ := bind_eq_ok hread
    obtain ⟨riskReduction, hriskReduction, hread⟩ := bind_eq_ok hread
    obtain ⟨attention, hattention, hread⟩ := bind_eq_ok hread
    obtain ⟨switching, hswitched, hread⟩ := bind_eq_ok hread
    obtain ⟨branch, hbranched, hread⟩ := bind_eq_ok hread
    obtain ⟨confidence, hconfidence, hread⟩ := bind_eq_ok hread
    obtain ⟨_, -, hread⟩ := bind_eq_ok hread
    obtain rfl := Except.ok.inj hread
    refine ⟨hswitching, hbranch, ?_⟩
    simp only [numbers, List.forall_mem_cons, List.not_mem_nil, false_imp_iff, implies_true,
      and_true]
    exact ⟨kept_of_same b hexpected (congrArg ActionIntent.expectedValue hsame),
      kept_of_same b hinformation (congrArg ActionIntent.informationValue hsame),
      kept_of_same b hriskReduction (congrArg ActionIntent.riskReduction hsame),
      kept_of_same b hattention (congrArg ActionIntent.attentionCost hsame),
      kept_of_same b hswitched (congrArg ActionIntent.switchingCost hsame),
      kept_of_same b hbranched (congrArg ActionIntent.branchCost hsame),
      kept_of_same b hconfidence (congrArg ActionIntent.confidence hsame)⟩
  · rintro ⟨hswitching, hbranch, hnumbers⟩
    have hvalid := (validate_written_iff b h).mpr ⟨hswitching, hbranch⟩
    simp only [numbers, List.forall_mem_cons, List.not_mem_nil, false_imp_iff, implies_true,
      and_true] at hnumbers
    obtain ⟨hexpected, hinformation, hriskReduction, hattention, hswitched, hbranched,
      hconfidence⟩ := hnumbers
    refine ⟨intent.asFloats, ?_, rfl⟩
    rw [fromPayload_eq b intent hvalid, hexpected, hinformation, hriskReduction, hattention,
      hswitched, hbranched, hconfidence]
    -- the constructor looks at the values only
    have hcheck : intent.asFloats.check = .ok () := h
    exact bind_of_ok hcheck _

/-! ### An intent that cannot be read -/

/-- An intent that saves a switch. -/
def savesSwitch (switchingCost : PyNumber) : ActionIntent where
  capability := "notify"
  arguments := .empty
  rationale := ""
  expectedValue := .int 5
  informationValue := .float (.finite 0)
  riskReduction := .float (.finite 0)
  attentionCost := .int 1
  switchingCost := switchingCost
  branchCost := .float (.finite 0)
  risk := .low
  reversible := true
  requiredAuthority := .actReversible
  confidence := .float (.finite (1 / 2))
  alternatives := []
  falsifiers := []
  idempotencyKey := none
  intentId := "intent-1"
  metadata := .empty

theorem readBack_savesSwitch :
    (savesSwitch (.float (.finite 0))).ReadBack (plainContent []) ↔
      (savesSwitch (.float (.finite 0))).Readable (plainContent []) :=
  readBack_iff (plainContent []) (by decide +kernel)

/-- With a negative switching cost it is written and cannot be read. -/
theorem not_readBack : ¬ ∀ (b : ContentBuiltins) (intent : ActionIntent),
    intent.check = .ok () → intent.ReadBack b := by
  intro h
  have hcheck : (savesSwitch (.float (.finite (-1)))).check = .ok () := by decide +kernel
  have hread := h (plainContent []) (savesSwitch (.float (.finite (-1)))) hcheck
  have hvalid : validateJsonSchema (plainContent []).toBuiltins
      (savesSwitch (.float (.finite (-1)))).toPayload.value actionIntentJsonSchema "$" = .ok () := by
    obtain ⟨read, hread, -⟩ := hread
    exact (bind_eq_ok hread).choose_spec.1
  exact absurd ((validate_written_iff _ hcheck).mp hvalid).1 (by decide +kernel)

end ActionIntent
end Given
end Noema
