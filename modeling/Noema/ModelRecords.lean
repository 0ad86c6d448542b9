import Noema.ActionIntents

/-!
# Requests to a model and its responses

A response is written into a fixture as an object and read back from it.  The reader makes a
float of every number field, and reads an empty response id or finish reason as `None`: it
asks whether the field is true, where its siblings ask whether it is `None`.
-/
namespace Noema

mutual

/-- The value with its booleans and integers as the floats that they equal. -/
def JSONValue.withFloats : JSONValue → JSONValue
  | .bool value => .float (.finite (if value then 1 else 0))
  | .int value => .float (.finite value)
  | .list items => .list (itemsWithFloats items)
  | .obj fields => .obj (fieldsWithFloats fields)
  | .null => .null
  | .float value => .float value
  | .str value => .str value

def itemsWithFloats : List JSONValue → List JSONValue
  | [] => []
  | item :: items => item.withFloats :: itemsWithFloats items

def fieldsWithFloats : List (String × JSONValue) → List (String × JSONValue)
  | [] => []
  | (key, value) :: fields => (key, value.withFloats) :: fieldsWithFloats fields

end

/-- `read == value`: dictionaries are equal whatever the order of their fields, numbers when
they have the same value, and NaN equals nothing. -/
def JSONValue.Equals (read value : JSONValue) : Prop :=
  value.ordered = true ∧ read.sortKeys.withFloats = value.sortKeys.withFloats

/-- A value that differs in the order of fields is equal, unless a NaN is in it. -/
theorem JSONValue.equals_of_sortKeys {read value : JSONValue}
    (h : read.sortKeys = value.sortKeys) : read.Equals value ↔ value.ordered = true := by
  refine ⟨fun hequal => hequal.1, fun hordered => ⟨hordered, ?_⟩⟩
  rw [h]

/-- `read == number`. -/
def PyNumber.Equals (read number : PyNumber) : Prop :=
  number.real ≠ .nan ∧ read.real = number.real

structure ModelMessage where
  role : String
  content : String

/-- `ModelMessage.to_dict`. -/
def ModelMessage.toDict (message : ModelMessage) : JSONValue :=
  .obj [("role", .str message.role), ("content", .str message.content)]

/-- A value or `None`. -/
def JSONValue.orNull {α : Type} (toJson : α → JSONValue) : Option α → JSONValue
  | some value => toJson value
  | none => .null

/-- `ModelRequest`, with what its constructor checks. -/
structure ModelRequest where
  messages : List ModelMessage
  responseSchema : Option Payload
  schemaName : String
  instructions : Option String
  maxOutputTokens : Option Int
  temperature : Option PyNumber
  correlationId : Option String
  metadata : Payload
  some_message : messages ≠ []
  tokens_positive : ∀ tokens ∈ maxOutputTokens, 0 < tokens

namespace ModelRequest

/-- The fields of `to_dict(include_correlation=False)`. -/
def semanticFields (request : ModelRequest) : List (String × JSONValue) :=
  [("messages", .list (request.messages.map ModelMessage.toDict)),
   ("response_schema", .orNull Payload.value request.responseSchema),
   ("schema_name", .str request.schemaName),
   ("instructions", .orNull .str request.instructions),
   ("max_output_tokens", .orNull .int request.maxOutputTokens),
   ("temperature", .orNull PyNumber.toJson request.temperature),
   ("metadata", request.metadata.value)]

/-- `to_dict(include_correlation=...)`. -/
def toDict (request : ModelRequest) (includeCorrelation : Bool) : JSONValue :=
  .obj (request.semanticFields ++
    if includeCorrelation then [("correlation_id", .orNull .str request.correlationId)] else [])

/-- The same request, with any correlation id. -/
def SameRequest (query request : ModelRequest) : Prop :=
  ∃ correlationId, query = { request with correlationId := correlationId }

theorem SameRequest.refl (request : ModelRequest) : request.SameRequest request := ⟨_, rfl⟩

theorem SameRequest.toDict {query request : ModelRequest} (h : query.SameRequest request) :
    query.toDict false = request.toDict false := by
  obtain ⟨correlationId, rfl⟩ := h
  rfl

end ModelRequest

structure ModelUsage where
  inputTokens : Int
  outputTokens : Int
  totalTokens : Int
  estimatedCost : Option PyNumber

namespace ModelUsage

/-- `asdict(usage)`. -/
def fields (usage : ModelUsage) : List (String × JSONValue) :=
  [("input_tokens", .int usage.inputTokens), ("output_tokens", .int usage.outputTokens),
   ("total_tokens", .int usage.totalTokens),
   ("estimated_cost", .orNull PyNumber.toJson usage.estimatedCost)]

theorem keys_nodup (usage : ModelUsage) : (usage.fields.map entryKey).Nodup := by
  have hkeys : usage.fields.map entryKey =
      ["input_tokens", "output_tokens", "total_tokens", "estimated_cost"] := rfl
  rw [hkeys]
  decide

def toDict (usage : ModelUsage) : Payload := ⟨usage.fields, usage.keys_nodup⟩

end ModelUsage

structure ModelResponse where
  provider : String
  model : String
  text : String
  output : JSONValue
  responseId : Option String
  finishReason : Option String
  usage : ModelUsage
  latencySeconds : Option PyNumber
  metadata : Payload

section Reading

variable (b : ContentBuiltins) (data : Payload)

/-- `str(data[key]) if data.get(key) else None`. -/
def textIfTrue (key : String) : Except PyError (Option String) :=
  if (data.get key).truthy then some <$> b.str (data.get key) else .ok none

/-- `float(data[key]) if data.get(key) is not None else None`. -/
def numberOrNone (key : String) : Except PyError (Option PyNumber) :=
  match data.get key with
  | .null => .ok none
  | value => (fun number => some (.float number)) <$> b.float value

/-- `int(data.get(key, default))`. -/
def tokensOr (key : String) (default : Int) : Except PyError Int :=
  match Dict.get? data key with
  | some value => b.int value
  | none => .ok default

/-- `data.get(key, {})`, as a mapping; what is no mapping reads as an empty one. -/
def fieldsOrEmpty (key : String) : Payload :=
  match data.get key with
  | .obj fields => .ofList fields
  | _ => .empty

def ModelUsage.fromDict : Except PyError ModelUsage := do
  let inputTokens ← tokensOr b data "input_tokens" 0
  let outputTokens ← tokensOr b data "output_tokens" 0
  let totalTokens ← tokensOr b data "total_tokens" 0
  let estimatedCost ← numberOrNone b data "estimated_cost"
  return { inputTokens, outputTokens, totalTokens, estimatedCost }

end Reading

namespace ModelResponse

/-- The fields of `to_dict`. -/
def fields (response : ModelResponse) : List (String × JSONValue) :=
  [("provider", .str response.provider), ("model", .str response.model),
   ("text", .str response.text), ("output", response.output),
   ("response_id", .orNull .str response.responseId),
   ("finish_reason", .orNull .str response.finishReason),
   ("usage", response.usage.toDict.value),
   ("latency_seconds", .orNull PyNumber.toJson response.latencySeconds),
   ("metadata", response.metadata.value)]

theorem keys_nodup (response : ModelResponse) : (response.fields.map entryKey).Nodup := by
  have hkeys : response.fields.map entryKey =
      ["provider", "model", "text", "output", "response_id", "finish_reason", "usage",
       "latency_seconds", "metadata"] := rfl
  rw [hkeys]
  decide

def toDict (response : ModelResponse) : Payload := ⟨response.fields, response.keys_nodup⟩

variable (b : ContentBuiltins)

/-- `from_dict`. -/
def fromDict (data : Payload) : Except PyError ModelResponse := do
  let provider ← itemText b.toBuiltins data "provider"
  let model ← itemText b.toBuiltins data "model"
  let text ← textOr b.toBuiltins data "text" ""
  let output := data.get "output"
  let responseId ← textIfTrue b data "response_id"
  let finishReason ← textIfTrue b data "finish_reason"
  let usage ← ModelUsage.fromDict b (fieldsOrEmpty data "usage")
  let latencySeconds ← numberOrNone b data "latency_seconds"
  let metadata := fieldsOrEmpty data "metadata"
  return { provider, model, text, output, responseId, finishReason, usage, latencySeconds,
           metadata }

/-- `read == response`. -/
structure Equals (read response : ModelResponse) : Prop where
  provider : read.provider = response.provider
  model : read.model = response.model
  text : read.text = response.text
  output : read.output.Equals response.output
  responseId : read.responseId = response.responseId
  finishReason : read.finishReason = response.finishReason
  inputTokens : read.usage.inputTokens = response.usage.inputTokens
  outputTokens : read.usage.outputTokens = response.usage.outputTokens
  totalTokens : read.usage.totalTokens = response.usage.totalTokens
  estimatedCost : Option.Rel PyNumber.Equals read.usage.estimatedCost response.usage.estimatedCost
  latencySeconds : Option.Rel PyNumber.Equals read.latencySeconds response.latencySeconds
  metadata : read.metadata.value.Equals response.metadata.value

/-- A number that `float` keeps. -/
def KeptNumber (number : PyNumber) : Prop :=
  number.real ≠ .nan ∧ number.readFloat b = .ok number.asFloat

/-- **A response that a fixture gives back**: no text is empty where the reader takes the
empty text for a missing one, `float` keeps the numbers, and no NaN is in it. -/
structure Replayable (response : ModelResponse) : Prop where
  responseId : response.responseId ≠ some ""
  finishReason : response.finishReason ≠ some ""
  estimatedCost : ∀ cost ∈ response.usage.estimatedCost, KeptNumber b cost
  latencySeconds : ∀ latency ∈ response.latencySeconds, KeptNumber b latency
  output : response.output.ordered = true
  metadata : response.metadata.value.ordered = true

/-! ### Reading back -/

section
variable {b} {data : Payload} {key : String}

theorem get_of_stored {value : JSONValue} (h : data.Stored key value) (hflat : value.flat) :
    data.get key = value := by
  rw [Payload.get, h.flat hflat]
  rfl

/-- An empty text reads as none. -/
theorem textIfTrue_stored {text : Option String} (h : data.Stored key (.orNull .str text)) :
    textIfTrue b data key = .ok (text.filter fun text => text ≠ "") := by
  cases text with
  | none =>
    rw [textIfTrue, get_of_stored h rfl]
    rfl
  | some text =>
    rw [textIfTrue, get_of_stored h rfl, Option.filter_some]
    by_cases hempty : text = ""
    · subst hempty
      rfl
    · have htrue : (JSONValue.orNull JSONValue.str (some text)).truthy = true := by
        simpa [JSONValue.orNull, JSONValue.truthy] using hempty
      rw [if_pos htrue, if_pos (by simpa using hempty)]
      rfl

theorem numberOrNone_stored {number : Option PyNumber}
    (h : data.Stored key (.orNull PyNumber.toJson number)) :
    numberOrNone b data key = number.mapM (PyNumber.readFloat b) := by
  cases number with
  | none =>
    rw [numberOrNone, get_of_stored h rfl]
    rfl
  | some number =>
    have hflat : (JSONValue.orNull PyNumber.toJson (some number)).flat := by
      cases number <;> rfl
    rw [numberOrNone, get_of_stored h hflat, Option.mapM_some, PyNumber.readFloat]
    cases number with
    | int value => cases hfloat : b.floatOfInt value <;> simp [JSONValue.orNull, PyNumber.toJson,
        Builtins.float, hfloat]
    | float value => rfl

theorem tokensOr_stored {tokens : Int} (h : data.Stored key (.int tokens)) (default : Int) :
    tokensOr b data key default = .ok tokens := by
  rw [tokensOr, h.flat rfl]
  rfl

theorem fieldsOrEmpty_stored {fields : Payload} (h : data.Stored key fields.value) :
    (fieldsOrEmpty data key).Respells fields := by
  obtain ⟨stored, hstored, hsame⟩ := h
  obtain ⟨read, hread, hrespells⟩ := Payload.respells_of_value hsame
  cases stored with
  | obj rows =>
    obtain rfl := Except.ok.inj hread
    rw [fieldsOrEmpty, Payload.get, hstored]
    exact hrespells
  | _ => cases hread

theorem itemText_stored {text : String} (h : data.Stored key (.str text)) :
    itemText b.toBuiltins data key = .ok text := by
  rw [itemText, Payload.item, h.flat rfl]
  rfl

end

theorem usage_stored {usage : ModelUsage} {data : Payload} (h : data.Respells usage.toDict) :
    ModelUsage.fromDict b data = (do
      let estimatedCost ← usage.estimatedCost.mapM (PyNumber.readFloat b)
      return { usage with estimatedCost := estimatedCost }) := by
  have hfields := h.stored
  simp only [ModelUsage.toDict, ModelUsage.fields, List.forall_mem_cons, List.not_mem_nil,
    false_imp_iff, implies_true, and_true] at hfields
  obtain ⟨hinput, houtput, htotal, hcost⟩ := hfields
  rw [ModelUsage.fromDict, tokensOr_stored hinput, tokensOr_stored houtput, tokensOr_stored htotal,
    numberOrNone_stored hcost]
  rfl

/-- **What the reader makes of a written response.** -/
theorem fromDict_stored {response : ModelResponse} {data : Payload}
    (h : data.Respells response.toDict) :
    ∃ output metadata, output.sortKeys = response.output.sortKeys ∧
      Payload.Respells metadata response.metadata ∧
      fromDict b data = (do
        let estimatedCost ← response.usage.estimatedCost.mapM (PyNumber.readFloat b)
        let latencySeconds ← response.latencySeconds.mapM (PyNumber.readFloat b)
        return { response with
          output := output
          responseId := response.responseId.filter fun text => text ≠ ""
          finishReason := response.finishReason.filter fun text => text ≠ ""
          usage := { response.usage with estimatedCost := estimatedCost }
          latencySeconds := latencySeconds
          metadata := metadata }) := by
  have hfields := h.stored
  simp only [toDict, fields, List.forall_mem_cons, List.not_mem_nil, false_imp_iff, implies_true,
    and_true] at hfields
  obtain ⟨hprovider, hmodel, htext, houtput, hid, hreason, husage, hlatency, hmetadata⟩ := hfields
  have htextOr : textOr b.toBuiltins data "text" "" = .ok response.text := by
    rw [textOr, htext.flat rfl]
    rfl
  obtain ⟨output, hget, hsame⟩ := houtput
  refine ⟨output, fieldsOrEmpty data "metadata", hsame, fieldsOrEmpty_stored hmetadata, ?_⟩
  have houtput : data.get "output" = output := by
    rw [Payload.get, hget]
    rfl
  rw [fromDict, itemText_stored hprovider, itemText_stored hmodel, htextOr, houtput,
    textIfTrue_stored hid, textIfTrue_stored hreason, usage_stored b (fieldsOrEmpty_stored husage),
    numberOrNone_stored hlatency]
  simp only [ok_bind]
  cases response.usage.estimatedCost.mapM (PyNumber.readFloat b) with
  | error error => rfl
  | ok cost => rfl

section
variable {b}

/-- An empty text is lost. -/
theorem filter_eq_self_iff {text : Option String} :
    text.filter (fun text => text ≠ "") = text ↔ text ≠ some "" := by
  cases text with
  | none => simp
  | some text => by_cases hempty : text = "" <;> simp [hempty]

theorem keptNumber_of_equals {number read : PyNumber} (h : number.readFloat b = .ok read)
    (hequal : read.Equals number) : KeptNumber b number := by
  refine ⟨hequal.1, Given.ActionIntent.kept_of_same b h ?_⟩
  rw [PyNumber.asFloat, PyNumber.asFloat, hequal.2]

/-- A number field comes back equal exactly when `float` keeps it. -/
theorem kept_iff {number : Option PyNumber} :
    (∃ read, number.mapM (PyNumber.readFloat b) = .ok read ∧ Option.Rel PyNumber.Equals read number) ↔
      ∀ given ∈ number, KeptNumber b given := by
  cases number with
  | none =>
    refine ⟨by simp, fun _ => ⟨none, rfl, .none⟩⟩
  | some number =>
    constructor
    · rintro ⟨read, hread, hequal⟩ given hgiven
      obtain rfl := Option.some.inj hgiven
      rw [Option.mapM_some] at hread
      obtain ⟨kept, hkept, rfl⟩ : ∃ kept, number.readFloat b = .ok kept ∧ some kept = read := by
        cases hfloat : number.readFloat b with
        | error error =>
          rw [hfloat] at hread
          cases hread
        | ok kept =>
          rw [hfloat] at hread
          exact ⟨kept, rfl, Except.ok.inj hread⟩
      cases hequal with
      | some hequal => exact keptNumber_of_equals hkept hequal
    · intro h
      obtain ⟨hnumber, hkept⟩ := h number rfl
      refine ⟨some number.asFloat, ?_, .some ⟨hnumber, rfl⟩⟩
      rw [Option.mapM_some, hkept]
      rfl

theorem metadata_equals_iff {read written : Payload} (h : read.Respells written) :
    read.value.Equals written.value ↔ written.value.ordered = true :=
  JSONValue.equals_of_sortKeys (congrArg (fun payload : Payload => JSONValue.obj payload.rows) h)

/-- **A written response comes back equal exactly when a fixture can give it back.** -/
theorem comesBack_iff {response : ModelResponse} {data : Payload}
    (h : data.Respells response.toDict) :
    (∃ read, fromDict b data = .ok read ∧ read.Equals response) ↔ response.Replayable b := by
  obtain ⟨output, metadata, houtput, hmetadata, hread⟩ := fromDict_stored b h
  rw [hread]
  constructor
  · rintro ⟨read, hread, hequal⟩
    obtain ⟨cost, hcost, hread⟩ := bind_eq_ok hread
    obtain ⟨latency, hlatency, hread⟩ := bind_eq_ok hread
    obtain rfl := Except.ok.inj hread
    exact {
      responseId := filter_eq_self_iff.mp hequal.responseId
      finishReason := filter_eq_self_iff.mp hequal.finishReason
      estimatedCost := kept_iff.mp ⟨cost, hcost, hequal.estimatedCost⟩
      latencySeconds := kept_iff.mp ⟨latency, hlatency, hequal.latencySeconds⟩
      output := hequal.output.1
      metadata := hequal.metadata.1 }
  · intro hreplayable
    obtain ⟨cost, hcost, hcosts⟩ := kept_iff.mpr hreplayable.estimatedCost
    obtain ⟨latency, hlatency, hlatencies⟩ := kept_iff.mpr hreplayable.latencySeconds
    rw [hcost, hlatency]
    refine ⟨_, rfl, ?_⟩
    exact {
      provider := rfl
      model := rfl
      text := rfl
      output := (JSONValue.equals_of_sortKeys houtput).mpr hreplayable.output
      responseId := filter_eq_self_iff.mpr hreplayable.responseId
      finishReason := filter_eq_self_iff.mpr hreplayable.finishReason
      inputTokens := rfl
      outputTokens := rfl
      totalTokens := rfl
      estimatedCost := hcosts
      latencySeconds := hlatencies
      metadata := (metadata_equals_iff hmetadata).mpr hreplayable.metadata }

end

end ModelResponse
end Noema
