import Noema.ContentIds

/-!
# The model-output boundary

`validate_json_schema` checks a decoded value against a schema before any constructor sees
it.  A schema is one node of keywords over subschemas, so every function of schemas is a
fold of what it does at one node.  `Accepts` says what the validator takes, `Satisfies` what
the keywords mean in JSON Schema.  The two agree on the schemas the SDK writes: each node
names its type, and an `enum` lists texts or integers and does not stand beside the type
`boolean`, so that Python's `True == 1` has no say.
-/
namespace Noema

/-- The keyword `type`. -/
inductive SchemaType
  | one (name : String)
  | union (names : List String)

def SchemaType.names : SchemaType → List String
  | one name => [name]
  | union names => names

/-- The keywords of one schema, over subschemas of type `α`. -/
structure SchemaNode (α : Type) where
  type : Option SchemaType := none
  enum : Option (List JSONScalar) := none
  properties : List (String × α) := []
  required : List String := []
  additionalProperties : Bool := true
  items : Option α := none
  minimum : Option PyNumber := none
  maximum : Option PyNumber := none

/-- A schema. -/
inductive JsonSchema
  | node (keywords : SchemaNode JsonSchema)

namespace SchemaNode

variable {α β : Type}

/-- `properties.get(key)`. -/
def property? (properties : List (String × α)) (key : String) : Option α :=
  (properties.find? fun row => row.1 = key).map Prod.snd

def map (f : α → β) (node : SchemaNode α) : SchemaNode β :=
  { node with
    properties := node.properties.map fun row => (row.1, f row.2)
    items := node.items.map f }

@[simp] theorem map_type (f : α → β) (node : SchemaNode α) : (node.map f).type = node.type := rfl

@[simp] theorem map_enum (f : α → β) (node : SchemaNode α) : (node.map f).enum = node.enum := rfl

@[simp] theorem map_required (f : α → β) (node : SchemaNode α) :
    (node.map f).required = node.required := rfl

@[simp] theorem map_additionalProperties (f : α → β) (node : SchemaNode α) :
    (node.map f).additionalProperties = node.additionalProperties := rfl

@[simp] theorem map_minimum (f : α → β) (node : SchemaNode α) :
    (node.map f).minimum = node.minimum := rfl

@[simp] theorem map_maximum (f : α → β) (node : SchemaNode α) :
    (node.map f).maximum = node.maximum := rfl

@[simp] theorem map_keys (f : α → β) (node : SchemaNode α) :
    (node.map f).properties.map Prod.fst = node.properties.map Prod.fst := by
  simp [map, Function.comp_def]

theorem property?_map (f : α → β) (properties : List (String × α)) (key : String) :
    property? (properties.map fun row => (row.1, f row.2)) key =
      (property? properties key).map f := by
  simp [property?, List.find?_map, Function.comp_def]

theorem mem_of_property? {properties : List (String × α)} {key : String} {schema : α}
    (h : property? properties key = some schema) : (key, schema) ∈ properties := by
  obtain ⟨row, hrow, rfl⟩ := Option.map_eq_some_iff.mp h
  have hkey : row.1 = key := by simpa using List.find?_some hrow
  exact hkey ▸ List.mem_of_find?_eq_some hrow

end SchemaNode

/-! ### Folds -/

mutual

/-- A function of schemas, from what it does at one node. -/
def JsonSchema.fold {α : Type} (f : SchemaNode α → α) : JsonSchema → α
  | .node ⟨type, enum, properties, required, additionalProperties, items, minimum, maximum⟩ =>
    f ⟨type, enum, foldProperties f properties, required, additionalProperties,
      foldItems f items, minimum, maximum⟩

def foldProperties {α : Type} (f : SchemaNode α → α) :
    List (String × JsonSchema) → List (String × α)
  | [] => []
  | (key, schema) :: properties => (key, schema.fold f) :: foldProperties f properties

def foldItems {α : Type} (f : SchemaNode α → α) : Option JsonSchema → Option α
  | none => none
  | some schema => some (schema.fold f)

end

theorem foldProperties_eq {α : Type} (f : SchemaNode α → α)
    (properties : List (String × JsonSchema)) :
    foldProperties f properties = properties.map fun row => (row.1, row.2.fold f) := by
  induction properties with
  | nil => rfl
  | cons row properties ih => rw [foldProperties, ih, List.map_cons]

theorem fold_node {α : Type} (f : SchemaNode α → α) (keywords : SchemaNode JsonSchema) :
    (JsonSchema.node keywords).fold f = f (keywords.map (·.fold f)) := by
  obtain ⟨type, enum, properties, required, additionalProperties, items, minimum, maximum⟩ := keywords
  rw [JsonSchema.fold, foldProperties_eq, SchemaNode.map]
  cases items <;> rfl

mutual

/-- What passes from the subschemas of a node to the node holds of every schema. -/
theorem JsonSchema.induct {P : JsonSchema → Prop}
    (h : ∀ keywords : SchemaNode JsonSchema, (∀ row ∈ keywords.properties, P row.2) →
      (∀ schema ∈ keywords.items, P schema) → P (.node keywords)) : ∀ schema, P schema
  | .node ⟨_, _, properties, _, _, items, _, _⟩ =>
    h _ (induct_properties h properties) (induct_items h items)

theorem induct_properties {P : JsonSchema → Prop}
    (h : ∀ keywords : SchemaNode JsonSchema, (∀ row ∈ keywords.properties, P row.2) →
      (∀ schema ∈ keywords.items, P schema) → P (.node keywords)) :
    ∀ (properties : List (String × JsonSchema)), ∀ row ∈ properties, P row.2
  | [], _, hrow => absurd hrow List.not_mem_nil
  | (_, schema) :: properties, row, hrow => by
    rcases List.mem_cons.mp hrow with rfl | hrow
    · exact JsonSchema.induct h schema
    · exact induct_properties h properties row hrow

theorem induct_items {P : JsonSchema → Prop}
    (h : ∀ keywords : SchemaNode JsonSchema, (∀ row ∈ keywords.properties, P row.2) →
      (∀ schema ∈ keywords.items, P schema) → P (.node keywords)) :
    ∀ (items : Option JsonSchema), ∀ schema ∈ items, P schema
  | none, _, hschema => by cases hschema
  | some schema, schema', hschema => by
    obtain rfl := Option.some.inj (Option.mem_def.mp hschema)
    exact JsonSchema.induct h schema

end

/-! ### The validator -/

/-- A check of a value at a path. -/
abbrev Validator := JSONValue → String → Except PyError Unit

namespace SchemaNode

variable (b : Builtins)

/-- `value in schema["enum"]`. -/
def inEnum (allowed : List JSONScalar) (value : JSONValue) : Bool :=
  match value.scalar with
  | some scalar => allowed.any fun option => option.equals scalar
  | none => false

def checkEnum (node : SchemaNode Validator) : Validator := fun value path =>
  match node.enum with
  | some allowed => refuse (inEnum allowed value = false) s!"{path}: value is not in the allowed enum"
  | none => .ok ()

/-- A number beyond a bound of the schema, refused. -/
def refuseBeyond (bound : Option PyNumber) (beyond : PyNumber → Bool) (place path : String) :
    Except PyError Unit :=
  match bound with
  | some limit =>
    if beyond limit then do
      let text ← b.str limit.toJson
      .error (.valueError s!"{path}: value is {place} {text}")
    else .ok ()
  | none => .ok ()

/-- `_validate_number`. -/
def validateNumber (node : SchemaNode Validator) (number : PyNumber) (path : String) :
    Except PyError Unit := do
  refuseBeyond b node.minimum (fun minimum => number.real.less minimum.real) "below minimum" path
  refuseBeyond b node.maximum (fun maximum => maximum.real.less number.real) "above maximum" path

/-- The branch for an object. -/
def validateObject (node : SchemaNode Validator) (fields : List (String × JSONValue))
    (path : String) : Except PyError Unit := do
  node.required.forM fun key =>
    refuse (key ∉ fields.map entryKey) s!"{path}.{key}: required property is missing"
  let unexpected := (fields.map entryKey).filter fun key => key ∉ node.properties.map Prod.fst
  let listed := String.intercalate ", " (unexpected.insertionSort (· ≤ ·))
  refuse (node.additionalProperties = false ∧ unexpected ≠ [])
    s!"{path}: unexpected properties: {listed}"
  fields.forM fun field =>
    match property? node.properties field.1 with
    | some validate => validate field.2 s!"{path}.{field.1}"
    | none => .ok ()

/-- The branch for an array. -/
def validateArray (node : SchemaNode Validator) (values : List JSONValue) (path : String) :
    Except PyError Unit :=
  match node.items with
  | some validate => values.zipIdx.forM fun row => validate row.1 s!"{path}[{row.2}]"
  | none => .ok ()

/-- The branch that the name of a type selects. -/
def validateAs (node : SchemaNode Validator) (expected : String) : Validator := fun value path =>
  if expected = "null" then
    match value with
    | .null => .ok ()
    | _ => .error (.valueError s!"{path}: expected null")
  else if expected = "object" then
    match value with
    | .obj fields => node.validateObject fields path
    | _ => .error (.valueError s!"{path}: expected object")
  else if expected = "array" then
    match value with
    | .list values => node.validateArray values path
    | _ => .error (.valueError s!"{path}: expected array")
  else if expected = "string" then
    match value with
    | .str _ => .ok ()
    | _ => .error (.valueError s!"{path}: expected string")
  else if expected = "boolean" then
    match value with
    | .bool _ => .ok ()
    | _ => .error (.valueError s!"{path}: expected boolean")
  else if expected = "integer" then
    match value with
    | .int number => node.validateNumber b (.int number) path
    | _ => .error (.valueError s!"{path}: expected integer")
  else if expected = "number" then
    match value with
    | .int number => node.validateNumber b (.int number) path
    | .float number => node.validateNumber b (.float number) path
    | _ => .error (.valueError s!"{path}: expected number")
  else .error (.valueError s!"{path}: unsupported schema type '{expected}'")

/-- One node of `validate_json_schema`.  The options of a list of types are tried in order,
each with the whole node; all that a node raises is a `SchemaValidationError`. -/
def validate (node : SchemaNode Validator) : Validator := fun value path => do
  node.checkEnum value path
  match node.type with
  | none => .ok ()
  | some (.one expected) => node.validateAs b expected value path
  | some (.union options) =>
    let matched := options.any fun option =>
      (do node.checkEnum value path; node.validateAs b option value path).toOption.isSome
    refuse (matched = false) s!"{path}: value did not match any permitted type"

end SchemaNode

/-- `validate_json_schema(value, schema, path=path)`. -/
def validateJsonSchema (b : Builtins) (value : JSONValue) (schema : JsonSchema) (path : String) :
    Except PyError Unit :=
  schema.fold (SchemaNode.validate b) value path

/-! ### What schemas mean -/

/-- The names of the types a value has; an integer is also a number, a boolean is neither. -/
def JSONValue.typeNames : JSONValue → List String
  | .null => ["null"]
  | .bool _ => ["boolean"]
  | .int _ => ["integer", "number"]
  | .float _ => ["number"]
  | .str _ => ["string"]
  | .list _ => ["array"]
  | .obj _ => ["object"]

/-- The number a value is, if it is one. -/
def JSONValue.number : JSONValue → Option PyNumber
  | .int value => some (.int value)
  | .float value => some (.float value)
  | _ => none

/-- How values are compared, with those an `enum` lists and with bounds. -/
structure SchemaReading where
  listed : List JSONScalar → JSONValue → Prop
  ordered : PyFloat → PyFloat → Prop

/-- What the keywords other than `enum` and `type` say. -/
def SchemaNode.Content (reading : SchemaReading) (node : SchemaNode (JSONValue → Prop)) :
    JSONValue → Prop
  | .obj fields => (∀ key ∈ node.required, key ∈ fields.map entryKey) ∧
      (node.additionalProperties = false →
        ∀ field ∈ fields, field.1 ∈ node.properties.map Prod.fst) ∧
      ∀ field ∈ fields, ∀ meaning ∈ SchemaNode.property? node.properties field.1, meaning field.2
  | .list values => ∀ meaning ∈ node.items, ∀ item ∈ values, meaning item
  | value => ∀ number ∈ value.number,
      (∀ minimum ∈ node.minimum, reading.ordered minimum.real number.real) ∧
        ∀ maximum ∈ node.maximum, reading.ordered number.real maximum.real

/-- **What the keywords of a node say** of a value, once the subschemas mean something. -/
structure SchemaNode.Holds (reading : SchemaReading) (node : SchemaNode (JSONValue → Prop))
    (value : JSONValue) : Prop where
  enum : ∀ allowed ∈ node.enum, reading.listed allowed value
  type : ∀ type ∈ node.type, ∃ name ∈ type.names, name ∈ value.typeNames
  content : node.Content reading value

/-- The value is as the schema says, in this reading. -/
def JsonSchema.Holds (reading : SchemaReading) (schema : JsonSchema) : JSONValue → Prop :=
  schema.fold (SchemaNode.Holds reading)

/-- Python's comparisons: `value in enum` takes `True` for `1`, and a NaN is below nothing. -/
def pythonReading : SchemaReading where
  listed allowed value := SchemaNode.inEnum allowed value = true
  ordered a b := b.less a = false

/-- The value is this scalar: texts, booleans and `null` as such, numbers by their value. -/
def JSONScalar.Is : JSONScalar → JSONValue → Prop
  | .null, .null => True
  | .bool a, .bool b => a = b
  | .str a, .str b => a = b
  | scalar, value => ∃ a ∈ scalar.number, ∃ b ∈ value.number, a.real = b.real ∧ a.real ≠ .nan

/-- The comparisons of JSON Schema. -/
def jsonReading : SchemaReading where
  listed allowed value := ∃ option ∈ allowed, option.Is value
  ordered a b := a.atMost b = true

/-- The schema is of the subset the SDK writes: every node names its type, and an `enum`
lists texts or integers and does not stand beside `boolean`; no bound is a NaN. -/
structure SchemaNode.Emitted (node : SchemaNode Prop) : Prop where
  typed : node.type ≠ none
  enum : ∀ allowed ∈ node.enum, ∀ option ∈ allowed,
    (∃ text, option = .str text) ∨ ∃ value, option = .int value
  beside : ∀ allowed ∈ node.enum, ∀ type ∈ node.type, "boolean" ∉ type.names
  minimum : ∀ minimum ∈ node.minimum, minimum.real ≠ .nan
  maximum : ∀ maximum ∈ node.maximum, maximum.real ≠ .nan
  properties : ∀ row ∈ node.properties, row.2
  items : ∀ emitted ∈ node.items, emitted

def JsonSchema.Emitted (schema : JsonSchema) : Prop := schema.fold SchemaNode.Emitted

mutual

/-- No float in the value is a NaN, which JSON does not have. -/
def JSONValue.ordered : JSONValue → Bool
  | .float value => value ≠ .nan
  | .list items => orderedItems items
  | .obj fields => orderedFields fields
  | .null | .bool _ | .int _ | .str _ => true

def orderedItems : List JSONValue → Bool
  | [] => true
  | item :: items => item.ordered && orderedItems items

def orderedFields : List (String × JSONValue) → Bool
  | [] => true
  | (_, value) :: fields => value.ordered && orderedFields fields

end

theorem orderedItems_iff {items : List JSONValue} :
    orderedItems items = true ↔ ∀ item ∈ items, item.ordered = true := by
  induction items with
  | nil => simp [orderedItems]
  | cons item items ih => simp [orderedItems, ih]

theorem orderedFields_iff {fields : List (String × JSONValue)} :
    orderedFields fields = true ↔ ∀ field ∈ fields, field.2.ordered = true := by
  induction fields with
  | nil => simp [orderedFields]
  | cons field fields ih => simp [orderedFields, ih]

/-! ### The validator is exact -/

section
variable {b : Builtins} {f : JsonSchema → Validator} {g : JsonSchema → JSONValue → Prop}

theorem checkEnum_iff (keywords : SchemaNode JsonSchema) (value : JSONValue) (path : String) :
    (keywords.map f).checkEnum value path = .ok () ↔
      ∀ allowed ∈ keywords.enum, pythonReading.listed allowed value := by
  unfold SchemaNode.checkEnum
  cases henum : keywords.enum with
  | none => simp [SchemaNode.map, henum]
  | some allowed => simp [SchemaNode.map, henum, refuse_iff, pythonReading]

theorem refuseBeyond_iff {bound : Option PyNumber} {beyond : PyNumber → Bool}
    {place path : String} {answer : Unit} :
    SchemaNode.refuseBeyond b bound beyond place path = .ok answer ↔
      ∀ limit ∈ bound, beyond limit = false := by
  unfold SchemaNode.refuseBeyond
  cases bound with
  | none => simp
  | some limit =>
    by_cases hbeyond : beyond limit = true
    · simp only [hbeyond, if_true, Option.mem_def, Option.some.injEq, forall_eq', Bool.true_eq_false,
        iff_false]
      intro h
      obtain ⟨_, -, h⟩ := bind_eq_ok h
      cases h
    · simp [Bool.eq_false_of_not_eq_true hbeyond]

theorem validateNumber_iff (keywords : SchemaNode JsonSchema) (number : PyNumber)
    (path : String) : (keywords.map f).validateNumber b number path = .ok () ↔
      (∀ minimum ∈ keywords.minimum, pythonReading.ordered minimum.real number.real) ∧
        ∀ maximum ∈ keywords.maximum, pythonReading.ordered number.real maximum.real := by
  rw [SchemaNode.validateNumber, bind_ok_iff]
  simp only [refuseBeyond_iff, exists_const, SchemaNode.map_minimum, SchemaNode.map_maximum,
    pythonReading]

/-- One field is checked by its property's schema, if it has one. -/
theorem validateField_iff (keywords : SchemaNode JsonSchema)
    (h : ∀ row ∈ keywords.properties, ∀ value path, f row.2 value path = .ok () ↔ g row.2 value)
    (field : String × JSONValue) (path : String) :
    (match SchemaNode.property? (keywords.map f).properties field.1 with
      | some validate => validate field.2 path
      | none => .ok ()) = .ok () ↔
      ∀ meaning ∈ SchemaNode.property? (keywords.map g).properties field.1, meaning field.2 := by
  simp only [SchemaNode.map, SchemaNode.property?_map]
  cases hschema : SchemaNode.property? keywords.properties field.1 with
  | none => simp
  | some schema => simpa using h _ (SchemaNode.mem_of_property? hschema) field.2 path

/-- What the object branch asks of the fields. -/
theorem validateObject_iff (keywords : SchemaNode JsonSchema)
    (h : ∀ row ∈ keywords.properties, ∀ value path, f row.2 value path = .ok () ↔ g row.2 value)
    (fields : List (String × JSONValue)) (path : String) :
    (keywords.map f).validateObject fields path = .ok () ↔
      (keywords.map g).Content pythonReading (.obj fields) := by
  have hclosed : ((fields.map entryKey).filter
      fun key => key ∉ keywords.properties.map Prod.fst) = [] ↔
      ∀ field ∈ fields, field.1 ∈ keywords.properties.map Prod.fst := by
    simp only [List.filter_eq_nil_iff, decide_eq_true_eq, not_not, List.forall_mem_map, entryKey]
  unfold SchemaNode.validateObject SchemaNode.Content
  simp only [bind_ok_iff, forM_iff, refuse_iff, exists_const, SchemaNode.map_keys, not_and,
    not_not, hclosed]
  refine and_congr Iff.rfl (and_congr Iff.rfl (forall₂_congr fun field _ => ?_))
  exact validateField_iff keywords h field _

/-- What the array branch asks of the items. -/
theorem validateArray_iff (keywords : SchemaNode JsonSchema)
    (h : ∀ schema ∈ keywords.items, ∀ value path, f schema value path = .ok () ↔ g schema value)
    (values : List JSONValue) (path : String) :
    (keywords.map f).validateArray values path = .ok () ↔
      (keywords.map g).Content pythonReading (.list values) := by
  unfold SchemaNode.validateArray SchemaNode.Content
  simp only [SchemaNode.map]
  cases hitems : keywords.items with
  | none => simp
  | some schema =>
    simp only [Option.map_some, forM_iff, Option.mem_def, Option.some.injEq, forall_eq']
    constructor
    · intro hall item hitem
      obtain ⟨index, hindex⟩ := List.mem_iff_getElem?.mp hitem
      have hrow : (item, index) ∈ values.zipIdx := List.mem_zipIdx_iff_getElem?.mpr hindex
      exact (h schema hitems item _).mp (hall _ hrow)
    · intro hall row hrow
      have hmem : row.1 ∈ values :=
        List.mem_iff_getElem?.mpr ⟨row.2, List.mem_zipIdx_iff_getElem?.mp hrow⟩
      exact (h schema hitems row.1 _).mpr (hall _ hmem)

/-- **The branch of one type** accepts the values of that type that fit the other keywords. -/
theorem validateAs_iff (keywords : SchemaNode JsonSchema)
    (hproperties : ∀ row ∈ keywords.properties, ∀ value path,
      f row.2 value path = .ok () ↔ g row.2 value)
    (hitems : ∀ schema ∈ keywords.items, ∀ value path,
      f schema value path = .ok () ↔ g schema value)
    (expected : String) (value : JSONValue) (path : String) :
    (keywords.map f).validateAs b expected value path = .ok () ↔
      expected ∈ value.typeNames ∧ (keywords.map g).Content pythonReading value := by
  have hobject := validateObject_iff keywords hproperties
  have harray := validateArray_iff keywords hitems
  have hnumber := validateNumber_iff (b := b) (f := f) keywords
  unfold SchemaNode.validateAs
  by_cases hnull : expected = "null"
  · subst hnull
    cases value <;> simp [JSONValue.typeNames, SchemaNode.Content, JSONValue.number]
  by_cases hobj : expected = "object"
  · subst hobj
    cases value <;> simp [JSONValue.typeNames, hobject]
  by_cases harr : expected = "array"
  · subst harr
    cases value <;> simp [JSONValue.typeNames, harray]
  by_cases hstr : expected = "string"
  · subst hstr
    cases value <;> simp [JSONValue.typeNames, SchemaNode.Content, JSONValue.number]
  by_cases hbool : expected = "boolean"
  · subst hbool
    cases value <;> simp [JSONValue.typeNames, SchemaNode.Content, JSONValue.number]
  by_cases hint : expected = "integer"
  · subst hint
    cases value <;> simp [JSONValue.typeNames, SchemaNode.Content, JSONValue.number, hnumber]
  by_cases hnum : expected = "number"
  · subst hnum
    cases value <;> simp [JSONValue.typeNames, SchemaNode.Content, JSONValue.number, hnumber]
  · rw [if_neg hnull, if_neg hobj, if_neg harr, if_neg hstr, if_neg hbool, if_neg hint,
      if_neg hnum]
    cases value <;> simp [JSONValue.typeNames, *]

/-- **One node accepts a value exactly as Python reads its keywords.** -/
theorem validateNode_iff (keywords : SchemaNode JsonSchema) (htyped : keywords.type ≠ none)
    (hproperties : ∀ row ∈ keywords.properties, ∀ value path,
      f row.2 value path = .ok () ↔ g row.2 value)
    (hitems : ∀ schema ∈ keywords.items, ∀ value path,
      f schema value path = .ok () ↔ g schema value)
    (value : JSONValue) (path : String) :
    (keywords.map f).validate b value path = .ok () ↔
      (keywords.map g).Holds pythonReading value := by
  have has := validateAs_iff (b := b) keywords hproperties hitems
  have henum := checkEnum_iff (f := f) keywords value path
  obtain ⟨type, htype⟩ := Option.ne_none_iff_exists'.mp htyped
  have hholds : (keywords.map g).Holds pythonReading value ↔
      (keywords.map f).checkEnum value path = .ok () ∧
        (∃ name ∈ type.names, name ∈ value.typeNames) ∧
        (keywords.map g).Content pythonReading value := by
    rw [henum]
    constructor
    · rintro ⟨hlisted, hname, hcontent⟩
      exact ⟨hlisted, hname type htype, hcontent⟩
    · rintro ⟨hlisted, hname, hcontent⟩
      refine ⟨hlisted, fun type' htype' => ?_, hcontent⟩
      obtain rfl := Option.some.inj (htype.symm.trans htype')
      exact hname
  rw [hholds]
  by_cases hlisted : (keywords.map f).checkEnum value path = .ok ()
  case neg =>
    refine iff_of_false (fun h => ?_) fun h => hlisted h.1
    obtain ⟨_, hchecked, -⟩ := bind_eq_ok h
    exact hlisted hchecked
  rw [SchemaNode.validate, bind_of_ok hlisted, SchemaNode.map_type, htype, iff_true_intro hlisted,
    true_and]
  cases type with
  | one name => simp [SchemaType.names, has]
  | union names =>
    have hoption : ∀ name, (do
        (keywords.map f).checkEnum value path
        (keywords.map f).validateAs b name value path).toOption.isSome = true ↔
        name ∈ value.typeNames ∧ (keywords.map g).Content pythonReading value := by
      intro name
      rw [← has name value path, bind_of_ok hlisted]
      cases (keywords.map f).validateAs b name value path <;> simp [Except.toOption]
    simp only [refuse_iff, Bool.not_eq_false, List.any_eq_true, hoption, SchemaType.names]
    constructor
    · rintro ⟨name, hname, htypes, hcontent⟩
      exact ⟨⟨name, hname, htypes⟩, hcontent⟩
    · rintro ⟨⟨name, hname, htypes⟩, hcontent⟩
      exact ⟨name, hname, htypes, hcontent⟩

end

/-- **The validator accepts a value exactly as Python reads the schema.** -/
theorem validate_iff {b : Builtins} {schema : JsonSchema} (h : schema.Emitted)
    {value : JSONValue} {path : String} :
    validateJsonSchema b value schema path = .ok () ↔ schema.Holds pythonReading value := by
  unfold validateJsonSchema JsonSchema.Holds
  induction schema using JsonSchema.induct generalizing value path with
  | h keywords hproperties hitems =>
    rw [JsonSchema.Emitted, fold_node] at h
    rw [fold_node, fold_node]
    refine validateNode_iff keywords h.typed (fun row hrow value path => ?_)
      (fun schema hschema value path => ?_) value path
    · exact hproperties row hrow (h.properties (row.1, row.2.fold SchemaNode.Emitted)
        (List.mem_map_of_mem hrow))
    · exact hitems schema hschema (h.items _ (Option.mem_map_of_mem _ hschema))

/-! ### The two readings -/

theorem PyFloat.less_eq_false_iff {a b : PyFloat} (ha : a ≠ .nan) (hb : b ≠ .nan) :
    b.less a = false ↔ a.atMost b = true := by
  cases a with
  | nan => exact absurd rfl ha
  | finite p =>
    cases b with
    | nan => exact absurd rfl hb
    | finite q =>
      by_cases heq : q = p
      · simp [PyFloat.less, PyFloat.atMost, heq]
      · simp only [PyFloat.less, PyFloat.atMost, PyFloat.finite.injEq, heq, ne_eq,
          not_false_iff, decide_true, Bool.and_true, decide_eq_false_iff_not, not_le,
          decide_eq_true_eq]
        exact ⟨le_of_lt, fun hle => lt_of_le_of_ne hle (Ne.symm heq)⟩
    | infinity negative => cases negative <;> simp [PyFloat.less, PyFloat.atMost]
  | infinity negative =>
    cases b with
    | nan => exact absurd rfl hb
    | finite q => cases negative <;> simp [PyFloat.less, PyFloat.atMost]
    | infinity negative' =>
      cases negative <;> cases negative' <;> simp [PyFloat.less, PyFloat.atMost]

theorem ordered_number {value : JSONValue} (h : value.ordered = true) {number : PyNumber}
    (hnumber : number ∈ value.number) : number.real ≠ .nan := by
  cases value <;> simp [JSONValue.number] at hnumber <;> subst hnumber
  · simp [PyNumber.real]
  · simpa [JSONValue.ordered, PyNumber.real] using h

/-- Where a boolean is out of the question, Python finds in an `enum` of texts and integers
what JSON Schema does. -/
theorem pythonListed_iff {allowed : List JSONScalar} {value : JSONValue}
    (hallowed : ∀ option ∈ allowed, (∃ text, option = .str text) ∨ ∃ value, option = .int value)
    (hbool : "boolean" ∉ value.typeNames) :
    pythonReading.listed allowed value ↔ jsonReading.listed allowed value := by
  have hoption : ∀ option ∈ allowed, ∀ scalar, value.scalar = some scalar →
      (option.equals scalar = true ↔ option.Is value) := by
    intro option hmem scalar hscalar
    rcases hallowed option hmem with ⟨text, rfl⟩ | ⟨number, rfl⟩ <;> cases value <;>
      simp only [JSONValue.scalar, Option.some.injEq, reduceCtorEq] at hscalar <;>
      subst hscalar <;>
      simp_all [JSONScalar.equals, JSONScalar.real, JSONScalar.Is, JSONScalar.number,
        JSONValue.number, JSONValue.typeNames, PyNumber.real]
  have hin : pythonReading.listed allowed value ↔
      ∃ scalar, value.scalar = some scalar ∧ ∃ option ∈ allowed, option.equals scalar = true := by
    show SchemaNode.inEnum allowed value = true ↔ _
    rw [SchemaNode.inEnum]
    cases value.scalar <;> simp
  rw [hin]
  constructor
  · rintro ⟨scalar, hscalar, option, hmem, hequals⟩
    exact ⟨option, hmem, (hoption option hmem scalar hscalar).mp hequals⟩
  · rintro ⟨option, hmem, his⟩
    cases hscalar : value.scalar with
    | some scalar => exact ⟨scalar, rfl, option, hmem, (hoption option hmem scalar hscalar).mpr his⟩
    | none =>
      rcases hallowed option hmem with ⟨text, rfl⟩ | ⟨number, rfl⟩ <;> cases value <;>
        simp_all [JSONValue.scalar, JSONScalar.Is, JSONScalar.number, JSONValue.number]

/-- At one node the readings agree when they do for the subschemas. -/
theorem content_iff {keywords : SchemaNode JsonSchema} {g k : JsonSchema → JSONValue → Prop}
    (hminimum : ∀ minimum ∈ keywords.minimum, minimum.real ≠ .nan)
    (hmaximum : ∀ maximum ∈ keywords.maximum, maximum.real ≠ .nan)
    (hproperties : ∀ row ∈ keywords.properties, ∀ value : JSONValue, value.ordered = true →
      (g row.2 value ↔ k row.2 value))
    (hitems : ∀ schema ∈ keywords.items, ∀ value : JSONValue, value.ordered = true →
      (g schema value ↔ k schema value))
    {value : JSONValue} (hvalue : value.ordered = true) :
    (keywords.map g).Content pythonReading value ↔ (keywords.map k).Content jsonReading value := by
  cases value with
  | obj fields =>
    have hfields := orderedFields_iff.mp hvalue
    unfold SchemaNode.Content
    rw [SchemaNode.map_keys, SchemaNode.map_keys]
    refine and_congr Iff.rfl (and_congr Iff.rfl (forall₂_congr fun field hfield => ?_))
    simp only [SchemaNode.map, SchemaNode.property?_map]
    cases hschema : SchemaNode.property? keywords.properties field.1 with
    | none => simp
    | some schema =>
      simpa using hproperties _ (SchemaNode.mem_of_property? hschema) field.2 (hfields field hfield)
  | list values =>
    have hvalues := orderedItems_iff.mp hvalue
    unfold SchemaNode.Content
    simp only [SchemaNode.map]
    cases hschema : keywords.items with
    | none => simp
    | some schema =>
      simp only [Option.map_some, Option.mem_def, Option.some.injEq, forall_eq']
      exact forall₂_congr fun item hitem => hitems schema hschema item (hvalues item hitem)
  | _ =>
    refine forall₂_congr fun number hnumber => ?_
    have hreal := ordered_number hvalue hnumber
    refine and_congr (forall₂_congr fun minimum hmem => ?_) (forall₂_congr fun maximum hmem => ?_)
    · exact PyFloat.less_eq_false_iff (hminimum minimum hmem) hreal
    · exact PyFloat.less_eq_false_iff hreal (hmaximum maximum hmem)

/-- **On the schemas the SDK writes Python's reading is that of JSON Schema.** -/
theorem holds_python_iff {schema : JsonSchema} (h : schema.Emitted) {value : JSONValue}
    (hvalue : value.ordered = true) :
    schema.Holds pythonReading value ↔ schema.Holds jsonReading value := by
  unfold JsonSchema.Holds
  induction schema using JsonSchema.induct generalizing value with
  | h keywords hproperties hitems =>
    rw [JsonSchema.Emitted, fold_node] at h
    have hcontent := content_iff (g := fun schema => schema.fold (SchemaNode.Holds pythonReading))
      (k := fun schema => schema.fold (SchemaNode.Holds jsonReading)) h.minimum h.maximum
      (fun row hrow value hvalue => hproperties row hrow
        (h.properties (row.1, row.2.fold SchemaNode.Emitted) (List.mem_map_of_mem hrow)) hvalue)
      (fun schema hschema value hvalue => hitems schema hschema
        (h.items _ (Option.mem_map_of_mem _ hschema)) hvalue) hvalue
    obtain ⟨type, htype⟩ := Option.ne_none_iff_exists'.mp h.typed
    have hlisted : (∃ name ∈ type.names, name ∈ value.typeNames) →
        ∀ allowed ∈ keywords.enum,
          (pythonReading.listed allowed value ↔ jsonReading.listed allowed value) := by
      rintro ⟨name, hname, hof⟩ allowed hallowed
      refine pythonListed_iff (h.enum allowed hallowed) fun hbool => ?_
      refine h.beside allowed hallowed type htype ?_
      cases value <;> simp_all [JSONValue.typeNames]
    rw [fold_node, fold_node]
    constructor
    · rintro ⟨henum, hname, hpython⟩
      have hof := hname type htype
      exact ⟨fun allowed hmem => (hlisted hof allowed hmem).mp (henum allowed hmem), hname,
        hcontent.mp hpython⟩
    · rintro ⟨henum, hname, hjson⟩
      have hof := hname type htype
      exact ⟨fun allowed hmem => (hlisted hof allowed hmem).mpr (henum allowed hmem), hname,
        hcontent.mpr hjson⟩

end Noema
