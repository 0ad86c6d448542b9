import Noema.ScarceStorage

/-!
# Feature schemas in storage

The reader makes floats of the bounds and compares the schema with what `create` makes of
its features, which puts them in the order of their names.
-/
namespace Noema

variable {b : ContentBuiltins} {q : Payload}

/-! ## Feature definitions -/

namespace AttentionFeatureDefinition

variable {definition read : AttentionFeatureDefinition}

def spelled (definition : AttentionFeatureDefinition) : AttentionFeatureDefinition :=
  { definition with
    minimum := definition.minimum.map PyNumber.asFloat
    maximum := definition.maximum.map PyNumber.asFloat }

def valued (definition : AttentionFeatureDefinition) : AttentionFeatureDefinition :=
  { definition.spelled with
    allowedValues := definition.allowedValues.map Given.SemanticAssertion.scalarValued }

def floats (definition : AttentionFeatureDefinition) : List PyNumber :=
  definition.minimum.toList ++ definition.maximum.toList

/-- A bound with its number read again. -/
def readBound (b : ContentBuiltins) : Option PyNumber → Except PyError (Option PyNumber)
  | none => .ok none
  | some bound => some <$> bound.readFloat b

/-- A definition with its bounds read again. -/
def reread (b : ContentBuiltins) (definition : AttentionFeatureDefinition) :
    Except PyError AttentionFeatureDefinition := do
  let minimum ← readBound b definition.minimum
  let maximum ← readBound b definition.maximum
  constructed (fun definition => definition.check b.toBuiltins)
    { definition with minimum, maximum }

/-- A bound as `to_dict` writes it. -/
def boundJson (bound : Option PyNumber) : JSONValue := (bound.map PyNumber.toJson).getD .null

theorem readBound_ok {bound read : Option PyNumber} (hread : readBound b bound = .ok read)
    (hsame : read.map PyNumber.asFloat = bound.map PyNumber.asFloat) :
    (∀ number ∈ bound.toList, number.Held b) ∧ read = bound.map PyNumber.asFloat := by
  cases bound with
  | none =>
    cases hread
    exact ⟨nofun, rfl⟩
  | some bound =>
    cases hnumber : bound.readFloat b with
    | error =>
      rw [readBound, hnumber] at hread
      cases hread
    | ok number =>
      rw [readBound, hnumber] at hread
      cases hread
      obtain ⟨hheld, heq⟩ := PyNumber.readFloat_ok hnumber (Option.some.inj hsame)
      exact ⟨List.forall_mem_singleton.mpr hheld, congrArg some heq⟩

theorem readBound_of {bound : Option PyNumber} (h : ∀ number ∈ bound.toList, number.Held b) :
    readBound b bound = .ok (bound.map PyNumber.asFloat) := by
  cases bound with
  | none => rfl
  | some bound =>
    rw [readBound, PyNumber.readFloat_of (List.forall_mem_singleton.mp h)]
    rfl

theorem optionalFloat_stored {bound : Option PyNumber} {key : String}
    (h : q.Stored key (boundJson bound)) :
    (Option.map PyNumber.float <$> optionalFloat b q key) = readBound b bound := by
  cases bound with
  | none =>
    rw [optionalFloat, Payload.get, h.flat rfl]
    rfl
  | some bound =>
    rw [optionalFloat, Payload.get, h.flat (PyNumber.flat_toJson bound)]
    cases bound with
    | int value =>
      show Option.map PyNumber.float <$> (some <$> b.floatOfInt value) =
        some <$> (PyNumber.float <$> b.floatOfInt value)
      cases b.floatOfInt value <;> rfl
    | float value => rfl

theorem distinct :
    (["name", "value_type", "required", "policy_safe", "missingness", "sensitivity",
      "allowed_values", "minimum", "maximum"] : List String).Nodup := by
  decide

theorem scalarsOr_stored {values : List JSONScalar} {key : String}
    (h : q.Stored key (.list (values.map JSONScalar.toJson))) : scalarsOr q key = .ok values := by
  have hflat : (JSONValue.list (values.map JSONScalar.toJson)).flat = true := by
    refine List.all_eq_true.mpr fun item hitem => ?_
    obtain ⟨scalar, -, rfl⟩ := List.mem_map.mp hitem
    cases scalar <;> rfl
  rw [scalarsOr, h.flat hflat]
  show (values.map JSONScalar.toJson).mapM _ = _
  clear h hflat
  induction values with
  | nil => rfl
  | cons value values ih =>
    rw [List.map_cons, List.mapM_cons, ih]
    cases value <;> rfl

theorem fromDict_respells (h : q.Respells definition.toDict) :
    fromDict b q = definition.reread b := by
  have hfields := h.fields distinct
  simp only [List.forall_mem_cons] at hfields
  obtain ⟨hname, htype, hrequired, hsafe, hmissingness, hsensitivity, hallowed, hminimum, hmaximum,
    -⟩ := hfields
  have hofType : AttentionFeatureType.ofText definition.valueType.text = .ok definition.valueType := by
    cases definition.valueType <;> rfl
  have hofMissingness : FeatureMissingness.ofText definition.missingness.text =
      .ok definition.missingness := by
    cases definition.missingness <;> rfl
  have hofSensitivity : Classification.ofText definition.sensitivity.text =
      .ok definition.sensitivity := by
    cases definition.sensitivity <;> rfl
  have hminimum := optionalFloat_stored (b := b) hminimum
  have hmaximum := optionalFloat_stored (b := b) hmaximum
  rw [reread, ← hminimum, ← hmaximum]
  simp only [fromDict, scalarsOr_stored hallowed, hname.text, htype.text, hofType, hrequired.bool,
    hsafe.bool, hmissingness.text, hofMissingness, hsensitivity.textOr, hofSensitivity, ok_bind,
    map_eq_pure_bind, bind_assoc, pure_bind]

/-- Bounds are compared by their values. -/
theorem any_asFloat (bound : Option PyNumber) (test : PyFloat → Bool) :
    (bound.map PyNumber.asFloat).any (fun number => test number.real) =
      bound.any fun number => test number.real := by
  cases bound <;> rfl

theorem checkBounds_spelled (number : PyNumber) :
    definition.spelled.checkBounds number = definition.checkBounds number := by
  have hminimum := any_asFloat definition.minimum fun value => number.real.less value
  have hmaximum := any_asFloat definition.maximum fun value => value.less number.real
  simp only [checkBounds, spelled, hminimum, hmaximum]

theorem validate_spelled (value : JSONScalar) :
    definition.spelled.validate value = definition.validate value := by
  simp only [validate, checkBounds_spelled]
  rfl

theorem checkBound_spelled {bound : Option PyNumber} {name : String}
    (h : checkBound b.toBuiltins bound name = .ok ()) :
    checkBound b.toBuiltins (bound.map PyNumber.asFloat) name = .ok () := by
  cases bound with
  | none => rfl
  | some bound =>
    cases bound with
    | int value => rfl
    | float value => exact h

theorem check_spelled (h : definition.check b.toBuiltins = .ok ()) :
    definition.spelled.check b.toBuiltins = .ok () := by
  refine check_mono h id fun h => check_mono h id fun h => check_mono h checkBound_spelled fun h =>
    check_mono h checkBound_spelled fun h => check_mono h (fun h => ?_) fun h =>
      check_mono h (fun h => ?_) fun h => check_mono h id fun h => ?_
  · refine refuse_of ?_
    have h := refuse_ok h
    cases hminimum : definition.minimum <;> cases hmaximum : definition.maximum <;>
      simp only [spelled, hminimum, hmaximum] at h ⊢ <;> exact h
  · refine refuse_of ?_
    have h := refuse_ok h
    rw [spelled, Option.isSome_map, Option.isSome_map]
    exact h
  · exact forM_of fun value hvalue => (validate_spelled value).trans (forM_ok h value hvalue)

theorem reread_ok (h : definition.reread b = .ok read) (hsame : read.valued = definition.valued) :
    (∀ number ∈ definition.floats, number.Held b) ∧ read = definition.spelled := by
  obtain ⟨minimum, hminimum, h⟩ := bind_eq_ok h
  obtain ⟨maximum, hmaximum, h⟩ := bind_eq_ok h
  obtain ⟨-, rfl⟩ := constructed_iff.mp h
  obtain ⟨heldMinimum, rfl⟩ := readBound_ok hminimum
    (congrArg AttentionFeatureDefinition.minimum hsame)
  obtain ⟨heldMaximum, rfl⟩ := readBound_ok hmaximum
    (congrArg AttentionFeatureDefinition.maximum hsame)
  refine ⟨fun number hnumber => ?_, rfl⟩
  rcases List.mem_append.mp hnumber with hnumber | hnumber
  · exact heldMinimum number hnumber
  · exact heldMaximum number hnumber

theorem reread_of (hcheck : definition.check b.toBuiltins = .ok ())
    (h : ∀ number ∈ definition.floats, number.Held b) :
    definition.reread b = .ok definition.spelled := by
  rw [reread, readBound_of fun number hnumber => h number (List.mem_append_left _ hnumber), ok_bind,
    readBound_of fun number hnumber => h number (List.mem_append_right _ hnumber), ok_bind]
  exact constructed_iff.mpr ⟨check_spelled hcheck, rfl⟩

theorem printable_bound (hbounded : b.FloatsBounded) {bound : Option PyNumber}
    (h : ∀ number ∈ bound.toList, number.Held b) : (boundJson bound).printable = true := by
  cases bound with
  | none => rfl
  | some bound => exact PyNumber.printable_of_held hbounded (List.forall_mem_singleton.mp h)

theorem printable_spelled (hbounded : b.FloatsBounded)
    (hheld : ∀ number ∈ definition.floats, number.Held b)
    (h : definition.spelled.toDict.value.printable = true) :
    definition.toDict.value.printable = true := by
  have hrows : ∀ definition : AttentionFeatureDefinition, definition.toDict.rows = _ :=
    fun definition => Payload.ofList_rows_of_nodup distinct
  rw [Payload.value, JSONValue.printable, hrows] at h ⊢
  have hminimum : (boundJson definition.minimum).printable = true :=
    printable_bound hbounded fun number hnumber => hheld number (List.mem_append_left _ hnumber)
  have hmaximum : (boundJson definition.maximum).printable = true :=
    printable_bound hbounded fun number hnumber => hheld number (List.mem_append_right _ hnumber)
  refine printableFields_mono ?_ h
  exact .cons id (.cons id (.cons id (.cons id (.cons id (.cons id (.cons id
    (.cons (fun _ => hminimum) (.cons (fun _ => hmaximum) .nil))))))))

theorem bound_unique {bound other : Option PyNumber} {key : String}
    (h : q.Stored key (boundJson bound)) (hother : q.Stored key (boundJson other)) :
    bound = other := by
  have hflat : ∀ bound, (boundJson bound).flat = true := fun bound => by
    cases bound with
    | none => rfl
    | some bound => exact bound.flat_toJson
  have hsame := (h.flat (hflat bound)).symm.trans (hother.flat (hflat other))
  injection hsame with hsame
  cases bound with
  | none => cases other with
    | none => rfl
    | some other => cases other <;> cases hsame
  | some bound => cases other with
    | none => cases bound <;> cases hsame
    | some other => exact congrArg some (PyNumber.toJson_injective hsame)

theorem respelled (h : definition.spelled.toDict.Respells definition.toDict) :
    definition.spelled = definition := by
  have hleft := (Payload.respells_refl definition.spelled.toDict).fields distinct
  have hright := h.fields distinct
  simp only [List.forall_mem_cons] at hleft hright
  obtain ⟨-, -, -, -, -, -, -, hminimum, hmaximum, -⟩ := hleft
  obtain ⟨-, -, -, -, -, -, -, hminimum', hmaximum', -⟩ := hright
  have hminimum : definition.minimum.map PyNumber.asFloat = definition.minimum :=
    bound_unique hminimum hminimum'
  have hmaximum : definition.maximum.map PyNumber.asFloat = definition.maximum :=
    bound_unique hmaximum hmaximum'
  rw [spelled, hminimum, hmaximum]

theorem held_of_bound {bound : Option PyNumber} (h : bound.map PyNumber.asFloat = bound) :
    ∀ number ∈ bound.toList, number.Held b := by
  cases bound with
  | none => exact nofun
  | some bound => exact List.forall_mem_singleton.mpr (PyNumber.held_of_asFloat (Option.some.inj h))

theorem held_of_spelled (h : definition.spelled = definition) :
    ∀ number ∈ definition.floats, number.Held b := by
  intro number hnumber
  rcases List.mem_append.mp hnumber with hnumber | hnumber
  · exact held_of_bound (congrArg AttentionFeatureDefinition.minimum h) number hnumber
  · exact held_of_bound (congrArg AttentionFeatureDefinition.maximum h) number hnumber

theorem valued_spelled (definition : AttentionFeatureDefinition) :
    definition.spelled.valued = definition.valued := by
  cases hminimum : definition.minimum <;> cases hmaximum : definition.maximum <;>
    simp only [valued, spelled, hminimum, hmaximum] <;> rfl

end AttentionFeatureDefinition

/-! ## Schemas -/

namespace AttentionFeatureSchemaSnapshot

variable {schema made : AttentionFeatureSchemaSnapshot}

/-- `sorted(features, key=name)`. -/
def byName (features : List AttentionFeatureDefinition) : List AttentionFeatureDefinition :=
  features.insertionSort fun a c => a.name ≤ c.name

theorem names_spelled (features : List AttentionFeatureDefinition) :
    (features.map AttentionFeatureDefinition.spelled).map AttentionFeatureDefinition.name =
      features.map AttentionFeatureDefinition.name :=
  List.map_map

theorem names_byName {features : List AttentionFeatureDefinition}
    (h : (features.map AttentionFeatureDefinition.name).Nodup) :
    ((byName features).map AttentionFeatureDefinition.name).Nodup :=
  ((List.perm_insertionSort _ features).map _).nodup_iff.mpr h

def spelled (schema : AttentionFeatureSchemaSnapshot) : AttentionFeatureSchemaSnapshot :=
  { schema with
    features := byName (schema.features.map AttentionFeatureDefinition.spelled)
    distinct := names_byName (by rw [names_spelled]; exact schema.distinct) }

def valued (schema : AttentionFeatureSchemaSnapshot) : AttentionFeatureSchemaSnapshot :=
  { schema with
    features := schema.features.map AttentionFeatureDefinition.valued
    recordedAt := schema.recordedAt.valued
    distinct := by
      rw [List.map_map]
      exact schema.distinct }

/-- What the id of a schema is made of. -/
def identity (b : ContentBuiltins) (schema : AttentionFeatureSchemaSnapshot) :
    List (String × JSONValue) :=
  [("version", .str schema.version),
   ("features", .list (schema.features.map fun definition => definition.toDict.value)),
   ("recorded_at", .str (b.isoformat schema.recordedAt))]

def code (b : ContentBuiltins) : RecordCode b AttentionFeatureSchemaSnapshot where
  kind := "attention-feature-schema"
  idKey := "schema_id"
  id := schemaId
  identity := identity b
  Accepted := fun schema =>
    make schema.schemaId schema.version schema.features schema.recordedAt = .ok schema ∧
      ∀ definition ∈ schema.features, definition.check b.toBuiltins = .ok ()
  fromDict := fromDict b
  spelled := spelled
  valued := valued
  floats := fun schema => schema.features.flatMap AttentionFeatureDefinition.floats
  counts := fun _ => []
  Ordered := fun schema => schema.features.Pairwise fun a c => a.name ≤ c.name

theorem keys (schema : AttentionFeatureSchemaSnapshot) :
    ((code b).idKey :: ((code b).identity schema).map Prod.fst).Nodup := by
  show ["schema_id", "version", "features", "recorded_at"].Nodup
  decide

/-- What the constructor returns. -/
theorem make_ok {schemaId version : String} {features : List AttentionFeatureDefinition}
    {recordedAt : Datetime} (h : make schemaId version features recordedAt = .ok made) :
    made.schemaId = schemaId ∧ made.version = version ∧ made.features = features ∧
      made.recordedAt = recordedAt := by
  unfold make at h
  obtain ⟨_, -, h⟩ := bind_eq_ok h
  obtain ⟨_, -, h⟩ := bind_eq_ok h
  obtain ⟨_, -, h⟩ := bind_eq_ok h
  split_ifs at h
  cases h
  exact ⟨rfl, rfl, rfl, rfl⟩

/-- The reader's last steps: the constructor, and the comparison with `create`. -/
def verified (b : ContentBuiltins) (schemaId version : String)
    (features : List AttentionFeatureDefinition) (recordedAt : Datetime) :
    Except PyError AttentionFeatureSchemaSnapshot := do
  let value ← make schemaId version features recordedAt
  let expected ← create b value.version value.features value.recordedAt
  refuse ((value == expected) = false)
    "attention feature schema id does not match immutable content"
  return value

theorem mappingsIn_stored {key : String} {features : List AttentionFeatureDefinition}
    (h : q.Stored key (.list (features.map fun definition => definition.toDict.value))) :
    (do (← mappingsIn q key).mapM (AttentionFeatureDefinition.fromDict b)) =
      features.mapM (AttentionFeatureDefinition.reread b) := by
  obtain ⟨stored, items, hstored, hitems, hmappings⟩ := stored_parts h
  have hdatas : ∃ datas : List Payload, items.mapM JSONValue.mapping = .ok datas ∧
      List.Forall₂ (fun data definition => data.Respells (AttentionFeatureDefinition.toDict definition))
        datas features := by
    clear h hitems
    induction hmappings with
    | nil => exact ⟨[], rfl, .nil⟩
    | cons hitem _ ih =>
      obtain ⟨data, hdata, hrespells⟩ := hitem
      obtain ⟨datas, hrest, hdatas⟩ := ih
      refine ⟨data :: datas, ?_, .cons hrespells hdatas⟩
      rw [List.mapM_cons, hdata, ok_bind, hrest]
      rfl
  obtain ⟨datas, hmapped, hdatas⟩ := hdatas
  rw [mappingsIn, item_of_get hstored, ok_bind, hitems, ok_bind, hmapped, ok_bind]
  clear h hitems hmappings hmapped
  induction hdatas with
  | nil => rfl
  | cons hrespells _ ih =>
    rw [List.mapM_cons, List.mapM_cons, ih, AttentionFeatureDefinition.fromDict_respells hrespells]

theorem fromDict_respells (htimes : b.ReadsTimes) (h : q.Respells ((code b).toDict schema)) :
    fromDict b q = (do
      let features ← schema.features.mapM (AttentionFeatureDefinition.reread b)
      verified b schema.schemaId schema.version features schema.recordedAt) := by
  have hfields := h.fields (keys schema)
  simp only [code, identity, List.forall_mem_cons] at hfields
  obtain ⟨hid, hversion, hfeatures, htime, -⟩ := hfields
  rw [← mappingsIn_stored hfeatures]
  simp only [fromDict, hid.text, hversion.text, htime.time htimes, ok_bind, verified, bind_assoc]

theorem beq_iff {a c : AttentionFeatureSchemaSnapshot} :
    (a == c) = true ↔ a.schemaId = c.schemaId ∧ a.version = c.version ∧ a.features = c.features ∧
      a.recordedAt.instant = c.recordedAt.instant := by
  show (a.schemaId == c.schemaId && a.version == c.version && a.features == c.features &&
    a.recordedAt.instant == c.recordedAt.instant) = true ↔ _
  simp only [Bool.and_eq_true, beq_iff_eq, and_assoc]

/-- What the comparison lets through: the features in order, and the id of the content. -/
theorem verified_ok {id version : String} {features : List AttentionFeatureDefinition}
    {recordedAt : Datetime} (h : verified b id version features recordedAt = .ok made) :
    (made.schemaId = id ∧ made.version = version ∧ made.features = features ∧
      made.recordedAt = recordedAt) ∧ byName features = features ∧ (code b).Created made := by
  obtain ⟨value, hvalue, hexpect⟩ := bind_eq_ok h
  obtain ⟨expected, hexpected, hcompare⟩ := bind_eq_ok hexpect
  obtain ⟨_, hsame, hreturn⟩ := bind_eq_ok hcompare
  cases hreturn
  have hsame : (made == expected) = true := Bool.not_eq_false _ ▸ refuse_ok hsame
  obtain ⟨hid, -, hfeatures, -⟩ := beq_iff.mp hsame
  obtain ⟨digest, hdigest, hmake⟩ := bind_eq_ok hexpected
  obtain ⟨hid', -, hfeatures', -⟩ := make_ok hmake
  obtain ⟨hmadeId, hversion, hmade, htime⟩ := make_ok hvalue
  have hsorted : byName made.features = made.features := (hfeatures.trans hfeatures').symm
  refine ⟨⟨hmadeId, hversion, hmade, htime⟩, ?_, ?_⟩
  · rw [← hmade]
    exact hsorted
  · show b.contentId "attention-feature-schema" (.ofList (identity b made)) = .ok made.schemaId
    have hcontent : b.contentId "attention-feature-schema" (.ofList
        [("version", .str made.version),
         ("features", .list ((byName made.features).map fun definition => definition.toDict.value)),
         ("recorded_at", .str (b.isoformat made.recordedAt))]) = .ok digest := hdigest
    rw [hsorted] at hcontent
    rw [hid, hid']
    exact hcontent

theorem spelled_features (hordered : schema.features.Pairwise fun a c => a.name ≤ c.name) :
    byName (schema.features.map AttentionFeatureDefinition.spelled) =
      schema.features.map AttentionFeatureDefinition.spelled :=
  List.Pairwise.insertionSort_eq (List.pairwise_map.mpr hordered)

/-- A schema is accepted with other features under the same names. -/
theorem make_of (hmake : make schema.schemaId schema.version schema.features schema.recordedAt =
      .ok schema)
    (hnames : made.features.map AttentionFeatureDefinition.name =
      schema.features.map AttentionFeatureDefinition.name)
    (hid : made.schemaId = schema.schemaId) (hversion : made.version = schema.version) :
    make made.schemaId made.version made.features made.recordedAt = .ok made := by
  obtain ⟨_, hidText, hmake⟩ := bind_eq_ok hmake
  obtain ⟨_, hversionText, hmake⟩ := bind_eq_ok hmake
  obtain ⟨_, hne, -⟩ := bind_eq_ok hmake
  rw [← hid] at hidText
  rw [← hversion] at hversionText
  have hnonempty : ¬ made.features = [] := fun hempty => by
    rw [hempty] at hnames
    exact refuse_ok hne (List.map_eq_nil_iff.mp hnames.symm)
  unfold make
  rw [bind_of_ok hidText, bind_of_ok hversionText, bind_of_ok (refuse_of hnonempty)]
  exact dif_pos made.distinct

/-- A schema whose features are in order, with the id of its content, is let through. -/
theorem verified_of (hmake : make schema.schemaId schema.version schema.features schema.recordedAt =
      .ok schema) (hsorted : byName schema.features = schema.features)
    (hid : (code b).Created schema) :
    verified b schema.schemaId schema.version schema.features schema.recordedAt = .ok schema := by
  have hcreate : create b schema.version schema.features schema.recordedAt = .ok schema := by
    show (do
      let schemaId ← b.contentId "attention-feature-schema" (.ofList
        [("version", .str schema.version),
         ("features", .list ((byName schema.features).map
           fun definition : AttentionFeatureDefinition => definition.toDict.value)),
         ("recorded_at", .str (b.isoformat schema.recordedAt))])
      make schemaId schema.version (byName schema.features) schema.recordedAt) = _
    rw [hsorted]
    exact (bind_of_ok hid _).trans hmake
  unfold verified
  rw [bind_of_ok hmake, bind_of_ok hcreate]
  have hsame : (schema == schema) = true := beq_iff.mpr ⟨rfl, rfl, rfl, rfl⟩
  rw [hsame]
  rfl

theorem ext_of (hid : made.schemaId = schema.schemaId) (hversion : made.version = schema.version)
    (hfeatures : made.features = schema.features) (htime : made.recordedAt = schema.recordedAt) :
    made = schema := by
  cases made
  cases schema
  simp only at hid hversion hfeatures htime
  subst hid hversion hfeatures htime
  rfl

/-- The schema that the reader makes of the features, if they were in order. -/
theorem readsBack_of (htimes : b.ReadsTimes) (haccepted : (code b).Accepted schema)
    (h : q.Respells ((code b).toDict schema)) (hexact : (code b).Exact schema)
    (hid : (code b).Created schema.spelled) : (code b).ReadsBack schema q := by
  obtain ⟨hmake, hchecks⟩ := haccepted
  have hread : schema.features.mapM (AttentionFeatureDefinition.reread b) =
      .ok (schema.features.map AttentionFeatureDefinition.spelled) :=
    mapM_of_forall fun value hvalue =>
      AttentionFeatureDefinition.reread_of (hchecks value hvalue) fun number hnumber =>
        hexact.floats number (List.mem_flatMap.mpr ⟨value, hvalue, hnumber⟩)
  have hfeatures : schema.spelled.features =
      schema.features.map AttentionFeatureDefinition.spelled := spelled_features hexact.ordered
  have hsorted : byName schema.spelled.features = schema.spelled.features := by
    rw [hfeatures]
    exact spelled_features hexact.ordered
  have hmade : make schema.spelled.schemaId schema.spelled.version schema.spelled.features
      schema.spelled.recordedAt = .ok schema.spelled := by
    refine make_of hmake ?_ rfl rfl
    rw [hfeatures]
    exact names_spelled _
  have hverified := verified_of hmade hsorted hid
  rw [hfeatures] at hverified
  refine ⟨schema.spelled, ?_, ?_⟩
  · show fromDict b q = _
    rw [fromDict_respells htimes h, hread, ok_bind]
    exact hverified
  · refine ext_of rfl rfl ?_ rfl
    show schema.spelled.features.map AttentionFeatureDefinition.valued =
      schema.features.map AttentionFeatureDefinition.valued
    rw [hfeatures, List.map_map]
    exact List.map_congr_left fun definition _ => definition.valued_spelled

theorem exact_of_read (htimes : b.ReadsTimes) (h : q.Respells ((code b).toDict schema))
    (hreads : (code b).ReadsBack schema q) :
    (code b).Exact schema ∧ (code b).contentId schema.spelled = .ok schema.schemaId := by
  obtain ⟨other, hread, hsame⟩ := hreads
  obtain ⟨features, hfeatures, hread⟩ :=
    bind_eq_ok ((fromDict_respells htimes h).symm.trans hread)
  obtain ⟨⟨hid, hversion, hmade, htime⟩, hsorted, hcreated⟩ := verified_ok hread
  have hvalued : features.map AttentionFeatureDefinition.valued =
      schema.features.map AttentionFeatureDefinition.valued := by
    rw [← hmade]
    exact congrArg AttentionFeatureSchemaSnapshot.features hsame
  obtain ⟨hheld, rfl⟩ := mapM_same AttentionFeatureDefinition.reread_ok hfeatures hvalued
  have hspelled : schema.spelled = { other with schemaId := schema.schemaId } :=
    ext_of rfl hversion.symm (hsorted.trans hmade.symm) htime.symm
  have hordered : schema.features.Pairwise fun a c => a.name ≤ c.name := by
    have hpairwise : (byName (schema.features.map AttentionFeatureDefinition.spelled)).Pairwise
        fun a c => a.name ≤ c.name := List.pairwise_insertionSort _ _
    rw [hsorted, List.pairwise_map] at hpairwise
    exact hpairwise
  refine ⟨⟨fun number hnumber => ?_, nofun, hordered⟩, ?_⟩
  · obtain ⟨value, hvalue, hnumber⟩ := List.mem_flatMap.mp hnumber
    exact hheld value hvalue number hnumber
  · rw [hspelled, ← hid]
    exact hcreated

theorem name_of_respells {definition other : AttentionFeatureDefinition}
    (h : definition.toDict.Respells other.toDict) : definition.name = other.name := by
  have hleft := (Payload.respells_refl definition.toDict).fields
    AttentionFeatureDefinition.distinct
  have hright := h.fields AttentionFeatureDefinition.distinct
  simp only [List.forall_mem_cons] at hleft hright
  have hsame := (hleft.1.flat rfl).symm.trans (hright.1.flat rfl)
  injection hsame with hsame
  injection hsame

/-- Lists of definitions that say the same have the same names. -/
theorem names_of_list {features others : List AttentionFeatureDefinition}
    (h : (JSONValue.list (features.map fun definition => definition.toDict.value)).sortKeys =
      (JSONValue.list (others.map fun definition => definition.toDict.value)).sortKeys) :
    features.map AttentionFeatureDefinition.name = others.map AttentionFeatureDefinition.name := by
  rw [JSONValue.sortKeys, JSONValue.sortKeys, sortItems_map, sortItems_map, List.map_map,
    List.map_map] at h
  injection h with h
  induction features generalizing others with
  | nil => rw [List.map_eq_nil_iff.mp h.symm]
  | cons definition features ih =>
    obtain ⟨other, others, rfl, hhead, htail⟩ := List.map_eq_cons_iff.mp h.symm
    rw [List.map_cons, List.map_cons, ih htail.symm,
      name_of_respells (Payload.respells_of_sortKeys hhead.symm)]

theorem respelled
    (h : Payload.Respells (.ofList ((code b).identity schema.spelled))
      (.ofList ((code b).identity schema))) : schema.spelled = schema := by
  have hleft := (Payload.respells_refl _).fields (List.nodup_cons.mp (keys (b := b) schema.spelled)).2
  have hright := h.fields (List.nodup_cons.mp (keys (b := b) schema)).2
  simp only [code, identity, List.forall_mem_cons] at hleft hright
  have hsame := hleft.2.1.unique hright.2.1
  have hordered : schema.features.Pairwise fun a c => a.name ≤ c.name := by
    have hsorted : (schema.spelled.features.map AttentionFeatureDefinition.name).Pairwise (· ≤ ·) :=
      List.pairwise_map.mpr (List.pairwise_insertionSort _ _)
    rw [names_of_list hsame] at hsorted
    exact List.pairwise_map.mp hsorted
  have hfeatures : schema.spelled.features =
      schema.features.map AttentionFeatureDefinition.spelled := spelled_features hordered
  rw [hfeatures] at hsame
  refine ext_of rfl rfl (hfeatures.trans ?_) rfl
  exact respelled_parts AttentionFeatureDefinition.respelled hsame

theorem lawful (htimes : b.ReadsTimes) (hbounded : b.FloatsBounded) : (code b).Lawful where
  distinct := keys
  reads := fun haccepted h =>
    ⟨exact_of_read htimes h, fun ⟨hexact, hid⟩ => readsBack_of htimes haccepted h hexact hid⟩
  printable := by
    intro schema _ hexact hprintable
    have hfeatures : schema.spelled.features =
        schema.features.map AttentionFeatureDefinition.spelled := spelled_features hexact.ordered
    have hparts := printable_parts AttentionFeatureDefinition.toDict
      fun value (hvalue : value ∈ schema.features) =>
        AttentionFeatureDefinition.printable_spelled hbounded fun number hnumber =>
          hexact.floats number (List.mem_flatMap.mpr ⟨value, hvalue, hnumber⟩)
    rw [← hfeatures] at hparts
    refine printableFields_mono ?_ hprintable
    exact .cons id (.cons hparts (.cons id .nil))
  respelled := respelled
  plain := by
    intro schema h
    have hfeatures := congrArg AttentionFeatureSchemaSnapshot.features h
    have hordered : schema.features.Pairwise fun a c => a.name ≤ c.name := by
      have hsorted : schema.spelled.features.Pairwise fun a c => a.name ≤ c.name :=
        List.pairwise_insertionSort _ _
      exact hfeatures ▸ hsorted
    refine ⟨fun number hnumber => ?_, nofun, hordered⟩
    have hvalues := forall_map_eq.mp ((spelled_features hordered).symm.trans hfeatures)
    obtain ⟨value, hvalue, hnumber⟩ := List.mem_flatMap.mp hnumber
    exact AttentionFeatureDefinition.held_of_spelled (hvalues value hvalue) number hnumber

end AttentionFeatureSchemaSnapshot

end Noema
