import Noema.GivenPolicies

/-!
# What storage does to a record

A record survives if the payload that it writes reads back as an equal record, also after
the payload was encoded and decoded.  A reader changes the spelling of numbers, and the id
that it compares is the digest of the content so spelled.  So a record survives exactly if
its numbers have the same value in the reader's spelling and its id is the digest of that
spelling (`RecordCode.survives_iff`); a record with the id that `create` gives it survives
exactly if it was given in the reader's spelling (`RecordCode.created_survives_iff`).
-/
namespace Noema

/-- `datetime.fromisoformat` reads what `isoformat` writes. -/
def ContentBuiltins.ReadsTimes (b : ContentBuiltins) : Prop :=
  ∀ time, b.parseDatetime (.str (b.isoformat time)) = .ok (some time)

/-- `float` of an integer overflows beyond the doubles. -/
def ContentBuiltins.FloatsBounded (b : ContentBuiltins) : Prop :=
  ∀ value result, b.floatOfInt value = .ok result → value.natAbs < 2 ^ 1024

/-! ## Numbers -/

namespace PyNumber

variable {b : ContentBuiltins} {number read : PyNumber}

/-- A float has the same value. -/
def Held (b : ContentBuiltins) (number : PyNumber) : Prop := b.float number.toJson = .ok number.real

/-- An integer has the same value. -/
def Whole (number : PyNumber) : Prop := ∃ value : Int, number.real = .finite value

@[simp] theorem real_asFloat (number : PyNumber) : number.asFloat.real = number.real := rfl

theorem toJson_injective : Function.Injective toJson := fun number other h => by
  cases number <;> cases other <;> cases h <;> rfl

@[simp] theorem flat_toJson (number : PyNumber) : number.toJson.flat = true := by
  cases number <;> rfl

theorem sortKeys_toJson (number : PyNumber) : number.toJson.sortKeys = number.toJson := by
  cases number <;> rfl

theorem sortKeys_inj {other : PyNumber} :
    number.toJson.sortKeys = other.toJson.sortKeys ↔ number = other := by
  rw [sortKeys_toJson, sortKeys_toJson]
  exact toJson_injective.eq_iff

theorem readFloat_ok (hread : number.readFloat b = .ok read)
    (hsame : read.asFloat = number.asFloat) : number.Held b ∧ read = number.asFloat := by
  unfold readFloat at hread
  cases hfloat : b.float number.toJson with
  | error error =>
    rw [hfloat] at hread
    cases hread
  | ok value =>
    rw [hfloat] at hread
    cases hread
    have hvalue : value = number.real := by
      injection hsame
    exact ⟨hfloat.trans (congrArg Except.ok hvalue), hsame⟩

theorem readFloat_of (h : number.Held b) : number.readFloat b = .ok number.asFloat := by
  unfold readFloat
  rw [h]
  rfl

theorem held_of_asFloat (h : number.asFloat = number) : number.Held b := by
  rw [← h]
  rfl

/-- Floats hold the numbers that are in the reader's spelling. -/
theorem held_of_fixed {numbers : List PyNumber} (h : numbers.map asFloat = numbers) :
    ∀ number ∈ numbers, number.Held b := by
  intro number hnumber
  have hfixed : numbers.map asFloat = numbers.map id := h.trans (List.map_id _).symm
  exact held_of_asFloat (List.map_inj_left.mp hfixed number hnumber)

theorem tdiv_of_whole {q : ℚ} {value : Int} (h : q = value) : q.num.tdiv q.den = value := by
  rw [h, Rat.num_intCast, Rat.den_intCast]
  exact Int.tdiv_one value

theorem readInt_ok (hread : number.readInt b = .ok read)
    (hsame : read.asFloat = number.asFloat) : number.Whole ∧ read = number.asInt := by
  cases number with
  | int value =>
    cases hread
    exact ⟨⟨value, rfl⟩, rfl⟩
  | float value =>
    cases value with
    | finite q =>
      cases hread
      injection hsame with hsame
      injection hsame with hsame
      exact ⟨⟨_, congrArg PyFloat.finite hsame.symm⟩, rfl⟩
    | infinity | nan => cases hread

theorem readInt_of (h : number.Whole) : number.readInt b = .ok number.asInt := by
  cases number with
  | int => rfl
  | float value =>
    cases value with
    | finite => rfl
    | infinity | nan => obtain ⟨_, h⟩ := h; cases h

/-- A whole number keeps its value. -/
theorem asFloat_asInt (h : number.Whole) : number.asInt.asFloat = number.asFloat := by
  cases number with
  | int => rfl
  | float value =>
    obtain ⟨k, hk⟩ := h
    cases value with
    | finite q =>
      injection hk with hk
      show asFloat (int (q.num.tdiv q.den)) = asFloat (float (.finite q))
      rw [tdiv_of_whole hk, hk]
      rfl
    | infinity | nan => cases hk

theorem real_asInt (h : number.Whole) : number.asInt.real = number.real := by
  have hsame := asFloat_asInt h
  injection hsame

theorem whole_of_asInt (h : number.asInt = number) : number.Whole := by
  cases number with
  | int value => exact ⟨value, rfl⟩
  | float value =>
    cases value with
    | finite => cases h
    | infinity | nan => cases h

theorem printable_asFloat (number : PyNumber) : number.asFloat.toJson.printable = true := rfl

/-- What a float holds is small enough to be printed. -/
theorem printable_of_held (hbounded : b.FloatsBounded) (h : number.Held b) :
    number.toJson.printable = true := by
  cases number with
  | int value =>
    have hsmall : value.natAbs < 2 ^ 1024 := hbounded value _ h
    have hlimit : ∀ {n m : ℕ}, n ≤ m → 2 ^ n ≤ 10 ^ m := fun h =>
      (Nat.pow_le_pow_left (by decide) _).trans (Nat.pow_le_pow_right (by decide) h)
    rw [toJson, JSONValue.printable]
    exact decide_eq_true (hsmall.trans_le (hlimit (by decide)))
  | float => rfl

theorem printable_of_asInt (h : number.asInt.toJson.printable = true) :
    number.toJson.printable = true := by
  cases number with
  | int => exact h
  | float => rfl

end PyNumber

/-! ## Stored fields -/

section Fields

variable {b : ContentBuiltins} {q : Payload} {key : String}

theorem item_of_get {value : JSONValue} (h : Dict.get? q key = some value) :
    q.item key = .ok value := by
  rw [Payload.item, h]

namespace Payload.Stored

theorem text {value : String} (h : q.Stored key (.str value)) :
    itemText b.toBuiltins q key = .ok value := by
  rw [itemText, item_of_get (h.flat rfl)]
  rfl

theorem textOr {value default : String} (h : q.Stored key (.str value)) :
    textOr b.toBuiltins q key default = .ok value := by
  rw [Noema.textOr, h.flat rfl]
  rfl

theorem number {number : PyNumber} (h : q.Stored key number.toJson) :
    itemNumber b q key = number.readFloat b := by
  rw [itemNumber, itemFloat, item_of_get (h.flat number.flat_toJson)]
  rfl

theorem numberOrZero {number : PyNumber} (h : q.Stored key number.toJson) :
    numberOrZero b q key = number.readFloat b := by
  rw [Noema.numberOrZero, floatOr, h.flat number.flat_toJson]
  rfl

theorem count {number : PyNumber} (h : q.Stored key number.toJson) :
    itemCount b q key = number.readInt b := by
  rw [itemCount, itemInt, item_of_get (h.flat number.flat_toJson)]
  rfl

theorem countOrZero {number : PyNumber} (h : q.Stored key number.toJson) :
    countOrZero b q key = number.readInt b := by
  rw [Noema.countOrZero, h.flat number.flat_toJson]
  rfl

theorem flat_texts (values : List String) : (JSONValue.texts values).flat = true :=
  List.all_eq_true.mpr fun item hitem => by
    obtain ⟨value, -, rfl⟩ := List.mem_map.mp hitem
    rfl

theorem mapM_str (values : List String) :
    (values.map JSONValue.str).mapM b.str = (.ok values : Except PyError (List String)) := by
  induction values with
  | nil => rfl
  | cons value values ih =>
    rw [List.map_cons, List.mapM_cons, ih]
    rfl

theorem texts {values : List String} (h : q.Stored key (.texts values)) :
    strings b.toIntentBuiltins q key = .ok values := by
  rw [strings, textsOr, h.flat (flat_texts values)]
  exact mapM_str values

theorem time (htimes : b.ReadsTimes) {time : Datetime}
    (h : q.Stored key (.str (b.isoformat time))) :
    requiredDatetime b.toIntentBuiltins q key = .ok time := by
  rw [requiredDatetime, datetime, Payload.get, h.flat rfl]
  show (b.parseDatetime (.str (b.isoformat time)) >>= _) = _
  rw [htimes time]
  rfl

theorem timeOrNone (htimes : b.ReadsTimes) {time : Option Datetime}
    (h : q.Stored key (isoformatOrNone b time)) : datetime b.toBuiltins q key = .ok time := by
  cases time with
  | none =>
    rw [datetime, Payload.get, h.flat rfl]
    rfl
  | some time =>
    rw [datetime, Payload.get, h.flat rfl]
    exact htimes time

theorem textIfAny {value : Option String} (hne : ∀ text ∈ value, text ≠ "")
    (h : q.Stored key (.ofText? value)) : textIfAny b.toBuiltins q key = .ok value := by
  cases value with
  | none =>
    rw [Noema.textIfAny, Payload.get, h.flat rfl]
    rfl
  | some text =>
    have htruthy : (JSONValue.str text).truthy = true := decide_eq_true (hne text rfl)
    rw [Noema.textIfAny, Payload.get, h.flat rfl]
    exact (if_pos htruthy).trans rfl

theorem boolOr {value default : Bool} (h : q.Stored key (.bool value)) :
    boolOr q key default = value := by
  rw [Noema.boolOr, h.flat rfl]
  rfl

theorem bool {value : Bool} (h : q.Stored key (.bool value)) : itemBool q key = .ok value := by
  rw [itemBool, item_of_get (h.flat rfl)]
  rfl

theorem mapping {p : Payload} (h : q.Stored key p.value) :
    ∃ stored : Payload, itemMapping q key = .ok stored ∧ stored.Respells p := by
  obtain ⟨value, hvalue, hsame⟩ := h
  obtain ⟨stored, hstored, hrespells⟩ := respells_of_value hsame
  refine ⟨stored, ?_, hrespells⟩
  rw [itemMapping, item_of_get hvalue]
  exact hstored

end Payload.Stored

/-- A field holds one number. -/
theorem Payload.Stored.number_unique {number other : PyNumber} (h : q.Stored key number.toJson)
    (hother : q.Stored key other.toJson) : number = other := by
  have hsame := (h.flat number.flat_toJson).symm.trans (hother.flat other.flat_toJson)
  exact PyNumber.toJson_injective (Option.some.inj hsame)

theorem Payload.Stored.texts_unique {values others : List String} (h : q.Stored key (.texts values))
    (hothers : q.Stored key (.texts others)) : values = others := by
  have hsame := (h.flat (flat_texts values)).symm.trans (hothers.flat (flat_texts others))
  injection hsame with hsame
  injection hsame with hsame
  exact List.map_injective_iff.mpr (fun _ _ => JSONValue.str.inj) hsame

/-- Fields that are printed one by one. -/
theorem printableFields_mono {fields others : List (String × JSONValue)}
    (h : List.Forall₂ (fun field other => field.2.printable = true → other.2.printable = true)
      fields others) (hfields : printableFields fields = true) : printableFields others = true := by
  induction h with
  | nil => rfl
  | cons hhead _ ih =>
    obtain ⟨hfield, hfields⟩ := Bool.and_eq_true_iff.mp hfields
    exact Bool.and_eq_true_iff.mpr ⟨hhead hfield, ih hfields⟩

end Fields

/-! ## Parts of a record -/

section Parts

variable {α β : Type} {spelled : α → α} {values : List α}

/-- Parts that are read as equal ones, one by one. -/
theorem mapM_same {reread : α → Except PyError α} {valued : α → β} {Held : α → Prop}
    (hone : ∀ {value read}, reread value = .ok read → valued read = valued value →
      Held value ∧ read = spelled value)
    {reads : List α} (h : values.mapM reread = .ok reads)
    (hsame : reads.map valued = values.map valued) :
    (∀ value ∈ values, Held value) ∧ reads = values.map spelled := by
  have hreads := mapM_ok.mp h
  clear h
  induction hreads with
  | nil => exact ⟨nofun, rfl⟩
  | cons hread _ ih =>
    injection hsame with hhead htail
    obtain ⟨hheld, heq⟩ := hone hread hhead
    obtain ⟨hrest, heqRest⟩ := ih htail
    exact ⟨List.forall_mem_cons.mpr ⟨hheld, hrest⟩, by rw [heq, heqRest, List.map_cons]⟩

theorem mapM_of_forall {reread : α → Except PyError α}
    (h : ∀ value ∈ values, reread value = .ok (spelled value)) :
    values.mapM reread = .ok (values.map spelled) :=
  mapM_ok.mpr (List.forall₂_map_right_iff.mpr (List.forall₂_same.mpr h))

theorem forall_map_eq : values.map spelled = values ↔ ∀ value ∈ values, spelled value = value := by
  have h : values.map spelled = values.map id ↔ _ := List.map_inj_left
  rwa [List.map_id] at h

variable (toDict : α → Payload)

theorem printable_parts
    (hone : ∀ value ∈ values, (toDict (spelled value)).value.printable = true →
      (toDict value).value.printable = true)
    (h : (JSONValue.list ((values.map spelled).map fun value => (toDict value).value)).printable =
      true) :
    (JSONValue.list (values.map fun value => (toDict value).value)).printable = true := by
  rw [JSONValue.printable] at h ⊢
  induction values with
  | nil => rfl
  | cons value values ih =>
    obtain ⟨hvalue, hvalues⟩ := Bool.and_eq_true_iff.mp h
    obtain ⟨hhead, htail⟩ := List.forall_mem_cons.mp hone
    exact Bool.and_eq_true_iff.mpr ⟨hhead hvalue, ih htail hvalues⟩

variable {toDict}

/-- Parts that say the same in the reader's spelling are in that spelling. -/
theorem respelled_parts
    (hone : ∀ {value}, (toDict (spelled value)).Respells (toDict value) → spelled value = value)
    (h : (JSONValue.list ((values.map spelled).map fun value => (toDict value).value)).sortKeys =
      (JSONValue.list (values.map fun value => (toDict value).value)).sortKeys) :
    values.map spelled = values := by
  rw [JSONValue.sortKeys, JSONValue.sortKeys, sortItems_map, sortItems_map, List.map_map,
    List.map_map, List.map_map] at h
  injection h with h
  refine forall_map_eq.mpr fun value hvalue => hone (Payload.respells_of_sortKeys ?_)
  exact List.map_inj_left.mp h value hvalue

/-- Parts are stored as a list of objects. -/
theorem stored_parts {q : Payload} {key : String}
    (h : q.Stored key (.list (values.map fun value => (toDict value).value))) :
    ∃ stored items, Dict.get? q key = some stored ∧ stored.iterate = .ok items ∧
      List.Forall₂ (fun item value => ∃ data : Payload,
        item.mapping = .ok data ∧ data.Respells (toDict value)) items values := by
  obtain ⟨stored, hstored, hsame⟩ := h
  have hlist : stored.sortKeys = (JSONValue.list ((values.map toDict).map Payload.value)).sortKeys := by
    rw [List.map_map]
    exact hsame
  obtain ⟨items, hitems, hmappings⟩ := Payload.respells_of_list hlist
  exact ⟨stored, items, hstored, hitems, List.forall₂_map_right_iff.mp hmappings⟩

end Parts

/-! ## Records -/

/-- What storing and reading a kind of record takes. -/
structure RecordCode (b : ContentBuiltins) (R : Type) where
  /-- The first part of every id. -/
  kind : String
  /-- The field of the id. -/
  idKey : String
  id : R → String
  /-- What the id is made of. -/
  identity : R → List (String × JSONValue)
  /-- The constructors of the record and of its parts accept it. -/
  Accepted : R → Prop
  fromDict : Payload → Except PyError R
  /-- The record as a reader spells it. -/
  spelled : R → R
  /-- What `==` compares: the values of numbers and the instants of times. -/
  valued : R → R
  /-- The fields that are read as floats. -/
  floats : R → List PyNumber
  /-- The fields that are read as integers. -/
  counts : R → List PyNumber
  /-- What a reader puts in order is in order. -/
  Ordered : R → Prop := fun _ => True

namespace RecordCode

variable {b : ContentBuiltins} {R : Type} (code : RecordCode b R) (record : R)

/-- `to_dict`: the id and what it is made of. -/
def toDict : Payload := .ofList ((code.idKey, .str (code.id record)) :: code.identity record)

/-- The digest of what a record says. -/
def contentId : Except PyError String := b.contentId code.kind (.ofList (code.identity record))

/-- The id is the one that `create` gives. -/
def Created : Prop := code.contentId record = .ok (code.id record)

/-- Every number has the same value as a reader spells it, and a reader moves nothing. -/
structure Exact : Prop where
  floats : ∀ number ∈ code.floats record, number.Held b
  counts : ∀ number ∈ code.counts record, number.Whole
  ordered : code.Ordered record

/-- A payload reads as a record that is equal. -/
def ReadsBack (stored : Payload) : Prop :=
  ∃ other, code.fromDict stored = .ok other ∧ code.valued other = code.valued record

/-- What was written reads back, and so it does after it was encoded and decoded. -/
def Survives : Prop :=
  code.ReadsBack record (code.toDict record) ∧
    ∃ text stored, jsonDumps (code.toDict record).value = .ok text ∧
      b.dict (jsonLoads text) = .ok stored ∧ code.ReadsBack record stored

/-- What each kind of record shows of its fields. -/
structure Lawful : Prop where
  distinct : ∀ record, (code.idKey :: (code.identity record).map Prod.fst).Nodup
  reads : ∀ {record q}, code.Accepted record → q.Respells (code.toDict record) →
    (code.ReadsBack record q ↔
      code.Exact record ∧ code.contentId (code.spelled record) = .ok (code.id record))
  printable : ∀ {record}, code.Accepted record → code.Exact record →
    printableFields (code.identity (code.spelled record)) = true →
    printableFields (code.identity record) = true
  respelled : ∀ {record},
    Payload.Respells (.ofList (code.identity (code.spelled record)))
      (.ofList (code.identity record)) →
    code.spelled record = record
  plain : ∀ {record}, code.spelled record = record → code.Exact record

namespace Lawful

variable {code} {record} (h : code.Lawful)

include h

theorem rows_identity : (KeyedTable.ofList (code.identity record) : Payload).rows =
    code.identity record :=
  Payload.ofList_rows_of_nodup (List.nodup_cons.mp (h.distinct record)).2

theorem rows_toDict : (code.toDict record).rows =
    (code.idKey, .str (code.id record)) :: code.identity record :=
  Payload.ofList_rows_of_nodup (h.distinct record)

theorem printable_identity {id : String} (hid : code.contentId record = .ok id) :
    printableFields (code.identity record) = true := by
  have hprintable := ContentBuiltins.printable_of_contentId hid
  rw [Payload.value, JSONValue.printable, h.rows_identity] at hprintable
  exact hprintable

/-- What reads back can be encoded. -/
theorem encodes (haccepted : code.Accepted record) (hexact : code.Exact record)
    (hid : code.contentId (code.spelled record) = .ok (code.id record)) :
    jsonDumps (code.toDict record).value = .ok ⟨(code.toDict record).value.sortKeys⟩ := by
  have hprintable : (code.toDict record).value.printable = true := by
    rw [Payload.value, JSONValue.printable, h.rows_toDict]
    exact h.printable haccepted hexact (h.printable_identity hid)
  exact if_pos hprintable

/-- **A record survives exactly if the reader's spelling keeps its numbers and has its id.** -/
theorem survives_iff (haccepted : code.Accepted record) :
    code.Survives record ↔
      code.Exact record ∧ code.contentId (code.spelled record) = .ok (code.id record) := by
  constructor
  · rintro ⟨hread, -⟩
    exact (h.reads haccepted (Payload.respells_refl _)).mp hread
  · rintro ⟨hexact, hid⟩
    refine ⟨(h.reads haccepted (Payload.respells_refl _)).mpr ⟨hexact, hid⟩, ?_⟩
    refine ⟨_, _, h.encodes haccepted hexact hid, Payload.dict_loads b.toBuiltins _, ?_⟩
    exact (h.reads haccepted (Payload.respells_sortKeys _)).mpr ⟨hexact, hid⟩

/-- **A record with the id of its content survives exactly if it is in the reader's
spelling.** -/
theorem created_survives_iff (haccepted : code.Accepted record) (hcreated : code.Created record) :
    code.Survives record ↔ code.spelled record = record := by
  rw [h.survives_iff haccepted]
  constructor
  · rintro ⟨-, hid⟩
    exact h.respelled (ContentBuiltins.contentId_injective hid hcreated)
  · intro hspelled
    refine ⟨h.plain hspelled, ?_⟩
    rw [hspelled]
    exact hcreated

end Lawful
end RecordCode
end Noema
