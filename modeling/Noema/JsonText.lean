import Mathlib.Data.List.Sort
import Mathlib.Data.String.Basic
import Noema.Types

/-!
# JSON text

A column or a file holds a payload as text, written by `json.dumps` with the keys of
every object in order.  What `json.loads` reads back is the value the text spells: the
same numbers, texts and lists, and the fields of each object in the order of their keys.
The text is kept as the value it spells (`JsonText`).  Writing fails on an integer with
more digits than Python prints; writing and reading again changes nothing but the order
of fields (`sortKeys_sortKeys`).
-/
namespace Noema

/-- The order of `sort_keys=True`: keys compare by their characters. -/
def keyLe (a b : String × JSONValue) : Prop := a.1 ≤ b.1

instance : DecidableRel keyLe := fun a b => inferInstanceAs (Decidable (a.1 ≤ b.1))

instance : Std.Total keyLe := ⟨fun a b => le_total a.1 b.1⟩

instance : IsTrans (String × JSONValue) keyLe := ⟨fun _ _ _ => le_trans⟩

mutual

/-- A value with the keys of its objects in order, at every depth. -/
def JSONValue.sortKeys : JSONValue → JSONValue
  | .list items => .list (sortItems items)
  | .obj fields => .obj ((sortFields fields).insertionSort keyLe)
  | .null => .null
  | .bool value => .bool value
  | .int value => .int value
  | .float value => .float value
  | .str value => .str value

def sortItems : List JSONValue → List JSONValue
  | [] => []
  | item :: items => item.sortKeys :: sortItems items

def sortFields : List (String × JSONValue) → List (String × JSONValue)
  | [] => []
  | (key, value) :: fields => (key, value.sortKeys) :: sortFields fields

end

theorem sortFields_map (fields : List (String × JSONValue)) :
    sortFields fields = fields.map fun field => (field.1, field.2.sortKeys) := by
  induction fields with
  | nil => rfl
  | cons field fields ih => rw [sortFields, ih, List.map_cons]

@[simp] theorem sortFields_keys (fields : List (String × JSONValue)) :
    (sortFields fields).map entryKey = fields.map entryKey := by
  rw [sortFields_map, List.map_map]
  rfl

/-- Values are sorted inside their fields, which does not move the fields. -/
theorem sortFields_insertionSort (fields : List (String × JSONValue)) :
    sortFields (fields.insertionSort keyLe) = (sortFields fields).insertionSort keyLe := by
  rw [sortFields_map, sortFields_map]
  exact List.map_insertionSort keyLe keyLe (fun field => (field.1, field.2.sortKeys)) fields
    fun _ _ _ _ => Iff.rfl

mutual

/-- **What was written with its keys in order is written the same way again.** -/
theorem sortKeys_sortKeys : ∀ value : JSONValue, value.sortKeys.sortKeys = value.sortKeys
  | .list items => by
    rw [JSONValue.sortKeys, JSONValue.sortKeys, sortItems_sortItems items]
  | .obj fields => by
    rw [JSONValue.sortKeys, JSONValue.sortKeys, sortFields_insertionSort,
      sortFields_sortFields fields]
    exact congrArg _ (List.pairwise_insertionSort keyLe _).insertionSort_eq
  | .null => rfl
  | .bool _ => rfl
  | .int _ => rfl
  | .float _ => rfl
  | .str _ => rfl

theorem sortItems_sortItems : ∀ items : List JSONValue,
    sortItems (sortItems items) = sortItems items
  | [] => rfl
  | item :: items => by
    rw [sortItems, sortItems, sortKeys_sortKeys item, sortItems_sortItems items]

theorem sortFields_sortFields : ∀ fields : List (String × JSONValue),
    sortFields (sortFields fields) = sortFields fields
  | [] => rfl
  | (key, value) :: fields => by
    rw [sortFields, sortFields, sortKeys_sortKeys value, sortFields_sortFields fields]

end

mutual

/-- Every integer has few enough digits to be printed. -/
def JSONValue.printable : JSONValue → Bool
  | .int value => value.natAbs < 10 ^ 4300
  | .list items => printableItems items
  | .obj fields => printableFields fields
  | .null | .bool _ | .float _ | .str _ => true

def printableItems : List JSONValue → Bool
  | [] => true
  | item :: items => item.printable && printableItems items

def printableFields : List (String × JSONValue) → Bool
  | [] => true
  | (_, value) :: fields => value.printable && printableFields fields

end

/-- A text that `json.dumps(value, sort_keys=True)` wrote. -/
structure JsonText where
  value : JSONValue

def jsonDumps (value : JSONValue) : Except PyError JsonText :=
  if value.printable then .ok ⟨value.sortKeys⟩
  else .error (.valueError "Exceeds the limit (4300 digits) for integer string conversion")

theorem printable_of_dumps {value : JSONValue} {text : JsonText}
    (h : jsonDumps value = .ok text) : value.printable := by
  unfold jsonDumps at h
  by_cases hprintable : value.printable
  · exact hprintable
  · rw [if_neg hprintable] at h
    cases h

def jsonLoads (text : JsonText) : JSONValue := text.value

namespace Payload

/-- A payload with its keys in order, at every depth. -/
def sortKeys (p : Payload) : Payload where
  rows := (sortFields p.rows).insertionSort keyLe
  unique := by
    have hperm := (List.perm_insertionSort keyLe (sortFields p.rows)).map entryKey
    refine hperm.nodup_iff.mpr ?_
    rw [sortFields_keys]
    exact p.unique

@[simp] theorem sortKeys_idem (p : Payload) : p.sortKeys.sortKeys = p.sortKeys := by
  refine KeyedTable.ext_rows ?_
  dsimp only [sortKeys]
  rw [sortFields_insertionSort, sortFields_sortFields]
  exact (List.pairwise_insertionSort keyLe _).insertionSort_eq

/-- `dict(payload)`. -/
def value (p : Payload) : JSONValue := .obj p.rows

/-- **Reading back what was written gives the same fields.** -/
theorem dict_loads (b : Builtins) (p : Payload) :
    b.dict (jsonLoads ⟨p.value.sortKeys⟩) = .ok p.sortKeys :=
  congrArg Except.ok (KeyedTable.ofList_rows p.sortKeys)

end Payload
end Noema
