import Mathlib.Data.Rat.Defs
import Noema.Lib.KeyedTable

/-!
# JSON values and Python conversions

Payloads are JSON objects, and the code turns their fields into text, numbers,
instants and lists with Python's own conversions, any of which may raise.  What a
conversion does with a value of the wrong kind is modelled here; the grammars of
`float`, `datetime.fromisoformat` and of `str` on numbers and containers are the
parameter `Builtins`, of which nothing is assumed.
-/
namespace Noema

/-- A timezone-aware `datetime`: an instant in microseconds and the offset it is
written with. -/
structure Datetime where
  instant : Int
  utcOffset : Int
deriving DecidableEq, Repr

/-- A UTC reading, as `utc_now()` returns it. -/
def Datetime.utc (instant : Int) : Datetime := ⟨instant, 0⟩

/-- A Python `float`. -/
inductive PyFloat
  | finite (value : ℚ)
  | infinity (negative : Bool)
  | nan
deriving DecidableEq

/-- The exceptions the code raises, or lets through from a conversion or a store. -/
inductive PyError
  | keyError (key : String)
  | typeError
  | valueError (message : String)
  | overflowError
  | runtimeError (message : String)
  | concurrentAppendError (expectedHeadSequence actualHeadSequence : Int)
  | other (message : String)
deriving DecidableEq, Repr

/-- What `str.strip()` removes. -/
def isPySpace (c : Char) : Bool :=
  let n := c.toNat
  (9 ≤ n && n ≤ 13) || (28 ≤ n && n ≤ 32) || n = 0x85 || n = 0xA0 || n = 0x1680 ||
    (0x2000 ≤ n && n ≤ 0x200A) || n = 0x2028 || n = 0x2029 || n = 0x202F || n = 0x205F || n = 0x3000

/-- `not value.strip()`. -/
def blank (value : String) : Bool := value.toList.all isPySpace

theorem blank_append {a b : String} (h : blank a = false) : blank (a ++ b) = false := by
  rw [blank, String.toList_append, List.all_append, ← blank, h, Bool.false_and]

/-- A result is kept if nothing is raised. -/
theorem toOption_eq_some {α : Type} {x : Except PyError α} {a : α} :
    x.toOption = some a ↔ x = .ok a := by
  cases x <;> simp [Except.toOption]

theorem ok_of_isOk {α : Type} {x : Except PyError α} (h : x.isOk = true) : ∃ a, x = .ok a := by
  cases x with
  | ok a => exact ⟨a, rfl⟩
  | error error => cases h

/-- A sequence of two steps that may raise returns if both do. -/
theorem bind_eq_ok {α β : Type} {x : Except PyError α} {f : α → Except PyError β} {y : β}
    (h : x >>= f = .ok y) : ∃ a, x = .ok a ∧ f a = .ok y := by
  cases x with
  | error e => cases h
  | ok a => exact ⟨a, rfl, h⟩

theorem bind_ok_iff {α β : Type} {x : Except PyError α} {f : α → Except PyError β} {y : β} :
    (x >>= f) = .ok y ↔ ∃ a, x = .ok a ∧ f a = .ok y := by
  refine ⟨bind_eq_ok, ?_⟩
  rintro ⟨a, rfl, h⟩
  exact h

theorem error_bind {α β : Type} (error : PyError) (f : α → Except PyError β) :
    (Except.error error >>= f) = Except.error error := rfl

theorem ok_bind {α β : Type} (value : α) (f : α → Except PyError β) :
    (Except.ok value >>= f) = f value := rfl

theorem bind_of_ok {α β : Type} {x : Except PyError α} {a : α} (h : x = .ok a)
    (f : α → Except PyError β) : (x >>= f) = f a := by
  rw [h]
  rfl

/-- `JSONValue`; an object keeps its fields in order. -/
inductive JSONValue
  | null
  | bool (value : Bool)
  | int (value : Int)
  | float (value : PyFloat)
  | str (value : String)
  | list (items : List JSONValue)
  | obj (fields : List (String × JSONValue))

/-- The key of a dictionary entry. -/
def entryKey {α : Type} (entry : String × α) : String := entry.1

/-- A `dict` with text keys, in insertion order. -/
abbrev Dict (α : Type) := KeyedTable (entryKey (α := α))

/-- `dict.get(key)`. -/
def Dict.get? {α : Type} (d : Dict α) (key : String) : Option α := (d.find key).map Prod.snd

theorem Dict.get?_put {α : Type} (d : Dict α) (key key' : String) (value : α) :
    Dict.get? (d.put (key, value)) key' = if key = key' then some value else d.get? key' := by
  unfold Dict.get?
  rw [KeyedTable.find_put]
  have hkey : entryKey (key, value) = key := rfl
  rw [hkey]
  by_cases h : key = key'
  · rw [if_pos h, if_pos h]
    rfl
  · rw [if_neg h, if_neg h]

theorem Dict.get?_erase {α : Type} (d : Dict α) (key key' : String) :
    Dict.get? (d.erase key) key' = if key = key' then none else d.get? key' := by
  unfold Dict.get?
  rw [KeyedTable.find_erase]
  by_cases h : key = key'
  · rw [if_pos h, if_pos h]
    rfl
  · rw [if_neg h, if_neg h]

theorem Dict.get?_ofList {α : Type} (rows : List (String × α)) (key : String) :
    Dict.get? (.ofList rows) key =
      (rows.reverse.find? fun row => row.1 = key).map Prod.snd := by
  unfold Dict.get? KeyedTable.ofList
  rw [KeyedTable.find_putAll, KeyedTable.find_empty, Option.or_none]
  rfl

/-- A payload: `Mapping[str, JSONValue]`. -/
abbrev Payload := Dict JSONValue

/-- The conversions whose grammar plays no part here.  `fromisoformat` gives the
wall clock and the offset, if one is written; `dictOfPairs` is `dict` of a list
that is not empty. -/
structure Builtins where
  strOf : JSONValue → Except PyError String
  floatOfInt : Int → Except PyError PyFloat
  floatOfStr : String → Except PyError PyFloat
  fromisoformat : String → Except PyError (Int × Option Int)
  addSeconds : Datetime → PyFloat → Except PyError Datetime
  dictOfPairs : List JSONValue → Except PyError Payload

/-- Truth value testing. -/
def JSONValue.truthy : JSONValue → Bool
  | null => false
  | bool value => value
  | int value => value ≠ 0
  | float value => value ≠ .finite 0
  | str value => value ≠ ""
  | list items => !items.isEmpty
  | obj fields => !fields.isEmpty

/-- `value == text`. -/
def JSONValue.equalsText (value : JSONValue) (text : String) : Bool :=
  match value with
  | .str value => value = text
  | _ => false

/-- The items a `for` loop sees. -/
def JSONValue.iterate : JSONValue → Except PyError (List JSONValue)
  | .list items => .ok items
  | .str value => .ok (value.toList.map fun c => .str c.toString)
  | .obj fields => .ok (fields.map fun field => .str field.1)
  | _ => .error .typeError

namespace Payload

/-- `payload[key]`. -/
def item (p : Payload) (key : String) : Except PyError JSONValue :=
  match Dict.get? p key with
  | some value => .ok value
  | none => .error (.keyError key)

/-- `payload.get(key)`: an absent field reads as `None`. -/
def get (p : Payload) (key : String) : JSONValue := (Dict.get? p key).getD .null

end Payload

namespace Builtins

variable (b : Builtins)

/-- `str(value)`. -/
def str : JSONValue → Except PyError String
  | .str value => .ok value
  | .null => .ok "None"
  | .bool value => .ok (if value then "True" else "False")
  | value => b.strOf value

/-- `float(value)`. -/
def float : JSONValue → Except PyError PyFloat
  | .float value => .ok value
  | .bool value => .ok (.finite (if value then 1 else 0))
  | .int value => b.floatOfInt value
  | .str value => b.floatOfStr value
  | _ => .error .typeError

/-- `parse_datetime(value)`: a naive time is read as UTC. -/
def parseDatetime : JSONValue → Except PyError (Option Datetime)
  | .null => .ok none
  | .str value => do
    match ← b.fromisoformat value with
    | (wall, none) => return some (.utc wall)
    | (wall, some offset) => return some ⟨wall - offset, offset⟩
  | _ => .error .typeError

/-- `dict(value)`. -/
def dict : JSONValue → Except PyError Payload
  | .obj fields => .ok (.ofList fields)
  | .list [] => .ok .empty
  | .list items => b.dictOfPairs items
  | .str value => if value = "" then .ok .empty else .error (.valueError "dictionary update sequence")
  | _ => .error .typeError

end Builtins

end Noema
