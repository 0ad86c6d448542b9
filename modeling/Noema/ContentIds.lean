import Noema.EndogenousModels
import Noema.InformationPayloads
import Noema.JsonText
import Noema.MemoryModels

/-!
# Content-addressed records

The id of a record is a prefix and a digest of its canonical text: `json.dumps` of what it
says, with sorted keys and without the numbers that JSON does not have.  The digest is taken
to tell texts apart.

A number field holds what the constructor was given, an `int` or a `float`.  Both have the
same value for comparisons, but not the same text.
-/
namespace Noema

/-- A number that is given as an `int` or as a `float`. -/
inductive PyNumber
  | int (value : Int)
  | float (value : PyFloat)
deriving DecidableEq

namespace PyNumber

def toJson : PyNumber → JSONValue
  | int value => .int value
  | float value => .float value

/-- The number itself, with which Python compares. -/
def real : PyNumber → PyFloat
  | int value => .finite value
  | float value => value

/-- `math.isfinite(value)`, which converts an `int`. -/
def isfinite (b : Builtins) : PyNumber → Except PyError Bool
  | int value => PyFloat.isFinite <$> b.floatOfInt value
  | float value => .ok value.isFinite

end PyNumber

/-- `a < b`. -/
def PyFloat.less (a b : PyFloat) : Bool := a.atMost b && a ≠ b

/-- `isinstance(value, (int, float)) and not isinstance(value, bool)`. -/
def JSONScalar.number : JSONScalar → Option PyNumber
  | .int value => some (.int value)
  | .float value => some (.float value)
  | _ => none

/-- A number, or a boolean, which counts as one. -/
def JSONScalar.real : JSONScalar → Option PyFloat
  | .bool value => some (.finite (if value then 1 else 0))
  | .int value => some (.finite value)
  | .float value => some value
  | _ => none

/-- `a == b`. -/
def JSONScalar.equals : JSONScalar → JSONScalar → Bool
  | .null, .null => true
  | .str a, .str b => a = b
  | a, b =>
    match a.real, b.real with
    | some a, some b => a = b && a ≠ .nan
    | _, _ => false

def JSONScalar.toJson : JSONScalar → JSONValue
  | .null => .null
  | .bool value => .bool value
  | .int value => .int value
  | .float value => .float value
  | .str value => .str value

/-- A value that is a scalar. -/
def JSONValue.scalar : JSONValue → Option JSONScalar
  | .null => some .null
  | .bool value => some (.bool value)
  | .int value => some (.int value)
  | .float value => some (.float value)
  | .str value => some (.str value)
  | .list _ | .obj _ => none

mutual

/-- Every float is a number. -/
def JSONValue.finite : JSONValue → Bool
  | .float value => value.isFinite
  | .list items => finiteItems items
  | .obj fields => finiteFields fields
  | .null | .bool _ | .int _ | .str _ => true

def finiteItems : List JSONValue → Bool
  | [] => true
  | item :: items => item.finite && finiteItems items

def finiteFields : List (String × JSONValue) → Bool
  | [] => true
  | (_, value) :: fields => value.finite && finiteFields fields

end

/-- `json.dumps(value, sort_keys=True, allow_nan=False)`. -/
def canonicalJson (value : JSONValue) : Except PyError JsonText := do
  refuse (value.finite = false) "Out of range float values are not JSON compliant"
  jsonDumps value

/-- What content-addressed records run on: the conversions, and the digest of a canonical
text. -/
structure ContentBuiltins extends InformationBuiltins where
  sha256 : JsonText → String
  sha256_injective : Function.Injective sha256

/-- `_content_id(prefix, payload)`. -/
def ContentBuiltins.contentId (b : ContentBuiltins) (kind : String) (payload : Payload) :
    Except PyError String := do
  return kind ++ ":" ++ b.sha256 (← canonicalJson payload.value)

end Noema
