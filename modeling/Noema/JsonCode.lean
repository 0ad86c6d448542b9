import Noema.ContentIds
import Noema.Lib.PrefixCode

/-!
# A digest for examples

A text for every JSON value, which different values do not share.  The examples take it for
the digest of a record, except that the values they know have short digests.
-/
namespace Noema

open PrefixCode

def floatCode : PyFloat → List Char
  | .finite value => 'f' :: ratCode value
  | .infinity true => ['m']
  | .infinity false => ['p']
  | .nan => ['n']

theorem floatCode_prefixFree : PrefixFree floatCode := by
  intro value value' r r' h
  rcases value with q | (_ | _) | _ <;> rcases value' with q' | (_ | _) | _ <;>
    simp only [floatCode, List.cons_append, List.nil_append, List.cons.injEq] at h
  case finite.finite =>
    obtain ⟨hsame, hrest⟩ := ratCode_prefixFree h.2
    exact ⟨congrArg PyFloat.finite hsame, hrest⟩
  all_goals first | exact ⟨rfl, h.2⟩ | exact absurd h.1 (by decide)

mutual

/-- Each value after a letter for its kind; lists and objects are chains with an end. -/
def JSONValue.code : JSONValue → List Char
  | .null => ['N']
  | .bool true => ['T']
  | .bool false => ['B']
  | .int value => 'I' :: intCode value
  | .float value => 'F' :: floatCode value
  | .str value => 'S' :: textCode value
  | .list items => 'L' :: itemsCode items
  | .obj fields => 'O' :: fieldsCode fields

def itemsCode : List JSONValue → List Char
  | [] => ['.']
  | item :: items => ',' :: (item.code ++ itemsCode items)

def fieldsCode : List (String × JSONValue) → List Char
  | [] => ['.']
  | (key, value) :: fields => ',' :: (textCode key ++ (value.code ++ fieldsCode fields))

end

mutual

theorem code_prefixFree : ∀ (value value' : JSONValue) {r r' : List Char},
    value.code ++ r = value'.code ++ r' → value = value' ∧ r = r'
  | .null, value', r, r', h => by
    rcases value' with _ | (_ | _) | _ | _ | _ | _ | _ <;>
      simp only [JSONValue.code, List.cons_append, List.nil_append, List.cons.injEq] at h
    case null => exact ⟨rfl, h.2⟩
    all_goals exact absurd h.1 (by decide)
  | .bool true, value', r, r', h => by
    rcases value' with _ | (_ | _) | _ | _ | _ | _ | _ <;>
      simp only [JSONValue.code, List.cons_append, List.nil_append, List.cons.injEq] at h
    case bool.true => exact ⟨rfl, h.2⟩
    all_goals exact absurd h.1 (by decide)
  | .bool false, value', r, r', h => by
    rcases value' with _ | (_ | _) | _ | _ | _ | _ | _ <;>
      simp only [JSONValue.code, List.cons_append, List.nil_append, List.cons.injEq] at h
    case bool.false => exact ⟨rfl, h.2⟩
    all_goals exact absurd h.1 (by decide)
  | .int value, value', r, r', h => by
    rcases value' with _ | (_ | _) | _ | _ | _ | _ | _ <;>
      simp only [JSONValue.code, List.cons_append, List.nil_append, List.cons.injEq] at h
    case int value' =>
      obtain ⟨hsame, hrest⟩ := intCode_prefixFree h.2
      exact ⟨congrArg JSONValue.int hsame, hrest⟩
    all_goals exact absurd h.1 (by decide)
  | .float value, value', r, r', h => by
    rcases value' with _ | (_ | _) | _ | _ | _ | _ | _ <;>
      simp only [JSONValue.code, List.cons_append, List.nil_append, List.cons.injEq] at h
    case float value' =>
      obtain ⟨hsame, hrest⟩ := floatCode_prefixFree h.2
      exact ⟨congrArg JSONValue.float hsame, hrest⟩
    all_goals exact absurd h.1 (by decide)
  | .str value, value', r, r', h => by
    rcases value' with _ | (_ | _) | _ | _ | _ | _ | _ <;>
      simp only [JSONValue.code, List.cons_append, List.nil_append, List.cons.injEq] at h
    case str value' =>
      obtain ⟨hsame, hrest⟩ := textCode_prefixFree h.2
      exact ⟨congrArg JSONValue.str hsame, hrest⟩
    all_goals exact absurd h.1 (by decide)
  | .list items, value', r, r', h => by
    rcases value' with _ | (_ | _) | _ | _ | _ | items' | _ <;>
      simp only [JSONValue.code, List.cons_append, List.nil_append, List.cons.injEq] at h
    case list =>
      obtain ⟨hsame, hrest⟩ := itemsCode_prefixFree items items' h.2
      exact ⟨congrArg JSONValue.list hsame, hrest⟩
    all_goals exact absurd h.1 (by decide)
  | .obj fields, value', r, r', h => by
    rcases value' with _ | (_ | _) | _ | _ | _ | _ | fields' <;>
      simp only [JSONValue.code, List.cons_append, List.nil_append, List.cons.injEq] at h
    case obj =>
      obtain ⟨hsame, hrest⟩ := fieldsCode_prefixFree fields fields' h.2
      exact ⟨congrArg JSONValue.obj hsame, hrest⟩
    all_goals exact absurd h.1 (by decide)

theorem itemsCode_prefixFree : ∀ (items items' : List JSONValue) {r r' : List Char},
    itemsCode items ++ r = itemsCode items' ++ r' → items = items' ∧ r = r'
  | [], [], _, _, h => ⟨rfl, (List.cons.inj h).2⟩
  | [], _ :: _, _, _, h => absurd (List.cons.inj h).1 (by decide)
  | _ :: _, [], _, _, h => absurd (List.cons.inj h).1 (by decide)
  | item :: items, item' :: items', r, r', h => by
    simp only [itemsCode, List.cons_append, List.append_assoc, List.cons.injEq, true_and] at h
    obtain ⟨hitem, htail⟩ := code_prefixFree item item' h
    obtain ⟨hitems, hrest⟩ := itemsCode_prefixFree items items' htail
    exact ⟨by rw [hitem, hitems], hrest⟩

theorem fieldsCode_prefixFree : ∀ (fields fields' : List (String × JSONValue)) {r r' : List Char},
    fieldsCode fields ++ r = fieldsCode fields' ++ r' → fields = fields' ∧ r = r'
  | [], [], _, _, h => ⟨rfl, (List.cons.inj h).2⟩
  | [], _ :: _, _, _, h => absurd (List.cons.inj h).1 (by decide)
  | _ :: _, [], _, _, h => absurd (List.cons.inj h).1 (by decide)
  | (key, value) :: fields, (key', value') :: fields', r, r', h => by
    simp only [fieldsCode, List.cons_append, List.append_assoc, List.cons.injEq, true_and] at h
    obtain ⟨hkey, htail⟩ := textCode_prefixFree h
    obtain ⟨hvalue, htail⟩ := code_prefixFree value value' htail
    obtain ⟨hfields, hrest⟩ := fieldsCode_prefixFree fields fields' htail
    exact ⟨by rw [hkey, hvalue, hfields], hrest⟩

end

theorem code_injective : Function.Injective JSONValue.code := fun value value' h => by
  have hsame : value.code ++ [] = value'.code ++ [] := by rw [h]
  exact (code_prefixFree value value' hsame).1

/-- The number of a known value, or the code of another one. -/
def plainDigest (known : List JSONValue) (text : JsonText) : String :=
  match (known.map JSONValue.code).findIdx? (· = text.value.code) with
  | some index => .ofList ('k' :: natCode index)
  | none => .ofList ('c' :: text.value.code)

theorem plainDigest_injective (known : List JSONValue) : Function.Injective (plainDigest known) := by
  intro text text' h
  suffices hcode : text.value.code = text'.value.code by
    cases text
    cases text'
    exact congrArg JsonText.mk (code_injective hcode)
  unfold plainDigest at h
  have hlists := congrArg String.toList h
  split at hlists
  · rename_i index hindex
    obtain ⟨hlt, hfound, -⟩ := List.findIdx?_eq_some_iff_getElem.mp hindex
    split at hlists
    · rename_i index' hindex'
      obtain ⟨hlt', hfound', -⟩ := List.findIdx?_eq_some_iff_getElem.mp hindex'
      rw [String.toList_ofList, String.toList_ofList] at hlists
      have hsame := natCode_prefixFree.injective (List.cons.inj hlists).2
      subst hsame
      exact (of_decide_eq_true hfound).symm.trans (of_decide_eq_true hfound')
    · rw [String.toList_ofList, String.toList_ofList] at hlists
      exact absurd (List.cons.inj hlists).1 (by decide)
  · split at hlists
    · rw [String.toList_ofList, String.toList_ofList] at hlists
      exact absurd (List.cons.inj hlists).1 (by decide)
    · rw [String.toList_ofList, String.toList_ofList] at hlists
      exact (List.cons.inj hlists).2

/-! ## Times -/

/-- The text of the epoch. -/
def epochIso : String := "1970-01-01T00:00:00+00:00"

/-- A time as a text: the epoch as ISO 8601 has it, another time as a code. -/
def plainIsoformat (time : Datetime) : String :=
  if time = .utc 0 then epochIso
  else .ofList ('d' :: (intCode time.instant ++ intCode time.utcOffset))

def readNat : List Char → Option (Nat × List Char)
  | '.' :: rest => some (0, rest)
  | 'x' :: rest => (readNat rest).map fun read => (read.1 + 1, read.2)
  | _ => none

theorem readNat_natCode (n : Nat) (rest : List Char) : readNat (natCode n ++ rest) = some (n, rest) := by
  induction n with
  | zero => rfl
  | succ n ih =>
    show (readNat (natCode n ++ rest)).map _ = _
    rw [ih]
    rfl

def readInt : List Char → Option (Int × List Char)
  | '+' :: rest => (readNat rest).map fun read => (.ofNat read.1, read.2)
  | '-' :: rest => (readNat rest).map fun read => (.negSucc read.1, read.2)
  | _ => none

theorem readInt_intCode (n : Int) (rest : List Char) : readInt (intCode n ++ rest) = some (n, rest) := by
  cases n with
  | ofNat n =>
    show (readNat (natCode n ++ rest)).map _ = _
    rw [readNat_natCode]
    rfl
  | negSucc n =>
    show (readNat (natCode n ++ rest)).map _ = _
    rw [readNat_natCode]
    rfl

/-- The instant and the offset of a code. -/
def readTime (text : List Char) : Option (Int × Int) := do
  let (instant, rest) ← readInt text
  let (utcOffset, _) ← readInt rest
  return (instant, utcOffset)

def plainFromisoformat (text : String) : Except PyError (Int × Option Int) :=
  if text = epochIso then .ok (0, some 0)
  else
    match readTime (text.toList.drop 1) with
    | some (instant, utcOffset) => .ok (instant + utcOffset, some utcOffset)
    | none => .error (.valueError "Invalid isoformat string")

theorem plainFromisoformat_plainIsoformat (time : Datetime) :
    plainFromisoformat (plainIsoformat time) =
      .ok (time.instant + time.utcOffset, some time.utcOffset) := by
  unfold plainIsoformat
  split_ifs with hepoch
  · rw [hepoch]
    rfl
  · have hne : String.ofList ('d' :: (intCode time.instant ++ intCode time.utcOffset)) ≠ epochIso := by
      intro h
      have hlists := congrArg String.toList h
      rw [String.toList_ofList] at hlists
      exact absurd (List.cons.inj hlists).1 (by decide)
    have hread : readTime (intCode time.instant ++ intCode time.utcOffset) =
        some (time.instant, time.utcOffset) := by
      have hrest := readInt_intCode time.utcOffset []
      rw [List.append_nil] at hrest
      rw [readTime, readInt_intCode]
      show (do let (utcOffset, _) ← readInt (intCode time.utcOffset); return (time.instant, utcOffset)) = _
      rw [hrest]
      rfl
    rw [plainFromisoformat, if_neg hne, String.toList_ofList, List.drop_one, List.tail_cons, hread]

/-! ## Builtins -/

/-- A digest that says nothing. -/
def blankDigest : Digest := ⟨"00000000000000000000000000000000", by decide +kernel⟩

/-- Conversions on which the examples run; `int` and `float` of a text are not used there. -/
def plainContent (known : List JSONValue) : ContentBuiltins where
  strOf := fun _ => .error .typeError
  floatOfInt := fun value => .ok (.finite value)
  floatOfStr := fun _ => .error (.valueError "could not convert string to float")
  fromisoformat := plainFromisoformat
  addSeconds := fun _ _ => .error .overflowError
  dictOfPairs := fun _ => .error (.valueError "dictionary update sequence")
  intOfStr := fun _ => .error (.valueError "invalid literal for int()")
  sameEvent := fun event event' => event.id = event'.id
  ids := ⟨fun _ => "", fun _ => "", fun _ => "", fun _ => "", fun _ => "", fun _ => "", fun _ => ""⟩
  workOrderFromDict := fun _ => .error (.valueError "work order")
  workOrderFromEvent := fun _ => .error (.valueError "work order")
  workGraphFromEvent := fun _ => .error (.valueError "work graph")
  isoformat := plainIsoformat
  informationIds := ⟨fun _ => blankDigest, fun _ => blankDigest, fun _ => blankDigest,
    fun _ => blankDigest, fun _ => blankDigest, fun _ => blankDigest, fun _ => blankDigest,
    fun _ => blankDigest, fun _ => blankDigest, fun _ => blankDigest, fun _ => blankDigest,
    fun _ => blankDigest, fun _ => blankDigest, fun _ => blankDigest, fun _ => blankDigest,
    fun _ => blankDigest⟩
  sha256 := plainDigest known
  sha256_injective := plainDigest_injective known

theorem plainContent_parse (known : List JSONValue) (time : Datetime) :
    (plainContent known).parseDatetime (.str ((plainContent known).isoformat time)) =
      .ok (some time) := by
  have hread : (plainContent known).fromisoformat ((plainContent known).isoformat time) =
      .ok (time.instant + time.utcOffset, some time.utcOffset) :=
    plainFromisoformat_plainIsoformat time
  unfold Builtins.parseDatetime
  dsimp only
  rw [hread]
  show Except.ok (some (⟨time.instant + time.utcOffset - time.utcOffset, time.utcOffset⟩ : Datetime)) = _
  rw [Int.add_sub_cancel]

end Noema
