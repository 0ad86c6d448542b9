import Mathlib.Data.List.Basic

/-!
# Shell patterns

`fnmatch.fnmatchcase`: `*` stands for any text, `?` for one character, `[…]` for one of
the characters listed and `[!…]` for one of the others.  A `[` that is never closed
stands for itself, and a range whose ends are the wrong way round for nothing.
-/
namespace Glob

/-- A piece of a pattern. -/
inductive Item
  | star
  | one
  | literal (c : Char)
  | among (negated : Bool) (ranges : List (Char × Char))

/-- The characters between brackets, as ranges. -/
def ranges : List Char → List (Char × Char)
  | low :: '-' :: high :: rest => (low, high) :: ranges rest
  | c :: rest => (c, c) :: ranges rest
  | [] => []

/-- The text up to the bracket that closes it, which is not its first character. -/
def bracket : List Char → Option (List Char × List Char)
  | [] => none
  | first :: rest =>
    if rest.contains ']' then
      some (first :: rest.takeWhile (· ≠ ']'), (rest.dropWhile (· ≠ ']')).drop 1)
    else none

/-- A pattern, read in as many passes as it has characters. -/
def parse : Nat → List Char → List Item
  | 0, _ => []
  | _ + 1, [] => []
  | fuel + 1, '*' :: rest => .star :: parse fuel rest
  | fuel + 1, '?' :: rest => .one :: parse fuel rest
  | fuel + 1, '[' :: rest =>
    let negated := rest.head? = some '!'
    match bracket (if negated then rest.tail else rest) with
    | some (body, rest) => .among negated (ranges body) :: parse fuel rest
    | none => .literal '[' :: parse fuel rest
  | fuel + 1, c :: rest => .literal c :: parse fuel rest

/-- What `*` lets through before the rest. -/
def skip (rest : List Char → Bool) : List Char → Bool
  | [] => rest []
  | c :: text => rest (c :: text) || skip rest text

def accepts : List Item → List Char → Bool
  | [], text => text.isEmpty
  | .star :: items, text => skip (accepts items) text
  | .one :: items, text =>
    match text with
    | [] => false
    | _ :: text => accepts items text
  | .literal c :: items, text =>
    match text with
    | [] => false
    | first :: text => first = c && accepts items text
  | .among negated ranges :: items, text =>
    match text with
    | [] => false
    | c :: text =>
      (ranges.any fun range => range.1 ≤ c && c ≤ range.2) != negated && accepts items text

/-- `fnmatch.fnmatchcase(text, pattern)`. -/
def fnmatchcase (text pattern : String) : Bool :=
  accepts (parse pattern.toList.length pattern.toList) text.toList

theorem skip_of_nil {rest : List Char → Bool} (h : rest [] = true) (text : List Char) :
    skip rest text = true := by
  induction text with
  | nil => exact h
  | cons c text ih => simp [skip, ih]

/-- **A star matches every text.** -/
theorem fnmatchcase_star (text : String) : fnmatchcase text "*" = true :=
  skip_of_nil rfl text.toList

end Glob
