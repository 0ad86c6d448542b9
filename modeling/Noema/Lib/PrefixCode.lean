import Mathlib.Data.List.Basic
import Mathlib.Data.Rat.Defs

/-!
# Prefix codes

A code that tells its values apart also when more text follows.  Such codes compose: a text
that is made of codes is read in one way only.
-/
namespace PrefixCode

variable {α β : Type*}

/-- No value's code followed by a text is another value's code followed by a text. -/
def PrefixFree (code : α → List Char) : Prop :=
  ∀ {a a' : α} {r r' : List Char}, code a ++ r = code a' ++ r' → a = a' ∧ r = r'

theorem PrefixFree.injective {code : α → List Char} (h : PrefixFree code) :
    Function.Injective code := fun a a' hcode => by
  have hsame : code a ++ [] = code a' ++ [] := by rw [hcode]
  exact (h hsame).1

/-- A pair as the codes of both. -/
theorem PrefixFree.pair {code : α → List Char} {code' : β → List Char} (h : PrefixFree code)
    (h' : PrefixFree code') : PrefixFree fun p : α × β => code p.1 ++ code' p.2 := by
  intro p q r r' hcode
  rw [List.append_assoc, List.append_assoc] at hcode
  obtain ⟨hfirst, hrest⟩ := h hcode
  obtain ⟨hsecond, hrest⟩ := h' hrest
  exact ⟨Prod.ext hfirst hsecond, hrest⟩

/-- A number in unary. -/
def natCode : Nat → List Char
  | 0 => ['.']
  | n + 1 => 'x' :: natCode n

theorem natCode_prefixFree : PrefixFree natCode := by
  intro n
  induction n with
  | zero =>
    intro m r r' h
    cases m with
    | zero => exact ⟨rfl, (List.cons.inj h).2⟩
    | succ m => exact absurd (List.cons.inj h).1 (by decide)
  | succ n ih =>
    intro m r r' h
    cases m with
    | zero => exact absurd (List.cons.inj h).1 (by decide)
    | succ m =>
      obtain ⟨hsame, hrest⟩ := ih (List.cons.inj h).2
      exact ⟨congrArg Nat.succ hsame, hrest⟩

def intCode : Int → List Char
  | .ofNat n => '+' :: natCode n
  | .negSucc n => '-' :: natCode n

theorem intCode_prefixFree : PrefixFree intCode := by
  intro n m r r' h
  cases n with
  | ofNat n =>
    cases m with
    | ofNat m =>
      obtain ⟨hsame, hrest⟩ := natCode_prefixFree (List.cons.inj h).2
      exact ⟨congrArg Int.ofNat hsame, hrest⟩
    | negSucc m => exact absurd (List.cons.inj h).1 (by decide)
  | negSucc n =>
    cases m with
    | ofNat m => exact absurd (List.cons.inj h).1 (by decide)
    | negSucc m =>
      obtain ⟨hsame, hrest⟩ := natCode_prefixFree (List.cons.inj h).2
      exact ⟨congrArg Int.negSucc hsame, hrest⟩

/-- The numerator and the denominator. -/
def ratCode (q : ℚ) : List Char := intCode q.num ++ natCode q.den

theorem ratCode_prefixFree : PrefixFree ratCode := by
  intro q q' r r' h
  obtain ⟨hsame, hrest⟩ :=
    @PrefixFree.pair Int Nat _ _ intCode_prefixFree natCode_prefixFree (q.num, q.den) (q'.num, q'.den) r r' h
  exact ⟨Rat.ext (congrArg Prod.fst hsame) (congrArg Prod.snd hsame), hrest⟩

/-- Characters, each after a mark. -/
def charsCode : List Char → List Char
  | [] => ['1']
  | c :: chars => '0' :: c :: charsCode chars

theorem charsCode_prefixFree : PrefixFree charsCode := by
  intro chars
  induction chars with
  | nil =>
    intro chars' r r' h
    cases chars' with
    | nil => exact ⟨rfl, (List.cons.inj h).2⟩
    | cons c' chars' => exact absurd (List.cons.inj h).1 (by decide)
  | cons c chars ih =>
    intro chars' r r' h
    cases chars' with
    | nil => exact absurd (List.cons.inj h).1 (by decide)
    | cons c' chars' =>
      obtain ⟨-, htail⟩ := List.cons.inj h
      obtain ⟨hchar, htail⟩ := List.cons.inj htail
      obtain ⟨hsame, hrest⟩ := ih htail
      exact ⟨by rw [hchar, hsame], hrest⟩

def textCode (text : String) : List Char := charsCode text.toList

theorem textCode_prefixFree : PrefixFree textCode := by
  intro text text' r r' h
  obtain ⟨hsame, hrest⟩ := charsCode_prefixFree h
  exact ⟨String.toList_injective hsame, hrest⟩

end PrefixCode
