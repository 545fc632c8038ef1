/-!
# Characters and texts

Classes of characters, digits, and how a text is searched (`in`), taken apart (`split`) and put
together (`join`, `replace`).
-/
namespace Compliance.Text

/-!
## Sets of characters

A class of characters is a list of code point ranges. `Ranges.has` is membership; everything else
that names a class of characters is a table of this type.
-/

/-- Code point ranges, both ends included, in ascending order. -/
abbrev Ranges := List (Nat × Nat)

/-- Whether a character lies in one of the ranges. -/
def Ranges.has (rs : Ranges) (c : Char) : Bool :=
  rs.any fun r => r.1 ≤ c.toNat && c.toNat ≤ r.2

/-!
## Blank characters

Two sets are in use. `isBlank` is the class `\s` of a search pattern; it counts the four
information separators. `isWhiteSpace` is the property White_Space, which may surround a number and
which a field value is trimmed by; it does not.
-/

/-- White space and the information separators. -/
def blank : Ranges := [
    (9, 13), (28, 32), (133, 133), (160, 160), (5760, 5760), (8192, 8202),
    (8232, 8233), (8239, 8239), (8287, 8287), (12288, 12288)]

/-- Whether a character is blank for a search pattern. -/
def isBlank (c : Char) : Bool := blank.has c

/-- Whether a character has the property White_Space. -/
def isWhiteSpace (c : Char) : Bool := isBlank c && !(28 ≤ c.toNat && c.toNat ≤ 31)

/-- A text without the characters of a class at its two ends. -/
def trimBoth (drop : Char → Bool) (s : List Char) : List Char :=
  ((s.dropWhile drop).reverse.dropWhile drop).reverse

example : isBlank '\x1c' = true ∧ isWhiteSpace '\x1c' = false := by decide

/-!
## Digits

The decimal digits of every script come in runs of ten consecutive code points, from zero to nine.
Hexadecimal digits are ASCII.
-/

/-- The code point of each script's digit zero. -/
def zeros : List Nat := [
    48, 1632, 1776, 1984, 2406, 2534, 2662, 2790, 2918, 3046,
    3174, 3302, 3430, 3558, 3664, 3792, 3872, 4160, 4240, 6112,
    6160, 6470, 6608, 6784, 6800, 6992, 7088, 7232, 7248, 42528,
    43216, 43264, 43472, 43504, 43600, 44016, 65296, 66720, 68912, 69734,
    69872, 69942, 70096, 70384, 70736, 70864, 71248, 71360, 71472, 71904,
    72016, 72784, 73040, 73120, 92768, 92864, 93008, 120782, 120792, 120802,
    120812, 120822, 123200, 123632, 125264, 130032]

/-- The value of a decimal digit of any script. -/
def digitValue? (c : Char) : Option Nat :=
  (zeros.find? fun z => z ≤ c.toNat && c.toNat < z + 10).map (c.toNat - ·)

/-- Whether a character is a decimal digit of any script. -/
def isDigit (c : Char) : Bool := (digitValue? c).isSome

/-- The value of one of the ten ASCII digits. -/
def asciiDigit? (c : Char) : Option Nat :=
  if c.isDigit then some (c.toNat - 48) else none

/-- The value of a hexadecimal digit. -/
def hexDigit? (c : Char) : Option Nat :=
  if c.isDigit then some (c.toNat - 48)
  else if 'a' ≤ c ∧ c ≤ 'f' then some (c.toNat - 87)
  else if 'A' ≤ c ∧ c ≤ 'F' then some (c.toNat - 55)
  else none

/-- Exactly `n` hexadecimal digits. -/
def takeHex? : Nat → Nat → List Char → Option (Nat × List Char)
  | 0, value, cs => some (value, cs)
  | n + 1, value, c :: cs => (hexDigit? c).bind fun d => takeHex? n (16 * value + d) cs
  | _ + 1, _, [] => none

example : digitValue? '7' = some 7 ∧ digitValue? 'x' = none := by decide

end Compliance.Text

namespace Compliance

/-! ## Joined texts -/

/-- The pieces with a separator between them. -/
def joined (sep : String) : List String → String
  | [] => ""
  | [s] => s
  | s :: rest => s ++ sep ++ joined sep rest

end Compliance

namespace Compliance.Text

/-!
## Finding and replacing text

Both walk a text once from the left. Occurrences that are replaced do not overlap, and what is put
in their place is not searched again.
-/

/-- Whether `part` occurs somewhere in a text. -/
def occurs (part : List Char) : List Char → Bool
  | [] => part.isEmpty
  | c :: cs => part.isPrefixOf (c :: cs) || occurs part cs

/-- Writes `new` for every occurrence of `old`; `skip` characters are still part of the last one. -/
def replaceFrom (old new : List Char) : Nat → List Char → List Char
  | _, [] => []
  | skip + 1, _ :: cs => replaceFrom old new skip cs
  | 0, c :: cs =>
    if old.isPrefixOf (c :: cs) then new ++ replaceFrom old new (old.length - 1) cs
    else c :: replaceFrom old new 0 cs

/-- Whether one text occurs in another. -/
def contains (part whole : String) : Bool := occurs part.toList whole.toList

/-- A text with `new` written for every occurrence of `old`. -/
def replace (old new : String) (s : String) : String :=
  String.ofList (replaceFrom old.toList new.toList 0 s.toList)

/-- The pieces of a text between occurrences of a character. -/
def splitAt (sep : Char) : List Char → List (List Char)
  | [] => [[]]
  | c :: cs =>
    if c = sep then [] :: splitAt sep cs
    else
      match splitAt sep cs with
      | [] => [[c]]
      | piece :: pieces => (c :: piece) :: pieces

/-- The pieces of a text between occurrences of a character. -/
def pieces (sep : Char) (s : String) : List String :=
  (splitAt sep s.toList).map String.ofList

theorem replaceFrom_skip (old new : List Char) (skip : Nat) (s : List Char) :
    replaceFrom old new skip s = replaceFrom old new 0 (s.drop skip) := by
  induction s generalizing skip with
  | nil => cases skip <;> rfl
  | cons c cs ih =>
    cases skip with
    | zero => rfl
    | succ skip => exact ih skip

/-- An occurrence at the beginning is replaced. -/
theorem replaceFrom_append (new : List Char) {old : List Char} (h : old ≠ []) (s : List Char) :
    replaceFrom old new 0 (old ++ s) = new ++ replaceFrom old new 0 s := by
  cases old with
  | nil => exact absurd rfl h
  | cons c cs =>
    have hprefix : (c :: cs).isPrefixOf (c :: (cs ++ s)) = true := by simp
    rw [List.cons_append, replaceFrom, if_pos hprefix, replaceFrom_skip]
    simp

/-- What stands before the first place where an occurrence may begin is copied. -/
theorem replaceFrom_copy (new : List Char) {old w s : List Char}
    (h : ∀ x y, w = x ++ y → y ≠ [] → ¬ old <+: y ++ s) :
    replaceFrom old new 0 (w ++ s) = w ++ replaceFrom old new 0 s := by
  induction w with
  | nil => rfl
  | cons c w ih =>
    have hnot : ¬ old.isPrefixOf (c :: (w ++ s)) = true := by
      rw [List.isPrefixOf_iff_prefix]
      exact h [] (c :: w) rfl (List.cons_ne_nil c w)
    have hrest : ∀ x y, w = x ++ y → y ≠ [] → ¬ old <+: y ++ s :=
      fun x y hw => h (c :: x) y (by rw [hw]; rfl)
    rw [List.cons_append, replaceFrom, if_neg hnot, ih hrest]
    rfl

end Compliance.Text
