import Compliance.Text.Basic
import Compliance.Text.LetterCase
import Compliance.Text.Word

/-!
# Search patterns

What a pattern is made of: sets of characters, conditions on a place, copies, groups that remember
what they matched, and looks ahead and behind. Characters are given by their code points, so that a
pattern can name any of them. This is the module `re`, as far as searching goes.
-/
namespace Compliance.Pattern

/-- Which letters count as the same. -/
inductive CaseRule where
  | exact
  /-- ASCII letters regardless of case. -/
  | ascii
  /-- All letters regardless of case. -/
  | full
  deriving DecidableEq

/-- A class of characters. -/
inductive Kind where
  | digit
  | blank
  | word
  deriving DecidableEq

/-- A part of a set of characters. A class can be asked for or excluded, and can be confined to
ASCII. -/
inductive Item where
  | literal (code : Nat)
  | range (low high : Nat)
  | kind (k : Kind) (wanted ascii : Bool)
  deriving DecidableEq

/-- A set of characters. -/
structure CharSet where
  items : List Item
  negated : Bool
  rule : CaseRule
  deriving DecidableEq

/-- A condition on a place. -/
inductive Anchor where
  | textStart
  | lineStart
  | textEnd
  /-- At the end, or before a line break that ends the text. -/
  | lastLineEnd
  | lineEnd
  /-- Between a word character and a character or an end that is none; neither this nor the opposite
  holds in an empty text. -/
  | wordBoundary (wanted ascii : Bool)
  deriving DecidableEq

/-- In which order numbers of copies are tried. -/
inductive Greed where
  /-- As many as possible first. -/
  | greedy
  /-- As few as possible first. -/
  | lazy
  /-- As many as possible, and no other number. -/
  | possessive
  deriving DecidableEq

end Pattern

inductive Pattern where
  | empty
  | one (set : Pattern.CharSet)
  | anchor (a : Pattern.Anchor)
  | seq (first second : Pattern)
  | alt (left right : Pattern)
  /-- At least `least` copies, and at most `most` if there is a bound. -/
  | copies (p : Pattern) (least : Nat) (most : Option Nat) (greed : Pattern.Greed)
  /-- Remembers what is matched under a number. -/
  | group (number : Nat) (p : Pattern)
  /-- What a group has matched, once more. -/
  | again (number : Nat) (rule : Pattern.CaseRule)
  /-- One pattern if a group has matched, and another if not. -/
  | ifGroup (number : Nat) (yes no : Pattern)
  /-- A match that is not tried in any other way. -/
  | atomic (p : Pattern)
  /-- A match that begins so many characters before this place, or the lack of one; it takes up
  nothing. -/
  | look (back : Nat) (p : Pattern) (wanted : Bool)

namespace Pattern

/-- Whether a character belongs to a class. -/
def Kind.has (ascii : Bool) (c : Char) : Kind → Bool
  | .digit => if ascii then c.isDigit else Text.isDigit c
  | .blank => if ascii then 9 ≤ c.toNat && c.toNat ≤ 13 || c == ' ' else Text.isBlank c
  | .word => if ascii then c.isAlphanum || c == '_' else Text.isWordChar c

/-- The form of a letter by which it is compared. -/
def CaseRule.fold : CaseRule → Nat → Nat
  | .exact, n => n
  | .ascii, n => Text.asciiLowerCode n
  | .full, n => Text.lowerCode n

/-- The forms that count as the same as one form. -/
def CaseRule.twins : CaseRule → Nat → List Nat
  | .full, n => Text.twins n
  | _, n => [n]

/-- The code points with one of some forms. -/
def CaseRule.members (rule : CaseRule) (forms : List Nat) : List Nat :=
  forms.flatMap fun n =>
    match rule with
    | .exact => [n]
    | .ascii => if 97 ≤ n && n ≤ 122 then [n, n - 32] else [n]
    | .full => n :: Text.capitalsOf n

def Item.has (c : Char) : Item → Bool
  | .literal n => c.toNat == n
  | .range low high => low ≤ c.toNat && c.toNat ≤ high
  | .kind k wanted ascii => k.has ascii c == wanted

/-- Whether an item holds a letter in some case, given its folded form. Outside the first plane a
single letter stands for itself only, and a range holds its own letters and their capitals. -/
def Item.hasAnyCase (rule : CaseRule) (n : Nat) : Item → Bool
  | .literal x =>
    if rule.fold x < 0x10000 then (rule.twins n).contains (rule.fold x) else x == n
  | .range low high =>
    (rule.members (rule.twins n)).any (fun m => low ≤ m && m ≤ high && m < 0x10000) ||
      (0x10000 ≤ high &&
        (low ≤ n && n ≤ high || low ≤ Text.capitalCode n && Text.capitalCode n ≤ high))
  | .kind k wanted ascii => k.has ascii (Char.ofNat n) == wanted

/-- Whether a character is in a set. A set of one letter holds it in every case. -/
def CharSet.has (s : CharSet) (c : Char) : Bool :=
  let n := s.rule.fold c.toNat
  let found := match s.rule, s.items with
    | .exact, items => items.any (·.has c)
    | rule, [.literal x] => (rule.twins n).contains (rule.fold x)
    | rule, items => items.any (·.hasAnyCase rule n)
  found != s.negated

end Pattern
end Compliance
