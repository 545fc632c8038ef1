import Compliance.Calendar.Moment

/-!
# Reading a text from a place

What a text is read with, and what may be wrong with it. This and the modules about scalars, tokens,
layout, nodes, tags and content are `yaml.safe_load`.
-/
namespace Compliance.Markup

/-!
## What is wrong with a text

A text may not be laid out as a document, or a scalar in it may not be what its tag says.
-/

inductive Fault where
  | malformed
  /-- A character is given by a number beyond the last one. -/
  | noCharacter
  /-- A character is given by a number that is no machine integer. -/
  | hugeCharacter
  /-- Collections lie too deep in each other. -/
  | tooDeep
  /-- A number has no characters besides its sign. -/
  | noDigits
  | notNumber (text : String)
  | notWhole (base : Nat) (digits : String)
  /-- A word stands for no truth value. -/
  | notTruth
  /-- A scalar has not the form of a date. -/
  | notDate
  /-- A mapping with a default value is taken as a date. -/
  | dateInMapping
  /-- A date or a time does not exist. -/
  | date (f : Calendar.Fault)
  deriving DecidableEq

/-- The value of a step that may fail in one way only. -/
def orMalformed {α : Type} : Option α → Except Fault α
  | some a => .ok a
  | none => .error .malformed

/-!
## A place in a text

A cursor holds what is still to be read and how far it has come, in characters and in lines and
columns, by which the structure of a document is laid out.
-/

structure Cursor where
  rest : List Char
  index : Nat
  line : Nat
  column : Nat

/-- Whether a character breaks a line. -/
def isBreak (c : Char) : Bool :=
  c == '\n' || c == '\x85' || c == '\u2028' || c == '\u2029'

/-- Whether a character ends a line, or the text ends. -/
def endsLine (c : Option Char) : Bool := c.all isBreak

/-- Whether a character is a blank or ends a line, or the text ends. -/
def endsWord (c : Option Char) : Bool := c.all fun c => c == ' ' || c == '\t' || isBreak c

namespace Cursor

/-- The beginning of a text; a byte order mark is passed over. -/
def start : List Char → Cursor
  | '\ufeff' :: cs => ⟨cs, 1, 0, 0⟩
  | cs => ⟨cs, 0, 0, 0⟩

/-- The next character. -/
def peek (c : Cursor) : Option Char := c.rest.head?

/-- The character `n` places on. -/
def peekAt (c : Cursor) (n : Nat) : Option Char := c.rest[n]?

/-- Passes over one character. -/
def next (c : Cursor) : Cursor :=
  match c.rest with
  | [] => c
  | ch :: cs =>
    if isBreak ch then ⟨cs, c.index + 1, c.line + 1, 0⟩
    else ⟨cs, c.index + 1, c.line, if ch = '\ufeff' then c.column else c.column + 1⟩

/-- Passes over some characters. -/
def skip : Nat → Cursor → Cursor
  | 0, c => c
  | n + 1, c => skip n c.next

/-- The characters of a class that come next, and the place after them. -/
def takeWhile (p : Char → Bool) (c : Cursor) : List Char × Cursor :=
  let cs := c.rest.takeWhile p
  (cs, c.skip cs.length)

def dropWhile (p : Char → Bool) (c : Cursor) : Cursor := (c.takeWhile p).2

/-- Passes over blanks. -/
def skipBlanks (c : Cursor) : Cursor := c.dropWhile (· == ' ')

/-- A line break, if one comes next. All but the two separators are the same. -/
def takeBreak? (c : Cursor) : Option (Char × Cursor) :=
  match c.peek with
  | some ch =>
    if ch = '\n' ∨ ch = '\x85' then some ('\n', c.next)
    else if isBreak ch then some (ch, c.next)
    else none
  | none => none

/-- Whether a mark of three characters comes next, as a word. -/
def hasMark (c : Cursor) (mark : List Char) : Bool :=
  mark.isPrefixOf c.rest && endsWord (c.peekAt 3)

/-- Whether a document begins or ends here. -/
def atDocumentMark (c : Cursor) : Bool :=
  c.hasMark ['-', '-', '-'] || c.hasMark ['.', '.', '.']

/-- Passes over the rest of a line, in which only a comment may stand. -/
def skipComment? (c : Cursor) : Option Cursor :=
  let c := c.skipBlanks
  let c := if c.peek = some '#' then c.dropWhile (!isBreak ·) else c
  match c.takeBreak? with
  | some (_, c) => some c
  | none => if c.rest.isEmpty then some c else none

end Cursor

end Compliance.Markup
