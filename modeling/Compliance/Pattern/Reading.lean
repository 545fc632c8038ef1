import Compliance.Number.Literal
import Compliance.Pattern.Match
import Compliance.Text.CharacterName
import Compliance.Text.Identifier

/-!
# Reading search patterns: marks, escapes and sets

A pattern is read mark by mark; a backslash and the character after it are one mark. What has been
learnt on the way, such as the groups and their widths, is carried along.
-/
namespace Compliance.Pattern

/-- Why a text is no search pattern, or cannot be searched for one. -/
inductive Fault where
  | malformed
  /-- A count is beyond the largest one. -/
  | countTooLarge
  /-- A count is written with so many digits that it is not read at all. -/
  | countTooLong (digits : Nat)
  /-- ASCII classes and general ones are asked for at once. -/
  | modesConflict
  /-- Groups are nested too deeply. -/
  | tooDeep
  /-- A number in what is searched for, searched in or shown has too many digits to be written. -/
  | unwritable
  deriving DecidableEq

/-- The words for a fault in what a pattern says, rather than in its form or size. -/
def Fault.message? : Fault → Option String
  | .modesConflict => some "ASCII and UNICODE flags are incompatible"
  | .countTooLong n => some (Number.tooManyDigits n)
  | .unwritable => some Number.tooManyDigitsToWrite
  | _ => none

/-- What letters at the start of a pattern or a group can switch on. -/
structure Mode where
  anyCase : Bool
  /-- `^` and `$` hold at every line. -/
  lines : Bool
  /-- The dot matches a line break. -/
  dotAll : Bool
  /-- Blanks and comments are passed over. -/
  verbose : Bool
  /-- Classes hold ASCII characters only. -/
  ascii : Bool

/-- Nothing is switched on. -/
def Mode.none : Mode := ⟨false, false, false, false, false⟩

/-- Which letters count as the same in a mode. -/
def Mode.rule (m : Mode) : CaseRule :=
  if !m.anyCase then .exact else if m.ascii then .ascii else .full

/-- The least and the largest number of characters that a pattern takes up. -/
structure Width where
  least : Nat
  most : Nat
  deriving DecidableEq

/-- What is known on the way through a pattern. -/
structure Reading where
  rest : List Char
  /-- What is switched on for the whole pattern. -/
  mode : Mode
  /-- The letters that switched something on for the whole pattern. -/
  letters : List Char
  /-- Whether anything is repeated. -/
  repeating : Bool
  names : List (List Char × Nat)
  /-- The widths of the groups that are closed. -/
  widths : Array (Option Width)
  /-- How many groups had begun where the outermost look behind begins, if this is inside one. -/
  behind : Option Nat
  /-- The numbers of groups that are asked for. -/
  tested : List Nat
  /-- Whether something of no fixed width is looked for behind. -/
  looseBehind : Bool

/-- One mark of a pattern. -/
structure Mark where
  char : Char
  escaped : Bool
  deriving DecidableEq

abbrev Read := StateT Reading (Except Fault)

/-- Gives up. -/
def malformed {α : Type} : Read α := throw .malformed

/-- The next mark. -/
def peek : Read (Option Mark) := do
  match (← get).rest with
  | [] => return none
  | '\\' :: c :: _ => return some ⟨c, true⟩
  | c :: _ => return some ⟨c, false⟩

/-- Goes on after a part of the text, which must not leave a backslash alone. -/
def goOn (rest : List Char) : Read Unit :=
  if rest = ['\\'] then malformed else modify fun r => { r with rest }

/-- Takes the next mark. -/
def take? : Read (Option Mark) := do
  match (← get).rest with
  | [] => return none
  | '\\' :: c :: rest => do
    goOn rest
    return some ⟨c, true⟩
  | c :: rest => do
    goOn rest
    return some ⟨c, false⟩

/-- Takes the next mark, which must be there. -/
def takeMark : Read Mark := do
  match ← take? with
  | some mark => return mark
  | none => malformed

/-- Takes a character if it comes next. -/
def accept (c : Char) : Read Bool := do
  if (← peek) = some ⟨c, false⟩ then
    let _ ← take?
    return true
  else return false

/-- Takes a character, which must come next. -/
def expect (c : Char) : Read Unit := do
  if !(← accept c) then malformed

/-- Takes characters of a class, as many as there are up to a bound. -/
def takeSome (p : Char → Bool) : Nat → Read (List Char)
  | 0 => return []
  | n + 1 => do
    match ← peek with
    | some ⟨c, false⟩ =>
      if p c then
        let _ ← take?
        return c :: (← takeSome p n)
      else return []
    | _ => return []

/-- The characters of a mark. -/
def Mark.chars (m : Mark) : List Char := if m.escaped then ['\\', m.char] else [m.char]

/-- Takes what stands before a character, and the character; something must stand there. -/
def takeUntil (stop : Char) : Nat → List Char → Read (List Char)
  | 0, _ => malformed
  | n + 1, acc => do
    let mark ← takeMark
    if mark = ⟨stop, false⟩ then if acc.isEmpty then malformed else return acc
    else takeUntil stop n (acc ++ mark.chars)

/-- Takes a name that a character ends. -/
def takeName (stop : Char) : Read (List Char) := do takeUntil stop (← get).rest.length []

/-! ## Escapes -/

/-- A character that a backslash with a letter stands for. -/
def controlEscape? : Char → Option Nat
  | 'a' => some 7
  | 'f' => some 12
  | 'n' => some 10
  | 'r' => some 13
  | 't' => some 9
  | 'v' => some 11
  | _ => none

/-- A class that a backslash with a letter stands for. -/
def classEscape? (ascii : Bool) : Char → Option Item
  | 'd' => some (.kind .digit true ascii)
  | 'D' => some (.kind .digit false ascii)
  | 's' => some (.kind .blank true ascii)
  | 'S' => some (.kind .blank false ascii)
  | 'w' => some (.kind .word true ascii)
  | 'W' => some (.kind .word false ascii)
  | _ => none

def isOctal (c : Char) : Bool := '0' ≤ c && c ≤ '7'

/-- The number that octal digits stand for. -/
def octal (cs : List Char) : Nat := cs.foldl (fun n c => 8 * n + (c.toNat - 48)) 0

/-- The number that so many hexadecimal digits stand for. -/
def hexEscape (width : Nat) : Read Nat := do
  let ds ← takeSome (fun c => (Text.hexDigit? c).isSome) width
  if ds.length = width then
    let n := ds.foldl (fun n c => 16 * n + (Text.hexDigit? c).getD 0) 0
    if n < 0x110000 then return n else malformed
  else malformed

/-- The code point that a backslash with a letter and a number or a name stands for. -/
def codeEscape? (letter : Char) : Read (Option Nat) := do
  match letter with
  | 'x' => return some (← hexEscape 2)
  | 'u' => return some (← hexEscape 4)
  | 'U' => return some (← hexEscape 8)
  | 'N' => do
    expect '{'
    match Text.named? (← takeName '\x7d') with
    | some n => return some n
    | none => malformed
  | _ => return none

/-- An escape inside a set, after the backslash. -/
def setEscape (ascii : Bool) (c : Char) : Read Item := do
  match classEscape? ascii c, controlEscape? c with
  | some item, _ => return item
  | _, some n => return .literal n
  | _, _ =>
    match ← codeEscape? c with
    | some n => return .literal n
    | none =>
      if c = 'b' then return .literal 8
      else if isOctal c then
        let n := octal (c :: (← takeSome isOctal 2))
        if n ≤ 255 then return .literal n else malformed
      else if c.isAlphanum then malformed
      else return .literal c.toNat

/-- A character by itself. -/
def single (m : Mode) (n : Nat) : Pattern := .one ⟨[.literal n], false, m.rule⟩

/-- How many groups there are, counting the whole pattern. -/
def Reading.groups (r : Reading) : Nat := r.widths.size + 1

/-- Whether a group is closed. -/
def Reading.isClosed (r : Reading) (number : Nat) : Bool := (r.widths[number - 1]?.join).isSome

/-- Checks that a group may be named here: inside a look behind, only one that was closed before
it. -/
def checkBehind (number : Nat) : Read Unit := do
  let r ← get
  match r.behind with
  | some groups => if r.isClosed number && number < groups then return () else malformed
  | none => return ()

/-- What a group has matched, once more. -/
def groupAgain (m : Mode) (number : Nat) : Read Pattern := do
  let r ← get
  if 0 < number && number < r.groups && r.isClosed number then
    checkBehind number
    return .again number m.rule
  else malformed

/-- An escape that begins with a digit other than zero: three octal digits are a character, all
others the number of a group. -/
def digitEscape (m : Mode) (first : Char) : Read Pattern := do
  match ← takeSome Char.isDigit 1 with
  | [second] =>
    let third ← if isOctal first && isOctal second then takeSome isOctal 1 else pure []
    if third.isEmpty then groupAgain m (10 * (first.toNat - 48) + (second.toNat - 48))
    else
      let n := octal (first :: second :: third)
      if n ≤ 255 then return single m n else malformed
  | _ => groupAgain m (first.toNat - 48)

/-- A condition that a backslash with a letter stands for. -/
def anchorEscape? (ascii : Bool) : Char → Option Anchor
  | 'A' => some .textStart
  | 'Z' => some .textEnd
  | 'b' => some (.wordBoundary true ascii)
  | 'B' => some (.wordBoundary false ascii)
  | _ => none

/-- An escape outside a set, after the backslash. -/
def escape (m : Mode) (c : Char) : Read Pattern := do
  match anchorEscape? m.ascii c, classEscape? m.ascii c, controlEscape? c with
  | some a, _, _ => return .anchor a
  | _, some item, _ => return .one ⟨[item], false, m.rule⟩
  | _, _, some n => return single m n
  | _, _, _ =>
    match ← codeEscape? c with
    | some n => return single m n
    | none =>
      if c = '0' then return single m (octal (← takeSome isOctal 2))
      else if c.isDigit then digitEscape m c
      else if c.isAlpha then malformed
      else return single m c.toNat

/-! ## Sets -/

/-- One character or class of a set. -/
def setItem (ascii : Bool) (mark : Mark) : Read Item :=
  if mark.escaped then setEscape ascii mark.char else return .literal mark.char.toNat

/-- The rest of a set up to its closing bracket, which closes it only after an item. -/
def setItems (ascii : Bool) : Nat → List Item → Read (List Item)
  | 0, _ => malformed
  | fuel + 1, items => do
    let mark ← takeMark
    if mark = ⟨']', false⟩ && !items.isEmpty then return items
    else
      let first ← setItem ascii mark
      if ← accept '-' then
        let mark ← takeMark
        if mark = ⟨']', false⟩ then return items ++ [first, .literal '-'.toNat]
        else
          match first, ← setItem ascii mark with
          | .literal low, .literal high =>
            if high < low then malformed
            else setItems ascii fuel (items ++ [.range low high])
          | _, _ => malformed
      else setItems ascii fuel (items ++ [first])

/-- A set, after its opening bracket. -/
def charSet (m : Mode) : Read Pattern := do
  let negated ← accept '^'
  let items ← setItems m.ascii ((← get).rest.length + 1) []
  return .one ⟨items.eraseDups, negated, m.rule⟩

/-! ## Counts -/

/-- The largest count is below this one. -/
def countLimit : Nat := 4294967295

/-- The number that a count is written as; no digits are no count. -/
def countOf (ds : List Char) : Read (Option Nat) :=
  if ds.isEmpty then return none
  else if Number.digitLimit < ds.length then throw (.countTooLong ds.length)
  else
    let n := ds.foldl (fun n c => 10 * n + (c.toNat - 48)) 0
    if n < countLimit then return some n else throw .countTooLarge

/-- A count between braces, after the opening one. A brace that does not begin a count stands for
itself. -/
def count? : Read (Option (Nat × Option Nat)) := do
  let before := (← get).rest
  if before.head? = some '}' then return none
  else
    let low ← takeSome Char.isDigit before.length
    let isRange ← accept ','
    let high ← if isRange then takeSome Char.isDigit before.length else pure low
    if ← accept '}' then
      let least ← countOf low
      let most ← countOf high
      if most.any (· < least.getD 0) then malformed else return some (least.getD 0, most)
    else
      modify fun r => { r with rest := before }
      return none

/-! ## Widths -/

/-- Widths beyond this one count as this one. -/
def widthLimit : Nat := 0x10000000000000000

/-- The width of a pattern, given those of the groups. -/
def width (groups : Array (Option Width)) : Pattern → Width
  | .empty => ⟨0, 0⟩
  | .one _ => ⟨1, 1⟩
  | .anchor _ => ⟨0, 0⟩
  | .seq first second =>
    let v := width groups first
    let w := width groups second
    ⟨min widthLimit (v.least + w.least), min widthLimit (v.most + w.most)⟩
  | .alt left right =>
    let v := width groups left
    let w := width groups right
    ⟨min v.least w.least, max v.most w.most⟩
  | .copies p least most _ =>
    let w := width groups p
    let most := match most with
      | some n => w.most * n
      | none => if w.most = 0 then 0 else widthLimit
    ⟨min widthLimit (w.least * least), min widthLimit most⟩
  | .group _ p => width groups p
  | .again number _ => (groups[number - 1]?.join).getD ⟨0, 0⟩
  | .ifGroup _ yes no =>
    let v := width groups yes
    let w := width groups no
    ⟨min v.least w.least, max v.most w.most⟩
  | .atomic p => width groups p
  | .look .. => ⟨0, 0⟩

end Compliance.Pattern
