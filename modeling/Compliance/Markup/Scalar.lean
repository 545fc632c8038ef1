import Compliance.Markup.Cursor
import Compliance.Text.Basic

/-!
# Written scalars

A scalar is written plain, between quotes, or as a block of lines. A single line break inside one
stands for a blank, and further ones for themselves; in a literal block every break stands for
itself (`scan_plain`, `scan_flow_scalar`, `scan_block_scalar`).
-/
namespace Compliance.Markup

/-- The text of a scalar so far, and the place after it. -/
abbrev Scanned := List Char × Cursor

/-! ## Quoted scalars -/

/-- A character that a backslash with a letter stands for. -/
def escape? (c : Char) : Option Char :=
  if c = '0' then some '\x00'
  else if c = 'a' then some '\x07'
  else if c = 'b' then some '\x08'
  else if c = 't' ∨ c = '\t' then some '\t'
  else if c = 'n' then some '\n'
  else if c = 'v' then some '\x0b'
  else if c = 'f' then some '\x0c'
  else if c = 'r' then some '\r'
  else if c = 'e' then some '\x1b'
  else if c = 'N' then some '\x85'
  else if c = '_' then some '\xa0'
  else if c = 'L' then some '\u2028'
  else if c = 'P' then some '\u2029'
  else if c = ' ' ∨ c = '"' ∨ c = '\\' ∨ c = '/' then some c
  else none

/-- How many hexadecimal digits follow a letter after a backslash. -/
def escapeWidth? (c : Char) : Option Nat :=
  if c = 'x' then some 2 else if c = 'u' then some 4 else if c = 'U' then some 8 else none

/-- Line breaks with blanks around them, as they stand. -/
def quotedBreaks : Nat → List Char → Cursor → Except Fault Scanned
  | 0, _, _ => .error .malformed
  | fuel + 1, breaks, c =>
    if c.atDocumentMark then .error .malformed
    else
      let c := c.dropWhile fun ch => ch == ' ' || ch == '\t'
      match c.takeBreak? with
      | some (b, c) => quotedBreaks fuel (breaks ++ [b]) c
      | none => .ok (breaks, c)

/-- What a run of line breaks stands for, the first one given apart. -/
def foldedBreaks (first : Char) (more : List Char) : List Char :=
  if first ≠ '\n' then first :: more else if more.isEmpty then [' '] else more

/-- The second half of a character that is written as two numbers: its number and its length. -/
def secondHalf? (cs : List Char) : Option (Nat × Nat) := do
  let (letter, rest) ← match cs with
    | '\\' :: letter :: rest => some (letter, rest)
    | _ => none
  let width ← escapeWidth? letter
  let (n, _) ← Text.takeHex? width 0 rest
  if 0xdc00 ≤ n ∧ n < 0xe000 then some (n, width + 2) else none

/-- A character given by a number with so many hexadecimal digits. -/
def numbered (width : Nat) (c : Cursor) : Except Fault Scanned :=
  match Text.takeHex? width 0 c.rest with
  | none => .error .malformed
  | some (n, rest) =>
    let c := c.skip width
    if 0x80000000 ≤ n then .error .hugeCharacter
    else if 0x110000 ≤ n then .error .noCharacter
    else if 0xd800 ≤ n ∧ n < 0xdc00 then
      match secondHalf? rest with
      | some (m, length) =>
        .ok ([Char.ofNat (0x10000 + (n - 0xd800) * 0x400 + (m - 0xdc00))], c.skip length)
      | none => .ok (['\ufffd'], c)
    else if 0xdc00 ≤ n ∧ n < 0xe000 then .ok (['\ufffd'], c)
    else .ok ([Char.ofNat n], c)

/-- One escape of a double-quoted scalar, after the backslash. -/
def quotedEscape (fuel : Nat) (c : Cursor) : Except Fault Scanned := do
  let ch ← orMalformed c.peek
  match escape? ch, escapeWidth? ch with
  | some d, _ => .ok ([d], c.next)
  | none, some width => numbered width c.next
  | none, none =>
    let (_, c) ← orMalformed c.takeBreak?
    quotedBreaks fuel [] c

/-- The rest of a quoted scalar, after the opening quote. -/
def quotedText (double : Bool) : Nat → List Char → Cursor → Except Fault Scanned
  | 0, _, _ => .error .malformed
  | fuel + 1, acc, c =>
    match c.peek with
    | none => .error .malformed
    | some ch =>
      if ch = '\x27' ∧ !double then
        if c.peekAt 1 = some '\x27' then quotedText double fuel (acc ++ ['\x27']) (c.skip 2)
        else .ok (acc, c.next)
      else if ch = '"' ∧ double then .ok (acc, c.next)
      else if ch = '\\' ∧ double then
        match quotedEscape fuel c.next with
        | .ok (cs, c) => quotedText double fuel (acc ++ cs) c
        | .error f => .error f
      else if ch = ' ' ∨ ch = '\t' ∨ isBreak ch then
        let (blanks, c) := c.takeWhile fun ch => ch == ' ' || ch == '\t'
        match c.takeBreak? with
        | some (first, c) =>
          match quotedBreaks fuel [] c with
          | .ok (more, c) => quotedText double fuel (acc ++ foldedBreaks first more) c
          | .error f => .error f
        | none => quotedText double fuel (acc ++ blanks) c
      else quotedText double fuel (acc ++ [ch]) c.next

/-! ## Plain scalars -/

/-- The length of the part of a plain scalar up to the next blank or mark. -/
def plainLength (inFlow : Bool) : List Char → Nat
  | [] => 0
  | c :: cs =>
    let after := cs.head?
    let stops := endsWord (some c) ||
      (c == ':' && (endsWord after || (inFlow && after.any ",[]\x7b\x7d".toList.contains))) ||
      (inFlow && ",?[]\x7b\x7d".toList.contains c)
    if stops then 0 else plainLength inFlow cs + 1

/-- The line breaks and blanks after a first line break; nothing if a document mark comes. -/
def plainBreaks? : Nat → List Char → Cursor → Option (List Char) × Cursor
  | 0, _, c => (none, c)
  | fuel + 1, breaks, c =>
    let c := c.skipBlanks
    match c.takeBreak? with
    | some (b, c) =>
      if c.atDocumentMark then (none, c) else plainBreaks? fuel (breaks ++ [b]) c
    | none => (some breaks, c)

/-- What stands between two parts of a plain scalar: the text for it, whether it breaks the line,
and the place after it. -/
def plainGap (c : Cursor) : List Char × Bool × Cursor :=
  let (blanks, c) := c.takeWhile (· == ' ')
  match c.takeBreak? with
  | some (first, c) =>
    if c.atDocumentMark then ([], true, c)
    else
      match plainBreaks? (c.rest.length + 1) [] c with
      | (some more, c) => (foldedBreaks first more, true, c)
      | (none, c) => ([], true, c)
  | none => (blanks, false, c)

/-- The rest of a plain scalar: its text, whether a line break was the last thing passed, and the
place after it. `gap` is what stands before the next part. -/
def plainText (inFlow : Bool) (indent : Int) :
    Nat → List Char → List Char → Bool → Cursor → List Char × Bool × Cursor
  | 0, acc, _, broken, c => (acc, broken, c)
  | fuel + 1, acc, gap, broken, c =>
    let n := if c.peek = some '#' then 0 else plainLength inFlow c.rest
    if n = 0 then (acc, broken, c)
    else
      let acc := acc ++ gap ++ c.rest.take n
      let (gap, broken, c) := plainGap (c.skip n)
      if gap.isEmpty || (!inFlow && decide ((c.column : Int) < indent)) then (acc, broken, c)
      else plainText inFlow indent fuel acc gap broken c

/-! ## Block scalars -/

/-- What is kept of the line breaks at the end of a block. -/
inductive Chomping where
  | strip
  | clip
  | keep
  deriving DecidableEq

/-- The header of a block scalar. -/
structure BlockHeader where
  chomping : Chomping
  /-- The indentation over that of the parent, when it is given. -/
  indent : Option Nat

/-- Reads a chomping mark, if there is one. -/
def takeChomping (c : Cursor) : Option Chomping × Cursor :=
  match c.peek with
  | some '+' => (some .keep, c.next)
  | some '-' => (some .strip, c.next)
  | _ => (none, c)

/-- Reads a digit above zero, if there is a digit. -/
def takeIndent? (c : Cursor) : Option (Option Nat × Cursor) :=
  match c.peek with
  | some ch =>
    if ch.isDigit then
      if ch = '0' then none else some (some (ch.toNat - 48), c.next)
    else some (none, c)
  | none => some (none, c)

/-- The header of a block scalar, with the rest of its line. -/
def blockHeader? (c : Cursor) : Option (BlockHeader × Cursor) := do
  let (first, c) := takeChomping c
  let (indent, c) ← takeIndent? c
  let (second, c) := if first.isNone && indent.isSome then takeChomping c else (none, c)
  if c.peek = some ' ' ∨ endsLine c.peek then
    let c ← c.skipComment?
    some (⟨(first <|> second).getD .clip, indent⟩, c)
  else none

/-- Empty lines before a block, and the largest indentation among them. -/
def blockLead : Nat → List Char → Nat → Cursor → List Char × Nat × Cursor
  | 0, breaks, most, c => (breaks, most, c)
  | fuel + 1, breaks, most, c =>
    match c.takeBreak? with
    | some (b, c) => blockLead fuel (breaks ++ [b]) most c
    | none =>
      if c.peek = some ' ' then
        let c := c.next
        blockLead fuel breaks (max most c.column) c
      else (breaks, most, c)

/-- Passes over blanks up to a column. -/
def skipTo (indent : Nat) (c : Cursor) : Cursor :=
  let blanks := (c.rest.takeWhile (· == ' ')).length
  c.skip (min blanks (indent - c.column))

/-- Empty lines inside a block. -/
def blockBreaks (indent : Nat) : Nat → List Char → Cursor → Scanned
  | 0, breaks, c => (breaks, c)
  | fuel + 1, breaks, c =>
    let c := skipTo indent c
    match c.takeBreak? with
    | some (b, c) => blockBreaks indent fuel (breaks ++ [b]) c
    | none => (breaks, c)

/-- The lines of a block: the text so far, the break that ends the last line, the empty lines that
follow, and the place after them. -/
def blockLines (folded : Bool) (indent : Nat) :
    Nat → List Char → List Char → Cursor → List Char × List Char × List Char × Cursor
  | 0, acc, breaks, c => (acc, [], breaks, c)
  | fuel + 1, acc, breaks, c =>
    let isBlankStart := fun (c : Cursor) => c.peek = some ' ' || c.peek = some '\t'
    let leadsWithText := !isBlankStart c
    let (line, c) := c.takeWhile (!isBreak ·)
    let acc := acc ++ breaks ++ line
    let (ending, c) := match c.takeBreak? with
      | some (b, c) => ([b], c)
      | none => ([], c)
    let (breaks, c) := blockBreaks indent fuel [] c
    if c.column = indent ∧ c.peek.isSome then
      if folded && ending == ['\n'] && leadsWithText && !isBlankStart c then
        blockLines folded indent fuel (if breaks.isEmpty then acc ++ [' '] else acc) breaks c
      else blockLines folded indent fuel (acc ++ ending) breaks c
    else (acc, ending, breaks, c)

/-- A block scalar after its mark; `parent` is the indentation around it. -/
def blockText? (folded : Bool) (parent : Int) (c : Cursor) : Option Scanned := do
  let (header, c) ← blockHeader? c
  let least := (max 1 (parent + 1)).toNat
  let fuel := c.rest.length + 1
  let (breaks, indent, c) := match header.indent with
    | some n =>
      let indent := least + n - 1
      let (breaks, c) := blockBreaks indent fuel [] c
      (breaks, indent, c)
    | none =>
      let (breaks, most, c) := blockLead fuel [] 0 c
      (breaks, max least most, c)
  let (text, ending, breaks, c) :=
    if c.column = indent ∧ c.peek.isSome then blockLines folded indent fuel [] breaks c
    else ([], [], breaks, c)
  match header.chomping with
  | .strip => some (text, c)
  | .clip => some (text ++ ending, c)
  | .keep => some (text ++ ending ++ breaks, c)

end Compliance.Markup
