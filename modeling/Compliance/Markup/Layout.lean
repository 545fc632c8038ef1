import Compliance.Markup.Token

/-!
# From text to tokens

What follows from the layout of a document is decided here. A line that is indented less closes the
block collections that are indented more. A colon turns what stands before it on its line into a
key, and opens a mapping there if none is open at that column; so every place where a key may begin
is remembered, for each level of flow collections, until its line ends. Where the text cannot be
read on, the tokens before the first place where a key may still begin are handed out
(`fetch_more_tokens`).
-/
namespace Compliance.Markup

/-- A place where a key may have begun. -/
structure KeyPlace where
  /-- How many tokens come before it. -/
  token : Nat
  /-- Whether a key must stand here. -/
  required : Bool
  index : Nat
  line : Nat
  column : Nat

structure Layout where
  cursor : Cursor
  /-- The tokens so far. -/
  tokens : Array Token
  /-- The column of the innermost block collection, or -1. -/
  indent : Int
  /-- The columns of those around it. -/
  indents : List Int
  /-- Whether a key may begin here. -/
  keyAllowed : Bool
  /-- Where a key may have begun, for the innermost flow collection first. -/
  keys : List (Option KeyPlace)

namespace Layout

def start (cs : List Char) : Layout := ⟨.start cs, #[], -1, [], true, [none]⟩

/-- Whether the place is inside a flow collection. -/
def inFlow (l : Layout) : Bool := 1 < l.keys.length

def push (t : Token) (l : Layout) : Layout := { l with tokens := l.tokens.push t }

def withCursor (l : Layout) (c : Cursor) : Layout := { l with cursor := c }

/-- Whether a key can no longer have begun at a place, because its line has ended or it would be
too long. -/
def KeyPlace.isStale (k : KeyPlace) (c : Cursor) : Bool :=
  k.line != c.line || 1024 < c.index - k.index

/-- Forgets the places that have become stale; fails if a key had to stand there. -/
def dropStale? (l : Layout) : Option Layout :=
  let isStale := fun (k : Option KeyPlace) => k.any (KeyPlace.isStale · l.cursor)
  if l.keys.any fun k => isStale k && k.any (·.required) then none
  else some { l with keys := l.keys.map fun k => if isStale k then none else k }

/-- Forgets the place of the present level; fails if a key had to stand there. -/
def dropKey? (l : Layout) : Option Layout :=
  match l.keys with
  | some k :: rest => if k.required then none else some { l with keys := none :: rest }
  | _ => some l

/-- Remembers that a key may begin here. -/
def saveKey? (l : Layout) : Option Layout :=
  if l.keyAllowed then do
    let l ← l.dropKey?
    let c := l.cursor
    let required := !l.inFlow && l.indent == (c.column : Int)
    let place : KeyPlace := ⟨l.tokens.size, required, c.index, c.line, c.column⟩
    some { l with keys := some place :: l.keys.tail }
  else some l

/-- Closes the block collections that are indented more than a column. -/
def closeBlocks (column : Int) : Nat → Layout → Layout
  | 0, l => l
  | fuel + 1, l =>
    if column < l.indent then
      closeBlocks column fuel
        { l.push .blockEnd with indent := l.indents.headD (-1), indents := l.indents.tail }
    else l

/-- Closes the block collections that end before a column; flow collections know no indentation. -/
def unwind (column : Int) (l : Layout) : Layout :=
  if l.inFlow then l else closeBlocks column (l.indents.length + 1) l

/-- Opens a block collection at a column, unless one is open there. -/
def openBlock (column : Nat) (t : Token) (at? : Option Nat) (l : Layout) : Layout :=
  if l.indent < (column : Int) then
    let tokens := match at? with
      | some i => l.tokens.insertIdxIfInBounds i t
      | none => l.tokens.push t
    { l with tokens, indent := column, indents := l.indent :: l.indents }
  else l

/-- Passes over blanks, comments and line breaks; a key may begin on a new line. -/
def skipToToken : Nat → Layout → Layout
  | 0, l => l
  | fuel + 1, l =>
    let c := l.cursor.skipBlanks
    let c := if c.peek = some '#' then c.dropWhile (!isBreak ·) else c
    match c.takeBreak? with
    | some (_, c) =>
      skipToToken fuel { l with cursor := c, keyAllowed := l.keyAllowed || !l.inFlow }
    | none => l.withCursor c

/-- A token that takes up some characters. -/
def mark (t : Token) (n : Nat) (l : Layout) : Layout :=
  (l.push t).withCursor (l.cursor.skip n)

/-- The start or end of a document, or a directive. -/
def documentToken? (t : Token) (c : Cursor) (l : Layout) : Option Layout := do
  let l ← (l.unwind (-1)).dropKey?
  some ({ l with keyAllowed := false }.push t |>.withCursor c)

/-- An opening bracket. -/
def openFlow? (t : Token) (l : Layout) : Option Layout := do
  let l ← l.saveKey?
  some ({ l with keys := none :: l.keys, keyAllowed := true }.mark t 1)

/-- A closing bracket. -/
def closeFlow? (t : Token) (l : Layout) : Option Layout := do
  let l ← l.dropKey?
  if l.inFlow then some ({ l with keys := l.keys.tail, keyAllowed := false }.mark t 1) else none

/-- A comma. -/
def flowEntry? (l : Layout) : Option Layout := do
  let l ← l.dropKey?
  some ({ l with keyAllowed := true }.mark .flowEntry 1)

/-- A hyphen before an element of a block sequence. -/
def blockEntry? (l : Layout) : Option Layout := do
  if !l.inFlow && !l.keyAllowed then none
  else
    let l := if l.inFlow then l else l.openBlock l.cursor.column .blockSequenceStart none
    let l ← { l with keyAllowed := true }.dropKey?
    some (l.mark .blockEntry 1)

/-- A question mark before a key. -/
def explicitKey? (l : Layout) : Option Layout := do
  if !l.inFlow && !l.keyAllowed then none
  else
    let l := if l.inFlow then l else l.openBlock l.cursor.column .blockMappingStart none
    let l ← { l with keyAllowed := !l.inFlow }.dropKey?
    some (l.mark .key 1)

/-- A colon after a key. -/
def valueMark? (l : Layout) : Option Layout :=
  match l.keys with
  | some k :: rest =>
    let l := { l with
      keys := none :: rest
      tokens := l.tokens.insertIdxIfInBounds k.token .key
      keyAllowed := false }
    let l := if l.inFlow then l else l.openBlock k.column .blockMappingStart (some k.token)
    some (l.mark .value 1)
  | _ => do
    if !l.inFlow && !l.keyAllowed then none
    else
      let l := if l.inFlow then l else l.openBlock l.cursor.column .blockMappingStart none
      let l ← { l with keyAllowed := !l.inFlow }.dropKey?
      some (l.mark .value 1)

/-- A node's property or content that takes up part of a line. -/
def inline (scan : Cursor → Except Fault (Token × Cursor)) (l : Layout) : Except Fault Layout := do
  let l ← orMalformed l.saveKey?
  let (t, c) ← scan l.cursor
  return { l with keyAllowed := false }.push t |>.withCursor c

/-- An anchor or an alias, after its mark. -/
def named (token : List Char → Token) (c : Cursor) : Except Fault (Token × Cursor) :=
  orMalformed ((anchorName? c.next).map fun (name, c) => (token name, c))

/-- A quoted scalar. -/
def quoted (double : Bool) (c : Cursor) : Except Fault (Token × Cursor) :=
  (quotedText double (c.rest.length + 1) [] c.next).map fun (text, c) => (.scalar text false, c)

/-- A block scalar. -/
def blockScalar? (folded : Bool) (l : Layout) : Option Layout := do
  let l ← { l with keyAllowed := true }.dropKey?
  let (text, c) ← blockText? folded l.indent l.cursor.next
  some (l.push (.scalar text false) |>.withCursor c)

/-- A plain scalar. A key may begin after it if it ends with a line break. -/
def plainScalar? (l : Layout) : Option Layout := do
  let l ← l.saveKey?
  let (text, broken, c) :=
    plainText l.inFlow (l.indent + 1) (l.cursor.rest.length + 1) [] [] false l.cursor
  some ({ l with keyAllowed := broken }.push (.scalar text true) |>.withCursor c)

/-- Whether a plain scalar can begin here. -/
def startsPlain (l : Layout) (c : Char) : Bool :=
  let special := endsWord (some c) || "-?:,[]\x7b\x7d#&*!|>\x27\x22%@\x60".toList.contains c
  !special ||
    (!endsWord (l.cursor.peekAt 1) && (c == '-' || (!l.inFlow && (c == '?' || c == ':'))))

/-- Reads one token, given its first character. -/
def token (c : Char) (l : Layout) : Except Fault Layout :=
  let cur := l.cursor
  let wordEnds := endsWord (cur.peekAt 1)
  if c = '%' ∧ cur.column = 0 then
    orMalformed ((directiveToken? cur.next).bind fun (t, c) => l.documentToken? t c)
  else if cur.column = 0 ∧ cur.hasMark ['-', '-', '-'] then
    orMalformed (l.documentToken? .documentStart (cur.skip 3))
  else if cur.column = 0 ∧ cur.hasMark ['.', '.', '.'] then
    orMalformed (l.documentToken? .documentEnd (cur.skip 3))
  else if c = '[' then orMalformed (l.openFlow? .flowSequenceStart)
  else if c = '\x7b' then orMalformed (l.openFlow? .flowMappingStart)
  else if c = ']' then orMalformed (l.closeFlow? .flowSequenceEnd)
  else if c = '\x7d' then orMalformed (l.closeFlow? .flowMappingEnd)
  else if c = ',' then orMalformed l.flowEntry?
  else if c = '-' ∧ wordEnds then orMalformed l.blockEntry?
  else if c = '?' ∧ (l.inFlow ∨ wordEnds) then orMalformed l.explicitKey?
  else if c = ':' ∧ (l.inFlow ∨ wordEnds) then orMalformed l.valueMark?
  else if c = '*' then l.inline (named .alias)
  else if c = '&' then l.inline (named .anchor)
  else if c = '!' then l.inline fun c => orMalformed (tagToken? c.next)
  else if c = '|' ∧ !l.inFlow then orMalformed (l.blockScalar? false)
  else if c = '>' ∧ !l.inFlow then orMalformed (l.blockScalar? true)
  else if c = '\x27' ∨ c = '"' then l.inline (quoted (c == '"'))
  else if l.startsPlain c then orMalformed l.plainScalar?
  else .error .malformed

/-- The tokens that no key can come between any more, and then a fault. -/
def settled (f : Fault) (l : Layout) : List Token :=
  let places := l.keys.filterMap fun k => k.map (·.token)
  let count := places.foldl min l.tokens.size
  l.tokens.toList.take count ++ [.broken f]

/-- Reads all tokens. Every one of them takes up a character. -/
def read : Nat → Layout → List Token
  | 0, l => l.settled .malformed
  | fuel + 1, l =>
    let l := l.skipToToken (l.cursor.rest.length + 1)
    match l.dropStale? with
    | none => l.settled .malformed
    | some l =>
      match l.cursor.peek with
      | none =>
        match (l.unwind (-1)).dropKey? with
        | some l => l.tokens.toList
        | none => l.settled .malformed
      | some c =>
        match (l.unwind l.cursor.column).token c with
        | .ok l => read fuel l
        | .error f => l.settled f

end Layout

/-- The tokens of a text. -/
def tokens (cs : List Char) : List Token := (Layout.start cs).read (cs.length + 1)

end Compliance.Markup
