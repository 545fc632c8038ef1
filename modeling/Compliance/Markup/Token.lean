import Compliance.Markup.Scalar

/-!
# Tokens

The tokens of a document. The structure that indentation gives a document is among them: a block
collection has a token where it starts, one where it ends, and one before each of its keys. Where
the text cannot be read on, the last token says why (`Scanner`).
-/
namespace Compliance.Markup

/-- A line about the document that follows. -/
inductive Directive where
  | version (major minor : Nat)
  /-- What the handle of a tag stands for. -/
  | handle (name lead : List Char)
  | other
  deriving DecidableEq

inductive Token where
  | directive (d : Directive)
  | documentStart
  | documentEnd
  | blockSequenceStart
  | blockMappingStart
  | blockEnd
  | flowSequenceStart
  | flowSequenceEnd
  | flowMappingStart
  | flowMappingEnd
  | blockEntry
  | flowEntry
  | key
  | value
  | alias (name : List Char)
  | anchor (name : List Char)
  /-- A tag with its handle; one that is given in full has none. -/
  | tag (handle : Option (List Char)) (suffix : List Char)
  /-- A scalar, and whether it is written plain. -/
  | scalar (text : List Char) (plain : Bool)
  | broken (f : Fault)
  deriving DecidableEq

/-- Whether a character may stand in a name. -/
def isNameChar (c : Char) : Bool := c.isAlphanum || c == '-' || c == '_'

/-- The name of an anchor or an alias, after its mark. -/
def anchorName? (c : Cursor) : Option Scanned :=
  let (name, c) := c.takeWhile isNameChar
  if name.isEmpty then none
  else if endsWord c.peek || c.peek.any "?:,]\x7d%@\x60".toList.contains then some (name, c)
  else none

/-- Whether a character may stand in the suffix of a tag. -/
def isTagChar (c : Char) : Bool := c.isAlphanum || "-;/?:@&=+$,_.!~*\x27()[]%".toList.contains c

/-- Puts in the bytes that are written as a percent sign and two digits. -/
def percentDecoded : List Char → Option (List UInt8)
  | [] => some []
  | '%' :: a :: b :: cs => do
    let high ← Text.hexDigit? a
    let low ← Text.hexDigit? b
    let rest ← percentDecoded cs
    some ((16 * high + low).toUInt8 :: rest)
  | c :: cs =>
    if c = '%' then none else (percentDecoded cs).map ((String.singleton c).toUTF8.toList ++ ·)

/-- The suffix of a tag. -/
def tagSuffix? (c : Cursor) : Option Scanned := do
  let (cs, c) := c.takeWhile isTagChar
  if cs.isEmpty then none
  else
    let bytes ← percentDecoded cs
    let s ← String.fromUTF8? ⟨bytes.toArray⟩
    some (s.toList, c)

/-- Whether a word holds an exclamation mark before it ends. -/
def hasHandle : List Char → Bool
  | [] => false
  | c :: cs => c == '!' || (!(c == ' ' || isBreak c) && hasHandle cs)

/-- The handle of a tag with its exclamation marks, after the first one. -/
def tagHandle? (c : Cursor) : Option Scanned :=
  let (name, c) := c.takeWhile isNameChar
  if c.peek = some '!' then some ('!' :: name ++ ['!'], c.next) else none

/-- A tag, after its exclamation mark. -/
def tagToken? (c : Cursor) : Option (Token × Cursor) := do
  let (token, c) ←
    if c.peek = some '<' then do
      let (suffix, c) ← tagSuffix? c.next
      if c.peek = some '>' then some (Token.tag none suffix, c.next) else none
    else if endsWord c.peek then some (.tag none ['!'], c)
    else if hasHandle c.rest then do
      let (handle, c) ← tagHandle? c
      let (suffix, c) ← tagSuffix? c
      some (.tag (some handle) suffix, c)
    else do
      let (suffix, c) ← tagSuffix? c
      some (.tag (some ['!']) suffix, c)
  if c.peek = some ' ' ∨ endsLine c.peek then some (token, c) else none

/-- A number of a version. -/
def versionNumber? (c : Cursor) : Option (Nat × Cursor) :=
  let (digits, c) := c.takeWhile Char.isDigit
  if digits.isEmpty then none
  else some (digits.foldl (fun n d => 10 * n + (d.toNat - 48)) 0, c)

/-- The version that a document is written in. -/
def version? (c : Cursor) : Option (Directive × Cursor) := do
  let (major, c) ← versionNumber? c
  if c.peek = some '.' then
    let (minor, c) ← versionNumber? c.next
    some (.version major minor, c)
  else none

/-- A handle and what it stands for. -/
def handle? (c : Cursor) : Option (Directive × Cursor) := do
  if c.peek = some '!' then
    let (name, c) ← if c.peekAt 1 = some ' ' then some (['!'], c.next) else tagHandle? c.next
    if c.peek = some ' ' then
      let (lead, c) ← tagSuffix? c.skipBlanks
      some (.handle name lead, c)
    else none
  else none

/-- A directive, after its percent sign. -/
def directiveToken? (c : Cursor) : Option (Token × Cursor) := do
  let (name, c) := c.takeWhile isNameChar
  if name.isEmpty ∨ ¬(c.peek = some ' ' ∨ endsLine c.peek) then none
  else
    let (d, c) ←
      if name = "YAML".toList then version? c.skipBlanks
      else if name = "TAG".toList then handle? c.skipBlanks
      else some (.other, c.dropWhile (!isBreak ·))
    if c.peek = some ' ' ∨ endsLine c.peek then
      let c ← c.skipComment?
      some (.directive d, c)
    else none

end Compliance.Markup
