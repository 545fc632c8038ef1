/-!
# Bytes

Text as bytes, and bytes as text (`encode`, `decode`, and the letters of base 64).
-/
namespace Compliance.Text

/-!
## Bytes as text

Text is written as bytes in UTF-8. Bytes that are no text are read as the replacement character: one
for each byte that cannot begin a character, and one for a character that breaks off.
-/

/-- The bytes of a text. -/
def utf8 (cs : List Char) : List Nat := (String.ofList cs).toUTF8.toList.map (·.toNat)

/-- A character that has begun: how many bytes are still owed, between which bounds the next one
lies, and the bits so far. -/
structure Begun where
  owed : Nat
  low : Nat
  high : Nat
  bits : Nat

/-- The mark for what is no text. -/
def replacement : Char := '\ufffd'

/-- What a byte at the start of a character is: a character, the first part of one, or neither. -/
def beginning (b : Nat) : List Char × Option Begun :=
  if b < 0x80 then ([Char.ofNat b], none)
  else if b < 0xc2 then ([replacement], none)
  else if b < 0xe0 then ([], some ⟨1, 0x80, 0xbf, b % 0x20⟩)
  else if b < 0xf0 then
    ([], some ⟨2, if b = 0xe0 then 0xa0 else 0x80, if b = 0xed then 0x9f else 0xbf, b % 0x10⟩)
  else if b < 0xf5 then
    ([], some ⟨3, if b = 0xf0 then 0x90 else 0x80, if b = 0xf4 then 0x8f else 0xbf, b % 8⟩)
  else ([replacement], none)

/-- Reads bytes, going on with a character that has begun. -/
def ofUtf8From : Option Begun → List Nat → List Char
  | none, [] => []
  | some _, [] => [replacement]
  | none, b :: bs =>
    let (cs, next) := beginning b
    cs ++ ofUtf8From next bs
  | some g, b :: bs =>
    if g.low ≤ b ∧ b ≤ g.high then
      let bits := 64 * g.bits + b % 64
      if g.owed = 1 then Char.ofNat bits :: ofUtf8From none bs
      else ofUtf8From (some ⟨g.owed - 1, 0x80, 0xbf, bits⟩) bs
    else
      let (cs, next) := beginning b
      replacement :: (cs ++ ofUtf8From next bs)

/-- Reads bytes as text. -/
def ofUtf8 (bs : List Nat) : List Char := ofUtf8From none bs

/-- Reads bytes that are a text. -/
def ofUtf8? (bs : List Nat) : Option (List Char) :=
  let cs := ofUtf8 bs
  if utf8 cs = bs then some cs else none

/-- Reads bytes that are ASCII characters. -/
def ascii? (bs : List Nat) : Option String :=
  if bs.all (· < 128) then some (String.ofList (bs.map Char.ofNat)) else none

/-!
## Bytes as letters

Three bytes are written as four letters of six bits each, and signs for missing bytes fill up the
last group. All other characters are passed over.
-/

/-- The six bits of a letter. -/
def sixBits? (c : Char) : Option Nat :=
  if c.isUpper then some (c.toNat - 65)
  else if c.isLower then some (c.toNat - 71)
  else if c.isDigit then some (c.toNat + 4)
  else if c == '+' then some 62
  else if c == '/' then some 63
  else none

/-- What is left of a group: how many letters it has so far, the bits that are in no byte yet, and
the signs that fill it up. -/
structure Group where
  letters : Nat
  bits : Nat
  fillers : Nat

/-- Reads letters, going on with a group. What comes after a group that is filled up is left out; a
group must not end otherwise. -/
def base64From? (g : Group) : List Char → Option (List Nat)
  | [] => if g.letters = 0 then some [] else none
  | c :: cs =>
    if c = '=' then
      if g.letters < 2 then base64From? g cs
      else if 4 ≤ g.letters + g.fillers + 1 then some []
      else base64From? { g with fillers := g.fillers + 1 } cs
    else
      match sixBits? c with
      | none => base64From? g cs
      | some n =>
        let bits := 64 * g.bits + n
        match g.letters with
        | 0 => base64From? ⟨1, n, 0⟩ cs
        | 1 => (base64From? ⟨2, bits % 16, 0⟩ cs).map (bits / 16 :: ·)
        | 2 => (base64From? ⟨3, bits % 4, 0⟩ cs).map (bits / 4 :: ·)
        | _ => (base64From? ⟨0, 0, 0⟩ cs).map (bits :: ·)

/-- The bytes that letters stand for. -/
def base64? (cs : List Char) : Option (List Nat) := base64From? ⟨0, 0, 0⟩ cs

example : base64? "aGk=".toList = some [104, 105] ∧ base64? "aG k".toList = none := by decide

end Compliance.Text
