import Compliance.Text.Basic
import Compliance.Text.Direction
import Compliance.Text.LetterCase
import Compliance.Text.Mark
import Compliance.Web.HostCharacters

/-!
# Host names in other scripts

A host name is a row of labels between dots. A label with other than ASCII characters is written as
`xn--` and its Punycode. It must be composed, consist of admitted characters, and run in one
direction (`idna.encode`).
-/
namespace Compliance.Web.Punycode

/-!
## Punycode

A text as ASCII: first its ASCII characters, and then, in ascending order, where the others are to
be inserted. Each insertion is the distance from the one before, written in digits of base 36 the
first of which may be smaller according to the distances so far.
-/

/-- The digit for a value: letters first. -/
def digit (n : Nat) : Char := Char.ofNat (if n < 26 then 97 + n else 22 + n)

/-- The value of a digit. -/
def digit? (c : Char) : Option Nat :=
  if c.isLower then some (c.toNat - 97)
  else if c.isUpper then some (c.toNat - 65)
  else if c.isDigit then some (c.toNat - 22)
  else none

/-- The value from which on a digit at a place is not the last one. -/
def threshold (bias place : Nat) : Nat := min 26 (max 1 (36 * (place + 1) - bias))

/-- Divides a distance until it is small, and counts by 36. -/
def damped : Nat → Nat → Nat → Nat × Nat
  | 0, delta, count => (delta, count)
  | fuel + 1, delta, count =>
    if 455 < delta then damped fuel (delta / 35) (count + 36) else (delta, count)

/-- The bias after a distance, when there are so many characters. -/
def adapted (delta : Nat) (isFirst : Bool) (count : Nat) : Nat :=
  let delta := if isFirst then delta / 700 else delta / 2
  let (delta, k) := damped delta (delta + delta / count) 0
  k + 36 * delta / (delta + 38)

/-- The digits of a distance, from a place on. -/
def digits (bias : Nat) : Nat → Nat → Nat → List Char
  | 0, _, _ => []
  | fuel + 1, place, n =>
    let t := threshold bias place
    if n < t then [digit n]
    else digit (t + (n - t) % (36 - t)) :: digits bias fuel (place + 1) ((n - t) / (36 - t))

/-- A text on the way. -/
structure Encoding where
  written : List Char
  delta : Nat
  bias : Nat
  count : Nat
  isFirst : Bool

/-- Passes a character on the way through the text that inserts the code point `m`. -/
def Encoding.pass (m : Nat) (e : Encoding) (c : Char) : Encoding :=
  if c.toNat < m then { e with delta := e.delta + 1 }
  else if c.toNat = m then
    ⟨e.written ++ digits e.bias (e.delta + 1) 0 e.delta, 0,
      adapted e.delta e.isFirst (e.count + 1), e.count + 1, false⟩
  else e

/-- Inserts code points in ascending order, the last one before them being below `n`. -/
def insertAll (cs : List Char) : List Nat → Nat → Encoding → Encoding
  | [], _, e => e
  | m :: ms, n, e =>
    let e := { e with delta := e.delta + (m - n) * (e.count + 1) }
    let e := cs.foldl (Encoding.pass m) e
    insertAll cs ms (m + 1) { e with delta := e.delta + 1 }

/-- A text in ASCII. -/
def encode (cs : List Char) : List Char :=
  let basic := cs.filter (·.toNat < 128)
  let others := (((cs.filter (128 ≤ ·.toNat)).map Char.toNat).mergeSort).eraseDups
  let e := insertAll cs others 128 ⟨[], 0, 72, basic.length, true⟩
  (if basic.isEmpty then [] else basic ++ ['-']) ++ e.written

/-- A distance at the head of a text, and the rest. -/
def distance? (bias : Nat) : Nat → Nat → Nat → List Char → Option (Nat × List Char)
  | _, _, _, [] => none
  | place, weight, sum, c :: cs => do
    let d ← digit? c
    let t := threshold bias place
    let sum := sum + d * weight
    if d < t then some (sum, cs) else distance? bias (place + 1) (weight * (36 - t)) sum cs

/-- Inserts characters into a text, from a place and a code point on. -/
def insertRest? : Nat → Nat → Nat → Nat → Bool → List Char → List Char → Option (List Char)
  | _, _, _, _, _, text, [] => some text
  | 0, _, _, _, _, _, _ => none
  | fuel + 1, code, place, bias, isFirst, text, cs => do
    let (delta, cs) ← distance? bias 0 1 0 cs
    let count := text.length + 1
    let place := place + delta
    let code := code + place / count
    let place := place % count
    let c := Char.ofNat code
    if c.toNat ≠ code ∨ 0x10ffff < code then none
    else
      insertRest? fuel code (place + 1) (adapted delta isFirst count) false
        (text.take place ++ c :: text.drop place) cs

/-- The text that an ASCII text stands for. -/
def decode? (cs : List Char) : Option (List Char) :=
  let tail := (cs.reverse.takeWhile (· != '-')).reverse
  let basic := cs.take (cs.length - tail.length - 1)
  insertRest? cs.length 128 0 72 true basic tail

end Compliance.Web.Punycode

namespace Compliance.Web

open Text

/-! ## Letter case -/

/-- Whether the next character that letter case is not decided past is a letter with case. -/
def meetsCased (cs : List Char) : Bool :=
  (cs.dropWhile passedOver.has).head?.any fun c => isCased c.toNat || withoutCapital.has c

/-- A text in lower case, given what stands before it in reverse. A sigma at the end of a word has a
form of its own. -/
def lowered (before : List Char) : List Char → List Char
  | [] => []
  | c :: cs =>
    let low :=
      if c = 'Σ' then [if meetsCased before && !meetsCased cs then 'ς' else 'σ']
      else if c = 'İ' then ['i', '\u0307']
      else [Char.ofNat (lowerCode c.toNat)]
    low ++ lowered (c :: before) cs

/-! ## Characters in their context -/

/-- Whether letters join across a place: the next letter before it joins to the left or on both
sides, and the next one after it to the right or on both. -/
def joinsAcross (before after : List Char) : Bool :=
  let next := fun (cs : List Char) =>
    ((cs.dropWhile (joining · = .through)).head?.map joining).getD .none
  (next before = .left || next before = .both) && (next after = .right || next after = .both)

/-- Whether a mark that silences the vowel of a letter ends a text that is given in reverse. -/
def endsInVirama (before : List Char) : Bool := before.head?.any (markClass ·.toNat = 9)

/-- Whether a character may stand in a label, given what stands before it in reverse and what stands
after it. -/
def mayStand (before : List Char) (c : Char) (after : List Char) : Bool :=
  let all := before ++ after
  let n := c.toNat
  if isHostCharacter c then true
  else if n = 0x200c then endsInVirama before || joinsAcross before after
  else if n = 0x200d then endsInVirama before
  else if n = 0xb7 then before.head? = some 'l' && after.head? = some 'l'
  else if n = 0x375 then after.head?.any greek.has
  else if n = 0x5f3 || n = 0x5f4 then before.head?.any hebrew.has
  else if n = 0x30fb then all.any japanese.has
  else if 0x660 ≤ n && n ≤ 0x669 then !all.any fun d => 0x6f0 ≤ d.toNat && d.toNat ≤ 0x6f9
  else if 0x6f0 ≤ n && n ≤ 0x6f9 then !all.any fun d => 0x660 ≤ d.toNat && d.toNat ≤ 0x669
  else false

/-- Whether all characters may stand where they do. -/
def mayAllStand (before : List Char) : List Char → Bool
  | [] => true
  | c :: cs => mayStand before c cs && mayAllStand (c :: before) cs

/-! ## Direction -/

/-- Whether a label runs in one direction. A label from right to left begins with a letter of this
direction, holds no other, ends with one or with a number, and holds numbers of one kind only. A
label with an Arabic number in it counts as one from right to left. -/
def runsOneWay (cs : List Char) : Bool :=
  let ds := cs.map direction
  let ending := (ds.reverse.dropWhile (· = .mark)).head?
  if ds.contains .unknown then false
  else if !ds.any fun d => d = .right || d = .arabic || d = .arabicDigit then true
  else
    match ds.head? with
    | some .left =>
      !(ds.any fun d => d = .right || d = .arabic || d = .arabicDigit) &&
        (ending = some .left || ending = some .digit)
    | some .right | some .arabic =>
      !ds.contains .left && !(ds.contains .digit && ds.contains .arabicDigit) &&
        ending.any fun d => d = .right || d = .arabic || d = .digit || d = .arabicDigit
    | _ => false

/-! ## Labels -/

/-- Whether a label may be part of a host name. -/
def isLabel (cs : List Char) : Bool :=
  !cs.isEmpty && cs.length ≤ 254 && isComposed cs && (cs.drop 2).take 2 != ['-', '-'] &&
    cs.head? != some '-' && cs.getLast? != some '-' && !cs.head?.any marks.has &&
    mayAllStand [] cs && runsOneWay cs

/-- What stands before Punycode. -/
def codedMark : List Char := "xn--".toList

/-- Whether an ASCII label may be part of a host name, or stands for one that may. -/
def isAsciiLabel (cs : List Char) : Bool :=
  if codedMark.isPrefixOf cs then
    let code := cs.drop 4
    !code.isEmpty && code.getLast? != some '-' && (Punycode.decode? code).any isLabel
  else isLabel cs

/-- A label in ASCII. -/
def label? (cs : List Char) : Option (List Char) :=
  let isAscii := cs.all (·.toNat < 128)
  let coded := if isAscii then cs else codedMark ++ Punycode.encode cs
  if (if isAscii then isAsciiLabel cs else isLabel cs) && coded.length ≤ 63 then some coded
  else none

/-- Whether a character separates labels. -/
def isDot (c : Char) : Bool := c == '.' || c == '\u3002' || c == '\uff0e' || c == '\uff61'

/-- A host name in ASCII. -/
def hostName? (cs : List Char) : Option (List Char) := do
  let labels := Text.splitAt '.' (cs.map fun c => if isDot c then '.' else c)
  let isRooted := labels.getLast? = some []
  let labels := if isRooted then labels.dropLast else labels
  let coded ← labels.mapM label?
  let name := ['.'].intercalate coded ++ (if isRooted then ['.'] else [])
  if cs.length ≤ 254 && name.length ≤ (if isRooted then 254 else 253) then some name else none

end Compliance.Web
