import Compliance.Calendar.Format
import Compliance.Markup.Node
import Compliance.Number.Exact
import Compliance.Number.Literal
import Compliance.Text.Bytes
import Compliance.Value.Basic

/-!
# Scalars by their tags

What a scalar stands for, according to its tag (`SafeConstructor`). A tag may ask for what the text
of the scalar is not; each way in which it may fail is a fault of its own.
-/
namespace Compliance.Markup

open Calendar Number

/-! ## Numbers -/

/-- The sign of a number and what follows it. -/
def unsigned (s : List Char) : Except Fault (Bool × List Char) :=
  match s.filter (· != '_') with
  | [] => .error .noDigits
  | cs => .ok (signSpan cs)

/-- A whole number in a base. -/
def wholeIn (base : Nat) (cs : List Char) : Except Fault Int :=
  match readWhole? base cs with
  | some n => .ok n
  | none => .error (.notWhole base (String.ofList cs))

/-- The value of numbers between colons, each worth sixty times the one after it. -/
def sexagesimal (ns : List Int) : Int := ns.foldl (fun n d => 60 * n + d) 0

/-- A whole number. A zero in front marks the base. -/
def wholeNumber (s : String) : Except Fault Int := do
  let (negative, cs) ← unsigned s.toList
  let n ← match cs with
    | [] => throw .noDigits
    | ['0'] => pure 0
    | '0' :: 'b' :: ds => wholeIn 2 ds
    | '0' :: 'x' :: ds => wholeIn 16 ds
    | '0' :: _ => wholeIn 8 cs
    | _ =>
      if cs.contains ':' then sexagesimal <$> (Text.splitAt ':' cs).mapM (wholeIn 10)
      else wholeIn 10 cs
  return if negative then -n else n

/-- The value of numbers between colons, from the last one on. -/
def sexagesimalFloat (xs : List Float) : Float :=
  (xs.reverse.zipIdx.foldl (fun sum (x, i) => sum + x * nearest (Nat.pow 60 i)) 0.0)

/-- A number in floating point. -/
def realNumber (s : String) : Except Fault Float := do
  let (negative, cs) ← unsigned (s.toList.map Char.toLower)
  if cs = ".nan".toList then return 0.0 / 0.0
  let x ←
    if cs = ".inf".toList then pure infinity
    else
      match (Text.splitAt ':' cs).mapM fun part => lenientFloat? (String.ofList part) with
      | some [x] => pure x
      | some xs => pure (sexagesimalFloat xs)
      | none => throw (.notNumber (String.ofList cs))
  return if negative then -x else x

/-! ## Words, dates and bytes -/

def truthValue (s : String) : Except Fault Bool :=
  let word := String.ofList (s.toList.map Char.toLower)
  if ["yes", "true", "on"].contains word then .ok true
  else if ["no", "false", "off"].contains word then .ok false
  else .error .notTruth

/-- The number at the head of a text, and the rest. -/
def number (cs : List Char) : Nat × List Char :=
  let (ds, rest) := digitSpan cs
  (fromDigits ds, rest)

/-- The offset at the end of a time. -/
def offset (cs : List Char) : Option Int :=
  match cs.dropWhile fun c => c == ' ' || c == '\t' with
  | [] => none
  | 'Z' :: _ => some 0
  | sign :: cs =>
    let (h, cs) := number cs
    let (m, _) := number cs.tail
    let micros : Int := (h * 3600 + m * 60) * 1000000
    some (if sign = '-' then -micros else micros)

/-- A date, or a date with a time of day. A line end after it is passed over. -/
def timestamp (s : String) : Except Fault Scalar := do
  if !Tag.hasForm Tag.taggedTimestampForm s then throw .notDate
  let (year, cs) := number (s.toList.filter (· != '\n'))
  let (month, cs) := number cs.tail
  let (day, cs) := number cs.tail
  let date : Date := ⟨year, month, day⟩
  match cs with
  | [] => (date.check.map Scalar.date).mapError .date
  | _ :: cs =>
    let (hour, cs) := number (cs.dropWhile fun c => c == ' ' || c == '\t')
    let (minute, cs) := number cs.tail
    let (second, cs) := number cs.tail
    let (micro, cs) := match cs with
      | '.' :: cs =>
        let ds := cs.takeWhile Char.isDigit
        (((takeFraction? ds).map (·.1)).getD 0, cs.dropWhile Char.isDigit)
      | cs => (0, cs)
    let m : Moment := ⟨date, hour, minute, second, micro, offset cs⟩
    (m.check.map Scalar.moment).mapError .date

/-- Bytes written as letters. -/
def bytes (s : String) : Except Fault (List Nat) :=
  if s.toList.all (·.toNat < 128) then orMalformed (Text.base64? s.toList) else .error .malformed

/-! ## Nodes -/

namespace Node

/-- The tag of a node. -/
def tag? : Node → Option Tag
  | .scalar tag _ => some tag
  | .sequence _ tag _ => some tag
  | .mapping _ tag _ => some tag
  | .again _ => none

mutual

/-- The text of a node that is taken as a scalar: of a mapping, that of its default value. `inside`
are the places of the mappings that have been looked into. -/
def textIn (inside : List Nat) : Node → Except Fault String
  | .scalar _ s => .ok s
  | .mapping p _ es => defaultText (p :: inside) es
  | .sequence .. => .error .malformed
  | .again p => .error (if inside.contains p then .tooDeep else .malformed)

def defaultText (inside : List Nat) : List (Node × Node) → Except Fault String
  | [] => .error .malformed
  | (k, v) :: rest =>
    if tag? k = some .default then textIn inside v else defaultText inside rest

end

/-- The text of a node that is taken as a scalar. -/
def text (n : Node) : Except Fault String := textIn [] n

/-- What a node is begun as: the scalar that its tag makes of it, or none if it is a collection to
be filled. -/
def begun (n : Node) : Except Fault (Option Scalar) :=
  match n.tag? with
  | none | some .sequence | some .mapping | some .set | some .pairs => .ok none
  | some .text => n.text.map fun s => some (.text s)
  | some .null => n.text.map fun _ => some .null
  | some .bool => do return some (.bool (← truthValue (← n.text)))
  | some .int => do return some (.int (← wholeNumber (← n.text)))
  | some .float => do return some (.float (← realNumber (← n.text)))
  | some .binary => do return some (.bytes (← bytes (← n.text)))
  | some .timestamp => do
    let s ← n.text
    match n with
    | .scalar .. => return some (← timestamp s)
    | _ => throw .dateInMapping
  | some .merge | some .default | some .unknown => .error .malformed

end Node

end Compliance.Markup

namespace Compliance.Markup.Node

/-!
## Merged entries

A mapping may take over the entries of others. They come before its own, so that its own win; of
several mappings in a list those of the first one come last. What is merged from a collection that
the mapping stands in refers to the collections around it by their places (`flatten_mapping`).
-/

/-- The place of a collection. -/
def place? : Node → Option Nat
  | .sequence p _ _ => some p
  | .mapping p _ _ => some p
  | _ => none

/-- The collections around a node, innermost first, with nothing left to merge in them. -/
abbrev Around := List Node

mutual

/-- A node in which the collections at some places are referred to. -/
def cut (places : List Nat) : Node → Node
  | .sequence p tag items =>
    if places.contains p then .again p else .sequence p tag (cutItems places items)
  | .mapping p tag es =>
    if places.contains p then .again p else .mapping p tag (cutEntries places es)
  | n => n

def cutItems (places : List Nat) : List Node → List Node
  | [] => []
  | n :: rest => cut places n :: cutItems places rest

def cutEntries (places : List Nat) : List (Node × Node) → List (Node × Node)
  | [] => []
  | (k, v) :: rest => (cut places k, cut places v) :: cutEntries places rest

end

/-- The collection around a node at a place. -/
def find? (around : Around) (place : Nat) : Option Node := around.find? (·.place? = some place)

/-- Entries of a mapping at a place as they can be used outside it. -/
def released (place : Nat) (tag : Tag) (es : List (Node × Node)) : List (Node × Node) :=
  tiedEntries place (.mapping place tag es) es

/-- The entries of a mapping around a node, as they can be used inside it. -/
def entriesAround (around : Around) (place : Nat) : Except Fault (List (Node × Node)) :=
  match find? around place with
  | some (.mapping _ _ es) => .ok (cutEntries (around.filterMap place?) es)
  | some _ => .error .malformed
  | none => .ok []

/-- The entries of an element of a sequence around a node. -/
def elementEntries (around : Around) : Node → Except Fault (List (Node × Node))
  | .mapping p tag es => .ok (released p tag (es.filter fun e => tag? e.1 != some .merge))
  | .again p => entriesAround around p
  | _ => .error .malformed

/-- The entries that a mapping around a node, or a sequence of mappings, brings with it. -/
def mergedAround (around : Around) (place : Nat) : Except Fault (List (Node × Node)) :=
  match find? around place with
  | some (.sequence _ _ ns) => do
    return (← (cutItems (around.filterMap place?) ns).reverse.mapM (elementEntries around)).flatten
  | _ => entriesAround around place

mutual

/-- The entries that are merged into a mapping, and its own. A mapping adds nothing to itself. -/
def merged (around : Around) :
    List (Node × Node) → Except Fault (List (Node × Node) × List (Node × Node))
  | [] => .ok ([], [])
  | (k, v) :: rest =>
    if tag? k = some .merge then do
      let first ← mergedFrom around v
      let (more, own) ← merged around rest
      return (first ++ more, own)
    else do
      let (more, own) ← merged around rest
      return (more, (k, v) :: own)

/-- The entries that a mapping, or a list of mappings, brings with it. -/
def mergedFrom (around : Around) : Node → Except Fault (List (Node × Node))
  | .mapping p tag es => do
    let (more, own) ← merged around es
    return released p tag (more ++ own)
  | .sequence p tag ns => mergedFromAll (.sequence p tag ns :: around) ns
  | .again p => mergedAround around p
  | .scalar .. => .error .malformed

/-- The entries of several mappings, those of the first one last. -/
def mergedFromAll (around : Around) : List Node → Except Fault (List (Node × Node))
  | [] => .ok []
  | .mapping p tag es :: rest => do
    let (more, own) ← merged around es
    return (← mergedFromAll around rest) ++ released p tag (more ++ own)
  | .again p :: rest => do
    let es ← entriesAround around p
    return (← mergedFromAll around rest) ++ es
  | _ => .error .malformed

end

/-- The entries of a mapping with those that are merged into it. -/
def entries (around : Around) (es : List (Node × Node)) : Except Fault (List (Node × Node)) := do
  let (more, own) ← merged around es
  return more ++ own

end Compliance.Markup.Node
