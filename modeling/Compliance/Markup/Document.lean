import Compliance.Markup.Content

/-!
# Documents as values

The tree of a document is made a value. Collections are filled level by level, from the outside in,
and the first fault met in this order is reported; `Node.check` looks for it, and `Node.value` makes
the value (`construct_document`).
-/
namespace Compliance.Markup

namespace Node

/-! ## Parts of collections -/

/-- The key of a default value, which is a text among the keys of a mapping. -/
def asKey : Node → Node
  | .scalar .default s => .scalar .text s
  | n => n

/-- The mapping with one entry that an element of a sequence of pairs is. -/
def pairOf (around : Around) : Node → Except Fault (Node × Node)
  | .mapping p tag [e] =>
    match released p tag [e] with
    | [e] => .ok e
    | _ => .error .malformed
  | .again p => do
    match ← entriesAround around p with
    | [e] => return e
    | _ => throw .malformed
  | _ => .error .malformed

/-- A collection with nothing left to merge. -/
def filled (around : Around) : Node → Except Fault Node
  | .mapping p tag es =>
    match tag with
    | .mapping | .set => do return .mapping p tag (cutEntries [p] (← entries around es))
    | _ => .error .malformed
  | .sequence p tag items =>
    match tag with
    | .sequence | .pairs => .ok (.sequence p tag items)
    | _ => .error .malformed
  | _ => .error .malformed

/-! ## The first fault -/

/-- A node and the collections around it. -/
abbrev Placed := Around × Node

/-- The nodes that are yet to be filled once a node is begun. -/
def beginning (around : Around) (n : Node) : Except Fault (List Placed) := do
  match ← n.begun with
  | some _ => return []
  | none => return match n with | .again _ => [] | n => [(around, n)]

/-- Begins the key and the value of an entry, the key of which must be a scalar. -/
def beginEntry (around : Around) (e : Node × Node) : Except Fault (List Placed) := do
  match ← (asKey e.1).begun with
  | some _ => beginning around e.2
  | none => throw .malformed

/-- Begins the two sides of a pair. -/
def beginPair (around : Around) (n : Node) : Except Fault (List Placed) := do
  let (k, v) ← pairOf around n
  return (← beginning around k) ++ (← beginning around v)

/-- Fills a collection: the collections in it, which are begun. -/
def fill (p : Placed) : Except Fault (List Placed) := do
  let n ← filled p.1 p.2
  let around := n :: p.1
  match n with
  | .mapping _ _ es => return (← es.mapM (beginEntry around)).flatten
  | .sequence _ .pairs items => return (← items.mapM (beginPair around)).flatten
  | .sequence _ _ items => return (← items.mapM (beginning around)).flatten
  | _ => return []

/-- Fills collections level by level. -/
def fillAll : Nat → List Placed → Except Fault Unit
  | 0, _ => .ok ()
  | fuel + 1, ps =>
    if ps.isEmpty then .ok ()
    else do fillAll fuel (← ps.mapM fill).flatten

/-- Finds the first fault of a document with so many tokens. -/
def check (fuel : Nat) (n : Node) : Except Fault Unit := do fillAll fuel (← beginning [] n)

/-! ## The value -/

/-- A collection that is a knot if it refers to itself or to one around it. -/
def knotted (place : Nat) (v : Value) : Value := if v.loose.isEmpty then v else .knot place v

/-- The value of a node. -/
def value : Nat → Around → Node → Except Fault Value
  | 0, _, _ => .error .tooDeep
  | fuel + 1, around, n => do
    match ← n.begun, n with
    | some s, _ => return .scalar s
    | none, .again p => return .again p
    | none, n => do
      let n ← filled around n
      let around := n :: around
      match n with
      | .mapping p tag es => do
        let es ← es.mapM fun e => do
          return (((← (asKey e.1).begun).getD .null), ← value fuel around e.2)
        let es := Entries.ofList es
        return if tag = .set then .set (es.map (·.1)) else knotted p (.map es)
      | .sequence p .pairs items => do
        let vs ← items.mapM fun n => do
          let (k, v) ← pairOf around n
          return Value.pair (← value fuel around k) (← value fuel around v)
        return knotted p (.list vs)
      | .sequence p _ items => return knotted p (.list (← items.mapM (value fuel around)))
      | _ => throw .malformed

end Node

/-! ## Texts -/

/-- Whether a character may stand in a document. -/
def isAllowed (c : Char) : Bool :=
  let n := c.toNat
  n == 9 || n == 10 || n == 13 || (0x20 ≤ n && n ≤ 0x7e) || n == 0x85 ||
    (0xa0 ≤ n && n ≤ 0xfffd) || 0x10000 ≤ n

/-- The text with every line ended in the same way. -/
def plainLines : List Char → List Char
  | '\r' :: '\n' :: cs => '\n' :: plainLines cs
  | '\r' :: cs => '\n' :: plainLines cs
  | c :: cs => c :: plainLines cs
  | [] => []

/-- Reads the value of a document; an empty one is null. -/
def read (s : String) : Except Fault Value := do
  let cs := plainLines s.toList
  if !cs.all isAllowed then throw .malformed
  let ts := tokens cs
  match ← Node.ofTokens ts with
  | none => return .null
  | some n =>
    let fuel := 2 * ts.length + 2
    n.check fuel
    n.value fuel []

end Compliance.Markup
