import Compliance.Markup.Layout
import Compliance.Markup.Tag
import Compliance.Text.Basic

/-!
# Trees of nodes

The tokens of a document are put together to a tree: scalars, sequences and mappings, each with its
tag. A name refers to the node that was given it before; names are given once. A collection may
refer to itself from inside, so every collection knows its place, by which it is known there
(`Parser`, `Composer`).
-/
namespace Compliance.Markup

inductive Node where
  | scalar (tag : Tag) (text : String)
  | sequence (place : Nat) (tag : Tag) (items : List Node)
  | mapping (place : Nat) (tag : Tag) (entries : List (Node × Node))
  /-- The collection at a place, inside itself. -/
  | again (place : Nat)

namespace Node

mutual

/-- A node with a collection put in wherever it is referred to by its place. -/
def tied (place : Nat) (n : Node) : Node → Node
  | .again p => if p = place then n else .again p
  | .scalar tag s => .scalar tag s
  | .sequence p tag items => .sequence p tag (tiedItems place n items)
  | .mapping p tag es => .mapping p tag (tiedEntries place n es)

def tiedItems (place : Nat) (n : Node) : List Node → List Node
  | [] => []
  | m :: rest => tied place n m :: tiedItems place n rest

def tiedEntries (place : Nat) (n : Node) : List (Node × Node) → List (Node × Node)
  | [] => []
  | (k, v) :: rest => (tied place n k, tied place n v) :: tiedEntries place n rest

end

/-- What is known on the way through the tokens. -/
structure Progress where
  tokens : List Token
  /-- The names given so far, and their nodes. -/
  names : List (List Char × Node)
  /-- What the handles of tags stand for. -/
  handles : List (List Char × List Char)
  /-- How many collections are open. -/
  depth : Nat

/-- Reading from the tokens. -/
abbrev Build := StateT Progress (Except Fault)

/-- Ends the reading of what is no document. -/
def fail {α : Type} : Build α := throw .malformed

/-- The next token. -/
def peek : Build (Option Token) := do
  match (← get).tokens.head? with
  | some (.broken f) => throw f
  | t => return t

/-- Passes over a token. -/
def drop : Build Unit := modify fun p => { p with tokens := p.tokens.tail }

/-- Passes over a token if it comes next. -/
def accept (t : Token) : Build Bool := do
  if (← peek) = some t then
    drop
    return true
  else return false

/-- Whether one of some tokens comes next. -/
def comes (ts : List Token) : Build Bool := do
  match ← peek with
  | some t => return ts.contains t
  | none => return false

/-- The name and the tag before a node, in either order. -/
def properties : Build (Option (List Char) × Option (Option (List Char) × List Char)) := do
  match ← peek with
  | some (.anchor name) => do
    drop
    match ← peek with
    | some (.tag handle suffix) => do drop; return (some name, some (handle, suffix))
    | _ => return (some name, none)
  | some (.tag handle suffix) => do
    drop
    match ← peek with
    | some (.anchor name) => do drop; return (some name, some (handle, suffix))
    | _ => return (none, some (handle, suffix))
  | _ => return (none, none)

/-- The name of a tag in full. -/
def tagName (tag : Option (Option (List Char) × List Char)) : Build (Option (List Char)) := do
  match tag with
  | none => return none
  | some (none, suffix) => return some suffix
  | some (some handle, suffix) =>
    match (← get).handles.lookup handle with
    | some lead => return some (lead ++ suffix)
    | none => fail

/-- The tag of a node, given its name: a scalar may get it by its form. -/
def tagFor (name : Option (List Char)) (otherwise : Tag) : Tag :=
  match name with
  | none => otherwise
  | some name => if name = ['!'] then otherwise else Tag.ofName name

/-- A scalar. One without a tag gets it by its form if it is plain; the bare tag asks for that. -/
def ofScalar (name : Option (List Char)) (text : List Char) (plain : Bool) : Node :=
  let s := String.ofList text
  .scalar (tagFor name (if name.isNone && !plain then Tag.text else Tag.ofForm s)) s

/-- The scalar that stands where there is nothing. -/
def absent : Node := .scalar .null ""

/-- Fails if a name has been given before. -/
def checkName (name : Option (List Char)) : Build Unit := do
  match name with
  | none => return ()
  | some name => if ((← get).names.lookup name).isSome then fail else return ()

/-- Gives a name to a node. -/
def define (name : Option (List Char)) (n : Node) : Build Unit := do
  match name with
  | none => return ()
  | some name => modify fun p => { p with names := (name, n) :: p.names }

/-- How deep collections may lie in each other. -/
def depthLimit : Nat := 488

/-- A collection, with its name if it has one. Inside itself the name refers to its place, and where
it ends the collection is put into the nodes named inside it. -/
def collection (name : Option (List Char)) (make : Nat → Build Node) : Build Node := do
  let p ← get
  let place := p.tokens.length
  if depthLimit ≤ p.depth then throw .tooDeep
  set { p with depth := p.depth + 1 }
  define name (.again place)
  let n ← make place
  modify fun p => { p with depth := p.depth - 1 }
  if name.isSome then
    modify fun p => { p with names := p.names.map fun m => (m.1, tied place n m.2) }
  return n

/-- Passes over the comma before an element; there is none before the first. -/
def lacksComma (isFirst : Bool) : Build Bool := do
  if isFirst then return false else return !(← accept .flowEntry)

/-- A scalar with its name. -/
def scalarNode (name : Option (List Char)) (n : Node) : Build Node := do
  checkName name
  define name n
  return n

/-- A node that has properties only. -/
def emptyNode (hasProperties : Bool) (name tag : Option (List Char)) : Build Node := do
  if hasProperties then scalarNode name (ofScalar tag [] true) else fail

mutual

/-- A node. In a block, collections may be laid out by indentation; as the value of a key, a
sequence may stand at the indentation of the key. -/
def node (isBlock atKey : Bool) : Nat → Build Node
  | 0 => fail
  | fuel + 1 => do
    match ← peek with
    | some (.alias name) => do
      drop
      match (← get).names.lookup name with
      | some n => return n
      | none => fail
    | _ => do
      let (name, tag) ← properties
      let tag ← tagName tag
      content isBlock atKey (name.isSome || tag.isSome) name tag fuel

/-- What comes after the properties of a node. -/
def content (isBlock atKey hasProperties : Bool) (name tag : Option (List Char)) : Nat → Build Node
  | 0 => fail
  | fuel + 1 => do
    match ← peek with
    | some (.scalar text plain) => do
      drop
      scalarNode name (ofScalar tag text plain)
    | some .flowSequenceStart => do
      checkName name
      collection name fun place => do
        drop
        return .sequence place (tagFor tag .sequence) (← flowItems true fuel)
    | some .flowMappingStart => do
      checkName name
      collection name fun place => do
        drop
        return .mapping place (tagFor tag .mapping) (← flowEntries true fuel)
    | some .blockEntry => do
      if atKey then
        checkName name
        collection name fun place => do
          return .sequence place (tagFor tag .sequence) (← blockItems false fuel)
      else emptyNode hasProperties name tag
    | some .blockSequenceStart => do
      if isBlock then
        checkName name
        collection name fun place => do
          drop
          return .sequence place (tagFor tag .sequence) (← blockItems true fuel)
      else emptyNode hasProperties name tag
    | some .blockMappingStart => do
      if isBlock then
        checkName name
        collection name fun place => do
          drop
          return .mapping place (tagFor tag .mapping) (← blockEntries fuel)
      else emptyNode hasProperties name tag
    | _ => emptyNode hasProperties name tag

/-- The elements of a block sequence; one at the indentation of its key has no end of its own. -/
def blockItems (closed : Bool) : Nat → Build (List Node)
  | 0 => fail
  | fuel + 1 => do
    if ← accept .blockEntry then
      let isEmpty ←
        comes (if closed then [.blockEntry, .blockEnd] else [.blockEntry, .key, .value, .blockEnd])
      let n ← if isEmpty then pure absent else node true false fuel
      return n :: (← blockItems closed fuel)
    else if closed then
      if ← accept .blockEnd then return [] else fail
    else return []

/-- The entries of a block mapping. -/
def blockEntries : Nat → Build (List (Node × Node))
  | 0 => fail
  | fuel + 1 => do
    if ← accept .key then
      let k ← blockPart fuel
      let v ← if ← accept .value then blockPart fuel else pure absent
      return (k, v) :: (← blockEntries fuel)
    else if ← accept .blockEnd then return []
    else fail

/-- A key or a value of a block mapping. -/
def blockPart : Nat → Build Node
  | 0 => fail
  | fuel + 1 => do
    if ← comes [.key, .value, .blockEnd] then return absent else node true true fuel

/-- The elements of a flow sequence. One with a key is a mapping of its own. -/
def flowItems (isFirst : Bool) : Nat → Build (List Node)
  | 0 => fail
  | fuel + 1 => do
    if ← accept .flowSequenceEnd then return []
    else if ← lacksComma isFirst then fail
    else if ← accept .flowSequenceEnd then return []
    else if ← accept .key then
      let ends := [Token.flowEntry, .flowSequenceEnd]
      let pair ← collection none fun place => do
        let k ← flowPart (.value :: ends) fuel
        let v ← if ← accept .value then flowPart ends fuel else pure absent
        return .mapping place .mapping [(k, v)]
      return pair :: (← flowItems false fuel)
    else
      let n ← node false false fuel
      return n :: (← flowItems false fuel)

/-- The entries of a flow mapping. A key may stand without a value. -/
def flowEntries (isFirst : Bool) : Nat → Build (List (Node × Node))
  | 0 => fail
  | fuel + 1 => do
    if ← accept .flowMappingEnd then return []
    else if ← lacksComma isFirst then fail
    else if ← accept .flowMappingEnd then return []
    else
      let ends := [Token.flowEntry, .flowMappingEnd]
      let (k, v) ←
        if ← accept .key then do
          let k ← flowPart (.value :: ends) fuel
          let v ← if ← accept .value then flowPart ends fuel else pure absent
          pure (k, v)
        else do
          let k ← node false false fuel
          pure (k, absent)
      return (k, v) :: (← flowEntries false fuel)

/-- A key or a value in a flow collection, unless one of some tokens comes in its place. -/
def flowPart (ends : List Token) : Nat → Build Node
  | 0 => fail
  | fuel + 1 => do
    if ← comes ends then return absent else node false false fuel

end

/-- Reads the directives before a document: the handles they declare. -/
def directives (hasVersion : Bool) (declared : List (List Char × List Char)) :
    List Token → Except Fault (List (List Char × List Char) × List Token)
  | .directive (.version major _) :: rest =>
    if hasVersion || major != 1 then .error .malformed else directives true declared rest
  | .directive (.handle name lead) :: rest =>
    if (declared.lookup name).isSome then .error .malformed
    else directives hasVersion ((name, lead) :: declared) rest
  | .directive .other :: rest => directives hasVersion declared rest
  | ts => .ok (declared, ts)

/-- What the handles of tags stand for unless declared otherwise. -/
def standardHandles : List (List Char × List Char) :=
  [(['!'], ['!']), (['!', '!'], "tag:yaml.org,2002:".toList)]

/-- The node of a document that begins here, and the tokens after it. -/
def documentNode (handles : List (List Char × List Char)) (isExplicit : Bool) (ts : List Token) :
    Except Fault (Node × List Token) :=
  let isEmpty := isExplicit && match ts with
    | [] => true
    | .documentEnd :: _ => true
    | .documentStart :: _ => true
    | .directive .. :: _ => true
    | _ => false
  if isEmpty then .ok (absent, ts)
  else
    ((node true false (4 * ts.length + 4)).run ⟨ts, [], handles, 0⟩).map fun (n, p) => (n, p.tokens)

/-- Nothing but document ends may follow a document. -/
def checkEnd : List Token → Except Fault Unit
  | [] => .ok ()
  | .documentEnd :: ts => checkEnd ts
  | .broken f :: _ => .error f
  | _ => .error .malformed

/-- The node of the only document in a stream; a stream without a document has none. -/
def ofTokens (ts : List Token) : Except Fault (Option Node) := do
  match ts with
  | [] => return none
  | .broken f :: _ => throw f
  | .directive .. :: _ => do
    let (handles, ts) ← directives false [] ts
    match ts with
    | .documentStart :: ts => only (← documentNode (handles ++ standardHandles) true ts)
    | .broken f :: _ => throw f
    | _ => throw .malformed
  | .documentStart :: ts => only (← documentNode standardHandles true ts)
  | ts => only (← documentNode standardHandles false ts)
where
  /-- The node of a document after which nothing comes. -/
  only (r : Node × List Token) : Except Fault (Option Node) := do
    checkEnd r.2
    return some r.1

end Node
end Compliance.Markup
