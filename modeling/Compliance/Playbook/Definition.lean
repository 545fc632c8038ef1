import Compliance.Number.Literal
import Compliance.Playbook.Basic
import Compliance.Text.Bytes
import Compliance.Vocabulary

/-!
# Reading playbook definitions

A definition is any value. It is read (`from_dict`, `_step_from_dict`, `_mapping`) from the top
down, and the first fault met is the one that is reported. Parts that are missing or count as false
are taken as empty; texts stand for numbers where a number is asked for, and anything at all stands
for a text.
-/
namespace Compliance

/-- What is wrong at one place of a definition. -/
inductive DefinitionFault where
  | notMapping (part type : String)
  | missing (key : String)
  | notMember (f : NotMember)
  | notNumber (v : Value)
  | shape (f : ShapeFault)
  /-- A whole number beyond the range of floating point. -/
  | tooLarge
  /-- A whole number with too many digits to be written as text. -/
  | unwritable

/-- Why a definition is refused. -/
inductive Refusal where
  | notMapping (type : String)
  | missingId
  | invalid (id : Value) (fault : DefinitionFault)
  | duplicateSteps (id : Value)
  | unrecognized (file : String)

/-- How reading ends without a playbook: the definition is refused, a number in it overflows, or its
id cannot be written into the refusal. -/
inductive DefinitionFailure where
  | refused (r : Refusal)
  | overflow
  | unwritableId

/-- The words for what is no number. -/
def notNumberMessage (v : Value) : String := "could not convert string to float: " ++ v.quoted

def DefinitionFault.message : DefinitionFault → String
  | .notMapping part type => part ++ " must be a mapping, got " ++ type
  | .missing key => Text.quoted key
  | .notMember f => f.message
  | .notNumber v => notNumberMessage v
  | .shape f => f.message
  | .tooLarge => "int too large to convert to float"
  | .unwritable => Number.tooManyDigitsToWrite

namespace Refusal

def message : Refusal → String
  | .notMapping type => "Playbook definition must be a mapping, got " ++ type
  | .missingId => "Playbook is missing an id"
  | .invalid id fault => "Invalid playbook " ++ id.toText ++ ": " ++ fault.message
  | .duplicateSteps id => "Duplicate step ids in playbook " ++ id.toText
  | .unrecognized file => "Unrecognized playbook document in " ++ file

/-- The id of the refused playbook, or null. -/
def playbookId : Refusal → Value
  | .invalid id _ => id
  | .duplicateSteps id => id
  | _ => .null

end Refusal

namespace Definition

/-- The outcome of reading a part. -/
abbrev Read := Except DefinitionFault

def shaped {α : Type} (r : Except ShapeFault α) : Read α := r.mapError .shape

def memberOf (α : Type) [Vocabulary α] (v : Value) : Read α :=
  (readMember α v).mapError fun f => if v.isWritable then .notMember f else .unwritable

/-- The entries of a part that must be a mapping; null is an empty one. -/
def mapping (part : String) (v : Value) : Read Entries :=
  match v, v.entries? with
  | .null, _ => .ok []
  | _, some es => .ok es
  | _, none => .error (.notMapping part v.typeName)

/-- The value under a key, null if there is none. -/
def get (es : Entries) (key : String) : Value := (es.field? key).getD .null

/-- The value under a key, or another if there is none. -/
def getOr (es : Entries) (key : String) (otherwise : Value) : Value :=
  (es.field? key).getD otherwise

/-- The value under a key that must be there. -/
def require (es : Entries) (key : String) : Read Value :=
  match es.field? key with
  | some v => .ok v
  | none => .error (.missing key)

/-- The entries of a value that is looked into by a key. -/
def entriesOf (v : Value) : Read Entries :=
  match v.opened with
  | .map es => .ok es
  | .list _ => .error (.shape .fieldOfList)
  | .text _ => .error (.shape .fieldOfText)
  | v => .error (.shape (.notIndexable v.typeName))

/-- The elements of a value; one that counts as false has none. -/
def elements (v : Value) : Read (List Value) :=
  if v.truthy then shaped v.items else .ok []

/-- A number of seconds. -/
def seconds : Value → Read Float
  | .bool b => .ok (if b then 1.0 else 0.0)
  | .int n =>
    match Number.ofInt? n with
    | some x => .ok x
    | none => .error .tooLarge
  | .float x => .ok x
  | .text s =>
    match Number.lenientFloat? s with
    | some x => .ok x
    | none => .error (.notNumber (.text s))
  | .scalar (.bytes bs) =>
    match Text.ascii? bs >>= Number.lenientFloat? with
    | some x => .ok x
    | none => .error (.notNumber (.scalar (.bytes bs)))
  | v => .error (.shape (.notNumeric v.typeName))

/-- The key and value of the `i`th element of a list of pairs. -/
def pair (i : Nat) (v : Value) : Except ShapeFault (Scalar × Value) :=
  match v.items with
  | .ok [k, w] => k.key.map fun k => (k, w)
  | .ok vs => .error (.pairLength i vs.length)
  | .error _ => .error (.notPair i)

/-- A mapping given as a list of pairs, from the `i`th on. -/
def pairs : Nat → Entries → List Value → Except ShapeFault Entries
  | _, acc, [] => .ok acc
  | i, acc, v :: rest => do
    let (k, w) ← pair i v
    pairs (i + 1) (acc.put k w) rest

/-- A mapping, or what can be made one; a value that counts as false is empty. -/
def params (v : Value) : Except ShapeFault Entries :=
  match v.entries? with
  | some es => .ok es
  | none => if v.truthy then v.items >>= pairs 0 [] else .ok []

/-- A value as text. -/
def written (v : Value) : Read String :=
  match v.writtenAs Value.toText with
  | .ok s => .ok s
  | .error _ => .error .unwritable

theorem written_eq_ok_iff {v : Value} {s : String} :
    written v = .ok s ↔ v.isWritable = true ∧ v.toText = s := by
  unfold written Value.writtenAs
  cases v.isWritable <;> simp

/-- Texts under texts: both sides of every entry are written as text. -/
def parameters (v : Value) : Read Entries :=
  match v.entries? with
  | some es => do
    let texts ← es.mapM fun e => do
      return (Scalar.text (← written (.scalar e.1)), Value.text (← written e.2))
    return Entries.ofList texts
  | none => if v.truthy then .error (.shape (.noOperation v.typeName "items")) else .ok []

def trigger (v : Value) : Read Trigger := do
  let es ← mapping "trigger" v
  let conditions ← mapping "trigger.conditions" (get es "conditions")
  let type ← memberOf TriggerType (getOr es "type" (.member TriggerType.violation))
  let severities ← (← elements (get conditions "severity")).mapM (memberOf Severity)
  let assetTypes ← (← elements (get conditions "asset_type")).mapM (memberOf AssetType)
  return ⟨type, severities, assetTypes, get conditions "policy_id"⟩

def action (config : Entries) (v : Value) : Read Action := do
  let kind ← memberOf ActionKind v
  return ⟨.member kind, ← shaped (params (get config "params"))⟩

def notification (v : Value) : Read Notification := do
  let es ← entriesOf v
  let channel ← memberOf Channel (← require es "channel")
  let template ← require es "template"
  return ⟨channel, template, ← elements (get es "recipients")⟩

def delay (v : Value) : Read Seconds := do
  let es ← entriesOf v
  return .real (← seconds (← require es "seconds"))

def condition (v : Value) : Read Test := do
  let es ← entriesOf v
  return ⟨← require es "field", get es "value", getOr es "operator" (.text "equals")⟩

def remediation (v : Value) : Read Script := do
  let es ← entriesOf v
  return ⟨← require es "script", ← parameters (get es "parameters")⟩

/-- Reads a part if it is there. -/
def part {α : Type} (config : Entries) (key : String) (read : Value → Read α) : Read (Option α) :=
  match config.field? key with
  | some v => (read v).map some
  | none => .ok none

def stepConfig (config : Entries) : Read StepConfig := do
  let action ← part config "action" (action config)
  let notification ← part config "notification" notification
  let delay ← part config "delay" delay
  let condition ← part config "condition" condition
  let remediation ← part config "remediation" remediation
  return ⟨action, notification, delay, condition, remediation⟩

def step (v : Value) : Read Step := do
  let es ← mapping "step" v
  let type ← memberOf StepType (← require es "type")
  let config ← stepConfig (← mapping "step config" (get es "config"))
  let id ← written (← require es "id")
  return ⟨id, getOr es "name" (.text id), .member type, config, get es "on_success",
    get es "on_failure"⟩

/-- The trigger and the steps of a definition. -/
def body (es : Entries) : Read (Trigger × List Step) := do
  let trigger ← trigger (get es "trigger")
  let steps ← (← elements (get es "steps")).mapM step
  return (trigger, steps)

/-- Whether no text occurs twice. -/
def distinct : List String → Bool
  | [] => true
  | s :: rest => !rest.contains s && distinct rest

/-- A refusal that names the id of the playbook. -/
def refusal (id : Value) (r : Refusal) : DefinitionFailure :=
  if id.isWritable then .refused r else .unwritableId

/-- Reads a playbook (`from_dict`). -/
def read (v : Value) : Except DefinitionFailure Playbook :=
  match v.entries? with
  | some es =>
    let id := get es "id"
    if id.truthy then
      match body es with
      | .error .tooLarge => .error .overflow
      | .error fault => .error (refusal id (.invalid id fault))
      | .ok (trigger, steps) =>
        if distinct (steps.map (·.id)) then
          .ok ⟨id, getOr es "name" id, getOr es "description" (.text ""), trigger, steps,
            (getOr es "enabled" (.bool true)).truthy, none⟩
        else .error (refusal id (.duplicateSteps id))
    else .error (.refused .missingId)
  | none => .error (.refused (.notMapping v.typeName))

end Definition
end Compliance
