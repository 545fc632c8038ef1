import Compliance.Incident.Basic

/-!
# Updates of incidents

An update (`update_incident`) is read as a whole before anything is changed: first the names of its
fields, then the words for status, priority and severity. Closing an incident sets the time of its
resolution, and any other status clears it.
-/
namespace Compliance

open Calendar

/-- A change of one field. -/
inductive Change where
  | title (v : Value)
  | description (v : Value)
  | severity (s : Severity)
  | status (s : IncidentStatus)
  | priority (p : Priority)
  | assignee (v : Value)
  | reporter (v : Value)
  | violationIds (v : Value)

/-- Why an update is refused. -/
inductive UpdateFault where
  /-- A name that the update itself is addressed with. -/
  | addressing (name : String)
  /-- Names of fields that do not exist or may not be written. -/
  | fields (names : List String)
  | cannotBeNull (field : String)
  | notMember (f : NotMember)

def UpdateFault.message : UpdateFault → String
  | .addressing name => "multiple values for argument '" ++ name ++ "'"
  | .fields names => "Cannot update incident fields: " ++ (Value.texts names).quoted
  | .cannotBeNull field => "Incident field " ++ field ++ " cannot be None"
  | .notMember f => f.message

namespace Change

/-- The names of the fields that may be written. -/
def fieldNames : List String :=
  ["title", "description", "severity", "status", "priority", "assignee", "reporter",
    "violation_ids"]

/-- A member of a vocabulary, which a field cannot be without. -/
def readWord (α : Type) [Vocabulary α] (name : String) (v : Value) : Except UpdateFault α :=
  match v with
  | .null => .error (.cannotBeNull name)
  | v => (readMember α v).mapError .notMember

theorem readWord_eq_ok_iff {α : Type} [Vocabulary α] {name : String} {v : Value} {a : α} :
    readWord α name v = .ok a ↔ v = .member a := by
  rw [← readMember_eq_ok_iff]
  unfold readWord
  split
  · simp [readMember]
  · cases readMember α v with
    | ok b =>
      constructor <;> intro h <;> cases h <;> rfl
    | error f =>
      constructor <;> intro h <;> cases h

/-- The change that a field name and a value stand for. -/
def read (name : String) (v : Value) : Except UpdateFault Change :=
  if name = "title" then .ok (.title v)
  else if name = "description" then .ok (.description v)
  else if name = "severity" then (readWord Severity name v).map .severity
  else if name = "status" then (readWord IncidentStatus name v).map .status
  else if name = "priority" then (readWord Priority name v).map .priority
  else if name = "assignee" then .ok (.assignee v)
  else if name = "reporter" then .ok (.reporter v)
  else if name = "violation_ids" then .ok (.violationIds v)
  else .error (.fields [name])

/-- The changes that an update stands for. -/
def readAll (updates : List (String × Value)) : Except UpdateFault (List Change) :=
  let names := updates.map (·.1)
  match names.find? fun n => n = "self" || n = "incident_id" with
  | some name => .error (.addressing name)
  | none =>
    let refused := names.filter fun n => !fieldNames.contains n
    if refused.isEmpty then updates.mapM fun u => read u.1 u.2
    else .error (.fields (refused.mergeSort fun a b => decide (a ≤ b)))

/-- An update that names only fields that may be written is read entry by entry. -/
theorem readAll_eq_mapM {updates : List (String × Value)}
    (h : ∀ u ∈ updates, u.1 ∈ fieldNames) :
    readAll updates = updates.mapM fun u => read u.1 u.2 := by
  have hname : ∀ n ∈ updates.map (·.1), n ∈ fieldNames := List.forall_mem_map.2 h
  have haddressed : (updates.map (·.1)).find? (fun n => n = "self" || n = "incident_id") = none :=
    List.find?_eq_none.2 fun n hn => (by decide : ∀ n ∈ fieldNames,
      ¬ (decide (n = "self") || decide (n = "incident_id")) = true) n (hname n hn)
  have hrefused : (updates.map (·.1)).filter (fun n => !fieldNames.contains n) = [] :=
    List.filter_eq_nil_iff.2 fun n hn => by simp [hname n hn]
  unfold readAll
  simp only [haddressed, hrefused, List.isEmpty_nil, if_true]

/-- Writes the field. -/
def apply (i : Incident) : Change → Incident
  | .title v => { i with title := v }
  | .description v => { i with description := v }
  | .severity s => { i with severity := s }
  | .status s => { i with status := s }
  | .priority p => { i with priority := p }
  | .assignee v => { i with assignee := v }
  | .reporter v => { i with reporter := v }
  | .violationIds v => { i with violationIds := v }

end Change

/-- The incident after an update (the second half of `update_incident`). -/
def Incident.updated (now : Instant) (changes : List Change) (i : Incident) : Incident :=
  let i := changes.foldl Change.apply i
  let updatedAt := advance now i.updatedAt
  { i with
    updatedAt
    resolvedAt := if i.status = .closed then i.resolvedAt <|> some updatedAt else none }

/-- No update changes an id. -/
theorem Incident.updated_id (now : Instant) (changes : List Change) (i : Incident) :
    (i.updated now changes).id = i.id := by
  unfold Incident.updated
  induction changes generalizing i with
  | nil => rfl
  | cons c changes ih => exact (ih (c.apply i)).trans (by cases c <;> rfl)

/-- After an update the incidents that are closed are those with a time of resolution. -/
theorem Incident.updated_resolved (now : Instant) (changes : List Change) (i : Incident) :
    (i.updated now changes).resolvedAt.isSome = true ↔ (i.updated now changes).status = .closed := by
  by_cases h : (changes.foldl Change.apply i).status = .closed <;> simp [updated, h]

end Compliance
