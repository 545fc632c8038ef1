import Compliance.Incident.Update
import Compliance.Violation.Basic

/-!
# The incidents on file

Incidents and their events get running numbers (`IncidentManager`). Every accepted change of an
incident moves its time of update forward, whatever the clock says.
-/
namespace Compliance

open Calendar

/-- The ids of the first incidents. -/
def firstIds (n : Nat) : List String := (List.range n).map fun k => label "incident" (k + 1)

structure IncidentStore where
  incidents : List Incident
  /-- How many incidents have been opened so far. -/
  issued : Nat
  /-- How many events have been recorded so far. -/
  events : Nat
  /-- Who signs what nobody else does. -/
  actor : String
  /-- None of the incidents that were opened is ever taken out. -/
  numbered : incidents.map (·.id) = firstIds issued

/-- The incident that is opened for a violation (`create_from_violation`). -/
def Violation.incident (v : Violation) (now : Instant) (actor : String) (number event : Nat) :
    Incident where
  id := label "incident" number
  title := .text v.title
  description := .text v.description
  severity := v.severity
  status := .opened
  priority := v.severity.priority
  assignee := .null
  reporter := .text actor
  violationIds := .texts [v.id]
  timeline := [⟨⟨.created, "Incident created from violation", actor, .null⟩,
    label "event" event, now⟩]
  createdAt := now
  updatedAt := now
  resolvedAt := none

namespace IncidentStore

def empty (actor : String) : IncidentStore := ⟨[], 0, 0, actor, rfl⟩

def find? (s : IncidentStore) (id : String) : Option Incident := s.incidents.find? (·.id = id)

/-- The id of the incident that is opened next. -/
def nextId (s : IncidentStore) : String := label "incident" (s.issued + 1)

/-- The next id is new. -/
theorem id_ne_nextId {s : IncidentStore} {i : Incident} (hi : i ∈ s.incidents) :
    i.id ≠ s.nextId := by
  have hm : i.id ∈ firstIds s.issued := s.numbered ▸ List.mem_map_of_mem hi
  obtain ⟨k, hk, he⟩ := List.mem_map.1 hm
  have hlt := List.mem_range.1 hk
  rw [← he, nextId, Ne, label_inj]
  omega

/-- Ids stay on file in a store that has issued at least as many. -/
theorem exists_id_of_issued_le {s s' : IncidentStore} (h : s.issued ≤ s'.issued) {i : Incident}
    (hi : i ∈ s.incidents) : ∃ j ∈ s'.incidents, j.id = i.id := by
  have hm : i.id ∈ firstIds s.issued := s.numbered ▸ List.mem_map_of_mem hi
  obtain ⟨k, hk, he⟩ := List.mem_map.1 hm
  have hm' : i.id ∈ s'.incidents.map (·.id) := by
    rw [s'.numbered]
    exact List.mem_map.2 ⟨k, List.mem_range.2 (Nat.lt_of_lt_of_le (List.mem_range.1 hk) h), he⟩
  exact List.mem_map.1 hm'

/-- No two incidents have the same id. -/
theorem ids_nodup (s : IncidentStore) : (s.incidents.map (·.id)).Nodup := by
  rw [s.numbered]
  refine List.pairwise_map.2 (List.nodup_range.imp fun {m n} hmn h => ?_)
  have := label_inj.1 h
  omega

/-- Opens an incident for a violation (`create_from_violation`). -/
def openFor (now : Instant) (v : Violation) (s : IncidentStore) : IncidentStore × Incident :=
  let i := v.incident now s.actor (s.issued + 1) (s.events + 1)
  ({ s with
      incidents := s.incidents ++ [i]
      issued := s.issued + 1
      events := s.events + 1
      numbered := by simp [s.numbered, firstIds, List.range_succ, i, Violation.incident] }, i)

/-- Changes the incident with an id. -/
def modify (id : String) (f : Incident → Incident) (hf : ∀ i, (f i).id = i.id)
    (s : IncidentStore) : IncidentStore :=
  { s with
    incidents := s.incidents.map fun i => if i.id = id then f i else i
    numbered := by
      rw [← s.numbered, List.map_map]
      exact List.map_congr_left fun i _ => by simp only [Function.comp]; split <;> simp [hf] }

/-- Records an event of an incident (`add_event`). -/
def addEvent (now : Instant) (id : String) (e : Report) (s : IncidentStore) :
    IncidentStore × Event :=
  let e : Event := ⟨e, label "event" (s.events + 1), now⟩
  ({ s.modify id (·.withEvent now e) (fun _ => rfl) with events := s.events + 1 }, e)

/-- Applies changes to an incident (`update_incident`). -/
def change (now : Instant) (id : String) (changes : List Change) (s : IncidentStore) :
    IncidentStore := s.modify id (·.updated now changes) (Incident.updated_id now changes)

/-- The incident with an id is found changed, and all others are found as they are. -/
theorem find?_modify (s : IncidentStore) (id' : String) (f : Incident → Incident)
    (hf : ∀ i, (f i).id = i.id) (id : String) :
    (s.modify id' f hf).find? id = (s.find? id).map fun i => if id = id' then f i else i := by
  have hsame : (fun i : Incident => decide (i.id = id)) ∘ (fun i => if i.id = id' then f i else i) =
      fun i => decide (i.id = id) := by
    funext i
    simp only [Function.comp]
    split <;> simp [hf]
  unfold find? modify
  rw [List.find?_map, hsame]
  refine Option.map_congr fun i hi => ?_
  have hid : i.id = id := by simpa using List.find?_some hi
  rw [hid]

theorem find?_addEvent (s : IncidentStore) (now : Instant) (id' : String) (report : Report)
    (id : String) :
    (s.addEvent now id' report).1.find? id = (s.find? id).map fun i =>
      if id = id' then i.withEvent now ⟨report, label "event" (s.events + 1), now⟩ else i :=
  find?_modify s id' (·.withEvent now ⟨report, label "event" (s.events + 1), now⟩) (fun _ => rfl) id

theorem find?_change (s : IncidentStore) (now : Instant) (id' : String) (changes : List Change)
    (id : String) :
    (s.change now id' changes).find? id =
      (s.find? id).map fun i => if id = id' then i.updated now changes else i :=
  find?_modify s id' (·.updated now changes) (Incident.updated_id now changes) id

/-- The incident that is opened is found under its id, and all others as before. -/
theorem find?_openFor (s : IncidentStore) (now : Instant) (v : Violation) (id : String) :
    (s.openFor now v).1.find? id =
      (s.find? id).or (if s.nextId = id then some (s.openFor now v).2 else none) := by
  refine List.find?_append.trans (congrArg (Option.or _) ?_)
  simp only [List.find?_singleton, decide_eq_true_eq]
  rfl

/-- Updates the fields of an incident, if there is such an incident (`update_incident`). -/
def update (now : Instant) (id : String) (updates : List (String × Value)) (s : IncidentStore) :
    Except UpdateFault (Option IncidentStore) := do
  let changes ← Change.readAll updates
  match s.find? id with
  | none => return none
  | some _ => return some (s.change now id changes)

/-- Links a further violation to an incident, if there is such an incident; one that is already
linked changes nothing (`link_violation`). -/
def link (now : Instant) (id violation : String) (s : IncidentStore) :
    Except ShapeFault (Option IncidentStore) :=
  match s.find? id with
  | none => .ok none
  | some i => do
    if ← i.violationIds.has (.text violation) then return some s
    match i.violationIds with
    | .list vs =>
      let s := s.modify id (fun i => { i with violationIds := .list (vs ++ [.text violation]) })
        fun _ => rfl
      return some (s.addEvent now id ⟨.updated, "Violation linked to incident", s.actor,
        .record [("violation_id", .text violation)]⟩).1
    | v => throw (.noOperation v.typeName "append")

def withStatus (s : IncidentStore) (status : IncidentStatus) : List Incident :=
  s.incidents.filter (·.status = status)

end IncidentStore
end Compliance
