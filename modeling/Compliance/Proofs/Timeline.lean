import Compliance.Proofs.Visits

/-!
# Timelines tell what became of an incident

An incident that a run opens has a timeline with one event for its opening and one for each action
that was carried out on it. Replaying the timeline gives the incident's status, priority and
resolution however the run ends. It gives the assignee too, unless the run was to assign the
incident to somebody who cannot be written: the incident then has the assignee, and the timeline
does not (`unwritable_assignee_untold`). Main statement: `timeline_replays`.
-/
namespace Compliance

/-! ## Replaying a timeline -/

/-- The value under a name in the data of an event. -/
def Event.field? (name : String) (e : Event) : Option Value :=
  e.data.entries?.bind (·.field? name)

/-- The value under a name in the data of the last event of a type. -/
def lastField? (type : EventType) (name : String) (timeline : List Event) : Option Value :=
  (timeline.filter (·.type = type)).getLast?.bind (·.field? name)

theorem lastField?_snoc (type : EventType) (name : String) (timeline : List Event) (e : Event) :
    lastField? type name (timeline ++ [e]) =
      if e.type = type then e.field? name else lastField? type name timeline := by
  by_cases h : e.type = type <;> simp [lastField?, List.filter_append, h]

/-- An incident opened for a violation has a timeline with events of some types after the first one,
and all but its assignee is what replaying that timeline gives. -/
structure Incident.Told (v : Violation) (types : List EventType) (i : Incident) : Prop where
  events : i.timeline.map (·.type) = .created :: types
  severity : i.severity = v.severity
  status : .member i.status =
    (lastField? .statusChange "status" i.timeline).getD (.member IncidentStatus.opened)
  priority : i.priority =
    if i.timeline.any (·.type = .escalation) then .p1 else i.severity.priority
  resolved : i.resolvedAt.isSome = true ↔ i.status = .closed

/-- The assignee is what replaying the timeline gives. -/
def Incident.IsAssigneeTold (i : Incident) : Prop :=
  i.assignee = (lastField? .assignment "assignee" i.timeline).getD .null

namespace Incident

theorem told_opened (v : Violation) (now : Calendar.Instant) (actor : String)
    (number event : Nat) : (v.incident now actor number event).Told v [] where
  events := rfl
  severity := rfl
  status := rfl
  priority := rfl
  resolved := by simp [Violation.incident]

theorem assigneeTold_opened (v : Violation) (now : Calendar.Instant) (actor : String)
    (number event : Nat) : (v.incident now actor number event).IsAssigneeTold := rfl

variable {v : Violation} {types : List EventType} {i : Incident}

/-- A change that is put on the timeline with its data keeps the timeline telling. -/
theorem Told.marked (h : i.Told v types) (now : Calendar.Instant) (m : Run.Mark)
    (playbookId : Value) {e : Event} (ht : e.type = m.type)
    (hd : e.data = .record (m.data playbookId)) :
    ((i.updated now [m.change]).withEvent now e).Told v (types ++ [m.type]) where
  events := by
    have := h.events
    cases m <;> simp_all [updated, withEvent, Run.Mark.change, Change.apply]
  severity := by
    have := h.severity
    cases m <;> simp_all [updated, withEvent, Run.Mark.change, Change.apply]
  status := by
    have := h.status
    cases m <;>
      simp_all [updated, withEvent, Run.Mark.change, Change.apply, lastField?_snoc, Run.Mark.type,
        Event.field?, Run.Mark.data, Value.record, Value.entries?, Value.opened, Entries.field?,
        Entries.find?, Scalar.alike_text]
  priority := by
    have := h.priority
    cases m <;> simp_all [updated, withEvent, Run.Mark.change, Change.apply, Run.Mark.type]
  resolved := updated_resolved now [m.change] i

theorem IsAssigneeTold.marked (h : i.IsAssigneeTold) (now : Calendar.Instant) (m : Run.Mark)
    (playbookId : Value) {e : Event} (ht : e.type = m.type)
    (hd : e.data = .record (m.data playbookId)) :
    ((i.updated now [m.change]).withEvent now e).IsAssigneeTold := by
  unfold IsAssigneeTold at h ⊢
  cases m <;>
    simp_all [updated, withEvent, Run.Mark.change, Change.apply, lastField?_snoc, Run.Mark.type,
      Event.field?, Run.Mark.data, Value.record, Value.entries?, Value.opened, Entries.field?,
      Entries.find?, Scalar.alike_text]

/-- A change of the assignee alone is not told, but all else still is. -/
theorem Told.reassigned (h : i.Told v types) (now : Calendar.Instant) (a : Value) :
    (i.updated now [.assignee a]).Told v types where
  events := h.events
  severity := h.severity
  status := h.status
  priority := h.priority
  resolved := updated_resolved now _ i

end Incident

/-! ## One visit -/

namespace Visit

/-- What a visit makes of an incident on file. -/
inductive Turns (playbookId : Value) (x : Visit) (i : Incident) : Incident → Prop
  | kept (unmarked : x.mark? i.id = none) : Turns playbookId x i i
  | marked (now : Calendar.Instant) (m : Run.Mark) (hm : ∀ a, m = .assignee a → a.isWritable = true)
      (e : Event) (marked : x.mark? i.id = some m.type) (ht : e.type = m.type)
      (hd : e.data = .record (m.data playbookId)) :
    Turns playbookId x i ((i.updated now [m.change]).withEvent now e)

theorem mark_incidents (playbookId : Value) (id : String) (m : Run.Mark) (r : Run) :
    ∃ e : Event, e.type = m.type ∧ e.data = .record (m.data playbookId) ∧
      (r.mark playbookId id m).world.incidents.incidents = r.world.incidents.incidents.map fun i =>
        if i.id = id then (i.updated r.world.now [m.change]).withEvent r.world.now e else i := by
  let s := (r.amend id m.change).world.incidents
  let report : Report := ⟨m.type, m.description, s.actor, .record (m.data playbookId)⟩
  refine ⟨⟨report, label "event" (s.events + 1), r.world.now⟩, rfl, rfl, ?_⟩
  refine (List.map_map ..).trans (List.map_congr_left fun i _ => ?_)
  simp only [Function.comp]
  by_cases h : i.id = id
  · simp only [h, if_true, Incident.updated_id]
    rfl
  · simp only [h, if_false]

/-- An incident on file after a visit was on file before, was opened by it, or is the one whose new
assignee could not be written. -/
theorem Does.incident {playbookId : Value} {v : Violation} {x : Visit} {after : Run}
    (h : x.Does playbookId v after) {i' : Incident}
    (hi : i' ∈ after.world.incidents.incidents) :
    (∃ i ∈ x.before.world.incidents.incidents, i.id = i'.id ∧ x.Turns playbookId i i' ∧
      ¬ x.IsOverlong i'.id) ∨
    (i'.id = x.before.world.incidents.nextId ∧ ¬ x.IsOverlong i'.id ∧
      ∃ now actor number event, i' = v.incident now actor number event) ∨
    (∃ i ∈ x.before.world.incidents.incidents, ∃ now a, i.id = i'.id ∧
      i' = i.updated now [.assignee a] ∧ a.isWritable = false ∧ x.mark? i.id = none ∧
      x.IsOverlong i'.id) := by
  cases h with
  | nothing incidents bound unmarked written =>
    rw [incidents] at hi
    exact .inl ⟨i', hi, rfl, .kept (unmarked _), written _⟩
  | opens incidents bound unmarked written =>
    rw [incidents] at hi
    rcases List.mem_append.1 hi with hi | hi
    · exact .inl ⟨i', hi, rfl, .kept (unmarked _), written _⟩
    · rw [List.mem_singleton.1 hi]
      exact .inr (.inl ⟨rfl, written _, _, _, _, _, rfl⟩)
  | marks id m hb hm incidents bound marked written =>
    obtain ⟨e, ht, hd, he⟩ := mark_incidents playbookId id m x.before
    rw [incidents, he] at hi
    obtain ⟨i, hmem, rfl⟩ := List.mem_map.1 hi
    left
    by_cases hid : i.id = id
    · rw [if_pos hid]
      exact ⟨i, hmem, (Incident.updated_id x.before.world.now _ i).symm,
        .marked _ m hm e (hid ▸ marked) ht hd, written _⟩
    · rw [if_neg hid]
      exact ⟨i, hmem, rfl, .kept (mark?_of_ne hb hid), written _⟩
  | amends id a hb ha incidents bound unmarked overlong _ =>
    rw [incidents] at hi
    obtain ⟨i, hmem, rfl⟩ := List.mem_map.1 hi
    by_cases hid : i.id = id
    · simp only [hid, if_true]
      refine .inr (.inr ⟨i, hmem, _, a, ?_, rfl, ha, unmarked _, ?_⟩)
      · rw [Incident.updated_id]
      · rw [Incident.updated_id, hid]
        exact overlong
    · simp only [hid, if_false]
      exact .inl ⟨i, hmem, rfl, .kept (unmarked _), not_overlong_of_ne hb hid⟩

/-- A visit takes no number back. -/
theorem Does.issued_le {playbookId : Value} {v : Violation} {x : Visit} {after : Run}
    (h : x.Does playbookId v after) :
    x.before.world.incidents.issued ≤ after.world.incidents.issued := by
  cases h with
  | nothing incidents =>
    exact Nat.le_of_eq (congrArg IncidentStore.issued incidents.symm)
  | opens incidents =>
    rw [incidents]
    exact Nat.le_succ x.before.world.incidents.issued
  | marks id m hb hm incidents =>
    rw [incidents]
    exact Nat.le_refl x.before.world.incidents.issued
  | amends id a hb ha incidents =>
    rw [incidents]
    exact Nat.le_refl x.before.world.incidents.issued

/-- What a visit leaves bound was bound before or is on file. -/
theorem Does.bound {playbookId : Value} {v : Violation} {x : Visit} {after : Run}
    (h : x.Does playbookId v after) {id : String} (hid : after.bound = some id) :
    x.before.bound = some id ∨ ∃ i ∈ after.world.incidents.incidents, i.id = id := by
  cases h with
  | nothing _ bound => exact .inl (bound ▸ hid)
  | opens incidents bound =>
    rcases bound with bound | bound
    · rw [bound] at hid
      rw [incidents]
      exact .inr ⟨_, List.mem_append_right _ (List.mem_singleton.2 rfl), Option.some.inj hid⟩
    · exact .inl (bound ▸ hid)
  | marks _ _ _ _ _ bound => exact .inl (bound ▸ hid)
  | amends _ _ _ _ _ bound => exact .inl (bound ▸ hid)

end Visit

/-! ## A whole run -/

/-- The event types that visits put on the timeline of an incident. -/
def marksOn (id : String) (xs : List Visit) : List EventType := xs.filterMap (·.mark? id)

/-- After some visits, the timelines of all incidents but some old ones tell what became of them. -/
structure Run.Tells (old : List String) (v : Violation) (xs : List Visit) (r : Run) : Prop where
  told : ∀ i ∈ r.world.incidents.incidents, i.id ∉ old → i.Told v (marksOn i.id xs)
  assigned : ∀ i ∈ r.world.incidents.incidents, i.id ∉ old →
    i.IsAssigneeTold ∧ i.assignee.isWritable = true
  written : ∀ x ∈ xs, ∀ id, ¬ x.IsOverlong id
  /-- Only incidents on file have been marked. -/
  known : ∀ x ∈ xs, ∀ id, x.mark? id ≠ none → ∃ i ∈ r.world.incidents.incidents, i.id = id
  bound : ∀ id, r.bound = some id → ∃ i ∈ r.world.incidents.incidents, i.id = id

/-- What visits leave told of an incident: everything, except that its assignee is told only if no
visit was to assign it to somebody who cannot be written. -/
structure Incident.ToldBy (v : Violation) (xs : List Visit) (i : Incident) : Prop where
  told : i.Told v (marksOn i.id xs)
  assigned : i.IsAssigneeTold ↔ ∀ x ∈ xs, ¬ x.IsOverlong i.id

namespace Run

variable {old : List String} {v : Violation} {xs : List Visit} {r : Run}

theorem marksOn_snoc (id : String) (xs : List Visit) (x : Visit) :
    marksOn id (xs ++ [x]) = marksOn id xs ++ (x.mark? id).toList := by
  cases h : x.mark? id <;> simp [marksOn, List.filterMap_append, h]

/-- An incident that is not on file has not been marked. -/
theorem Tells.marksOn_fresh (h : r.Tells old v xs) {id : String}
    (hid : ∀ i ∈ r.world.incidents.incidents, i.id ≠ id) : marksOn id xs = [] := by
  refine List.filterMap_eq_nil_iff.2 fun x hx => ?_
  cases hm : x.mark? id with
  | none => rfl
  | some type =>
    obtain ⟨i, hi, he⟩ := h.known x hx id (by simp [hm])
    exact absurd he (hid i hi)

/-- A visit marks what is bound, which is on file. -/
theorem Tells.known_snoc (h : r.Tells old v xs) {playbookId : Value} {x : Visit}
    (hx : x.before = r) {r' : Run} (does : x.Does playbookId v r') :
    ∀ y ∈ xs ++ [x], ∀ id, y.mark? id ≠ none →
      ∃ i ∈ r'.world.incidents.incidents, i.id = id := by
  have kept : ∀ id, (∃ i ∈ r.world.incidents.incidents, i.id = id) →
      ∃ i ∈ r'.world.incidents.incidents, i.id = id := by
    rintro _ ⟨i, hi, rfl⟩
    subst hx
    exact IncidentStore.exists_id_of_issued_le does.issued_le hi
  intro y hy id hm
  rcases List.mem_append.1 hy with hy | hy
  · exact kept id (h.known y hy id hm)
  · rw [List.mem_singleton.1 hy] at hm
    exact kept id (h.bound id (hx ▸ Visit.bound_of_mark? hm))

/-- A visit does not mark an incident that is not on file. -/
theorem Tells.unmarked_fresh (h : r.Tells old v xs) {x : Visit} (hx : x.before = r) {id : String}
    (hid : ∀ i ∈ r.world.incidents.incidents, i.id ≠ id) : x.mark? id = none := by
  cases hm : x.mark? id with
  | none => rfl
  | some type =>
    have hb : x.before.bound = some id := Visit.bound_of_mark? (by simp [hm])
    obtain ⟨i, hi, he⟩ := h.bound id (hx ▸ hb)
    exact absurd he (hid i hi)

/-- What is told of an incident that was on file: if a visit marks it, its timeline tells so. -/
theorem Tells.turned (h : r.Tells old v xs) {playbookId : Value} {x : Visit} {i i' : Incident}
    (hi : i ∈ r.world.incidents.incidents) (hold : i.id ∉ old) (turns : x.Turns playbookId i i') :
    i'.Told v (marksOn i.id xs ++ (x.mark? i.id).toList) ∧ i'.IsAssigneeTold ∧
      i'.assignee.isWritable = true := by
  have told := h.told i hi hold
  obtain ⟨assigned, writable⟩ := h.assigned i hi hold
  cases turns with
  | kept unmarked =>
    rw [unmarked]
    simpa using ⟨told, assigned, writable⟩
  | marked now m hm e marked ht hd =>
    rw [marked]
    refine ⟨told.marked now m playbookId ht hd, assigned.marked now m playbookId ht hd, ?_⟩
    cases m with
    | assignee a => exact hm a rfl
    | status s => exact writable
    | escalated => exact writable

/-- What is told of an incident whose new assignee cannot be written: the timeline still tells the
former assignee, who could be. -/
theorem Tells.untold (h : r.Tells old v xs) {i : Incident} (hi : i ∈ r.world.incidents.incidents)
    (hold : i.id ∉ old) (now : Calendar.Instant) {a : Value} (ha : a.isWritable = false) :
    (i.updated now [.assignee a]).Told v (marksOn i.id xs) ∧
      ¬ (i.updated now [.assignee a]).IsAssigneeTold := by
  obtain ⟨assigned, writable⟩ := h.assigned i hi hold
  refine ⟨(h.told i hi hold).reassigned now a, fun told => ?_⟩
  have same : a = i.assignee := told.trans assigned.symm
  rw [same, writable] at ha
  cases ha

/-- What is told of an incident after one more visit. -/
theorem Tells.snoc (h : r.Tells old v xs) {playbookId : Value} {x : Visit} (hx : x.before = r)
    {r' : Run} (does : x.Does playbookId v r') {i' : Incident}
    (hi' : i' ∈ r'.world.incidents.incidents) (hold : i'.id ∉ old) :
    i'.Told v (marksOn i'.id (xs ++ [x])) ∧
      ((i'.IsAssigneeTold ∧ i'.assignee.isWritable = true ∧ ¬ x.IsOverlong i'.id) ∨
        (¬ i'.IsAssigneeTold ∧ x.IsOverlong i'.id)) := by
  rw [marksOn_snoc]
  rcases does.incident hi' with ⟨i, hi, hid, turns, written⟩ |
    ⟨hid, written, now, actor, n, k, rfl⟩ | ⟨i, hi, now, a, hid, rfl, ha, unmarked, overlong⟩
  · rw [hx] at hi
    rw [← hid] at hold ⊢
    obtain ⟨told, assigned, writable⟩ := h.turned hi hold turns
    exact ⟨told, .inl ⟨assigned, writable, hid ▸ written⟩⟩
  · -- the incident that the visit opened, which nothing has marked before
    rw [hx] at hid
    have new : ∀ i ∈ r.world.incidents.incidents, i.id ≠ (v.incident now actor n k).id :=
      fun i hi => hid ▸ IncidentStore.id_ne_nextId hi
    rw [h.marksOn_fresh new, h.unmarked_fresh hx new]
    exact ⟨Incident.told_opened .., .inl ⟨Incident.assigneeTold_opened .., rfl, written⟩⟩
  · rw [hx] at hi
    rw [← hid] at hold overlong ⊢
    obtain ⟨told, untold⟩ := h.untold hi hold now ha
    rw [unmarked, Option.toList_none, List.append_nil]
    exact ⟨told, .inr ⟨untold, overlong⟩⟩

/-- The invariant goes over a visit after which the walk goes on. -/
theorem Tells.step (h : r.Tells old v xs) {playbookId : Value} {x : Visit} (hx : x.before = r)
    {success : Bool} (he : x.ending = .done success) {r' : Run}
    (does : x.Does playbookId v r') : r'.Tells old v (xs ++ [x]) := by
  have written : ∀ id, ¬ x.IsOverlong id := by
    cases does with
    | nothing _ _ _ written => exact written
    | opens _ _ _ written => exact written
    | marks _ _ _ _ _ _ _ written => exact written
    | amends _ _ _ _ _ _ _ _ ending =>
      rw [he] at ending
      cases ending
  refine ⟨fun i hi hold => (h.snoc hx does hi hold).1, fun i hi hold => ?_, ?_,
    h.known_snoc hx does, fun id hid => ?_⟩
  · rcases (h.snoc hx does hi hold).2 with ⟨assigned, writable, _⟩ | ⟨_, overlong⟩
    · exact ⟨assigned, writable⟩
    · exact absurd overlong (written i.id)
  · intro y hy
    rcases List.mem_append.1 hy with hy | hy
    · exact h.written y hy
    · rw [List.mem_singleton.1 hy]
      exact written
  · rcases does.bound hid with hb | hb
    · subst hx
      obtain ⟨i, hi, rfl⟩ := h.bound id hb
      exact IncidentStore.exists_id_of_issued_le does.issued_le hi
    · exact hb

/-- The last visit of a walk. -/
theorem Tells.last (h : r.Tells old v xs) {playbookId : Value} {x : Visit} (hx : x.before = r)
    {r' : Run} (does : x.Does playbookId v r') {i : Incident}
    (hi : i ∈ r'.world.incidents.incidents) (hold : i.id ∉ old) : i.ToldBy v (xs ++ [x]) := by
  obtain ⟨told, assigned⟩ := h.snoc hx does hi hold
  refine ⟨told, ?_⟩
  rcases assigned with ⟨assigned, _, written⟩ | ⟨untold, overlong⟩
  · refine iff_of_true assigned fun y hy => ?_
    rcases List.mem_append.1 hy with hy | hy
    · exact h.written y hy i.id
    · rwa [List.mem_singleton.1 hy]
  · refine iff_of_false untold fun written => ?_
    exact written x (List.mem_append_right _ (List.mem_singleton.2 rfl)) overlong

/-- A walk that makes no further visit. -/
theorem Tells.stop (h : r.Tells old v xs) {i : Incident} (hi : i ∈ r.world.incidents.incidents)
    (hold : i.id ∉ old) : i.ToldBy v xs :=
  ⟨h.told i hi hold, iff_of_true (h.assigned i hi hold).1 fun x hx => h.written x hx i.id⟩

theorem Walk.tells {t : Terms} {p : Playbook} {s : Option Step} {ys : List Visit} {r' : Run}
    {e : Ending} (walk : Walk t p v s r ys r' e) (h : r.Tells old v xs) :
    ∀ i ∈ r'.world.incidents.incidents, i.id ∉ old → i.ToldBy v (xs ++ ys) := by
  induction walk generalizing xs with
  | done r =>
    intro i hi hold
    simpa using h.stop hi hold
  | limit s r =>
    intro i hi hold
    simpa using h.stop hi hold
  | cancelled s r =>
    intro i hi hold
    simpa using h.stop hi hold
  | failed htake =>
    intro i hi hold
    exact h.last rfl (Visit.take_does htake) hi hold
  | interrupted htake =>
    intro i hi hold
    exact h.last rfl (Visit.take_does htake) hi hold
  | step htake _ ih =>
    intro i hi hold
    have := ih (h.step rfl rfl (Visit.take_does htake)) i hi hold
    rwa [List.append_assoc, List.singleton_append] at this

/-- Before its first step a run tells everything but of the incidents that are on file. -/
theorem tells_start (v : Violation) (w : World) :
    (⟨w, none⟩ : Run).Tells (w.incidents.incidents.map (·.id)) v [] where
  told _ hi hold := absurd (List.mem_map_of_mem hi) hold
  assigned _ hi hold := absurd (List.mem_map_of_mem hi) hold
  written := by simp
  known := by simp
  bound := by simp

/-- **The timeline of an incident tells what became of it.** Whatever the steps of a playbook are
and however its run ends, replaying the timeline of an incident that the run opened gives its
status, priority and resolution, and gives its assignee unless a visit was to assign it to somebody
who cannot be written. -/
theorem timeline_replays (t : Terms) (p : Playbook) (v : Violation) (w : World) {i : Incident}
    (hi : i ∈ (start t p v w).1.world.incidents.incidents)
    (hnew : i.id ∉ w.incidents.incidents.map (·.id)) : i.ToldBy v (startVisits t p v w) := by
  have told := (start_walk t p v w).tells (tells_start v w) i hi hnew
  rwa [List.nil_append] at told

end Run

/-! ## An assignee that cannot be written -/

namespace Playbook

/-- A step that assigns the incident to somebody. -/
def assignStep (assignee : Value) : Step :=
  let assign : Action := ⟨.member .assign, [(.text "assignee", assignee)]⟩
  ⟨"assign", .text "Assign", .member .action, { StepConfig.blank with action := some assign },
    .null, .null⟩

/-- Opens an incident and assigns it to somebody. -/
def assigning (assignee : Value) : Playbook :=
  forSeverities "triage" "Triage" "Hand every violation to somebody" []
    [actionStep "open" "Open" .createIncident (some "assign"), assignStep assignee]

end Playbook

namespace Run

/-- A run that assigns the incident to somebody. -/
def assigned (assignee : Value) : Run :=
  (start ⟨.recording, 100, .none⟩ (.assigning assignee) .leak (.fresh ⟨⟨0⟩, 0, 0⟩ "agent")).1

theorem timeline_replays_assigned :
    ∃ i ∈ (assigned (.text "oncall")).world.incidents.incidents,
      i.assignee = .text "oncall" ∧
        i.ToldBy .leak (startVisits ⟨.recording, 100, .none⟩ (.assigning (.text "oncall")) .leak
          (.fresh ⟨⟨0⟩, 0, 0⟩ "agent")) := by
  have h : (assigned (.text "oncall")).world.incidents.incidents ≠ [] := by
    intro h
    have hempty := congrArg List.isEmpty h
    revert hempty
    decide
  refine ⟨_, List.head_mem h, rfl, timeline_replays _ _ _ _ (List.head_mem h) ?_⟩
  exact List.not_mem_nil

theorem walk_of_failed {t : Terms} {p : Playbook} {v : Violation} {s : Step} {r r' : Run}
    {e : RunError} (left : Nat) (hc : t.watch.isCancelled r.world.clock = false)
    (h : r.take t p.id v s = (r', .failed e)) :
    walk t p v (left + 1) (some s) r = (r', .failed e) := by
  simp [walk, hc, h]

theorem assigned_of_not_writable {a : Value} (h : a.isWritable = false) :
    ∃ i ∈ (assigned a).world.incidents.incidents,
      i.assignee = a ∧ i.timeline.map (·.type) = [.created] ∧ ¬ i.IsAssigneeTold := by
  let t : Terms := ⟨.recording, 100, .none⟩
  let p := Playbook.assigning a
  let r := createIncident .leak ⟨.fresh ⟨⟨0⟩, 0, 0⟩ "agent", none⟩
  let r' := r.amend (label "incident" 1) (.assignee a)
  have htake : r.take t p.id .leak (Playbook.assignStep a) = (r', .failed (.unwritable a)) := by
    have hb : r.bound = some (label "incident" 1) := rfl
    have long : (assigneeIn [(.text "assignee", a)]).isWritable = false := h
    exact act_assign_of_not_isWritable p.id .leak hb long
  have hwalk : assigned a = (walk t p .leak 99 (some (Playbook.assignStep a)) r).1 := rfl
  rw [hwalk, walk_of_failed 98 rfl htake]
  refine ⟨_, List.mem_singleton.2 rfl, rfl, rfl, fun told => ?_⟩
  -- what the timeline tells is that there is no assignee, which could be written
  have hnull : a = .null := told
  rw [hnull] at h
  cases h

/-- **An assignee can be missing from the timeline.** The playbook may name somebody by a number
that is too long to be written: the incident has the assignee, and there is no event for it. -/
theorem unwritable_assignee_untold :
    let a : Value := .int (.ofNat (Nat.pow 10 Number.digitLimit))
    ∃ i ∈ (assigned a).world.incidents.incidents,
      i.assignee = a ∧ i.timeline.map (·.type) = [.created] ∧ ¬ i.IsAssigneeTold :=
  assigned_of_not_writable (by decide +kernel)

end Run
end Compliance
