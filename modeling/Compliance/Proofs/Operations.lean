import Compliance.Proofs.Visits

/-!
# What is done to the incidents on file

An `Operation` is one thing done at one instant: an incident is opened or updated, an event is
recorded, a violation is linked, or an action of a playbook is taken. `apply_does` says once what an
operation does. By it every incident on file stays as it is or, if it is the one that the operation
touches, changes in one of three ways (`apply_moves`). A `History` is a list of operations under any
clock, and a run of a playbook is one (`start_history`).
-/
namespace Compliance

open Calendar

namespace Incident

/-- What an accepted change at an instant makes of an incident. -/
inductive Changed (now : Instant) (i : Incident) : Incident → Prop
  | updated (changes : List Change) : Changed now i (i.updated now changes)
  /-- An event is recorded, perhaps for violations that have just been linked. -/
  | noted (violations : Value) (e : Event) (he : e.timestamp = now) :
    Changed now i ({ i with violationIds := violations }.withEvent now e)
  | marked (changes : List Change) (e : Event) (he : e.timestamp = now) :
    Changed now i ((i.updated now changes).withEvent now e)

/-- Whether a violation is linked to an incident. -/
def isLinkedTo (violation : String) (i : Incident) : Bool :=
  match i.violationIds.has (.text violation) with
  | .ok linked => linked
  | .error _ => false

end Incident

/-! ## One operation -/

/-- What can be done to the incidents on file at one instant. -/
inductive Operation where
  | opening (v : Violation)
  | event (id : String) (report : Report)
  | update (id : String) (updates : List (String × Value))
  | link (id violation : String)
  /-- An action of a playbook, in a run to which an incident may be bound. -/
  | action (playbookId : Value) (v : Violation) (kind : ActionKind) (params : Entries)
    (bound : Option String)

namespace Operation

/-- A run that has come to an instant with some incidents on file. -/
def runAt (now : Instant) (s : IncidentStore) (bound : Option String) : Run :=
  ⟨⟨⟨now, 0, 0⟩, s, .empty⟩, bound⟩

theorem runAt_now (now : Instant) (s : IncidentStore) (bound : Option String) :
    (runAt now s bound).world.now = now := by
  change now.later (Number.roundHalfEven (0 * 1000000)) = now
  rw [Rat.zero_mul, show (0 : Rat) = ((0 : Int) : Rat) from rfl, Number.roundHalfEven_intCast]
  simp [Instant.later]

/-- The incidents that an operation gives back, unless it is refused or there is no such incident.
-/
def accepted? {ε : Type} : Except ε (Option IncidentStore) → Option IncidentStore
  | .ok result => result
  | .error _ => none

/-- The incidents after an operation; one that is not accepted leaves them as they are. -/
def apply (now : Instant) (s : IncidentStore) : Operation → IncidentStore
  | .opening v => (s.openFor now v).1
  | .event id report => (s.addEvent now id report).1
  | .update id updates => (accepted? (s.update now id updates)).getD s
  | .link id violation => (accepted? (s.link now id violation)).getD s
  | .action playbookId v kind params bound =>
    ((runAt now s bound).act playbookId v kind params).1.world.incidents

/-- The id of the incident, if any, that an operation changes: that of an update that is accepted,
of a link that is accepted and new, and the bound one for an action that accepts its parameters. -/
def touches (now : Instant) (s : IncidentStore) : Operation → Option String
  | .opening _ => none
  | .event id _ => some id
  | .update id updates => (accepted? (s.update now id updates)).map fun _ => id
  | .link id violation =>
    if (s.find? id).any (·.isLinkedTo violation) then none
    else (accepted? (s.link now id violation)).map fun _ => id
  | .action playbookId v kind params bound =>
    match kind, ((runAt now s bound).act playbookId v kind params).2 with
    | .createIncident, _ => none
    | _, .failed (.notMember _) => none
    | _, _ => bound

/-- What an operation at an instant does to the incidents: those on file take a turn each, and those
opened at that instant come after them. -/
def Moves (now : Instant) (touched : Option String) (s s' : IncidentStore) : Prop :=
  ∃ (turn : Incident → Incident) (opened : List Incident),
    s'.incidents = s.incidents.map turn ++ opened ∧
    (∀ i ∈ s.incidents, if touched = some i.id then i.Changed now (turn i) else turn i = i) ∧
    ∀ i ∈ opened, ∃ (v : Violation) (actor : String) (number event : Nat),
      i = v.incident now actor number event

section
variable {now : Instant} {touched : Option String} {s s' : IncidentStore}

theorem Moves.untouched (h : s'.incidents = s.incidents) : Moves now none s s' := by
  refine ⟨id, [], by simp [h], fun i _ => ?_, by simp⟩
  rw [if_neg nofun]
  rfl

theorem Moves.opens (now : Instant) (v : Violation) (s : IncidentStore) :
    Moves now none s (s.openFor now v).1 := by
  refine ⟨id, [v.incident now s.actor (s.issued + 1) (s.events + 1)], ?_, fun i _ => rfl, ?_⟩
  · rw [List.map_id]
    rfl
  · intro i hi
    exact ⟨v, _, _, _, List.mem_singleton.1 hi⟩

/-- A change of the incident with an id. -/
theorem Moves.changes {id : String} (turn : Incident → Incident)
    (ht : ∀ i : Incident, i.Changed now (turn i))
    (h : s'.incidents = s.incidents.map fun i => if i.id = id then turn i else i) :
    Moves now (some id) s s' := by
  refine ⟨fun i => if i.id = id then turn i else i, [], by simp [h], fun i _ => ?_, by simp⟩
  by_cases hid : i.id = id
  · simpa only [hid, if_true] using ht i
  · simp only [hid, Ne.symm hid, Option.some.injEq, if_false]

theorem change_moves (now : Instant) (id : String) (changes : List Change) (s : IncidentStore) :
    Moves now (some id) s (s.change now id changes) :=
  .changes (·.updated now changes) (fun _ => .updated changes) rfl

theorem addEvent_moves (now : Instant) (id : String) (report : Report) (s : IncidentStore) :
    Moves now (some id) s (s.addEvent now id report).1 :=
  .changes (·.withEvent now ⟨report, label "event" (s.events + 1), now⟩)
    (fun i => .noted i.violationIds _ rfl) rfl

/-- An incident is turned into another, and then an event of it is recorded. -/
theorem modify_addEvent_moves (turn : Incident → Incident) (hid : ∀ i, (turn i).id = i.id)
    (ht : ∀ (i : Incident) (e : Event), e.timestamp = now →
      i.Changed now ((turn i).withEvent now e))
    (id : String) (report : Report) (s : IncidentStore) :
    Moves now (some id) s ((s.modify id turn hid).addEvent now id report).1 := by
  let e : Event := ⟨report, label "event" (s.events + 1), now⟩
  refine .changes (fun i => (turn i).withEvent now e) (fun i => ht i e rfl) ?_
  refine (List.map_map ..).trans (List.map_congr_left fun i _ => ?_)
  by_cases h : i.id = id
  · simp only [Function.comp, h, if_true, hid]
    rfl
  · simp only [Function.comp, h, if_false]

theorem change_addEvent_moves (now : Instant) (id : String) (changes : List Change)
    (report : Report) (s : IncidentStore) :
    Moves now (some id) s ((s.change now id changes).addEvent now id report).1 :=
  modify_addEvent_moves (·.updated now changes) (Incident.updated_id now changes)
    (fun _ e he => .marked changes e he) id report s

end

/-! ### What an operation does -/

/-- What an operation does at an instant: which incident it touches, and what it makes of those on
file. -/
inductive Does (now : Instant) (s : IncidentStore) :
    Operation → Option String → IncidentStore → Prop
  | opens {op : Operation} (v : Violation) : Does now s op none (s.openFor now v).1
  | nothing {op : Operation} : Does now s op none s
  | notes (id : String) (report : Report) :
    Does now s (.event id report) (some id) (s.addEvent now id report).1
  | updates {id : String} {updates : List (String × Value)} {changes : List Change}
    (hread : Change.readAll updates = .ok changes)
    (accepted : s.update now id updates = .ok (some (s.change now id changes))) :
    Does now s (.update id updates) (some id) (s.change now id changes)
  /-- A violation goes to the end of a list, and an event is recorded. -/
  | links {id violation : String} (vs : List Value) (report : Report) :
    Does now s (.link id violation) (some id)
      ((s.modify id (fun i => { i with violationIds := .list vs }) fun _ => rfl).addEvent now id
        report).1
  | marks {op : Operation} {id : String} (m : Run.Mark) (report : Report) :
    Does now s op (some id) ((s.change now id [m.change]).addEvent now id report).1
  /-- A mark that is made but not told. -/
  | amends {op : Operation} {id : String} (m : Run.Mark) :
    Does now s op (some id) (s.change now id [m.change])

section
variable {now : Instant} {s s' : IncidentStore}

theorem accepted?_eq_some {ε : Type} {result : Except ε (Option IncidentStore)} :
    accepted? result = some s' ↔ result = .ok (some s') := by
  cases result <;> simp [accepted?]

/-- An update that is accepted changes the incident by what was read from it. -/
theorem update_eq {id : String} {updates : List (String × Value)}
    (h : s.update now id updates = .ok (some s')) :
    ∃ changes, Change.readAll updates = .ok changes ∧ s' = s.change now id changes := by
  unfold IncidentStore.update at h
  cases hread : Change.readAll updates with
  | error fault =>
    rw [hread] at h
    cases h
  | ok changes =>
    rw [hread] at h
    cases hfind : s.find? id with
    | none =>
      rw [hfind] at h
      cases h
    | some i =>
      rw [hfind] at h
      cases h
      exact ⟨changes, rfl, rfl⟩

/-- A link that is accepted leaves everything as it is if it was there before, and otherwise writes
a list. -/
theorem link_eq {id violation : String} (h : s.link now id violation = .ok (some s')) :
    ((s.find? id).any (·.isLinkedTo violation) = true ∧ s' = s) ∨
      (s.find? id).any (·.isLinkedTo violation) = false ∧ ∃ (vs : List Value) (report : Report),
        s' = ((s.modify id (fun i => { i with violationIds := .list vs }) fun _ => rfl).addEvent now
          id report).1 := by
  unfold IncidentStore.link at h
  cases hfind : s.find? id with
  | none =>
    rw [hfind] at h
    cases h
  | some i =>
    simp only [hfind, bind, Except.bind] at h
    cases hlinked : i.violationIds.has (.text violation) with
    | error fault =>
      rw [hlinked] at h
      cases h
    | ok linked =>
      rw [hlinked] at h
      cases linked with
      | true =>
        cases h
        exact .inl ⟨by simp [Incident.isLinkedTo, hlinked], rfl⟩
      | false =>
        simp only [Bool.false_eq_true, if_false] at h
        split at h
        · cases h
          exact .inr ⟨by simp [Incident.isLinkedTo, hlinked], _, _, rfl⟩
        · cases h

theorem update_does (now : Instant) (id : String) (updates : List (String × Value))
    (s : IncidentStore) :
    Does now s (update id updates) ((update id updates).touches now s)
      ((update id updates).apply now s) := by
  simp only [touches, apply]
  cases hs : accepted? (s.update now id updates) with
  | none => exact .nothing
  | some s' =>
    have accepted := accepted?_eq_some.1 hs
    obtain ⟨changes, hread, rfl⟩ := update_eq accepted
    exact .updates hread accepted

theorem link_does (now : Instant) (id violation : String) (s : IncidentStore) :
    Does now s (link id violation) ((link id violation).touches now s)
      ((link id violation).apply now s) := by
  simp only [touches, apply]
  cases hs : accepted? (s.link now id violation) with
  | none =>
    rw [Option.map_none, ite_self]
    exact .nothing
  | some s' =>
    rcases link_eq (accepted?_eq_some.1 hs) with ⟨hlinked, rfl⟩ | ⟨hlinked, vs, report, rfl⟩
    · rw [if_pos hlinked]
      exact .nothing
    · rw [if_neg (Bool.eq_false_iff.1 hlinked)]
      exact .links vs report

theorem action_does (now : Instant) (playbookId : Value) (v : Violation) (kind : ActionKind)
    (params : Entries) (bound : Option String) (s : IncidentStore) :
    Does now s (action playbookId v kind params bound)
      ((action playbookId v kind params bound).touches now s)
      ((action playbookId v kind params bound).apply now s) := by
  simp only [touches, apply]
  have acted := Run.act_acted playbookId v kind params (runAt now s bound)
  have hnow : (runAt now s bound).world.now = now := runAt_now now s bound
  generalize (runAt now s bound).act playbookId v kind params = result at acted ⊢
  obtain ⟨r', e⟩ := result
  cases acted with
  | opened =>
    have opens : Does now s (action playbookId v .createIncident params bound) none
        (s.openFor (runAt now s bound).world.now v).1 := by
      rw [hnow]
      exact .opens v
    exact opens
  | unbound hk hb =>
    cases hb
    cases kind <;> exact .nothing
  | @marked id hb m _ =>
    cases hb
    have marks (report : Report) : Does now s (action playbookId v m.kind params (some id)) (some id)
        ((s.change (runAt now s (some id)).world.now id [m.change]).addEvent
          (runAt now s (some id)).world.now id report).1 := by
      rw [hnow]
      exact .marks m report
    cases m <;> exact marks _
  | refused => exact .nothing
  | @unwritable id hb _ =>
    cases hb
    have amends : Does now s (action playbookId v .assign params (some id)) (some id)
        (s.change (runAt now s (some id)).world.now id
          [(Run.Mark.assignee (Run.assigneeIn params)).change]) := by
      rw [hnow]
      exact .amends _
    exact amends

/-- **What an operation does to the incidents.** -/
theorem apply_does (now : Instant) (op : Operation) (s : IncidentStore) :
    Does now s op (op.touches now s) (op.apply now s) := by
  cases op with
  | opening v => exact .opens v
  | event id report => exact .notes id report
  | update id updates => exact update_does now id updates s
  | link id violation => exact link_does now id violation s
  | action playbookId v kind params bound => exact action_does now playbookId v kind params bound s

theorem Does.moves {op : Operation} {touched : Option String} (does : Does now s op touched s') :
    Moves now touched s s' := by
  cases does with
  | opens v => exact .opens now v s
  | nothing => exact .untouched rfl
  | notes id report => exact addEvent_moves now id report s
  | updates => exact change_moves now _ _ s
  | links vs report =>
    exact modify_addEvent_moves (fun i => { i with violationIds := .list vs }) (fun _ => rfl)
      (fun _ e he => .noted (.list vs) e he) _ report s
  | marks m report => exact change_addEvent_moves now _ [m.change] report s
  | amends m => exact change_moves now _ [m.change] s

/-- **What becomes of the incidents on file.** -/
theorem apply_moves (now : Instant) (op : Operation) (s : IncidentStore) :
    Moves now (op.touches now s) s (op.apply now s) := (op.apply_does now s).moves

/-- The signature stays the same. -/
theorem apply_actor (now : Instant) (op : Operation) (s : IncidentStore) :
    (op.apply now s).actor = s.actor := by
  have does := op.apply_does now s
  generalize op.touches now s = touched, op.apply now s = s' at does ⊢
  cases does <;> rfl

end

end Operation

/-! ## A history -/

/-- Operations, each at the instant that the clock then shows. -/
abbrev History := List (Instant × Operation)

namespace IncidentStore

/-- The incidents after a history. -/
def after (s : IncidentStore) (h : History) : IncidentStore :=
  h.foldl (fun s step => step.2.apply step.1 s) s

theorem after_append (s : IncidentStore) (h later : History) :
    s.after (h ++ later) = (s.after h).after later := List.foldl_append

theorem after_concat (s : IncidentStore) (h : History) (step : Instant × Operation) :
    s.after (h ++ [step]) = step.2.apply step.1 (s.after h) := after_append s h [step]

end IncidentStore

/-! ## Runs as histories -/

namespace Run

/-- Parameters with which an action makes a mark. -/
def Mark.params : Mark → Entries
  | .status s => [(.text "status", .member s)]
  | .assignee a => [(.text "assignee", a)]
  | .escalated => []

variable {q r : Run}

theorem amend_congr (hnow : q.world.now = r.world.now)
    (h : q.world.incidents = r.world.incidents) (id : String) (change : Change) :
    (q.amend id change).world.incidents = (r.amend id change).world.incidents := by
  simp only [amend, withIncidents, hnow, h]

theorem mark_congr (hnow : q.world.now = r.world.now)
    (h : q.world.incidents = r.world.incidents) (playbookId : Value) (id : String) (m : Mark) :
    (q.mark playbookId id m).world.incidents = (r.mark playbookId id m).world.incidents := by
  have amended := amend_congr hnow h id m.change
  have now : (q.amend id m.change).world.now = (r.amend id m.change).world.now := hnow
  simp only [mark, record, withIncidents, now, amended]

theorem act_mark (playbookId : Value) (v : Violation) {id : String} (hb : r.bound = some id)
    {m : Mark} (hm : ∀ a, m = .assignee a → a.isWritable = true) :
    (r.act playbookId v m.kind m.params).1 = r.mark playbookId id m := by
  cases m with
  | status s =>
    have given : (Entries.field? [(.text "status", Value.member s)] "status").getD
        (.member IncidentStatus.investigating) = .member s := by
      simp
    simp only [act, Mark.kind, Mark.params, hb, given, readMember_member]
    rfl
  | assignee a =>
    have given : assigneeIn [(.text "assignee", a)] = a := by
      simp [assigneeIn]
    have name := Value.writtenAs_eq_ok_iff.2 ⟨hm a rfl, (rfl : a.toText = a.toText)⟩
    simp only [act, Mark.kind, Mark.params, hb, given, name]
    rfl
  | escalated =>
    simp only [act, Mark.kind, hb]
    rfl

theorem act_unwritable (playbookId : Value) (v : Violation) {id : String}
    (hb : r.bound = some id) {a : Value} (ha : a.isWritable = false) :
    (r.act playbookId v .assign (Mark.assignee a).params).1 = r.amend id (.assignee a) := by
  have given : assigneeIn [(.text "assignee", a)] = a := by
    simp [assigneeIn]
  rw [act_assign_of_not_isWritable playbookId v hb (by rwa [Mark.params, given]), Mark.params, given]

end Run

/-- A visit does to the incidents what at most one action does. -/
theorem Visit.Does.history {playbookId : Value} {v : Violation} {x : Visit} {after : Run}
    (does : x.Does playbookId v after) :
    ∃ h : History, after.world.incidents = x.before.world.incidents.after h := by
  let now := x.before.world.now
  let s := x.before.world.incidents
  have hnow : ∀ bound, (Operation.runAt now s bound).world.now = now := Operation.runAt_now now s
  cases does with
  | nothing incidents => exact ⟨[], incidents⟩
  | opens incidents => exact ⟨[(now, .opening v)], incidents⟩
  | marks id m _ hm incidents =>
    refine ⟨[(now, .action playbookId v m.kind m.params (some id))], incidents.trans ?_⟩
    change _ = ((Operation.runAt now s (some id)).act playbookId v m.kind m.params).1.world.incidents
    rw [Run.act_mark playbookId v rfl hm]
    exact Run.mark_congr (hnow (some id)).symm rfl playbookId id m
  | amends id a _ ha incidents =>
    let m : Run.Mark := .assignee a
    refine ⟨[(now, .action playbookId v .assign m.params (some id))], incidents.trans ?_⟩
    change _ = ((Operation.runAt now s (some id)).act playbookId v .assign m.params).1.world.incidents
    rw [Run.act_unwritable playbookId v rfl ha]
    exact Run.amend_congr (hnow (some id)).symm rfl id (.assignee a)

namespace Run

theorem Walk.history {t : Terms} {p : Playbook} {v : Violation} {s : Option Step} {r r' : Run}
    {xs : List Visit} {e : Ending} (walk : Walk t p v s r xs r' e) :
    ∃ h : History, r'.world.incidents = r.world.incidents.after h := by
  induction walk with
  | done r => exact ⟨[], rfl⟩
  | limit s r => exact ⟨[], rfl⟩
  | cancelled s r => exact ⟨[], rfl⟩
  | failed htake => exact (Visit.take_does htake).history
  | interrupted htake => exact (Visit.take_does htake).history
  | step htake _ ih =>
    obtain ⟨h, hfirst⟩ := (Visit.take_does htake).history
    obtain ⟨later, hlater⟩ := ih
    refine ⟨h ++ later, ?_⟩
    rw [hlater, hfirst, IncidentStore.after_append]

/-- Whatever the steps of a playbook are and however its run ends, the run is a history. -/
theorem start_history (t : Terms) (p : Playbook) (v : Violation) (w : World) :
    ∃ h : History, (start t p v w).1.world.incidents = w.incidents.after h :=
  (start_walk t p v w).history

end Run

end Compliance
