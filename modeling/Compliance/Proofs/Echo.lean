import Compliance.Proofs.Watched
import Mathlib.Data.List.Forall2

/-!
# Runs in different stores

A run reads nothing of the incidents, the outbox or the clock that it starts with. Started in a
world where something has happened it therefore does what it does in a fresh one: `Run.Echo` relates
the two, with the ids of incidents and events shifted by the numbers that were taken before.
`start_echo` says that whole runs stay related and end alike.
-/
namespace Compliance

/-! ## Shifted ids -/

/-- Two ids of a kind, the second with a number that is `n` greater. -/
inductive Shifted (kind : String) (n : Nat) : String → String → Prop
  | mk (k : Nat) : Shifted kind n (label kind (k + 1)) (label kind (n + k + 1))

theorem Shifted.eq_iff {kind : String} {n : Nat} {a a' b b' : String} (ha : Shifted kind n a' a)
    (hb : Shifted kind n b' b) : a' = b' ↔ a = b := by
  cases ha
  cases hb
  rw [label_inj, label_inj]
  omega

/-- What was on file before is not touched by shifted ids. -/
theorem Shifted.ne_of_mem {s : IncidentStore} {a a' : String}
    (ha : Shifted "incident" s.issued a' a) {i : Incident} (hi : i ∈ s.incidents) : i.id ≠ a := by
  have hm : i.id ∈ firstIds s.issued := s.numbered ▸ List.mem_map_of_mem hi
  obtain ⟨j, hj, he⟩ := List.mem_map.1 hm
  have hlt := List.mem_range.1 hj
  cases ha
  rw [← he, Ne, label_inj]
  omega

/-! ## Echoes -/

/-- The same event, at some other time. -/
structure Event.Echo (m : Nat) (e' e : Event) : Prop where
  report : e.toReport = e'.toReport
  id : Shifted "event" m e'.id e.id

/-- The same incident, at some other time. -/
inductive Incident.Echo (n m : Nat) (i' : Incident) : Incident → Prop
  | mk {id : String} {timeline : List Event} (createdAt updatedAt : Calendar.Instant)
      {resolvedAt : Option Calendar.Instant} (hid : Shifted "incident" n i'.id id)
      (htimeline : List.Forall₂ (Event.Echo m) i'.timeline timeline)
      (hresolved : resolvedAt.isSome = i'.resolvedAt.isSome) :
    Incident.Echo n m i' { i' with id, timeline, createdAt, updatedAt, resolvedAt }

/-- The message of a step, with the id of the incident shifted. -/
structure SentNotice.Echo (n : Nat) (steps : List Step) (v : Violation) (x' x : SentNotice) :
    Prop where
  rendered : ∃ s ∈ steps, ∃ notification template b' b,
    s.config.notification = some notification ∧ notification.template = .text template ∧
      Option.Rel (Shifted "incident" n) b' b ∧
      x'.toNotice =
        ⟨notification.channel, Template.render template v b', notification.recipients⟩ ∧
      x.toNotice = ⟨notification.channel, Template.render template v b, notification.recipients⟩

/-- The same request, at some other time. -/
structure SentRequest.Echo (x' x : SentRequest) : Prop where
  request : x.toRequest = x'.toRequest
  taken : x.taken = x'.taken

namespace Incident.Echo

variable {n m : Nat} {i' i : Incident}

theorem id (h : i'.Echo n m i) : Shifted "incident" n i'.id i.id := by
  cases h with
  | mk _ _ hid _ _ => exact hid

theorem assignee (h : i'.Echo n m i) : i.assignee = i'.assignee := by
  cases h
  rfl

theorem updated (h : i'.Echo n m i) (now' now : Calendar.Instant) (c : Change) :
    (i'.updated now' [c]).Echo n m (i.updated now [c]) := by
  have hstatus : (i.updated now [c]).status = (i'.updated now' [c]).status := by
    cases h
    cases c <;> rfl
  have hresolved : (i.updated now [c]).resolvedAt.isSome =
      (i'.updated now' [c]).resolvedAt.isSome := by
    rw [Bool.eq_iff_iff, updated_resolved, updated_resolved, hstatus]
  cases h with
  | mk _ _ hid htimeline _ => cases c <;> exact .mk _ _ hid htimeline hresolved

theorem withEvent (h : i'.Echo n m i) (now' now : Calendar.Instant) {e' e : Event}
    (he : e'.Echo m e) : (i'.withEvent now' e').Echo n m (i.withEvent now e) := by
  cases h with
  | mk _ _ hid htimeline hresolved =>
    exact .mk _ _ hid (List.rel_append htimeline (.cons he .nil)) hresolved

theorem opened (v : Violation) (now' now : Calendar.Instant) (actor : String) (k j : Nat) :
    (v.incident now' actor (k + 1) (j + 1)).Echo n m
      (v.incident now actor (n + k + 1) (m + j + 1)) :=
  .mk now now (.mk k) (.cons ⟨rfl, .mk j⟩ .nil) rfl

theorem find?_assignee {id' id : String} (hid : Shifted "incident" n id' id)
    {is' is : List Incident} (h : List.Forall₂ (Incident.Echo n m) is' is) :
    (is.find? (·.id = id)).map (·.assignee) = (is'.find? (·.id = id')).map (·.assignee) := by
  induction h with
  | nil => rfl
  | @cons i' i is' is hi _ ih =>
    have heq := Shifted.eq_iff hi.id hid
    by_cases hieq : i.id = id
    · simp [heq.2 hieq, hieq, hi.assignee]
    · simpa [mt heq.1 hieq, hieq] using ih

end Incident.Echo

/-! ## Runs -/

section
variable {α : Type} {R : α → α → Prop}

/-- A list goes on after `old` as another does from its beginning. -/
def Continues (R : α → α → Prop) (old xs ys : List α) : Prop :=
  ∃ new, ys = old ++ new ∧ List.Forall₂ R xs new

theorem Continues.nil (old : List α) : Continues R old [] old :=
  ⟨[], (List.append_nil old).symm, .nil⟩

theorem Continues.snoc {old xs ys : List α} (h : Continues R old xs ys) {x y : α} (hxy : R x y) :
    Continues R old (xs ++ [x]) (ys ++ [y]) := by
  obtain ⟨new, rfl, hnew⟩ := h
  exact ⟨new ++ [y], List.append_assoc .., List.rel_append hnew (.cons hxy .nil)⟩

/-- What comes after `old` is what the list has beyond its length. -/
theorem Continues.drop {old xs ys : List α} (h : Continues R old xs ys) :
    ys = old ++ ys.drop old.length ∧ List.Forall₂ R xs (ys.drop old.length) := by
  obtain ⟨new, rfl, hnew⟩ := h
  rw [List.drop_left]
  exact ⟨rfl, hnew⟩

end

/-- A run in a fresh world, and the same run where `w` was before. -/
structure Run.Echo (w : World) (steps : List Step) (v : Violation) (q r : Run) : Prop where
  incidents : Continues (Incident.Echo w.incidents.issued w.incidents.events)
    w.incidents.incidents q.world.incidents.incidents r.world.incidents.incidents
  issued : r.world.incidents.issued = w.incidents.issued + q.world.incidents.issued
  events : r.world.incidents.events = w.incidents.events + q.world.incidents.events
  signed : q.world.incidents.actor = w.incidents.actor
  actor : r.world.incidents.actor = w.incidents.actor
  notices : Continues (SentNotice.Echo w.incidents.issued steps v) w.outbox.notices
    q.world.outbox.notices r.world.outbox.notices
  requests : Continues SentRequest.Echo w.outbox.requests q.world.outbox.requests
    r.world.outbox.requests
  bound : Option.Rel (Shifted "incident" w.incidents.issued) q.bound r.bound

namespace Run.Echo

variable {w : World} {steps : List Step} {v : Violation} {q r : Run}

/-- Runs that have not begun. -/
theorem start (w : World) (steps : List Step) (v : Violation) (clock : Calendar.Clock) :
    Echo w steps v ⟨.fresh clock w.incidents.actor, none⟩ ⟨w, none⟩ where
  incidents := .nil _
  issued := rfl
  events := rfl
  signed := rfl
  actor := rfl
  notices := .nil _
  requests := .nil _
  bound := .none

/-- What the incidents that are looked up have in common. -/
theorem assignee (h : Echo w steps v q r) :
    r.incident?.map (·.assignee) = q.incident?.map (·.assignee) := by
  obtain ⟨new, hr, hnew⟩ := h.incidents
  have hbound := h.bound
  unfold incident?
  generalize q.bound = b', r.bound = b at hbound ⊢
  cases hbound with
  | none => rfl
  | @some id' id hid =>
    have hold : w.incidents.incidents.find? (·.id = id) = none :=
      List.find?_eq_none.2 fun i hi => by simpa using hid.ne_of_mem hi
    simp only [Option.bind_some, IncidentStore.find?, hr, List.find?_append, hold, Option.none_or]
    exact Incident.Echo.find?_assignee hid hnew

/-- The incident with an id is changed alike. -/
theorem mapped (h : Echo w steps v q r) {id' id : String}
    (hid : Shifted "incident" w.incidents.issued id' id) {f' f : Incident → Incident}
    (hf : ∀ i' i, i'.Echo w.incidents.issued w.incidents.events i →
      (f' i').Echo w.incidents.issued w.incidents.events (f i)) :
    Continues (Incident.Echo w.incidents.issued w.incidents.events) w.incidents.incidents
      (q.world.incidents.incidents.map fun i => if i.id = id' then f' i else i)
      (r.world.incidents.incidents.map fun i => if i.id = id then f i else i) := by
  obtain ⟨new, hr, hnew⟩ := h.incidents
  refine ⟨new.map fun i => if i.id = id then f i else i, ?_, List.rel_map ?_ hnew⟩
  · rw [hr, List.map_append]
    congr 1
    refine (List.map_congr_left fun i hi => ?_).trans (List.map_id _)
    exact if_neg (hid.ne_of_mem hi)
  · intro i' i hi
    have heq := Shifted.eq_iff hi.id hid
    by_cases hieq : i.id = id
    · simp only [hieq, heq.2 hieq, if_true]
      exact hf i' i hi
    · simp only [hieq, mt heq.1 hieq, if_false]
      exact hi

theorem amend (h : Echo w steps v q r) {id' id : String}
    (hid : Shifted "incident" w.incidents.issued id' id) (c : Change) :
    Echo w steps v (q.amend id' c) (r.amend id c) :=
  { h with incidents := h.mapped hid fun _ _ hi => hi.updated _ _ c }

theorem record (h : Echo w steps v q r) {id' id : String}
    (hid : Shifted "incident" w.incidents.issued id' id) (type : EventType) (description : String)
    (data : List (String × Value)) :
    Echo w steps v (q.record id' type description data) (r.record id type description data) := by
  have hevent : Event.Echo w.incidents.events
      ⟨⟨type, description, q.world.incidents.actor, .record data⟩,
        label "event" (q.world.incidents.events + 1), q.world.now⟩
      ⟨⟨type, description, r.world.incidents.actor, .record data⟩,
        label "event" (r.world.incidents.events + 1), r.world.now⟩ := by
    refine ⟨?_, ?_⟩
    · rw [h.signed, h.actor]
    · rw [h.events]
      exact .mk q.world.incidents.events
  exact { h with
    incidents := h.mapped hid fun _ _ hi => hi.withEvent _ _ hevent
    events := by
      change r.world.incidents.events + 1 = _ + (q.world.incidents.events + 1)
      rw [h.events]
      omega }

theorem createIncident (h : Echo w steps v q r) :
    Echo w steps v (q.createIncident v) (r.createIncident v) := by
  have hopened : (v.incident q.world.now q.world.incidents.actor (q.world.incidents.issued + 1)
        (q.world.incidents.events + 1)).Echo w.incidents.issued w.incidents.events
      (v.incident r.world.now r.world.incidents.actor (r.world.incidents.issued + 1)
        (r.world.incidents.events + 1)) := by
    rw [h.signed, h.actor, h.issued, h.events]
    exact .opened ..
  refine { h with
    incidents := h.incidents.snoc hopened
    issued := ?_
    events := ?_
    bound := .some hopened.id }
  · change r.world.incidents.issued + 1 = _ + (q.world.incidents.issued + 1)
    rw [h.issued]
    omega
  · change r.world.incidents.events + 1 = _ + (q.world.incidents.events + 1)
    rw [h.events]
    omega

/-! ## Steps -/

/-- Two steps end alike, and leave runs that are alike. -/
def Alike (w : World) (steps : List Step) (v : Violation) (q r : Run × StepEnd) : Prop :=
  q.2 = r.2 ∧ Echo w steps v q.1 r.1

theorem act (h : Echo w steps v q r) (playbookId : Value) (kind : ActionKind) (params : Entries) :
    Alike w steps v (q.act playbookId v kind params) (r.act playbookId v kind params) := by
  have hbound := h.bound
  unfold Run.act
  generalize q.bound = b', r.bound = b at hbound ⊢
  cases hbound with
  | none =>
    cases kind with
    | createIncident => exact ⟨rfl, h.createIncident⟩
    | _ => exact ⟨rfl, h⟩
  | some hid =>
    cases kind with
    | createIncident => exact ⟨rfl, h.createIncident⟩
    | updateStatus =>
      simp only
      split
      · exact ⟨rfl, (h.amend hid _).record hid _ _ _⟩
      · exact ⟨rfl, h⟩
    | assign =>
      simp only
      split
      · exact ⟨rfl, (h.amend hid _).record hid _ _ _⟩
      · exact ⟨rfl, h.amend hid _⟩
    | escalate => exact ⟨rfl, (h.amend hid _).record hid _ _ _⟩

theorem notify (h : Echo w steps v q r) {s : Step} (hs : s ∈ steps) (b : Backends)
    {n : Notification} (hn : s.config.notification = some n) :
    Alike w steps v (q.notify b v n) (r.notify b v n) := by
  unfold Run.notify
  split
  · next template ht =>
    refine ⟨rfl, { h with notices := h.notices.snoc ?_ }⟩
    exact ⟨s, hs, n, template, q.bound, r.bound, hn, ht, h.bound, rfl, rfl⟩
  · exact ⟨rfl, h⟩

/-- Without a watch, a wait with an end ends alike at any time. -/
theorem wait (h : Echo w steps v q r) {seconds : Seconds} {x : Rat}
    (hx : seconds.exact = .finite x) :
    Alike w steps v (q.wait .none seconds) (r.wait .none seconds) := by
  unfold Run.wait
  rw [hx, Watch.onWait_none, Watch.onWait_none, Watch.none_wait_finite, Watch.none_wait_finite]
  exact ⟨rfl, { h with }⟩

theorem remediate (h : Echo w steps v q r) {b : Backends} {f : Value → Option String}
    (hb : ∀ earlier request, b.refuses? earlier request = f request.script) (s : Script) :
    Alike w steps v (q.remediate b v s) (r.remediate b v s) := by
  unfold Run.remediate Outbox.request
  simp only [hb]
  split
  · exact ⟨rfl, { h with requests := h.requests.snoc ⟨rfl, rfl⟩ }⟩
  · exact ⟨rfl, { h with requests := h.requests.snoc ⟨rfl, rfl⟩ }⟩

section
variable {t : Terms} (ht : t.watch = .none) {f : Value → Option String}
  (hb : ∀ earlier request, t.backends.refuses? earlier request = f request.script)
include ht hb

theorem perform (h : Echo w steps v q r) (playbookId : Value) (type : StepType) {s : Step}
    (hs : s ∈ steps) (hdelay : ∀ d, s.config.delay = some d → ∃ x, d.exact = .finite x) :
    Alike w steps v (q.perform t playbookId v type s.config)
      (r.perform t playbookId v type s.config) := by
  cases type with
  | action =>
    simp only [Run.perform]
    split
    · split
      · exact h.act playbookId _ _
      · exact ⟨rfl, h⟩
    · exact ⟨rfl, h⟩
  | notification =>
    simp only [Run.perform]
    split
    · next n hn => exact h.notify hs t.backends hn
    · exact ⟨rfl, h⟩
  | delay =>
    simp only [Run.perform, ht]
    split
    · next seconds hseconds =>
      obtain ⟨x, hx⟩ := hdelay seconds hseconds
      exact h.wait hx
    · exact ⟨rfl, h⟩
  | condition =>
    simp only [Run.perform, h.assignee]
    split
    · exact ⟨rfl, h⟩
    · exact ⟨rfl, h⟩
  | remediation =>
    simp only [Run.perform]
    split
    · exact h.remediate hb _
    · exact ⟨rfl, h⟩

theorem take (h : Echo w steps v q r) (playbookId : Value) {s : Step} (hs : s ∈ steps)
    (hdelay : ∀ d, s.config.delay = some d → ∃ x, d.exact = .finite x) :
    Alike w steps v (q.take t playbookId v s) (r.take t playbookId v s) := by
  cases hm : s.type.member? with
  | none =>
    rw [Run.take_of_unknown hm, Run.take_of_unknown hm]
    exact ⟨rfl, h⟩
  | some type =>
    have alike := h.perform ht hb playbookId type hs hdelay
    rw [Run.take_of_known hm, Run.take_of_known hm]
    generalize q.perform t playbookId v type s.config = x,
      r.perform t playbookId v type s.config = y at alike ⊢
    obtain ⟨q', e⟩ := x
    obtain ⟨r', e'⟩ := y
    obtain ⟨rfl, h'⟩ := alike
    cases hs : s.isSpelled with
    | false =>
      rw [Step.verdict_of_not_spelled hs, Step.verdict_of_not_spelled hs]
      exact ⟨rfl, h'⟩
    | true =>
      cases e with
      | done success =>
        rw [Step.verdict_done hs, Step.verdict_done hs]
        exact ⟨rfl, { h' with bound := h.bound }⟩
      | failed error => exact ⟨rfl, h'⟩
      | interrupted cause => exact ⟨rfl, h'⟩

/-! ## Whole runs -/

theorem walk {p : Playbook} (hp : p.DelaysFinite) (left : Nat) (s : Option Step)
    (hs : ∀ s', s = some s' → s' ∈ p.steps) (h : Echo w p.steps v q r) :
    (Run.walk t p v left s q).2 = (Run.walk t p v left s r).2 ∧
      Echo w p.steps v (Run.walk t p v left s q).1 (Run.walk t p v left s r).1 := by
  have hc : ∀ clock, t.watch.isCancelled clock = false := by
    rw [ht]
    exact Watch.isCancelled_none
  induction left generalizing s q r with
  | zero => cases s <;> exact ⟨rfl, h⟩
  | succ left ih =>
    cases s with
    | none => exact ⟨rfl, h⟩
    | some s =>
      have alike := h.take ht hb p.id (hs s rfl) (hp s (hs s rfl))
      simp only [Run.walk, hc, Bool.false_eq_true, if_false]
      generalize q.take t p.id v s = x, r.take t p.id v s = y at alike ⊢
      obtain ⟨q', e⟩ := x
      obtain ⟨r', e'⟩ := y
      obtain ⟨rfl, h'⟩ := alike
      cases e with
      | done success => exact ih (next? p s success) (fun _ => mem_of_next?) h'
      | failed error => exact ⟨rfl, h'⟩
      | interrupted cause => exact ⟨rfl, h'⟩

end
end Run.Echo

/-- **A run is the same in any world**, up to the time and to ids that are shifted. -/
theorem Run.start_echo {t : Terms} (ht : t.watch = .none) {f : Value → Option String}
    (hb : ∀ earlier request, t.backends.refuses? earlier request = f request.script)
    {p : Playbook} (hp : p.DelaysFinite) (v : Violation) (w : World) (clock : Calendar.Clock) :
    (start t p v (.fresh clock w.incidents.actor)).2 = (start t p v w).2 ∧
      Echo w p.steps v (start t p v (.fresh clock w.incidents.actor)).1 (start t p v w).1 :=
  (Echo.start w p.steps v clock).walk ht hb hp t.limit p.first? fun _ => mem_of_first?

end Compliance
