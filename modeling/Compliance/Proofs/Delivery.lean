import Compliance.Proofs.Visits
import Compliance.Response.Desk

/-!
# Delivery cannot influence a run

Whether notifications are taken is kept in the outbox and nowhere else. Forgetting it (`forget`)
before a step gives the same as forgetting it after, whoever takes the notifications, so that a
response that takes them all and one that loses them all differ in nothing but that record. Main
statement: `respond_unswayed`.
-/
namespace Compliance

/-- What runs are subject to when no notification is taken. -/
def Terms.withoutDelivery (t : Terms) : Terms := { t with backends := t.backends.withoutDelivery }

/-! ## What was taken is forgotten -/

/-- The notification, whether or not it was taken. -/
def SentNotice.forget (n : SentNotice) : SentNotice := { n with taken := false }

namespace Outbox

def forget (o : Outbox) : Outbox := { o with notices := o.notices.map (·.forget) }

@[simp] theorem forget_notices (o : Outbox) :
    o.forget.notices.map (·.toNotice) = o.notices.map (·.toNotice) := by
  simp [forget, SentNotice.forget, Function.comp_def]

theorem notify_forget (b : Backends) (now : Calendar.Instant) (n : Notice) (o : Outbox) :
    o.forget.notify b.withoutDelivery now n = (o.notify b now n).forget := by
  simp [notify, forget, SentNotice.forget, Backends.withoutDelivery]

theorem request_forget (b : Backends) (now : Calendar.Instant) (r : Request) (o : Outbox) :
    o.forget.request b.withoutDelivery now r =
      ((o.request b now r).1.forget, (o.request b now r).2) := rfl

end Outbox

def World.forget (w : World) : World := { w with outbox := w.outbox.forget }

namespace Run

def forget (r : Run) : Run := { r with world := r.world.forget }

/-! ## Steps -/

/-- A run with its ending, without what was taken. -/
def forgetting {ε : Type} (result : Run × ε) : Run × ε := (result.1.forget, result.2)

section
variable (t : Terms) (playbookId : Value) (v : Violation) (r : Run)

theorem act_forget (kind : ActionKind) (params : Entries) :
    r.forget.act playbookId v kind params = forgetting (r.act playbookId v kind params) := by
  have hb : r.forget.bound = r.bound := rfl
  unfold act
  rw [hb]
  cases r.bound with
  | none => cases kind <;> rfl
  | some id =>
    cases kind with
    | createIncident => rfl
    | updateStatus =>
      simp only
      split <;> rfl
    | assign =>
      simp only
      split <;> rfl
    | escalate => rfl

/-- A notification step is the same whoever takes notifications. -/
theorem notify_forget (b : Backends) (n : Notification) :
    r.forget.notify b.withoutDelivery v n = forgetting (r.notify b v n) := by
  unfold notify
  split
  · next template _ =>
    have sent := Outbox.notify_forget b r.world.now
      ⟨n.channel, Template.render template v r.bound, n.recipients⟩ r.world.outbox
    exact Prod.ext (congrArg (fun o => (⟨{ r.world with outbox := o }, r.bound⟩ : Run)) sent) rfl
  · rfl

theorem wait_forget (w : Watch) (seconds : Seconds) :
    r.forget.wait w seconds = forgetting (r.wait w seconds) := by
  have hclock : r.forget.world.clock = r.world.clock := rfl
  unfold wait
  rw [hclock]
  generalize (w.onWait r.world.clock).wait r.world.clock.waited seconds.exact = result
  obtain ⟨waited, cause⟩ := result
  cases cause <;> rfl

theorem remediate_forget (b : Backends) (s : Script) :
    r.forget.remediate b.withoutDelivery v s = forgetting (r.remediate b v s) := by
  have sent := Outbox.request_forget b r.world.now ⟨s.script, s.parameters, v.id⟩ r.world.outbox
  have hnow : r.forget.world.now = r.world.now := rfl
  have houtbox : r.forget.world.outbox = r.world.outbox.forget := rfl
  unfold remediate
  rw [hnow, houtbox, sent]
  generalize r.world.outbox.request b r.world.now ⟨s.script, s.parameters, v.id⟩ = result
  obtain ⟨outbox, refusal⟩ := result
  cases refusal <;> rfl

theorem incident?_forget : r.forget.incident? = r.incident? := rfl

theorem perform_forget (type : StepType) (c : StepConfig) :
    r.forget.perform t.withoutDelivery playbookId v type c =
      forgetting (r.perform t playbookId v type c) := by
  cases type with
  | action =>
    simp only [perform]
    split
    · split
      · exact act_forget playbookId v r _ _
      · rfl
    · rfl
  | notification =>
    simp only [perform]
    split
    · exact notify_forget v r t.backends _
    · rfl
  | delay =>
    simp only [perform]
    split
    · exact wait_forget r t.watch _
    · rfl
  | condition =>
    simp only [perform, incident?_forget]
    split <;> rfl
  | remediation =>
    simp only [perform]
    split
    · exact remediate_forget v r t.backends _
    · rfl

/-- A step is the same whoever takes notifications. -/
theorem take_forget (s : Step) :
    r.forget.take t.withoutDelivery playbookId v s = forgetting (r.take t playbookId v s) := by
  cases hm : s.type.member? with
  | none =>
    rw [take_of_unknown hm, take_of_unknown hm]
    rfl
  | some type =>
    rw [take_of_known hm, take_of_known hm, perform_forget]
    generalize r.perform t playbookId v type s.config = result
    cases hs : s.isSpelled with
    | false => rw [Step.verdict_of_not_spelled hs, Step.verdict_of_not_spelled hs]
    | true =>
      obtain ⟨r', e⟩ := result
      cases e with
      | done success =>
        rw [Step.verdict_done hs]
        exact Step.verdict_done hs success
      | failed error => rfl
      | interrupted cause => rfl

end

/-! ## Whole runs -/

section
variable (t : Terms) (p : Playbook) (v : Violation)

theorem walk_forget (left : Nat) (s : Option Step) (r : Run) :
    walk t.withoutDelivery p v left s r.forget = forgetting (walk t p v left s r) := by
  have hwatch : t.withoutDelivery.watch = t.watch := rfl
  induction left generalizing s r with
  | zero => cases s <;> rfl
  | succ left ih =>
    cases s with
    | none => rfl
    | some s =>
      have hclock : r.forget.world.clock = r.world.clock := rfl
      simp only [walk, hwatch, hclock, take_forget]
      split
      · rfl
      · generalize r.take t p.id v s = result
        obtain ⟨r', e⟩ := result
        cases e with
        | done success => exact ih (next? p s success) r'
        | failed error => rfl
        | interrupted cause => rfl

/-- **A run is the same whoever takes notifications.** -/
theorem start_forget (w : World) :
    start t.withoutDelivery p v w.forget = forgetting (start t p v w) :=
  walk_forget t p v t.limit p.first? ⟨w, none⟩

end
end Run

/-! ## A response -/

namespace Desk

def forget (d : Desk) : Desk := { d with world := d.world.forget }

theorem runAll_forget (t : Terms) (v : Violation) (ps : List Playbook) (d : Desk) :
    d.forget.runAll t.withoutDelivery v ps =
      ((d.runAll t v ps).1.forget, (d.runAll t v ps).2) := by
  induction ps generalizing d with
  | nil => rfl
  | cons p ps ih =>
    have hworld : d.forget.world = d.world.forget := rfl
    simp only [runAll, hworld, Run.start_forget]
    generalize Run.start t p v d.world = result
    obtain ⟨run, ending⟩ := result
    have concluded : d.forget.conclude p run.forget ending =
        (d.conclude p run ending).forget := rfl
    cases ending with
    | interrupted cause => rfl
    | failed error => simp only [Run.forgetting, concluded, ih]
    | finished =>
      simp only [Run.forgetting, concluded, ih]
      rfl

theorem respond_forget (t : Terms) (v : Violation) (d : Desk) :
    d.forget.respond t.withoutDelivery v = ((d.respond t v).1.forget, (d.respond t v).2) :=
  runAll_forget t v (d.playbooksFor v) d

/-- Two responses are the same in everything but what became of the notifications. -/
structure SameButDelivery (one other : Desk × Responses) : Prop where
  returned : one.2 = other.2
  ledger : one.1.ledger = other.1.ledger
  registry : one.1.registry = other.1.registry
  clock : one.1.world.clock = other.1.world.clock
  incidents : one.1.world.incidents = other.1.world.incidents
  requests : one.1.world.outbox.requests = other.1.world.outbox.requests
  /-- The same messages have been sent to the same recipients, in the same order. -/
  notices : one.1.world.outbox.notices.map (·.toNotice) =
    other.1.world.outbox.notices.map (·.toNotice)

theorem SameButDelivery.of_forget {one other : Desk × Responses}
    (hdesk : one.1.forget = other.1.forget) (hreturned : one.2 = other.2) :
    SameButDelivery one other := by
  have ledger := congrArg Desk.ledger hdesk
  have registry := congrArg Desk.registry hdesk
  have clock := congrArg (·.world.clock) hdesk
  have incidents := congrArg (·.world.incidents) hdesk
  have requests := congrArg (·.world.outbox.requests) hdesk
  have notices := congrArg (·.world.outbox.notices.map (·.toNotice)) hdesk
  simp only [forget, World.forget, Outbox.forget_notices] at notices
  exact ⟨hreturned, ledger, registry, clock, incidents, requests, notices⟩

/-- **Delivery cannot influence a run.** Whatever the playbooks, the violation and the desk before:
if two responses have the same terms but for who takes the notifications, they are the same in
everything but what became of these. -/
theorem respond_unswayed (delivers delivers' : List Notice → Notice → Bool)
    (refuses? : List Request → Request → Option String) (limit : Nat) (watch : Watch)
    (v : Violation) (d : Desk) :
    SameButDelivery (d.respond ⟨⟨delivers, refuses?⟩, limit, watch⟩ v)
      (d.respond ⟨⟨delivers', refuses?⟩, limit, watch⟩ v) := by
  let t : Terms := ⟨⟨delivers, refuses?⟩, limit, watch⟩
  let t' : Terms := ⟨⟨delivers', refuses?⟩, limit, watch⟩
  have same : ((d.respond t v).1.forget, (d.respond t v).2) =
      ((d.respond t' v).1.forget, (d.respond t' v).2) := by
    rw [← respond_forget t v d, ← respond_forget t' v d]
    rfl
  obtain ⟨hdesk, hreturned⟩ := Prod.ext_iff.1 same
  exact .of_forget hdesk hreturned

end Desk
end Compliance
