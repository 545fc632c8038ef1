import Compliance.Playbook.Standard
import Compliance.Response.Run
import Compliance.Violation.Store

/-!
# Visits

`Run.visits` lists the steps that a walk takes, each with the run as the step found it. `Run.Walk`
is the walk as a relation, with one rule for each way to go on and each way to end; `walk_walk` says
that it is the walk. `take_does` says once what a step can do to the incidents: nothing, open one,
change the bound one and record the change, or change it and fail before the change is recorded.
-/
namespace Compliance

/-! ## How a step is taken -/

namespace Step

/-- Whether the type of a step is a text that is a word for a type. -/
def isSpelled (s : Step) : Bool :=
  match s.type with
  | .member _ => false
  | .plain text => (member? (α := StepType) text).isSome

/-- What comes of a step that was carried out. If its type is spelled it is not done, and what it
would bind is not bound. -/
def verdict (s : Step) (r : Run) : Run × StepEnd → Run × StepEnd
  | (r', .done success) =>
    if s.isSpelled then ({ r' with bound := r.bound }, .failed .unfit) else (r', .done success)
  | result => result

variable {s : Step} {r r' : Run} {result : Run × StepEnd}

theorem verdict_of_not_spelled (h : s.isSpelled = false) : s.verdict r result = result := by
  obtain ⟨r', e⟩ := result
  cases e with
  | done success => exact if_neg (by simp [h])
  | failed error => rfl
  | interrupted cause => rfl

theorem verdict_done (h : s.isSpelled = true) (success : Bool) :
    s.verdict r (r', .done success) = ({ r' with bound := r.bound }, .failed .unfit) := if_pos h

/-- The verdict on a step stands by what it came to, unless it was done and is spelled. -/
theorem verdict_cases (s : Step) (r : Run) (result : Run × StepEnd) :
    s.verdict r result = result ∨ s.isSpelled = true ∧ ∃ r' success, result = (r', .done success) ∧
      s.verdict r result = ({ r' with bound := r.bound }, .failed .unfit) := by
  cases hs : s.isSpelled with
  | false => exact .inl (verdict_of_not_spelled hs)
  | true =>
    obtain ⟨r', e⟩ := result
    cases e with
    | done success => exact .inr ⟨rfl, r', success, rfl, verdict_done hs success⟩
    | failed error => exact .inl rfl
    | interrupted cause => exact .inl rfl

/-- The verdict changes nothing that was done. -/
@[simp]
theorem verdict_world : (s.verdict r result).1.world = result.1.world := by
  rcases verdict_cases s r result with h | ⟨-, r', success, rfl, h⟩
  · rw [h]
  · rw [h]

/-- A step that is done was carried out. -/
theorem eq_of_verdict_done {success : Bool} (h : s.verdict r result = (r', .done success)) :
    result = (r', .done success) := by
  rcases verdict_cases s r result with hv | ⟨-, r₁, success₁, -, hv⟩
  · rwa [hv] at h
  · cases hv.symm.trans h

end Step

namespace Run

variable {t : Terms} {playbookId : Value} {v : Violation} {s : Step} {r : Run}

/-- A step with a type that is unknown is passed over. -/
theorem take_of_unknown (h : s.type.member? = none) :
    r.take t playbookId v s = (r, .done true) := by
  cases hs : s.type with
  | member type =>
    rw [hs] at h
    cases h
  | plain text =>
    rw [hs] at h
    have hnone : member? (α := StepType) text = none := h
    simp only [take, hs, hnone]

/-- A step with a known type is carried out, and then its spelling counts. -/
theorem take_of_known {type : StepType} (h : s.type.member? = some type) :
    r.take t playbookId v s = s.verdict r (r.perform t playbookId v type s.config) := by
  cases hs : s.type with
  | member type' =>
    have hspelled : s.isSpelled = false := by simp only [Step.isSpelled, hs]
    rw [hs] at h
    cases h
    rw [Step.verdict_of_not_spelled hspelled]
    simp only [take, hs]
  | plain text =>
    rw [hs] at h
    have hmember : member? (α := StepType) text = some type := h
    have hspelled : s.isSpelled = true := by simp [Step.isSpelled, hs, hmember]
    cases hp : r.perform t playbookId v type s.config with
    | mk r' e => cases e <;> simp [take, hs, hmember, hp, Step.verdict, hspelled]

end Run

/-- A visit of a step. -/
structure Visit where
  step : Step
  /-- The run as the step found it. -/
  before : Run
  ending : StepEnd

namespace Run

section
variable (t : Terms) (p : Playbook) (v : Violation)

/-- The visits of a walk. -/
def visits : Nat → Option Step → Run → List Visit
  | _, none, _ => []
  | 0, some _, _ => []
  | left + 1, some s, r =>
    if t.watch.isCancelled r.world.clock then []
    else
      match r.take t p.id v s with
      | (r', .done success) => ⟨s, r, .done success⟩ :: visits left (next? p s success) r'
      | (_, e) => [⟨s, r, e⟩]

/-- The visits of a run. -/
def startVisits (w : World) : List Visit := visits t p v t.limit p.first? ⟨w, none⟩

/-- From a step and a run, a walk makes visits, and ends with a run in some way. -/
inductive Walk : Option Step → Run → List Visit → Run → Ending → Prop
  | done (r : Run) : Walk none r [] r .finished
  | limit (s : Step) (r : Run) : Walk (some s) r [] r (.failed (.stepLimit t.limit))
  | cancelled (s : Step) (r : Run) (hc : t.watch.isCancelled r.world.clock = true) :
    Walk (some s) r [] r (.interrupted .cancelledBefore)
  | failed {s : Step} {r r' : Run} {e : RunError} (h : r.take t p.id v s = (r', .failed e)) :
    Walk (some s) r [⟨s, r, .failed e⟩] r' (.failed e)
  | interrupted {s : Step} {r r' : Run} {c : Interruption}
      (h : r.take t p.id v s = (r', .interrupted c)) :
    Walk (some s) r [⟨s, r, .interrupted c⟩] r' (.interrupted c)
  | step {s : Step} {r r' r'' : Run} {success : Bool} {xs : List Visit} {e : Ending}
      (h : r.take t p.id v s = (r', .done success))
      (rest : Walk (next? p s success) r' xs r'' e) :
    Walk (some s) r (⟨s, r, .done success⟩ :: xs) r'' e

/-- The walk is what the relation says. -/
theorem walk_walk (left : Nat) (s : Option Step) (r : Run) :
    Walk t p v s r (visits t p v left s r) (walk t p v left s r).1 (walk t p v left s r).2 := by
  induction left generalizing s r with
  | zero =>
    cases s with
    | none => exact .done r
    | some s => exact .limit s r
  | succ left ih =>
    cases s with
    | none => exact .done r
    | some s =>
      unfold walk visits
      split
      · next hc => exact .cancelled s r hc
      · generalize h : r.take t p.id v s = result
        obtain ⟨r', e⟩ := result
        cases e with
        | done success => exact .step h (ih (next? p s success) r')
        | failed e => exact .failed h
        | interrupted c => exact .interrupted h

theorem start_walk (w : World) :
    Walk t p v p.first? ⟨w, none⟩ (startVisits t p v w) (start t p v w).1 (start t p v w).2 :=
  walk_walk t p v t.limit p.first? ⟨w, none⟩

variable {t p v}

/-- What the step of a visit came to, and where the walk went on once the step was done. -/
theorem Walk.at_visit {s : Option Step} {r r' : Run} {xs earlier later : List Visit} {x : Visit}
    {e : Ending} (walk : Walk t p v s r xs r' e) (hx : xs = earlier ++ x :: later) :
    ∃ after, x.before.take t p.id v x.step = (after, x.ending) ∧
      ∀ success, x.ending = .done success →
        Walk t p v (next? p x.step success) after later r' e := by
  induction walk generalizing earlier with
  | done => simp at hx
  | limit => simp at hx
  | cancelled => simp at hx
  | failed htake =>
    obtain ⟨-, hx⟩ | ⟨-, hx⟩ := List.singleton_eq_append_iff.1 hx
    · cases hx
      exact ⟨_, htake, nofun⟩
    · cases hx
  | interrupted htake =>
    obtain ⟨-, hx⟩ | ⟨-, hx⟩ := List.singleton_eq_append_iff.1 hx
    · cases hx
      exact ⟨_, htake, nofun⟩
    · cases hx
  | step htake rest ih =>
    cases earlier with
    | nil =>
      cases hx
      exact ⟨_, htake, fun _ he => by cases he; exact rest⟩
    | cons y earlier =>
      cases hx
      exact ih rfl

end

/-! ## What a step does to the incidents -/

/-- A change of the bound incident that is put on its timeline. -/
inductive Mark where
  | status (s : IncidentStatus)
  | assignee (a : Value)
  | escalated

namespace Mark

def kind : Mark → ActionKind
  | .status _ => .updateStatus
  | .assignee _ => .assign
  | .escalated => .escalate

def change : Mark → Change
  | .status s => .status s
  | .assignee a => .assignee a
  | .escalated => .priority .p1

def type : Mark → EventType
  | .status _ => .statusChange
  | .assignee _ => .assignment
  | .escalated => .escalation

def description : Mark → String
  | .status s => "Status updated to " ++ word s
  | .assignee a => "Assigned to " ++ a.toText
  | .escalated => "Incident escalated to P1"

def data (playbookId : Value) : Mark → List (String × Value)
  | .status s => [("status", .member s), ("playbook_id", playbookId)]
  | .assignee a => [("assignee", a), ("playbook_id", playbookId)]
  | .escalated => [("playbook_id", playbookId)]

end Mark

/-- Makes a change of an incident and puts it on the timeline. -/
def mark (playbookId : Value) (id : String) (m : Mark) (r : Run) : Run :=
  (r.amend id m.change).record id m.type m.description (m.data playbookId)

/-- What an action comes to. -/
inductive Acted (playbookId : Value) (v : Violation) (params : Entries) (r : Run) :
    ActionKind → Run → StepEnd → Prop
  | opened : Acted playbookId v params r .createIncident (r.createIncident v) (.done true)
  | unbound {kind : ActionKind} (hk : kind ≠ .createIncident) (hb : r.bound = none) :
    Acted playbookId v params r kind r (.done false)
  | marked {id : String} (hb : r.bound = some id) (m : Mark)
      (hm : m.kind = .assign → m = .assignee (assigneeIn params) ∧
        (assigneeIn params).isWritable = true) :
    Acted playbookId v params r m.kind (r.mark playbookId id m) (.done true)
  | refused {id : String} (hb : r.bound = some id) (f : NotMember) :
    Acted playbookId v params r .updateStatus r (.failed (.notMember f))
  | unwritable {id : String} (hb : r.bound = some id)
      (ha : (assigneeIn params).isWritable = false) :
    Acted playbookId v params r .assign (r.amend id (.assignee (assigneeIn params)))
      (.failed (.unwritable (assigneeIn params)))

/-- An incident is assigned even if its new assignee cannot be told. -/
theorem act_assign_of_not_isWritable (playbookId : Value) (v : Violation) {params : Entries}
    {r : Run} {id : String} (hb : r.bound = some id)
    (ha : (assigneeIn params).isWritable = false) :
    r.act playbookId v .assign params =
      (r.amend id (.assignee (assigneeIn params)), .failed (.unwritable (assigneeIn params))) := by
  have long : (assigneeIn params).writtenAs Value.toText = .error ⟨⟩ :=
    Value.writtenAs_eq_error_iff.2 ha
  simp only [act, hb, long]

theorem act_acted (playbookId : Value) (v : Violation) (kind : ActionKind) (params : Entries)
    (r : Run) :
    Acted playbookId v params r kind (r.act playbookId v kind params).1
      (r.act playbookId v kind params).2 := by
  cases hb : r.bound with
  | none =>
    cases kind with
    | createIncident => simpa only [act] using .opened
    | _ => simpa only [act, hb] using .unbound (by simp) hb
  | some id =>
    cases kind with
    | createIncident => simpa only [act] using .opened
    | updateStatus =>
      simp only [act, hb]
      split
      · next status _ => exact .marked hb (.status status) (by simp [Mark.kind])
      · next f _ => exact .refused hb f
    | assign =>
      simp only [act, hb]
      split
      · next name hname =>
        obtain ⟨ha, rfl⟩ := Value.writtenAs_eq_ok_iff.1 hname
        exact .marked hb (.assignee _) fun _ => ⟨rfl, ha⟩
      · next herror => exact .unwritable hb (Value.writtenAs_eq_error_iff.1 herror)
    | escalate => simpa only [act, hb] using .marked hb .escalated (by simp [Mark.kind])

/-- Steps other than actions leave the incidents and what is bound as they are. -/
theorem perform_of_ne_action (t : Terms) (playbookId : Value) (v : Violation) {type : StepType}
    (c : StepConfig) (r : Run) (h : type ≠ .action) :
    (r.perform t playbookId v type c).1.world.incidents = r.world.incidents ∧
      (r.perform t playbookId v type c).1.bound = r.bound := by
  cases type with
  | action => exact absurd rfl h
  | notification =>
    simp only [perform]
    split
    · unfold notify
      split <;> exact ⟨rfl, rfl⟩
    · exact ⟨rfl, rfl⟩
  | delay =>
    simp only [perform]
    split
    · unfold wait
      simp only
      split <;> exact ⟨rfl, rfl⟩
    · exact ⟨rfl, rfl⟩
  | condition =>
    simp only [perform]
    split <;> exact ⟨rfl, rfl⟩
  | remediation =>
    simp only [perform]
    split
    · unfold remediate
      simp only
      split <;> exact ⟨rfl, rfl⟩
    · exact ⟨rfl, rfl⟩

end Run

/-- The action that a step is to take. -/
def Step.actionKind? (s : Step) : Option ActionKind :=
  match s.type.member? with
  | some .action => s.config.action.bind (·.kind.member?)
  | _ => none

/-- Who a step is to assign an incident to. -/
def Step.assignee? (s : Step) : Option Value :=
  if s.actionKind? = some .assign then s.config.action.map (Run.assigneeIn ·.params) else none

/-- The event that an action puts on the timeline of the bound incident. -/
def ActionKind.eventType? : ActionKind → Option EventType
  | .createIncident => none
  | .updateStatus => some .statusChange
  | .assign => some .assignment
  | .escalate => some .escalation

theorem Run.Mark.eventType?_kind (m : Run.Mark) : m.kind.eventType? = some m.type := by
  cases m <;> rfl

namespace Visit

/-- Whether an action was carried out. A step whose type is only known by its word fails after that,
as unfit. -/
def isCarriedOut (x : Visit) : Bool :=
  match x.ending with
  | .done success => success
  | .failed .unfit => true
  | _ => false

/-- The event that a visit puts on the timeline of the incident with an id: that of an action
carried out while the incident was bound. -/
def mark? (id : String) (x : Visit) : Option EventType :=
  if x.before.bound = some id ∧ x.isCarriedOut then x.step.actionKind?.bind (·.eventType?) else none

/-- A visit that is to assign the incident with an id to somebody who cannot be written. -/
def IsOverlong (id : String) (x : Visit) : Prop :=
  x.before.bound = some id ∧ ∃ a, x.step.assignee? = some a ∧ a.isWritable = false

/-- What a visit does to the incidents. -/
inductive Does (playbookId : Value) (v : Violation) (x : Visit) (after : Run) : Prop
  | nothing (incidents : after.world.incidents = x.before.world.incidents)
      (bound : after.bound = x.before.bound) (unmarked : ∀ id, x.mark? id = none)
      (written : ∀ id, ¬ x.IsOverlong id)
  | opens (incidents : after.world.incidents = (x.before.createIncident v).world.incidents)
      (bound : after.bound = (x.before.createIncident v).bound ∨ after.bound = x.before.bound)
      (unmarked : ∀ id, x.mark? id = none) (written : ∀ id, ¬ x.IsOverlong id)
  | marks (id : String) (m : Run.Mark) (hb : x.before.bound = some id)
      (hm : ∀ a, m = .assignee a → a.isWritable = true)
      (incidents : after.world.incidents = (x.before.mark playbookId id m).world.incidents)
      (bound : after.bound = x.before.bound) (marked : x.mark? id = some m.type)
      (written : ∀ id, ¬ x.IsOverlong id)
  | amends (id : String) (a : Value) (hb : x.before.bound = some id) (ha : a.isWritable = false)
      (incidents : after.world.incidents = (x.before.amend id (.assignee a)).world.incidents)
      (bound : after.bound = x.before.bound) (unmarked : ∀ id, x.mark? id = none)
      (overlong : x.IsOverlong id) (ending : x.ending = .failed (.unwritable a))

section
variable {x : Visit} {id : String}

theorem mark?_of_no_kind (h : x.step.actionKind?.bind (·.eventType?) = none) :
    x.mark? id = none := by
  simp [mark?, h]

theorem mark?_of_unbound (h : x.before.bound = none) : x.mark? id = none := by
  simp [mark?, h]

theorem mark?_of_not_carriedOut (h : x.isCarriedOut = false) : x.mark? id = none := by
  simp [mark?, h]

theorem mark?_of_carriedOut {m : Run.Mark} (hb : x.before.bound = some id)
    (hk : x.step.actionKind? = some m.kind) (hc : x.isCarriedOut = true) :
    x.mark? id = some m.type := by
  simp [mark?, hb, hk, hc, m.eventType?_kind]

theorem bound_of_mark? (h : x.mark? id ≠ none) : x.before.bound = some id := by
  unfold mark? at h
  split at h
  · next hb => exact hb.1
  · exact absurd rfl h

/-- A visit marks no incident but the bound one. -/
theorem mark?_of_ne {id' : String} (hb : x.before.bound = some id) (h : id' ≠ id) :
    x.mark? id' = none := by
  simp [mark?, hb, Ne.symm h]

theorem not_overlong_of_ne {id' : String} (hb : x.before.bound = some id) (h : id' ≠ id) :
    ¬ x.IsOverlong id' := by
  simp [IsOverlong, hb, Ne.symm h]

theorem not_overlong_of_kind (h : x.step.actionKind? ≠ some .assign) : ¬ x.IsOverlong id := by
  simp [IsOverlong, Step.assignee?, h]

theorem not_overlong_of_unbound (h : x.before.bound = none) : ¬ x.IsOverlong id := by
  simp [IsOverlong, h]

end

/-- What a step does that was performed. If its type is only known by its word it does the same and
then fails, and what it would bind is not bound. -/
structure Performed (playbookId : Value) (v : Violation) (s : Step) (r r' : Run) (e : StepEnd) :
    Prop where
  does : Does playbookId v ⟨s, r, e⟩ r'
  unfit : ∀ success, e = .done success →
    Does playbookId v ⟨s, r, .failed .unfit⟩ { r' with bound := r.bound }

/-- A step that marks nothing, however it ends, and leaves the incidents and what is bound. -/
theorem Performed.idle (playbookId : Value) (v : Violation) {s : Step} {r r' : Run} (e : StepEnd)
    (hm : ∀ e id, (⟨s, r, e⟩ : Visit).mark? id = none)
    (hw : ∀ e id, ¬ (⟨s, r, e⟩ : Visit).IsOverlong id)
    (incidents : r'.world.incidents = r.world.incidents) (bound : r'.bound = r.bound) :
    Performed playbookId v s r r' e :=
  ⟨.nothing incidents bound (hm _) (hw _), fun _ _ => .nothing incidents rfl (hm _) (hw _)⟩

/-- A step without an action that is known leaves the incidents and what is bound. -/
theorem Performed.of_no_kind (playbookId : Value) (v : Violation) {s : Step} {r r' : Run}
    (e : StepEnd) (hk : s.actionKind? = none)
    (incidents : r'.world.incidents = r.world.incidents) (bound : r'.bound = r.bound) :
    Performed playbookId v s r r' e :=
  .idle playbookId v e (fun _ _ => mark?_of_no_kind (by simp [hk]))
    (fun _ _ => not_overlong_of_kind (by simp [hk])) incidents bound

/-- An assignment that was carried out was to somebody who can be written. -/
theorem not_overlong_of_marked {x : Visit} {a : Action} {m : Run.Mark}
    (hk : x.step.actionKind? = some m.kind) (ha : x.step.config.action = some a)
    (hm : m.kind = .assign → (Run.assigneeIn a.params).isWritable = true) (id : String) :
    ¬ x.IsOverlong id := by
  rintro ⟨-, b, hb, hbw⟩
  by_cases hass : m.kind = .assign
  · simp only [Step.assignee?, hk, hass, ha, if_true, Option.map_some] at hb
    rw [← Option.some.inj hb, hm hass] at hbw
    cases hbw
  · simp [Step.assignee?, hk, hass] at hb

/-- What an action step does. -/
theorem act_performed (playbookId : Value) (v : Violation) {s : Step} {kind : ActionKind}
    {a : Action} (hk : s.actionKind? = some kind) (ha : s.config.action = some a) (r : Run) :
    Performed playbookId v s r (r.act playbookId v kind a.params).1
      (r.act playbookId v kind a.params).2 := by
  have acted := Run.act_acted playbookId v kind a.params r
  generalize r.act playbookId v kind a.params = result at acted ⊢
  obtain ⟨r', e⟩ := result
  cases acted with
  | opened =>
    have hm : ∀ e id, (⟨s, r, e⟩ : Visit).mark? id = none :=
      fun _ _ => mark?_of_no_kind (by simp [hk, ActionKind.eventType?])
    have hw : ∀ e id, ¬ (⟨s, r, e⟩ : Visit).IsOverlong id :=
      fun _ _ => not_overlong_of_kind (by simp [hk])
    exact ⟨.opens rfl (.inl rfl) (hm _) (hw _), fun _ _ => .opens rfl (.inr rfl) (hm _) (hw _)⟩
  | unbound _ hb =>
    exact .idle playbookId v _ (fun _ _ => mark?_of_unbound hb)
      (fun _ _ => not_overlong_of_unbound hb) rfl rfl
  | marked hb m hm =>
    have hw : ∀ e id, ¬ (⟨s, r, e⟩ : Visit).IsOverlong id :=
      fun _ => not_overlong_of_marked hk ha fun hass => (hm hass).2
    have hwm : ∀ b, m = .assignee b → b.isWritable = true := by
      rintro b rfl
      obtain ⟨hb, hbw⟩ := hm rfl
      cases hb
      exact hbw
    exact ⟨.marks _ m hb hwm rfl rfl (mark?_of_carriedOut hb hk rfl) (hw _),
      fun _ _ => .marks _ m hb hwm rfl rfl (mark?_of_carriedOut hb hk rfl) (hw _)⟩
  | refused hb f =>
    exact ⟨.nothing rfl rfl (fun _ => mark?_of_not_carriedOut rfl)
      (fun _ => not_overlong_of_kind (by simp [hk])), by simp⟩
  | unwritable hb hw =>
    have overlong : IsOverlong _ ⟨s, r, .failed (.unwritable (Run.assigneeIn a.params))⟩ :=
      ⟨hb, _, by simp [Step.assignee?, hk, ha], hw⟩
    exact ⟨.amends _ _ hb hw rfl rfl (fun _ => mark?_of_not_carriedOut rfl) overlong rfl, by simp⟩

/-- What a step of a known type does. -/
theorem perform_performed (t : Terms) (playbookId : Value) (v : Violation) (s : Step)
    {type : StepType} (hs : s.type.member? = some type) (r : Run) :
    Performed playbookId v s r (r.perform t playbookId v type s.config).1
      (r.perform t playbookId v type s.config).2 := by
  by_cases hact : type = .action
  · subst hact
    have hk : s.actionKind? = s.config.action.bind (·.kind.member?) := by
      simp only [Step.actionKind?, hs]
    simp only [Run.perform]
    -- without an action, or with an unknown one, the step does nothing
    split
    · next a ha =>
      rw [ha, Option.bind_some] at hk
      split
      · next kind hkind => exact act_performed playbookId v (hk.trans hkind) ha r
      · next hkind => exact .of_no_kind playbookId v _ (hk.trans hkind) rfl rfl
    · next ha =>
      rw [ha, Option.bind_none] at hk
      exact .of_no_kind playbookId v _ hk rfl rfl
  · have hn : s.actionKind? = none := by
      unfold Step.actionKind?
      rw [hs]
      split
      · next heq => exact absurd (Option.some.inj heq) hact
      · rfl
    obtain ⟨incidents, bound⟩ := Run.perform_of_ne_action t playbookId v s.config r hact
    exact .of_no_kind playbookId v _ hn incidents bound

/-- **What a step can do to the incidents.** -/
theorem take_does {t : Terms} {playbookId : Value} {v : Violation} {s : Step} {r r' : Run}
    {e : StepEnd} (h : r.take t playbookId v s = (r', e)) : Does playbookId v ⟨s, r, e⟩ r' := by
  cases hm : s.type.member? with
  | none =>
    rw [Run.take_of_unknown hm] at h
    cases h
    have hk : s.actionKind? = none := by simp only [Step.actionKind?, hm]
    exact (Performed.of_no_kind playbookId v _ hk rfl rfl).does
  | some type =>
    have performed := perform_performed t playbookId v s hm r
    rw [Run.take_of_known hm] at h
    generalize r.perform t playbookId v type s.config = result at h performed
    rcases Step.verdict_cases s r result with hv | ⟨-, r₁, success, rfl, hv⟩
    · cases hv.symm.trans h
      exact performed.does
    · cases hv.symm.trans h
      exact performed.unfit success rfl

end Visit

/-! ## Where runs start -/

/-- A world in which nothing has happened yet. -/
def World.fresh (clock : Calendar.Clock) (actor : String) : World := ⟨clock, .empty actor, .empty⟩

/-- A violation to respond to. -/
def Violation.leak : Violation :=
  Finding.filed
    ⟨"p", "Policy", "a.example", .domain, "a.example", .high, "Leak", "A leak", [], "Fix"⟩
    ⟨1704067200000000⟩ 1 1

end Compliance
