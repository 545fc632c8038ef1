import Compliance.Proofs.Turns

/-!
# Runs under a watch

A watch breaks a run off in a wait, or before a step when the token is set by then. `turns_watched`
compares the turns under a watch with those that nothing breaks off: they are the same, or the same
up to one that is broken off at a visit of the other. Without a watch no run is interrupted
(`turns_unwatched`).
-/
namespace Compliance

open Number

/-- Whether every wait of a playbook has an end. -/
def Playbook.DelaysFinite (p : Playbook) : Prop :=
  ∀ s ∈ p.steps, ∀ d, s.config.delay = some d → ∃ q, d.exact = .finite q

/-- Terms on which nothing breaks off a response. -/
def Terms.unwatched (t : Terms) : Terms := { t with watch := .none }

@[simp]
theorem Terms.unwatched_watch (t : Terms) : t.unwatched.watch = .none := rfl

theorem Terms.unwatched_of_none {t : Terms} (h : t.watch = .none) : t.unwatched = t := by
  rw [unwatched, ← h]

/-- Whether a cancellation can come. -/
def Watch.Cancels (w : Watch) : Prop := w.token ≠ .unset ∨ w.cancelAt.isSome = true

/-- The causes that a watch has for breaking off a wait. -/
inductive Watch.Allows (w : Watch) : Interruption → Prop
  | cancelled (h : w.Cancels) : Allows w .cancelled
  | deadline (h : w.deadline.isSome = true) : Allows w .deadline

/-- The causes that a watch has for breaking off a run. -/
inductive Watch.Breaks (w : Watch) : Interruption → Prop
  | before (h : w.Cancels) : Breaks w .cancelledBefore
  | within {cause : Interruption} (h : w.Allows cause) : Breaks w cause

/-! ## One wait -/

namespace Watch

theorem next?_allows {w : Watch} {due : Rat} {cause : Interruption}
    (h : w.next? = some (due, cause)) : w.Allows cause := by
  unfold next? at h
  split at h
  · next c t hc ht =>
    split at h
    · cases h
      exact .cancelled (.inr (by rw [hc]; rfl))
    · cases h
      exact .deadline (by rw [ht]; rfl)
  · next c hc _ =>
    cases h
    exact .cancelled (.inr (by rw [hc]; rfl))
  · next t _ ht =>
    cases h
    exact .deadline (by rw [ht]; rfl)
  · cases h

/-- What can break off the wait that begins can break off any. -/
theorem Allows.of_onWait {w : Watch} {clock : Calendar.Clock} {cause : Interruption}
    (h : (w.onWait clock).Allows cause) : w.Allows cause := by
  cases h with
  | deadline h => exact .deadline h
  | cancelled h =>
    refine .cancelled ?_
    by_cases ht : w.token = .unset
    · rwa [onWait_of_unset ht] at h
    · exact .inl ht

/-- A token that is found set has been set. -/
theorem cancels_of_isCancelled {w : Watch} {clock : Calendar.Clock}
    (h : w.isCancelled clock = true) : w.Cancels := by
  unfold isCancelled at h
  by_cases ht : w.token = .unset
  · right
    cases hc : w.cancelAt with
    | none => simp [ht, hc, Token.isSet] at h
    | some c => rfl
  · exact .inl ht

/-- Without a watch a wait with an end comes to it. -/
theorem none_wait_finite (waited q : Rat) :
    Watch.none.wait waited (.finite q) = (if 0 < q then waited + q else waited, .none) := by
  by_cases hq : 0 < q <;> simp [wait, isDue, waitUntil, next?, Watch.none, hq]

/-- A wait with an end comes to it, or the watch breaks it off. -/
theorem wait_finite (w : Watch) (waited q : Rat) :
    w.wait waited (.finite q) = Watch.none.wait waited (.finite q) ∨
      ∃ cause, (w.wait waited (.finite q)).2 = some cause ∧ w.Allows cause := by
  rw [none_wait_finite]
  unfold wait
  split
  · next hdue =>
    refine .inr ⟨.deadline, rfl, .deadline ?_⟩
    cases hd : w.deadline with
    | none => simp [isDue, hd] at hdue
    | some t => rfl
  · simp only
    split
    · unfold waitUntil
      split
      · next due cause e hn he =>
        split
        · exact .inr ⟨cause, rfl, next?_allows hn⟩
        · cases he
          exact .inl rfl
      · next he => cases he
      · next he =>
        cases he
        exact .inl rfl
      · next he => cases he
    · exact .inl rfl

end Watch

/-! ## One step -/

namespace Run

/-- A run was broken off in a step that is a delay: nothing has changed since but the clock. -/
structure Suspended (w : Watch) (s : Step) (before after : Run) (cause : Interruption) : Prop where
  delay : s.type.member? = some .delay
  allowed : w.Allows cause
  bound : after.bound = before.bound
  incidents : after.world.incidents = before.world.incidents
  outbox : after.world.outbox = before.world.outbox

section
variable (t : Terms) (playbookId : Value) (v : Violation)

/-- Actions are never interrupted. -/
theorem act_ne_interrupted (kind : ActionKind) (params : Entries) (r : Run)
    (cause : Interruption) : (r.act playbookId v kind params).2 ≠ .interrupted cause := by
  have acted := act_acted playbookId v kind params r
  generalize (r.act playbookId v kind params).1 = r' at acted
  intro h
  rw [h] at acted
  cases acted

theorem wait_watched {seconds : Seconds} {q : Rat} (hq : seconds.exact = .finite q) (w : Watch)
    (r : Run) :
    r.wait w seconds = r.wait .none seconds ∨
      ∃ cause, (r.wait w seconds).2 = .interrupted cause ∧ w.Allows cause ∧
        (r.wait w seconds).1.bound = r.bound ∧
        (r.wait w seconds).1.world.incidents = r.world.incidents ∧
        (r.wait w seconds).1.world.outbox = r.world.outbox := by
  unfold Run.wait
  rw [hq, Watch.onWait_none]
  rcases (w.onWait r.world.clock).wait_finite r.world.clock.waited q with h | ⟨cause, h, hw⟩
  · rw [h]
    exact .inl rfl
  · refine .inr ⟨cause, ?_, hw.of_onWait, ?_⟩
    · simp only [h]
    · simp only [h, and_self]

theorem perform_watched (type : StepType) {c : StepConfig}
    (hc : ∀ d, c.delay = some d → ∃ q, d.exact = .finite q) (r : Run) :
    r.perform t playbookId v type c = r.perform t.unwatched playbookId v type c ∨
      ∃ cause, (r.perform t playbookId v type c).2 = .interrupted cause ∧ t.watch.Allows cause ∧
        type = .delay ∧ (r.perform t playbookId v type c).1.bound = r.bound ∧
        (r.perform t playbookId v type c).1.world.incidents = r.world.incidents ∧
        (r.perform t playbookId v type c).1.world.outbox = r.world.outbox := by
  cases type with
  | delay =>
    cases hd : c.delay with
    | none => exact .inl (by simp only [perform, hd])
    | some seconds =>
      obtain ⟨q, hq⟩ := hc seconds hd
      simp only [perform, hd]
      rcases wait_watched hq t.watch r with h | ⟨cause, hcause, hw, kept⟩
      · exact .inl h
      · exact .inr ⟨cause, hcause, hw, trivial, kept⟩
  | _ => exact .inl rfl

/-- A step under a watch does what it does without one, or is a delay that is broken off. -/
theorem take_watched {s : Step} (hs : ∀ d, s.config.delay = some d → ∃ q, d.exact = .finite q)
    (r : Run) :
    r.take t playbookId v s = r.take t.unwatched playbookId v s ∨
      ∃ r' cause, r.take t playbookId v s = (r', .interrupted cause) ∧
        Suspended t.watch s r r' cause := by
  cases hm : s.type.member? with
  | none =>
    rw [take_of_unknown hm, take_of_unknown hm]
    exact .inl rfl
  | some type =>
    rw [take_of_known hm, take_of_known hm]
    rcases perform_watched t playbookId v type hs r with h | ⟨cause, h, hw, rfl, hb, hi, ho⟩
    · exact .inl (congrArg _ h)
    · refine .inr ⟨_, cause, ?_, hm, hw, hb, hi, ho⟩
      rcases Step.verdict_cases s r (r.perform t playbookId v .delay s.config) with
        hv | ⟨-, r', success, hdone, -⟩
      · exact hv.trans (Prod.ext rfl h)
      · rw [hdone] at h
        cases h

theorem perform_unwatched (type : StepType) {c : StepConfig}
    (hc : ∀ d, c.delay = some d → ∃ q, d.exact = .finite q) (r : Run) (cause : Interruption) :
    (r.perform t.unwatched playbookId v type c).2 ≠ .interrupted cause := by
  cases type with
  | action =>
    simp only [perform]
    split
    · split
      · exact act_ne_interrupted playbookId v _ _ r cause
      · simp
    · simp
  | notification =>
    simp only [perform, notify]
    split
    · split <;> simp
    · simp
  | delay =>
    simp only [perform]
    split
    · next seconds hd =>
      obtain ⟨q, hq⟩ := hc seconds hd
      simp [wait, hq, Terms.unwatched, Watch.none_wait_finite]
    · simp
  | condition =>
    simp only [perform]
    split <;> simp
  | remediation =>
    simp only [perform, remediate]
    split
    · split <;> simp
    · simp

/-- Without a watch no step is interrupted. -/
theorem take_unwatched {s : Step} (hs : ∀ d, s.config.delay = some d → ∃ q, d.exact = .finite q)
    (r : Run) (cause : Interruption) :
    (r.take t.unwatched playbookId v s).2 ≠ .interrupted cause := by
  cases hm : s.type.member? with
  | none => simp [take_of_unknown hm]
  | some type =>
    rw [take_of_known hm]
    rcases Step.verdict_cases s r (r.perform t.unwatched playbookId v type s.config) with
      h | ⟨-, r', success, -, h⟩
    · rw [h]
      exact perform_unwatched t playbookId v type hs r cause
    · simp [h]

end

/-! ## A whole run -/

section
variable (t : Terms) {p : Playbook} (v : Violation)

/-- The next step is a step of the playbook. -/
theorem mem_of_next? {s s' : Step} {success : Bool} (h : next? p s success = some s') :
    s' ∈ p.steps := by
  unfold next? at h
  simp only at h
  generalize (if success = true then s.onSuccess else s.onFailure) = link at h
  split at h
  · exact List.mem_of_find?_eq_some h
  · cases h

theorem mem_of_first? {s : Step} (h : p.first? = some s) : s ∈ p.steps := List.mem_of_head? h

variable {t v} in
/-- A walk visits steps of the playbook. -/
theorem Walk.mem_steps {s : Option Step} {r r' : Run} {xs : List Visit} {e : Ending}
    (walk : Walk t p v s r xs r' e) (hs : ∀ s', s = some s' → s' ∈ p.steps) {x : Visit}
    (hx : x ∈ xs) : x.step ∈ p.steps := by
  induction walk with
  | done => cases hx
  | limit => cases hx
  | cancelled => cases hx
  | failed | interrupted =>
    rw [List.mem_singleton.1 hx]
    exact hs _ rfl
  | step _ _ ih =>
    rcases List.mem_cons.1 hx with rfl | hx
    · exact hs _ rfl
    · exact ih (fun _ => mem_of_next?) hx

/-- A walk that may take a step visits it first. -/
theorem visits_cons (left : Nat) (s : Step) {r : Run}
    (hc : t.watch.isCancelled r.world.clock = false) :
    ∃ later, visits t p v (left + 1) (some s) r = ⟨s, r, (r.take t p.id v s).2⟩ :: later := by
  simp only [visits, hc, Bool.false_eq_true, if_false]
  generalize r.take t p.id v s = result
  obtain ⟨r', e⟩ := result
  cases e <;> exact ⟨_, rfl⟩

/-- A run was broken off at a visit of the run that nothing breaks off: in a wait, or before the
step because the token was found set. -/
inductive CutShort (w : Watch) (x : Visit) : Run → Interruption → Prop
  | suspended {after : Run} {cause : Interruption} (h : Suspended w x.step x.before after cause) :
    CutShort w x after cause
  | noticed (h : w.isCancelled x.before.world.clock = true) : CutShort w x x.before .cancelledBefore

section
variable {w : Watch} {x : Visit} {after : Run} {cause : Interruption} (h : CutShort w x after cause)
include h

/-- Nothing but the time can be another than at the visit. -/
theorem CutShort.kept : after.bound = x.before.bound ∧
    after.world.incidents = x.before.world.incidents ∧
      after.world.outbox = x.before.world.outbox := by
  cases h with
  | suspended h => exact ⟨h.bound, h.incidents, h.outbox⟩
  | noticed => exact ⟨rfl, rfl, rfl⟩

theorem CutShort.breaks : w.Breaks cause := by
  cases h with
  | suspended h => exact .within h.allowed
  | noticed h => exact .before (Watch.cancels_of_isCancelled h)

end

/-- A walk under a watch is the walk without one, or is broken off at one of its visits. -/
theorem walk_watched (hp : p.DelaysFinite) (left : Nat) (s : Option Step)
    (hs : ∀ s', s = some s' → s' ∈ p.steps) (r : Run) :
    walk t p v left s r = walk t.unwatched p v left s r ∨
      ∃ x ∈ visits t.unwatched p v left s r, ∃ r' cause,
        walk t p v left s r = (r', .interrupted cause) ∧ CutShort t.watch x r' cause := by
  induction left generalizing s r with
  | zero => cases s <;> exact .inl rfl
  | succ left ih =>
    cases s with
    | none => exact .inl rfl
    | some s =>
      have hfinite := hp s (hs s rfl)
      have hnot := take_unwatched t p.id v hfinite r
      obtain ⟨later, hvisits⟩ := visits_cons t.unwatched (p := p) v left s (r := r) rfl
      have hfirst : ⟨s, r, (r.take t.unwatched p.id v s).2⟩ ∈
          visits t.unwatched p v (left + 1) (some s) r := by
        rw [hvisits]
        exact List.mem_cons_self
      cases hc : t.watch.isCancelled r.world.clock with
      | true =>
        refine .inr ⟨_, hfirst, r, .cancelledBefore, ?_, .noticed hc⟩
        simp only [walk, hc, if_true]
      | false =>
        rcases take_watched t p.id v hfinite r with h | ⟨r', cause, h, suspended⟩
        · -- the step is taken alike, and the rest of the walk decides
          simp only [walk, visits, hc, h, Terms.unwatched_watch, Watch.isCancelled_none,
            Bool.false_eq_true, if_false]
          generalize r.take t.unwatched p.id v s = result at hnot ⊢
          obtain ⟨r₁, e⟩ := result
          cases e with
          | failed error => exact .inl rfl
          | interrupted cause => exact absurd rfl (hnot cause)
          | done success =>
            rcases ih (next? p s success) (fun _ => mem_of_next?) r₁ with
              h | ⟨x, hx, h⟩
            · exact .inl h
            · exact .inr ⟨x, List.mem_cons_of_mem _ hx, h⟩
        · refine .inr ⟨_, hfirst, r', cause, ?_, .suspended suspended⟩
          simp only [walk, hc, h, Bool.false_eq_true, if_false]

/-- Without a watch no walk is interrupted. -/
theorem walk_unwatched (hp : p.DelaysFinite) (left : Nat) (s : Option Step)
    (hs : ∀ s', s = some s' → s' ∈ p.steps) (r : Run) (cause : Interruption) :
    (walk t.unwatched p v left s r).2 ≠ .interrupted cause := by
  induction left generalizing s r with
  | zero => cases s <;> simp [walk]
  | succ left ih =>
    cases s with
    | none => simp [walk]
    | some s =>
      have hnot := take_unwatched t p.id v (hp s (hs s rfl)) r
      simp only [walk, Terms.unwatched_watch, Watch.isCancelled_none, Bool.false_eq_true, if_false]
      generalize r.take t.unwatched p.id v s = result at hnot ⊢
      obtain ⟨r₁, e⟩ := result
      cases e with
      | failed error => simp
      | interrupted cause => exact absurd rfl (hnot cause)
      | done success => exact ih (next? p s success) (fun _ => mem_of_next?) r₁

end
end Run

/-! ## The turns of a response -/

namespace Turn

/-- The visits of a turn. -/
def visits (t : Terms) (x : Turn) : List Visit :=
  Run.startVisits t x.playbook x.violation x.before

/-- A turn was broken off at a visit of the same turn without a watch. -/
structure CutShort (t : Terms) (x y : Turn) : Prop where
  violation : y.violation = x.violation
  playbook : y.playbook = x.playbook
  before : y.before = x.before
  visit : ∃ visit ∈ x.visits t.unwatched, ∃ cause, y.ending = .interrupted cause ∧
    Run.CutShort t.watch visit y.run cause


end Turn

section
open Turn
variable (t : Terms)

theorem Turn.of_unwatched {p : Playbook} (hp : p.DelaysFinite) (v : Violation) (w : World) :
    (Turn.of t.unwatched v p w).interruption? = none := by
  have hnot := Run.walk_unwatched t v hp t.limit p.first? (fun _ => Run.mem_of_first?) ⟨w, none⟩
  change ∀ cause, (Turn.of t.unwatched v p w).ending ≠ .interrupted cause at hnot
  unfold Turn.interruption?
  split
  · next cause h => exact absurd h (hnot cause)
  · rfl

theorem Turn.of_watched {p : Playbook} (hp : p.DelaysFinite) (v : Violation) (w : World) :
    Turn.of t v p w = Turn.of t.unwatched v p w ∨
      Turn.CutShort t (Turn.of t.unwatched v p w) (Turn.of t v p w) := by
  rcases Run.walk_watched t v hp t.limit p.first? (fun _ => Run.mem_of_first?) ⟨w, none⟩ with
    h | ⟨x, hx, r', cause, h, cut⟩
  · left
    change Run.start t p v w = Run.start t.unwatched p v w at h
    simp only [Turn.of, h]
  · right
    change Run.start t p v w = _ at h
    refine ⟨rfl, rfl, rfl, x, hx, cause, ?_, ?_⟩
    · simp only [Turn.of, h]
    · simpa only [Turn.of, h] using cut

/-- Without a watch no turn is interrupted. -/
theorem turns_unwatched {ss : List (Violation × Playbook)} (hp : ∀ s ∈ ss, s.2.DelaysFinite)
    (w : World) : Turn.interruption (turns t.unwatched ss w) = none := by
  induction ss generalizing w with
  | nil => rfl
  | cons s ss ih =>
    obtain ⟨v, p⟩ := s
    have hx := of_unwatched t (hp (v, p) List.mem_cons_self) v w
    rw [turns_cons_of_none _ ss hx, Turn.interruption_cons_of_none hx]
    exact ih (fun s hs => hp s (List.mem_cons_of_mem _ hs)) _

theorem Desk.schedule_finite {d : Desk} (hd : ∀ p ∈ d.registry.playbooks, p.DelaysFinite)
    (v : Violation) : ∀ s ∈ d.schedule v, s.2.DelaysFinite := by
  intro s hs
  obtain ⟨p, hp, rfl⟩ := List.mem_map.1 hs
  exact hd p (Desk.mem_playbooksFor.1 hp).1

/-- **Turns under a watch** are the turns without one, or the same up to one that is broken off. -/
theorem turns_watched {ss : List (Violation × Playbook)} (hp : ∀ s ∈ ss, s.2.DelaysFinite)
    (w : World) :
    turns t ss w = turns t.unwatched ss w ∨
      ∃ earlier x later y, turns t.unwatched ss w = earlier ++ x :: later ∧
        turns t ss w = earlier ++ [y] ∧ Turn.CutShort t x y := by
  induction ss generalizing w with
  | nil => exact .inl rfl
  | cons s ss ih =>
    obtain ⟨v, p⟩ := s
    have hfinite := hp (v, p) List.mem_cons_self
    have hx := of_unwatched t hfinite v w
    rw [turns_cons_of_none t.unwatched ss hx]
    rcases of_watched t hfinite v w with h | cut
    · -- the first turn is the same, and the rest decides
      rw [turns_cons_of_none t ss (h ▸ hx), h]
      rcases ih (fun s hs => hp s (List.mem_cons_of_mem _ hs)) (of t.unwatched v p w).run.world with
        h | ⟨earlier, x, later, y, hfull, hcut, cut⟩
      · exact .inl (congrArg _ h)
      · refine .inr ⟨of t.unwatched v p w :: earlier, x, later, y, ?_, ?_, cut⟩
        · rw [hfull, List.cons_append]
        · rw [hcut, List.cons_append]
    · obtain ⟨_, _, cause, hending, _⟩ := cut.visit
      have hi : (Turn.of t v p w).interruption? = some cause := by
        simp only [interruption?, hending]
      rw [turns_cons_of_some t ss hi]
      exact .inr ⟨[], _, _, _, rfl, rfl, cut⟩

end

namespace Desk

variable {t : Terms} {d : Desk}

/-- A response with the turns of a response without a watch is that response. -/
theorem respondAll_unwatched {vs : List Violation}
    (hp : ∀ s ∈ vs.flatMap d.schedule, s.2.DelaysFinite)
    (h : turns t (vs.flatMap d.schedule) d.world =
      turns t.unwatched (vs.flatMap d.schedule) d.world) :
    d.respondAll t vs = d.respondAll t.unwatched vs := by
  have hnone := turns_unwatched t hp d.world
  obtain ⟨hdesk, hresponses⟩ := respondAll_eq t vs d
  obtain ⟨hdesk', hresponses'⟩ := respondAll_eq t.unwatched vs d
  have hviolations := respondAll_violations_of_none t (h ▸ hnone)
  have hviolations' := respondAll_violations_of_none t.unwatched hnone
  generalize d.respondAll t vs = result, d.respondAll t.unwatched vs = result' at *
  obtain ⟨d₁, violations, responses⟩ := result
  obtain ⟨d₂, violations', responses'⟩ := result'
  simp only at hdesk hdesk' hresponses hresponses' hviolations hviolations'
  rw [hdesk, hdesk', hresponses, hresponses', hviolations, hviolations', h]

end Desk

/-! ## A playbook that waits -/

namespace Playbook

/-- Opens an incident, and escalates it after some time. -/
def patient : Playbook :=
  forSeverities "patient" "Patient" "Escalate what nobody has taken up" []
    [actionStep "open" "Open" .createIncident (some "wait"),
      ⟨"wait", .text "Wait", .member .delay, { StepConfig.blank with delay := some (.whole 300) },
        .text "escalate", .null⟩,
      actionStep "escalate" "Escalate" .escalate none]

/-- Whole numbers of seconds are finite. -/
theorem delaysFinite_of_whole {p : Playbook}
    (h : ∀ s ∈ p.steps, s.config.delay = none ∨ ∃ n, s.config.delay = some (.whole n)) :
    p.DelaysFinite := by
  intro s hs seconds hdelay
  rcases h s hs with h | ⟨n, h⟩
  · rw [h] at hdelay
    cases hdelay
  · rw [h] at hdelay
    cases hdelay
    exact ⟨n, rfl⟩

theorem patient_delaysFinite : patient.DelaysFinite :=
  delaysFinite_of_whole (by simp [patient, forSeverities, actionStep, StepConfig.blank])

end Playbook
end Compliance
