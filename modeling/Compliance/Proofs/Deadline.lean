import Compliance.Proofs.Interruption
import Mathlib.Algebra.Order.Ring.Rat

/-!
# Scans that no deadline reaches

A deadline that comes after everything else makes no difference: a wait, a step, a run and the turns
of a response are what they are without one (`turns_outlasted`). A scan under such a deadline is
therefore a scan without one, and that is detection followed by one response after the other. Main
statement: `scan_agrees`.
-/
namespace Compliance

open Number Turn

/-! ## One wait -/

namespace Watch

/-- Nothing that a watch waits for comes before a time, or at it. -/
structure Outlasts (w : Watch) (stop : Rat) : Prop where
  uncancelled : w.token = .unset
  cancelAt : ∀ c, w.cancelAt = some c → stop < c
  deadline : ∀ t, w.deadline = some t → stop < t

section
variable {w : Watch} {stop waited q : Rat}

theorem Outlasts.of_le (h : w.Outlasts stop) (hle : waited ≤ stop) : w.Outlasts waited :=
  ⟨h.uncancelled, fun c hc => lt_of_le_of_lt hle (h.cancelAt c hc),
    fun t ht => lt_of_le_of_lt hle (h.deadline t ht)⟩

theorem Outlasts.next? (h : w.Outlasts stop) {due : Rat} {cause : Interruption}
    (hn : w.next? = some (due, cause)) : stop < due := by
  unfold Watch.next? at hn
  split at hn
  · next c t hc ht =>
    split at hn
    · cases hn
      exact h.cancelAt _ hc
    · cases hn
      exact h.deadline _ ht
  · next c hc _ =>
    cases hn
    exact h.cancelAt _ hc
  · next t _ ht =>
    cases hn
    exact h.deadline _ ht
  · cases hn

theorem Outlasts.not_isDue (h : w.Outlasts stop) : w.isDue stop = false := by
  unfold isDue
  cases ht : w.deadline with
  | none => rfl
  | some t => simpa using h.deadline t ht

theorem Outlasts.isCancelled {clock : Calendar.Clock} (h : w.Outlasts clock.waited) :
    w.isCancelled clock = false := by
  unfold Watch.isCancelled
  rw [h.uncancelled]
  cases hc : w.cancelAt with
  | none => rfl
  | some c => simpa [Token.isSet] using h.cancelAt c hc

/-- No time is given back by a wait. -/
theorem le_none_wait (waited : Rat) (seconds : Exact) :
    waited ≤ (Watch.none.wait waited seconds).1 := by
  cases seconds with
  | finite q =>
    rw [none_wait_finite]
    simp only
    split
    · next hq => exact le_add_of_nonneg_right (le_of_lt hq)
    · exact le_refl waited
  | infinite negative => cases negative <;> exact le_refl waited
  | undefined => exact le_refl waited

/-- A wait that is over before anything else is due. -/
theorem wait_outlasted (h : w.Outlasts (Watch.none.wait waited (.finite q)).1) :
    w.wait waited (.finite q) = Watch.none.wait waited (.finite q) := by
  have hdue := (h.of_le (le_none_wait waited (.finite q))).not_isDue
  rw [none_wait_finite] at h ⊢
  unfold wait
  rw [hdue]
  simp only [Bool.false_eq_true, if_false]
  split
  · next hq =>
    rw [if_pos hq] at h
    unfold waitUntil
    split
    · next due cause stop hn he =>
      cases he
      have hlate := h.next? hn
      rw [if_neg]
      rintro (hlt | ⟨heq, -⟩)
      · exact lt_asymm hlate hlt
      · exact (ne_of_gt hlate) heq
    · next he => cases he
    · next he =>
      cases he
      rfl
    · next he => cases he
  · rfl

end
end Watch

/-! ## One step -/

namespace Run

section
variable (t : Terms) (playbookId : Value) (v : Violation) (r : Run)

theorem perform_waited_le (type : StepType) (c : StepConfig) :
    r.world.clock.waited ≤
      (r.perform t.unwatched playbookId v type c).1.world.clock.waited := by
  by_cases hdelay : type = .delay
  · subst hdelay
    simp only [perform]
    split
    · rw [wait_clock, Terms.unwatched_watch, Watch.onWait_none]
      exact Watch.le_none_wait _ _
    · exact le_refl _
  · exact le_of_eq (congrArg Calendar.Clock.waited (perform_clock _ playbookId v c r hdelay)).symm

theorem perform_outlasted (type : StepType) {c : StepConfig}
    (hc : ∀ d, c.delay = some d → ∃ q, d.exact = .finite q)
    (h : t.watch.Outlasts (r.perform t.unwatched playbookId v type c).1.world.clock.waited) :
    r.perform t playbookId v type c = r.perform t.unwatched playbookId v type c := by
  cases type with
  | delay =>
    simp only [perform] at h ⊢
    split
    · next seconds hd =>
      obtain ⟨q, hq⟩ := hc seconds hd
      simp only [hd, wait_clock, Terms.unwatched_watch, Watch.onWait_none, hq] at h
      unfold Run.wait
      rw [Terms.unwatched_watch, Watch.onWait_none, Watch.onWait_of_unset h.uncancelled, hq,
        Watch.wait_outlasted h]
    · rfl
  | _ => rfl

theorem take_waited_le (s : Step) :
    r.world.clock.waited ≤ (r.take t.unwatched playbookId v s).1.world.clock.waited := by
  cases hm : s.type.member? with
  | none => rw [take_of_unknown hm]
  | some type =>
    rw [take_of_known hm, Step.verdict_world]
    exact perform_waited_le t playbookId v r type s.config

theorem take_outlasted {s : Step} (hs : ∀ d, s.config.delay = some d → ∃ q, d.exact = .finite q)
    (h : t.watch.Outlasts (r.take t.unwatched playbookId v s).1.world.clock.waited) :
    r.take t playbookId v s = r.take t.unwatched playbookId v s := by
  cases hm : s.type.member? with
  | none => rw [take_of_unknown hm, take_of_unknown hm]
  | some type =>
    rw [take_of_known hm, Step.verdict_world] at h
    rw [take_of_known hm, take_of_known hm, perform_outlasted t playbookId v r type hs h]

end

/-! ## A whole run -/

section
variable (t : Terms) {p : Playbook} {v : Violation}

theorem Walk.waited_le {s : Option Step} {r r' : Run} {xs : List Visit} {e : Ending}
    (h : Walk t.unwatched p v s r xs r' e) : r.world.clock.waited ≤ r'.world.clock.waited := by
  have taken : ∀ {s : Step} {r r' : Run} {e : StepEnd}, r.take t.unwatched p.id v s = (r', e) →
      r.world.clock.waited ≤ r'.world.clock.waited := by
    intro s r r' e h
    have hle := take_waited_le t p.id v r s
    rwa [h] at hle
  induction h with
  | done r => exact le_refl _
  | limit s r => exact le_refl _
  | cancelled s r hc => exact le_refl _
  | failed h => exact taken h
  | interrupted h => exact taken h
  | step h rest ih => exact le_trans (taken h) ih

/-- A walk that is over before anything is due. -/
theorem walk_outlasted (hp : p.DelaysFinite) (left : Nat) (s : Option Step)
    (hs : ∀ s', s = some s' → s' ∈ p.steps) (r : Run)
    (h : t.watch.Outlasts (walk t.unwatched p v left s r).1.world.clock.waited) :
    walk t p v left s r = walk t.unwatched p v left s r := by
  induction left generalizing s r with
  | zero => cases s <;> rfl
  | succ left ih =>
    cases s with
    | none => rfl
    | some s =>
      have htake := take_outlasted t p.id v r (hp s (hs s rfl))
      -- nothing has been due when the step is taken
      have hc := (h.of_le (walk_walk t.unwatched p v (left + 1) (some s) r).waited_le).isCancelled
      simp only [walk, hc, Terms.unwatched_watch, Watch.isCancelled_none, Bool.false_eq_true,
        if_false] at h ⊢
      generalize r.take t.unwatched p.id v s = result at h htake ⊢
      obtain ⟨r₁, e⟩ := result
      cases e with
      | failed error => rw [htake h]
      | interrupted cause => rw [htake h]
      | done success =>
        -- the step is over before the rest of the walk is
        have hle := (walk_walk t.unwatched p v left (next? p s success) r₁).waited_le
        rw [htake (h.of_le hle)]
        exact ih (next? p s success) (fun _ => mem_of_next?) r₁ h

end
end Run

/-! ## The turns of a response -/

section
variable (t : Terms)

theorem Turn.of_waited_le (v : Violation) (p : Playbook) (w : World) :
    w.clock.waited ≤ (Turn.of t.unwatched v p w).run.world.clock.waited :=
  (Run.start_walk t.unwatched p v w).waited_le

theorem Turn.of_outlasted {p : Playbook} (hp : p.DelaysFinite) (v : Violation) (w : World)
    (h : t.watch.Outlasts (Turn.of t.unwatched v p w).run.world.clock.waited) :
    Turn.of t v p w = Turn.of t.unwatched v p w := by
  have hwalk : Run.start t p v w = Run.start t.unwatched p v w :=
    Run.walk_outlasted t hp t.limit p.first? (fun _ => Run.mem_of_first?) ⟨w, none⟩ h
  simp only [Turn.of, hwalk]

theorem turns_waited_le (ss : List (Violation × Playbook)) (w : World) :
    w.clock.waited ≤ (worldAfter (turns t.unwatched ss w) w).clock.waited := by
  fun_induction turns t.unwatched ss w with
  | case1 w => exact le_refl _
  | case2 v p rest w cause hx => exact Turn.of_waited_le t v p w
  | case3 v p rest w hx ih => exact le_trans (Turn.of_waited_le t v p w) ih

/-- **Turns that are over before anything is due** are the turns without a watch. -/
theorem turns_outlasted {ss : List (Violation × Playbook)} (hp : ∀ s ∈ ss, s.2.DelaysFinite)
    (w : World)
    (h : t.watch.Outlasts (worldAfter (turns t.unwatched ss w) w).clock.waited) :
    turns t ss w = turns t.unwatched ss w := by
  induction ss generalizing w with
  | nil => rfl
  | cons s ss ih =>
    obtain ⟨v, p⟩ := s
    have hfinite := hp (v, p) List.mem_cons_self
    have hx := of_unwatched t hfinite v w
    rw [turns_cons_of_none _ ss hx] at h ⊢
    have hle := turns_waited_le t ss (of t.unwatched v p w).run.world
    have hof := Turn.of_outlasted t hfinite v w (h.of_le hle)
    rw [turns_cons_of_none t ss (hof ▸ hx), hof,
      ih (fun s hs => hp s (List.mem_cons_of_mem _ hs)) _ h]

/-- Turns under a watch are the turns without one, or the watch broke them off. -/
theorem turns_unbroken {ss : List (Violation × Playbook)} (hp : ∀ s ∈ ss, s.2.DelaysFinite)
    (w : World) :
    turns t ss w = turns t.unwatched ss w ∨
      ∃ cause, interruption (turns t ss w) = some cause ∧ t.watch.Breaks cause := by
  rcases turns_watched t hp w with h | ⟨earlier, x, later, y, hfull, hcut, cut⟩
  · exact .inl h
  · obtain ⟨_, _, cause, hending, hvisit⟩ := cut.visit
    have hearlier := interruption_of_append (hfull ▸ turns_unwatched t hp w)
    refine .inr ⟨cause, ?_, hvisit.breaks⟩
    rw [hcut]
    exact interruption_concat hearlier hending

end

/-! ## The desk -/

namespace Desk

section
variable {t : Terms} {d : Desk}

theorem respond_uninterrupted {v : Violation} (hp : ∀ s ∈ d.schedule v, s.2.DelaysFinite) :
    (d.respond t.unwatched v).2.interruption = none := by
  rw [respond_eq]
  exact turns_unwatched t hp d.world

theorem schedule_respond (v : Violation) : (d.respond t v).1.schedule = d.schedule := by
  rw [respond_eq]
  exact schedule_after _ d

end
end Desk

/-! ## The agent -/

namespace Agent

/-- Responds to violations one at a time, with nothing to break off any of the responses. -/
def respondEach : List Violation → Agent → Agent × List Responses
  | [], a => (a, [])
  | v :: rest, a =>
    let (a, r) := a.respond .none v
    let (a, later) := respondEach rest a
    (a, r :: later)

/-- Detects violations, and then responds to each. -/
def detectThenRespond (a : Agent) :
    Agent × Except Pattern.Fault (List Violation × List Responses) :=
  match a.detect with
  | (a, .error f) => (a, .error f)
  | (a, .ok found) =>
    let (a, rs) := a.respondEach found
    (a, .ok (found, rs))

/-- Responses one at a time leave the desk of one response to all, and each gives back the incidents
that it adds to that. -/
theorem respondEach_eq (vs : List Violation) (a : Agent)
    (hp : ∀ v, ∀ s ∈ a.desk.schedule v, s.2.DelaysFinite) :
    (a.respondEach vs).1 = { a with desk := (a.desk.respondAll (a.terms .none) vs).1 } ∧
      ∃ lists : List (List String), (a.respondEach vs).2.map (·.returned?) = lists.map some ∧
        (a.desk.respondAll (a.terms .none) vs).2.responses.incidentIds = lists.flatten := by
  induction vs generalizing a with
  | nil => exact ⟨rfl, [], rfl, rfl⟩
  | cons v vs ih =>
    have hnone := Desk.respond_uninterrupted (t := a.terms .none) (hp v)
    have hschedule := Desk.schedule_respond (t := a.terms .none) (d := a.desk) v
    change (a.desk.respond (a.terms .none) v).2.interruption = none at hnone
    simp only [respondEach, Agent.respond, Desk.respondAll, Watch.starting_none]
    generalize a.desk.respond (a.terms .none) v = result at hnone hschedule ⊢
    obtain ⟨d, r⟩ := result
    obtain ⟨hagent, lists, hreturned, hids⟩ :=
      ih { a with desk := d } (by simpa only [hschedule] using hp)
    simp only at hnone
    simp only [hnone]
    refine ⟨hagent, r.incidentIds :: lists, ?_, ?_⟩
    · rw [List.map_cons, List.map_cons, hreturned]
      simp [Responses.returned?, hnone]
    · rw [List.flatten_cons, ← hids]
      rfl

theorem detectThenRespond_eq {a a₁ : Agent} {found : List Violation}
    (hd : ∀ p ∈ a.desk.registry.playbooks, p.DelaysFinite) (h : a.detect = (a₁, .ok found)) :
    ∃ (responses : List Responses) (lists : List (List String)),
      a.detectThenRespond = (a.responded a₁.violations found .none, .ok (found, responses)) ∧
        responses.map (·.returned?) = lists.map some ∧
        (a.scanOf found .none).incidentIds = lists.flatten := by
  obtain ⟨violations, ha⟩ : ∃ violations, a₁ = { a with violations } := ⟨_, (detect_ok h).1⟩
  subst ha
  obtain ⟨hagent, lists, hreturned, hids⟩ :=
    respondEach_eq found { a with violations } (Desk.schedule_finite hd)
  refine ⟨_, lists, ?_, hreturned, hids⟩
  unfold detectThenRespond
  rw [h]
  simp only [hagent]
  rfl

/-- A time limit that breaks nothing off: there is none, or all is over before it, or the scan comes
to something and is not out of time. -/
inductive Unreached (a : Agent) : TimeLimit → Prop
  | unlimited : Unreached a .unlimited
  | later {s : Rat} (h : a.detectThenRespond.1.waited < a.waited + s) : Unreached a (.seconds s)
  | inTime {limit : TimeLimit} {b : Agent} {s : Scan} (h : a.scan limit none = (b, .ok s))
    (hs : s.isTimedOut = false) : Unreached a limit

/-- A deadline, if there is one, that does not come. -/
def NeverDue (a : Agent) (deadline : Option Rat) : Prop :=
  Watch.Outlasts ⟨.unset, none, deadline⟩ a.detectThenRespond.1.waited ∨
    ∃ b s, a.detectAndRespond ⟨.unset, none, deadline⟩ = (b, .ok s) ∧ s.isTimedOut = false

/-- A scan under such a limit is subject to a deadline at most, which does not come. -/
theorem Unreached.watched {a : Agent} {limit : TimeLimit} (h : a.Unreached limit) :
    ∃ deadline,
      a.scan limit none = ((a.detectAndRespond ⟨.unset, none, deadline⟩).1,
        (a.detectAndRespond ⟨.unset, none, deadline⟩).2.mapError .rule) ∧ a.NeverDue deadline := by
  have scanned : ∀ {deadline b s},
      ((a.detectAndRespond ⟨.unset, none, deadline⟩).1,
        (a.detectAndRespond ⟨.unset, none, deadline⟩).2.mapError ScanFault.rule) = (b, .ok s) →
      a.detectAndRespond ⟨.unset, none, deadline⟩ = (b, .ok s) := by
    intro deadline b s h
    generalize a.detectAndRespond ⟨.unset, none, deadline⟩ = result at h ⊢
    obtain ⟨b', r⟩ := result
    cases r <;> cases h
    rfl
  cases h with
  | unlimited => exact ⟨none, rfl, .inl ⟨rfl, by simp, by simp⟩⟩
  | later h => exact ⟨_, rfl, .inl ⟨rfl, by simp, by simpa [TimeLimit.deadline?] using h⟩⟩
  | inTime h hs =>
    cases limit with
    | expired =>
      cases h
      cases hs
    | unlimited => exact ⟨_, rfl, .inr ⟨_, _, scanned h, hs⟩⟩
    | seconds s => exact ⟨_, rfl, .inr ⟨_, _, scanned h, hs⟩⟩
    | atOnce => exact ⟨_, rfl, .inr ⟨_, _, scanned h, hs⟩⟩
    | beyond => cases h

/-- Detection and one response after the other come to what a scan under a time limit comes to, and
to what detection and response without a watch come to: to the same agent, and to the same fault or
the same violations. The incidents of the scan are those that the responses give back. -/
inductive Agrees (a : Agent) (limit : TimeLimit) :
    Agent × Except Pattern.Fault (List Violation × List Responses) → Prop
  | fault {b : Agent} {f : Pattern.Fault} (scan : a.scan limit none = (b, .error (.rule f)))
    (detection : a.detectAndRespond .none = (b, .error f)) : Agrees a limit (b, .error f)
  | responded {b : Agent} {s : Scan} {responses : List Responses} {lists : List (List String)}
    (scan : a.scan limit none = (b, .ok s)) (detection : a.detectAndRespond .none = (b, .ok s))
    (uninterrupted : s.interruption = none)
    (returned : responses.map (·.returned?) = lists.map some)
    (incidentIds : s.incidentIds = lists.flatten) :
    Agrees a limit (b, .ok (s.violations, responses))

section
variable {a a₁ : Agent} {found : List Violation} {deadline : Option Rat}
  (hd : ∀ p ∈ a.desk.registry.playbooks, p.DelaysFinite) (hdetect : a.detect = (a₁, .ok found))
include hd hdetect

/-- A deadline that does not come leaves the turns as they are without one. -/
theorem turns_of_unreached (h : a.NeverDue deadline) :
    turns (a.terms ⟨.unset, none, deadline⟩) (found.flatMap a.desk.schedule) a.desk.world =
      turns (a.terms .none) (found.flatMap a.desk.schedule) a.desk.world := by
  let t := a.terms ⟨.unset, none, deadline⟩
  have hfinite := schedules_finite hd found
  rcases h with outlasts | ⟨b, s, hs, hin⟩
  · obtain ⟨responses, lists, hthen, -⟩ := detectThenRespond_eq hd hdetect
    have hwaited : a.detectThenRespond.1.waited =
        (worldAfter (turns t.unwatched (found.flatMap a.desk.schedule) a.desk.world)
          a.desk.world).clock.waited := by
      rw [hthen, ← Desk.after_world]
      exact congrArg (·.world.clock.waited) (Desk.respondAll_eq t.unwatched found a.desk).1
    exact turns_outlasted t hfinite a.desk.world (hwaited ▸ outlasts)
  · rcases turns_unbroken t hfinite a.desk.world with h | ⟨cause, hcause, breaks⟩
    · exact h
    · -- nothing but the deadline can have broken the turns off, and the scan would be out of time
      have hi : s.interruption = some cause := by
        rw [detectAndRespond_eq _ hdetect] at hs
        cases hs
        exact (congrArg Responses.interruption (Desk.respondAll_eq t found a.desk).2).trans hcause
      have quiet : ¬ t.watch.Cancels := by simp [t, Watch.Cancels, Agent.terms]
      cases breaks with
      | before h => exact absurd h quiet
      | within h =>
        cases h with
        | cancelled h => exact absurd h quiet
        | deadline => simp [Scan.isTimedOut, hi] at hin

/-- A deadline that does not come makes no difference. -/
theorem detectAndRespond_of_unreached (h : a.NeverDue deadline) :
    a.detectAndRespond ⟨.unset, none, deadline⟩ = a.detectAndRespond .none := by
  have hall : a.desk.respondAll (a.terms ⟨.unset, none, deadline⟩) found =
      a.desk.respondAll (a.terms .none) found :=
    Desk.respondAll_unwatched (schedules_finite hd found) (turns_of_unreached hd hdetect h)
  rw [detectAndRespond_eq _ hdetect, detectAndRespond_eq _ hdetect]
  simp only [responded, scanOf, hall]

end

/-- **All ways to detect and respond agree.** Whatever the agent, as long as the delays of its
playbooks are finite: a scan whose time limit is not reached, detection and response without a
watch, and detection followed by one response after the other come to the same. -/
theorem scan_agrees {a : Agent} {limit : TimeLimit}
    (hd : ∀ p ∈ a.desk.registry.playbooks, p.DelaysFinite) (hl : a.Unreached limit) :
    a.Agrees limit a.detectThenRespond := by
  obtain ⟨deadline, hscan, hwatch⟩ := hl.watched
  generalize hdetect : a.detect = result
  obtain ⟨a₁, r⟩ := result
  cases r with
  | error f =>
    have hfault : ∀ w, a.detectAndRespond w = (a₁, .error f) := by
      intro w
      simp only [detectAndRespond, hdetect]
    have hthen : a.detectThenRespond = (a₁, .error f) := by
      simp only [detectThenRespond, hdetect]
    rw [hfault] at hscan
    rw [hthen]
    exact .fault hscan (hfault .none)
  | ok found =>
    have hfound : (a.scanOf found .none).violations = found :=
      Desk.respondAll_violations_of_none (a.terms .none)
        (turns_unwatched (a.terms .none) (schedules_finite hd found) a.desk.world)
    obtain ⟨responses, lists, hthen, hreturned, hids⟩ := detectThenRespond_eq hd hdetect
    have hnone := detectAndRespond_eq .none hdetect
    rw [detectAndRespond_of_unreached hd hdetect hwatch, hnone] at hscan
    have agrees : a.Agrees limit (_, .ok (_, responses)) :=
      .responded hscan hnone (scan_completes hd hdetect).uninterrupted hreturned hids
    rw [hthen]
    rwa [hfound] at agrees

/-- The playbook waits for five minutes, and the deadline comes after ten. -/
theorem scan_agrees_alarmed :
    (∀ p ∈ alarmed.desk.registry.playbooks, p.DelaysFinite) ∧ alarmed.Unreached (.seconds 600) ∧
      alarmed.detectThenRespond.1.waited = 300 ∧
      alarmed.Agrees (.seconds 600) alarmed.detectThenRespond := by
  have hl : alarmed.Unreached (.seconds 600) := .later (by decide +kernel)
  exact ⟨Desk.quiet_delaysFinite, hl, by decide +kernel, scan_agrees Desk.quiet_delaysFinite hl⟩

end Agent
end Compliance
