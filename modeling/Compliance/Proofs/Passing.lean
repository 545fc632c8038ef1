import Compliance.Proofs.Watched

/-!
# Delays that go on to their end

A cancellation does not break off every delay in which it comes (`CancellationToken.sleep`): not one
of no seconds, and not one whose time is up. So a token that is found set after turns which were not
broken off in a delay was set in such a delay of theirs (`turns_overheard`). A deadline is never
passed in that way: such turns are over before it (`turns_inTime`).
-/
namespace Compliance

open Number

/-! ## One wait -/

namespace Watch

/-- What is due first is due no later than a cancellation. -/
theorem le_of_next? {w : Watch} {due : Rat} {cause : Interruption}
    (h : w.next? = some (due, cause)) {c : Rat} (hc : w.cancelAt = some c) : due ≤ c := by
  unfold next? at h
  split at h
  · next c' t hc' _ =>
    cases hc.symm.trans hc'
    split at h
    · cases h
      exact Rat.le_refl
    · next hlt =>
      cases h
      exact Rat.not_lt.1 hlt
  · next c' hc' _ =>
    cases hc.symm.trans hc'
    cases h
    exact Rat.le_refl
  · next hnone _ =>
    rw [hc] at hnone
    cases hnone
  · cases h

/-- A wait that is over before what is due first is over before the deadline. -/
theorem lt_of_next? {w : Watch} {due e : Rat} {cause : Interruption}
    (h : w.next? = some (due, cause)) {t : Rat} (ht : w.deadline = some t)
    (hnot : ¬ (due < e ∨ due = e ∧ cause = .deadline)) : e < t := by
  have hle : e ≤ due := Rat.not_lt.1 fun hlt => hnot (.inl hlt)
  have hdeadline : due = t → cause ≠ .deadline ∨ e < t := by
    rintro rfl
    by_cases heq : due = e
    · exact .inl fun hcause => hnot (.inr ⟨heq, hcause⟩)
    · exact .inr (Rat.lt_of_le_of_ne hle (Ne.symm heq))
  unfold next? at h
  rw [ht] at h
  cases hc : w.cancelAt with
  | none =>
    rw [hc] at h
    cases h
    exact (hdeadline rfl).resolve_left (not_not_intro rfl)
  | some c =>
    simp only [hc] at h
    split at h
    · next hlt =>
      cases h
      grind
    · cases h
      exact (hdeadline rfl).resolve_left (not_not_intro rfl)

/-- A wait that comes to its end does so before any cancellation. -/
theorem le_of_wait_none (w : Watch) {waited q : Rat} (hpos : 0 < q)
    (h : (w.wait waited (.finite q)).2 = .none) {c : Rat} (hc : w.cancelAt = some c) :
    waited + q ≤ c := by
  unfold wait at h
  split at h
  · cases h
  · simp only [hpos, if_true, waitUntil] at h
    split at h
    · next due cause e hn he =>
      cases he
      split at h
      · cases h
      · next hnot =>
        exact Rat.le_trans (Rat.not_lt.1 fun hlt => hnot (.inl hlt)) (le_of_next? hn hc)
    · next he => cases he
    · next hn _ => cases hd : w.deadline <;> simp [next?, hc, hd] at hn
    · next he => cases he

/-- A wait that comes to its end does so before any deadline. -/
theorem lt_of_wait_none (w : Watch) {waited q : Rat} (h : (w.wait waited (.finite q)).2 = .none)
    {t : Rat} (ht : w.deadline = some t) (hlt : waited < t) :
    (w.wait waited (.finite q)).1 < t := by
  unfold wait at h ⊢
  split
  · exact hlt
  · next hdue =>
    simp only [hdue] at h
    simp only
    split
    · next hpos =>
      simp only [hpos, if_true] at h
      unfold waitUntil at h ⊢
      split
      · next due cause e hn he =>
        cases he
        simp only [hn] at h
        split
        · next hcut => simp [hcut] at h
        · next hnot => exact lt_of_next? hn ht hnot
      · next he => cases he
      · next hn _ => cases hc : w.cancelAt <;> simp [next?, hc, ht] at hn
      · next he => cases he
    · exact hlt

end Watch

/-! ## One step -/

namespace Run

section
variable (t : Terms) (playbookId : Value) (v : Violation)

theorem act_clock (kind : ActionKind) (params : Entries) (r : Run) :
    (r.act playbookId v kind params).1.world.clock = r.world.clock := by
  have acted := act_acted playbookId v kind params r
  generalize r.act playbookId v kind params = result at acted
  obtain ⟨r', e⟩ := result
  cases acted <;> rfl

/-- Time passes in delays only. -/
theorem perform_clock {type : StepType} (c : StepConfig) (r : Run) (h : type ≠ .delay) :
    (r.perform t playbookId v type c).1.world.clock = r.world.clock := by
  cases type with
  | action =>
    simp only [perform]
    split
    · split
      · exact act_clock playbookId v _ _ r
      · rfl
    · rfl
  | notification =>
    simp only [perform]
    split
    · unfold notify
      split <;> rfl
    · rfl
  | delay => exact absurd rfl h
  | condition =>
    simp only [perform]
    split <;> rfl
  | remediation =>
    simp only [perform]
    split
    · unfold remediate
      simp only
      split <;> rfl
    · rfl

theorem take_clock {s : Step} (r : Run) (h : s.type.member? ≠ some .delay) :
    (r.take t playbookId v s).1.world.clock = r.world.clock := by
  cases hm : s.type.member? with
  | none => rw [take_of_unknown hm]
  | some type =>
    rw [take_of_known hm, Step.verdict_world]
    refine perform_clock t playbookId v s.config r ?_
    rintro rfl
    exact h hm

theorem wait_clock (r : Run) (w : Watch) (seconds : Seconds) :
    (r.wait w seconds).1.world.clock.waited =
      ((w.onWait r.world.clock).wait r.world.clock.waited seconds.exact).1 := by
  unfold Run.wait
  simp only
  split <;> rfl

/-- A run is not broken off at a visit. -/
structure GoesOn (x : Visit) (after : Run) : Prop where
  taken : x.before.take t playbookId v x.step = (after, x.ending)
  uninterrupted : ∀ cause, x.ending ≠ .interrupted cause

/-- A cancellation comes in a delay, which goes on to its end: the token is not set before the
delay, and it is set after it. -/
structure Overheard (x : Visit) : Prop where
  delay : x.step.type.member? = some .delay
  before : t.watch.isCancelled x.before.world.clock = false
  after : ∃ after, GoesOn t playbookId v x after ∧ t.watch.isCancelled after.world.clock = true
  /-- If the delay takes time then the cancellation comes when that is over. -/
  late : ∀ d q, x.step.config.delay = some d → d.exact = .finite q → 0 < q →
    ∀ c ∈ t.watch.cancelIn x.before.world.clock, x.before.world.clock.waited + q ≤ c

variable {t playbookId v} {x : Visit} {after : Run} (h : GoesOn t playbookId v x after)
include h

theorem GoesOn.delay (hclock : after.world.clock ≠ x.before.world.clock) :
    x.step.type.member? = some .delay := by
  by_cases hdelay : x.step.type.member? = some .delay
  · exact hdelay
  · have heq := take_clock t playbookId v x.before hdelay
    rw [h.taken] at heq
    exact absurd heq hclock

/-- A delay that goes on to its end has waited. -/
theorem GoesOn.wait (hdelay : x.step.type.member? = some .delay) {d : Seconds}
    (hd : x.step.config.delay = some d) :
    ((t.watch.onWait x.before.world.clock).wait x.before.world.clock.waited d.exact).2 = none ∧
      ((t.watch.onWait x.before.world.clock).wait x.before.world.clock.waited d.exact).1 =
        after.world.clock.waited := by
  have htaken := h.taken
  have hperform : x.before.perform t playbookId v .delay x.step.config =
      x.before.wait t.watch d := by
    simp only [perform, hd]
  rw [take_of_known hdelay, hperform] at htaken
  have hworld := congrArg (·.1.world.clock.waited) htaken
  rw [Step.verdict_world, wait_clock] at hworld
  refine ⟨?_, hworld⟩
  cases hcut :
      ((t.watch.onWait x.before.world.clock).wait x.before.world.clock.waited d.exact).2 with
  | none => rfl
  | some cause =>
    have hwait : (x.before.wait t.watch d).2 = .interrupted cause := by
      unfold Run.wait
      simp only [hcut]
    rcases Step.verdict_cases x.step x.before (x.before.wait t.watch d) with
      hv | ⟨-, r', success, hdone, -⟩
    · rw [hv] at htaken
      rw [htaken] at hwait
      exact absurd hwait (h.uninterrupted cause)
    · rw [hdone] at hwait
      cases hwait

/-- A step that is not broken off is over before any deadline. -/
theorem GoesOn.inTime (hs : ∀ d, x.step.config.delay = some d → ∃ q, d.exact = .finite q)
    {deadline : Rat} (ht : t.watch.deadline = some deadline)
    (hlt : x.before.world.clock.waited < deadline) : after.world.clock.waited < deadline := by
  by_cases hdelay : x.step.type.member? = some .delay
  · cases hd : x.step.config.delay with
    | none =>
      have htaken := congrArg (·.1.world.clock.waited) h.taken
      simp only [take_of_known hdelay, Step.verdict_world, perform, hd] at htaken
      rwa [← htaken]
    | some d =>
      obtain ⟨q, hq⟩ := hs d hd
      obtain ⟨hnone, hwaited⟩ := h.wait hdelay hd
      rw [hq] at hnone hwaited
      rw [← hwaited]
      exact Watch.lt_of_wait_none _ hnone ht hlt
  · have hclock := take_clock t playbookId v x.before hdelay
    rw [h.taken] at hclock
    rwa [hclock]

/-- The token comes to be set in delays only. -/
theorem GoesOn.overheard (hbefore : t.watch.isCancelled x.before.world.clock = false)
    (hafter : t.watch.isCancelled after.world.clock = true) : Overheard t playbookId v x := by
  have hdelay : x.step.type.member? = some .delay := by
    refine h.delay fun hclock => ?_
    rw [hclock, hbefore] at hafter
    cases hafter
  refine ⟨hdelay, hbefore, ⟨after, h, hafter⟩, fun d q hd hq hpos c hc => ?_⟩
  have hnone := (h.wait hdelay hd).1
  rw [hq] at hnone
  exact Watch.le_of_wait_none _ hpos hnone hc

end

/-! ## A whole run -/

theorem take_ne_cancelledBefore (t : Terms) (playbookId : Value) (v : Violation) {s : Step}
    (hs : ∀ d, s.config.delay = some d → ∃ q, d.exact = .finite q) (r : Run) :
    (r.take t playbookId v s).2 ≠ .interrupted .cancelledBefore := by
  rcases take_watched t playbookId v hs r with h | ⟨r', cause, h, suspended⟩
  · rw [h]
    exact take_unwatched t playbookId v hs r .cancelledBefore
  · rw [h]
    rintro ⟨⟩
    cases suspended.allowed

/-- A walk is not broken off in a delay. -/
def Unsuspended (e : Ending) : Prop := ∀ cause, e = .interrupted cause → cause = .cancelledBefore

section
variable {t : Terms} {p : Playbook} {v : Violation} (hp : p.DelaysFinite) {s : Option Step}
  {r r' : Run} {xs : List Visit} {e : Ending} (walk : Walk t p v s r xs r' e)
  (hs : ∀ s', s = some s' → s' ∈ p.steps) (he : Unsuspended e)
include hp walk hs he

/-- What the steps of such a walk keep is kept by the walk. -/
theorem Walk.keeps {P : Run → Prop}
    (hstep : ∀ x ∈ xs, x.step ∈ p.steps → ∀ after, GoesOn t p.id v x after → P x.before → P after)
    (hr : P r) : P r' := by
  induction walk with
  | done | limit | cancelled => exact hr
  | failed h => exact hstep _ List.mem_cons_self (hs _ rfl) _ ⟨h, by simp⟩ hr
  | @interrupted s r r' c h =>
    have hne := take_ne_cancelledBefore t p.id v (hp s (hs s rfl)) r
    rw [h, he c rfl] at hne
    exact absurd rfl hne
  | step h rest ih =>
    exact ih (fun _ => mem_of_next?) he (fun x hx => hstep x (List.mem_cons_of_mem _ hx))
      (hstep _ List.mem_cons_self (hs _ rfl) _ ⟨h, by simp⟩ hr)

/-- A walk that finds the token set overheard the cancellation in a delay. -/
theorem Walk.overheard (hbefore : t.watch.isCancelled r.world.clock = false)
    (hafter : t.watch.isCancelled r'.world.clock = true) : ∃ x ∈ xs, Overheard t p.id v x := by
  refine Classical.byContradiction fun hnone => ?_
  have hkept : t.watch.isCancelled r'.world.clock = false := by
    refine walk.keeps (P := fun r => t.watch.isCancelled r.world.clock = false) hp hs he
      (fun x hx _ after h hx' => ?_) hbefore
    exact Bool.eq_false_iff.2 fun hset => hnone ⟨x, hx, h.overheard hx' hset⟩
  rw [hkept] at hafter
  cases hafter

/-- A walk is over before any deadline. -/
theorem Walk.inTime {deadline : Rat} (ht : t.watch.deadline = some deadline)
    (hlt : r.world.clock.waited < deadline) : r'.world.clock.waited < deadline :=
  walk.keeps (P := fun r => r.world.clock.waited < deadline) hp hs he
    (fun x _ hx _ h => h.inTime (hp x.step hx) ht) hlt

end
end Run

/-! ## The turns of a response -/

open Turn

/-- A cancellation comes in a delay of a turn, which goes on to its end. -/
def Turn.Overhears (t : Terms) (x : Turn) : Prop :=
  ∃ visit ∈ x.visits t, Run.Overheard t x.playbook.id x.violation visit

section
variable (t : Terms) {ss : List (Violation × Playbook)} {w : World}

/-- What each turn keeps is kept by all of them. -/
theorem turns_keep {P : World → Prop}
    (hturn : ∀ x ∈ turns t ss w, P x.before → P x.run.world) (hw : P w) :
    P (worldAfter (turns t ss w) w) := by
  fun_induction turns t ss w with
  | case1 w => exact hw
  | case2 v p rest w cause hx => exact hturn _ List.mem_cons_self hw
  | case3 v p rest w hx ih =>
    exact ih (fun x hx => hturn x (List.mem_cons_of_mem _ hx)) (hturn _ List.mem_cons_self hw)

/-- What breaks off one of the turns breaks off all. -/
theorem interruption_of_mem_turns {x : Turn} {cause : Interruption} (hx : x ∈ turns t ss w)
    (h : x.ending = .interrupted cause) : interruption (turns t ss w) = some cause := by
  have hcause : x.interruption? = some cause := by simp only [interruption?, h]
  fun_induction turns t ss w with
  | case1 w => cases hx
  | case2 v p rest w c hc =>
    rw [List.mem_singleton.1 hx] at hcause
    simp [interruption, hcause]
  | case3 v p rest w hnone ih =>
    rw [interruption_cons_of_none hnone]
    rcases List.mem_cons.1 hx with rfl | hx
    · rw [hnone] at hcause
      cases hcause
    · exact ih hx

variable (hp : ∀ s ∈ ss, s.2.DelaysFinite)
  (he : ∀ cause, interruption (turns t ss w) = some cause → cause = .cancelledBefore)
include hp he

/-- The walk of one of the turns. -/
theorem walk_of_mem_turns {x : Turn} (hx : x ∈ turns t ss w) :
    x.playbook.DelaysFinite ∧ Run.Unsuspended x.ending ∧
      Run.Walk t x.playbook x.violation x.playbook.first? ⟨x.before, none⟩ (x.visits t) x.run
        x.ending := by
  refine ⟨hp _ (mem_of_mem_turns t hx), fun cause h => he cause ?_, ?_⟩
  · exact interruption_of_mem_turns t hx h
  · have walk := Run.start_walk t x.playbook x.violation x.before
    rw [eq_of_mem_turns t hx]
    exact walk

/-- **A token that turns find set was set in a delay of theirs** that went on to its end, if it was
not set before. -/
theorem turns_overheard (hbefore : t.watch.isCancelled w.clock = false)
    (hafter : t.watch.isCancelled (worldAfter (turns t ss w) w).clock = true) :
    ∃ x ∈ turns t ss w, x.Overhears t := by
  refine Classical.byContradiction fun hnone => ?_
  have hkept : t.watch.isCancelled (worldAfter (turns t ss w) w).clock = false := by
    refine turns_keep t (P := fun w => t.watch.isCancelled w.clock = false) (fun x hx hx' => ?_)
      hbefore
    obtain ⟨hfinite, hending, walk⟩ := walk_of_mem_turns t hp he hx
    exact Bool.eq_false_iff.2 fun hset =>
      hnone ⟨x, hx, walk.overheard hfinite (fun _ => Run.mem_of_first?) hending hx' hset⟩
  rw [hkept] at hafter
  cases hafter

/-- **Turns are over before any deadline** that is still to come when they begin. -/
theorem turns_inTime {deadline : Rat} (ht : t.watch.deadline = some deadline)
    (hlt : w.clock.waited < deadline) :
    (worldAfter (turns t ss w) w).clock.waited < deadline := by
  refine turns_keep t (P := fun w => w.clock.waited < deadline) (fun x hx hx' => ?_) hlt
  obtain ⟨hfinite, hending, walk⟩ := walk_of_mem_turns t hp he hx
  exact walk.inTime hfinite (fun _ => Run.mem_of_first?) hending ht hx'

end
end Compliance
