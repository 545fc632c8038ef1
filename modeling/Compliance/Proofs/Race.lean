import Compliance.Proofs.Deadline
import Mathlib.Tactic.Linarith

/-!
# What ends a scan

A scan comes to its end in one of three ways: its delays are over, its deadline passes, or it is
cancelled. Without a watch the time that passes is the sum of the delays of the steps that are
visited (`turns_elapsed`). Under a watch no time passes beyond what is due first, and what breaks
the turns off is just that, when it is due (`turns_timely`). So whichever of the three comes first
ends the scan. Main statement: `scan_decided`.
-/
namespace Compliance

open Number Turn

/-! ## How much time passes -/

/-- The seconds that a delay takes; one that is not above zero takes none. -/
def Number.Exact.positive : Exact → Rat
  | .finite q => if 0 < q then q else 0
  | _ => 0

/-- The seconds that a step of a type takes if nothing breaks it off. -/
def StepConfig.seconds (c : StepConfig) : StepType → Rat
  | .delay => (c.delay.map (·.exact.positive)).getD 0
  | _ => 0

/-- The seconds that a step takes if nothing breaks it off. -/
def Step.seconds (s : Step) : Rat := (s.type.member?.map s.config.seconds).getD 0

/-- The seconds of the steps that a turn visits. -/
def Turn.seconds (t : Terms) (x : Turn) : Rat :=
  ((Run.startVisits t x.playbook x.violation x.before).map (·.step.seconds)).sum

namespace Run

section
variable (t : Terms) (playbookId : Value) (v : Violation) (r : Run)

theorem perform_elapsed (type : StepType) {c : StepConfig}
    (hc : ∀ d, c.delay = some d → ∃ q, d.exact = .finite q) :
    (r.perform t.unwatched playbookId v type c).1.world.clock.waited =
      r.world.clock.waited + c.seconds type := by
  by_cases hdelay : type = .delay
  · subst hdelay
    simp only [perform, StepConfig.seconds]
    split
    · next d hd =>
      obtain ⟨q, hq⟩ := hc d hd
      rw [wait_clock, Terms.unwatched_watch, Watch.onWait_none, hq, Watch.none_wait_finite, hd]
      simp only [Option.map_some, Option.getD_some, hq, Exact.positive]
      split <;> simp
    · next hd => simp [hd]
  · have hzero : c.seconds type = 0 := by
      unfold StepConfig.seconds
      split
      · exact absurd rfl hdelay
      · rfl
    rw [perform_clock _ playbookId v c r hdelay, hzero, add_zero]

theorem take_elapsed {s : Step} (hs : ∀ d, s.config.delay = some d → ∃ q, d.exact = .finite q) :
    (r.take t.unwatched playbookId v s).1.world.clock.waited =
      r.world.clock.waited + s.seconds := by
  cases hm : s.type.member? with
  | none =>
    rw [take_of_unknown hm]
    simp [Step.seconds, hm]
  | some type =>
    rw [take_of_known hm, Step.verdict_world, perform_elapsed t playbookId v r type hs]
    simp [Step.seconds, hm]

end

/-- **Without a watch a walk takes the seconds of its visits.** -/
theorem Walk.elapsed {t : Terms} {p : Playbook} {v : Violation} (hp : p.DelaysFinite)
    {s : Option Step} {r r' : Run} {xs : List Visit} {e : Ending}
    (h : Walk t.unwatched p v s r xs r' e) (hs : ∀ s', s = some s' → s' ∈ p.steps) :
    r'.world.clock.waited = r.world.clock.waited + (xs.map (·.step.seconds)).sum := by
  have taken : ∀ {s : Step} {r r' : Run} {e : StepEnd}, s ∈ p.steps →
      r.take t.unwatched p.id v s = (r', e) →
        r'.world.clock.waited = r.world.clock.waited + s.seconds := by
    intro s r r' e hs h
    have helapsed := take_elapsed t p.id v r (hp s hs)
    rwa [h] at helapsed
  induction h with
  | done r => simp
  | limit s r => simp
  | cancelled s r hc => cases hc
  | failed h => simpa using taken (hs _ rfl) h
  | interrupted h => simpa using taken (hs _ rfl) h
  | step h rest ih =>
    rw [ih fun _ => mem_of_next?, taken (hs _ rfl) h, List.map_cons, List.sum_cons, add_assoc]

end Run

section
variable (t : Terms)

theorem Turn.of_elapsed {p : Playbook} (hp : p.DelaysFinite) (v : Violation) (w : World) :
    (Turn.of t.unwatched v p w).run.world.clock.waited =
      w.clock.waited + (Turn.of t.unwatched v p w).seconds t.unwatched :=
  (Run.start_walk t.unwatched p v w).elapsed hp fun _ => Run.mem_of_first?

/-- **Without a watch turns take the seconds of all that they visit.** -/
theorem turns_elapsed {ss : List (Violation × Playbook)} (hp : ∀ s ∈ ss, s.2.DelaysFinite)
    (w : World) :
    (worldAfter (turns t.unwatched ss w) w).clock.waited =
      w.clock.waited + ((turns t.unwatched ss w).map (Turn.seconds t.unwatched)).sum := by
  induction ss generalizing w with
  | nil => simp [turns, worldAfter]
  | cons s ss ih =>
    obtain ⟨v, p⟩ := s
    have hfinite := hp (v, p) List.mem_cons_self
    have hrest := ih (fun s hs => hp s (List.mem_cons_of_mem _ hs))
      (of t.unwatched v p w).run.world
    rw [turns_cons_of_none _ ss (of_unwatched t hfinite v w), List.map_cons, List.sum_cons,
      ← add_assoc, ← of_elapsed t hfinite v w, ← hrest]
    rfl

end

/-! ## What is due first -/

/-- What is said of an interruption: a run was cancelled, whether in a wait or before a step. -/
def Interruption.reason : Interruption → Interruption
  | .cancelledBefore => .cancelled
  | cause => cause

/-- Something that is due has not been passed, or it has just broken things off. -/
inductive Timely (due : Rat) (cause : Interruption) : Option Interruption → Rat → Prop
  | inTime {waited : Rat} (h : waited ≤ due) : Timely due cause none waited
  | cut {i : Interruption} (h : i.reason = cause) : Timely due cause (some i) due

def StepEnd.interruption? : StepEnd → Option Interruption
  | .interrupted cause => some cause
  | _ => none

def Ending.interruption? : Ending → Option Interruption
  | .interrupted cause => some cause
  | _ => none

namespace Watch

/-- A watch breaks things off at two times at most, which are different. -/
structure IsTimed (w : Watch) : Prop where
  token : w.token = .unset
  ne : ∀ c t, w.cancelAt = some c → w.deadline = some t → c ≠ t

section
variable {w : Watch} {due : Rat} {cause : Interruption}

theorem reason_of_next? (hn : w.next? = some (due, cause)) : cause.reason = cause := by
  cases next?_allows hn <;> rfl

/-- If a cancellation has come then it is what is due first, unless that has been passed. -/
theorem eq_of_isCancelled (hw : w.IsTimed) (hn : w.next? = some (due, cause))
    {clock : Calendar.Clock} (hle : clock.waited ≤ due) (h : w.isCancelled clock = true) :
    cause = .cancelled ∧ clock.waited = due := by
  obtain ⟨c, hc, hcome⟩ : ∃ c, w.cancelAt = some c ∧ c ≤ clock.waited := by
    unfold isCancelled at h
    rw [hw.token] at h
    cases hc : w.cancelAt with
    | none => simp [hc, Token.isSet] at h
    | some c => exact ⟨c, rfl, by simpa [hc, Token.isSet] using h⟩
  have hdue : due = c := le_antisymm (le_of_next? hn hc) (le_trans hcome hle)
  subst hdue
  refine ⟨?_, le_antisymm hle hcome⟩
  unfold next? at hn
  rw [hc] at hn
  cases hd : w.deadline with
  | none =>
    rw [hd] at hn
    cases hn
    rfl
  | some t =>
    simp only [hd] at hn
    split at hn
    · cases hn
      rfl
    · cases hn
      exact absurd rfl (hw.ne _ _ hc hd)

/-- A deadline that is due is what is due first, if that has not been passed. -/
theorem eq_of_isDue (hn : w.next? = some (due, cause)) {waited : Rat} (hle : waited ≤ due)
    (h : w.isDue waited = true) : cause = .deadline ∧ waited = due := by
  unfold isDue at h
  unfold next? at hn
  cases hd : w.deadline with
  | none => simp [hd] at h
  | some t =>
    have ht : t ≤ waited := by simpa [hd] using h
    rw [hd] at hn
    split at hn
    · next c t' hc ht' =>
      cases ht'
      split at hn
      · next hlt =>
        cases hn
        linarith
      · cases hn
        exact ⟨rfl, le_antisymm hle ht⟩
    · next h' => cases h'
    · next t' hc ht' =>
      cases ht'
      cases hn
      exact ⟨rfl, le_antisymm hle ht⟩
    · next h' => cases h'

theorem wait_timely (hn : w.next? = some (due, cause)) {waited : Rat} (hle : waited ≤ due)
    (q : Rat) : Timely due cause (w.wait waited (.finite q)).2 (w.wait waited (.finite q)).1 := by
  unfold wait
  split
  · next h =>
    obtain ⟨rfl, rfl⟩ := eq_of_isDue hn hle h
    exact .cut rfl
  · simp only
    split
    · simp only [waitUntil, hn]
      split
      · rw [later, if_pos hle]
        exact .cut (reason_of_next? hn)
      · next hnot => exact .inTime (not_lt.1 fun hlt => hnot (.inl hlt))
    · exact .inTime hle

/-- A watch whose first time is later than a time outlasts it. -/
theorem outlasts_of_next? (hc : w.token = .unset) {stop : Rat}
    (h : ∀ due cause, w.next? = some (due, cause) → stop < due) : w.Outlasts stop := by
  unfold next? at h
  refine ⟨hc, fun c hcancel => ?_, fun t hdeadline => ?_⟩
  · cases hd : w.deadline with
    | none => exact h c .cancelled (by rw [hcancel, hd])
    | some t =>
      simp only [hcancel, hd] at h
      by_cases hlt : c < t
      · exact h c .cancelled (by rw [if_pos hlt])
      · have := h t .deadline (by rw [if_neg hlt])
        linarith
  · cases hcancel : w.cancelAt with
    | none => exact h t .deadline (by rw [hcancel, hdeadline])
    | some c =>
      simp only [hcancel, hdeadline] at h
      by_cases hlt : c < t
      · have := h c .cancelled (by rw [if_pos hlt])
        linarith
      · exact h t .deadline (by rw [if_neg hlt])

end
end Watch

namespace Run

section
variable (t : Terms) {due : Rat} {cause : Interruption} (hw : t.watch.IsTimed)
  (hn : t.watch.next? = some (due, cause))
include hw hn

theorem perform_timely (playbookId : Value) (v : Violation) (type : StepType) {c : StepConfig}
    (hc : ∀ d, c.delay = some d → ∃ q, d.exact = .finite q) {r : Run}
    (hle : r.world.clock.waited ≤ due) :
    Timely due cause (r.perform t playbookId v type c).2.interruption?
      (r.perform t playbookId v type c).1.world.clock.waited := by
  -- only a delay lets time pass or can be broken off
  by_cases hdelay : type = .delay
  · subst hdelay
    simp only [perform]
    split
    · next d hd =>
      obtain ⟨q, hq⟩ := hc d hd
      have htimely := t.watch.wait_timely hn hle q
      unfold Run.wait
      rw [Watch.onWait_of_unset hw.token, hq]
      generalize t.watch.wait r.world.clock.waited (.finite q) = result at htimely ⊢
      obtain ⟨waited, cause?⟩ := result
      cases cause? <;> exact htimely
    · exact .inTime hle
  · have hnot := perform_unwatched t playbookId v type hc r
    have hsame : r.perform t.unwatched playbookId v type c = r.perform t playbookId v type c := by
      cases type <;> first | rfl | exact absurd rfl hdelay
    rw [hsame] at hnot
    have hnone : (r.perform t playbookId v type c).2.interruption? = none := by
      unfold StepEnd.interruption?
      split
      · next cause h => exact absurd h (hnot cause)
      · rfl
    rw [hnone, perform_clock t playbookId v c r hdelay]
    exact .inTime hle

theorem take_timely (playbookId : Value) (v : Violation) {s : Step}
    (hs : ∀ d, s.config.delay = some d → ∃ q, d.exact = .finite q) {r : Run}
    (hle : r.world.clock.waited ≤ due) :
    Timely due cause (r.take t playbookId v s).2.interruption?
      (r.take t playbookId v s).1.world.clock.waited := by
  cases hm : s.type.member? with
  | none =>
    rw [take_of_unknown hm]
    exact .inTime hle
  | some type =>
    have htimely := perform_timely t hw hn playbookId v type hs hle
    rw [take_of_known hm]
    rcases Step.verdict_cases s r (r.perform t playbookId v type s.config) with
      h | ⟨-, r', success, hdone, h⟩
    · rwa [h]
    · rw [hdone] at htimely
      rw [h]
      exact htimely

/-- A walk passes nothing that is due. -/
theorem walk_timely {p : Playbook} (hp : p.DelaysFinite) (v : Violation) (left : Nat)
    (s : Option Step) (hs : ∀ s', s = some s' → s' ∈ p.steps) {r : Run}
    (hle : r.world.clock.waited ≤ due) :
    Timely due cause (walk t p v left s r).2.interruption?
      (walk t p v left s r).1.world.clock.waited := by
  induction left generalizing s r with
  | zero => cases s <;> exact .inTime hle
  | succ left ih =>
    cases s with
    | none => exact .inTime hle
    | some s =>
      have htake := take_timely t hw hn p.id v (hp s (hs s rfl)) hle
      unfold walk
      split
      · next h =>
        obtain ⟨rfl, hwaited⟩ := Watch.eq_of_isCancelled hw hn hle h
        change Timely due .cancelled (some .cancelledBefore) r.world.clock.waited
        rw [hwaited]
        exact .cut rfl
      · generalize r.take t p.id v s = result at htake ⊢
        obtain ⟨r₁, e⟩ := result
        cases e with
        | failed error => exact htake
        | interrupted cause => exact htake
        | done success =>
          -- the step was not broken off, and the rest of the walk starts in time
          cases htake with
          | inTime hle => exact ih (next? p s success) (fun _ => mem_of_next?) hle

end
end Run

section
variable (t : Terms) {due : Rat} {cause : Interruption} (hw : t.watch.IsTimed)
  (hn : t.watch.next? = some (due, cause))
include hw hn

theorem Turn.of_timely {p : Playbook} (hp : p.DelaysFinite) (v : Violation) {w : World}
    (hle : w.clock.waited ≤ due) :
    Timely due cause (Turn.of t v p w).interruption?
      (Turn.of t v p w).run.world.clock.waited :=
  Run.walk_timely t hw hn hp v t.limit p.first? (fun _ => Run.mem_of_first?) hle

/-- **Turns pass nothing that is due**, and nothing else breaks them off. -/
theorem turns_timely {ss : List (Violation × Playbook)} (hp : ∀ s ∈ ss, s.2.DelaysFinite)
    {w : World} (hle : w.clock.waited ≤ due) :
    Timely due cause (interruption (turns t ss w)) (worldAfter (turns t ss w) w).clock.waited := by
  induction ss generalizing w with
  | nil => exact .inTime hle
  | cons s ss ih =>
    obtain ⟨v, p⟩ := s
    have hof := Turn.of_timely t hw hn (hp (v, p) List.mem_cons_self) v hle
    cases hx : (Turn.of t v p w).interruption? with
    | some c =>
      rw [hx] at hof
      rw [turns_cons_of_some t ss hx]
      simpa [interruption, worldAfter, hx] using hof
    | none =>
      rw [hx] at hof
      rw [turns_cons_of_none t ss hx, interruption_cons_of_none hx]
      -- the first turn has passed nothing that is due, so that the others start in time
      cases hof with
      | inTime hle => exact ih (fun s hs => hp s (List.mem_cons_of_mem _ hs)) hle

/-- Either the turns are over before anything is due, or what is due first breaks them off. -/
theorem turns_race {ss : List (Violation × Playbook)} (hp : ∀ s ∈ ss, s.2.DelaysFinite)
    {w : World} (hle : w.clock.waited ≤ due)
    (hne : (worldAfter (turns t.unwatched ss w) w).clock.waited ≠ due) :
    ((worldAfter (turns t.unwatched ss w) w).clock.waited < due ∧
        turns t ss w = turns t.unwatched ss w) ∨
      (due < (worldAfter (turns t.unwatched ss w) w).clock.waited ∧
        (∃ i, interruption (turns t ss w) = some i ∧ i.reason = cause) ∧
        (worldAfter (turns t ss w) w).clock.waited = due) := by
  rcases lt_or_gt_of_ne hne with hlt | hgt
  · refine .inl ⟨hlt, turns_outlasted t hp w (Watch.outlasts_of_next? hw.token ?_)⟩
    intro due' cause' hn'
    rw [hn] at hn'
    cases hn'
    exact hlt
  · have htimely := turns_timely t hw hn hp hle
    refine .inr ⟨hgt, ?_⟩
    rcases turns_unbroken t hp w with h | ⟨cause', hcause, -⟩
    · -- turns that nothing breaks off would have passed what is due
      rw [h, turns_unwatched t hp w] at htimely
      cases htimely with
      | inTime hle => exact absurd hgt (not_lt.2 hle)
    · rw [hcause] at htimely ⊢
      generalize (worldAfter (turns t ss w) w).clock.waited = waited at htimely ⊢
      cases htimely with
      | cut h => exact ⟨⟨cause', rfl, h⟩, rfl⟩

end
/-! ## Three times -/

/-- Whether a time comes before another one, which may be missing. -/
def Precedes (x : Rat) (y : Option Rat) : Prop := ∀ z ∈ y, x < z

/-- The earliest of three times, of which the last two may be missing. -/
def earliest (d : Rat) (deadline cancel : Option Rat) : Rat :=
  (deadline.toList ++ cancel.toList).foldl min d

/-- What comes first, and when: the end of the delays, the deadline or the cancellation. -/
inductive First (d : Rat) (deadline cancel : Option Rat) : Option Interruption → Rat → Prop
  | delays (hd : Precedes d deadline) (hc : Precedes d cancel) : First d deadline cancel none d
  | deadline {x : Rat} (hx : x ∈ deadline) (hd : x < d) (hc : Precedes x cancel) :
    First d deadline cancel (some .deadline) x
  | cancel {x : Rat} {i : Interruption} (hi : i.reason = .cancelled) (hx : x ∈ cancel) (hd : x < d)
    (ht : Precedes x deadline) : First d deadline cancel (some i) x

namespace First

variable {d x : Rat} {deadline cancel : Option Rat} {i : Option Interruption}

theorem deadline_iff (h : First d deadline cancel i x) :
    i = some .deadline ↔ ∃ t ∈ deadline, t < d ∧ Precedes t cancel := by
  cases h with
  | delays hd hc =>
    refine ⟨nofun, fun ⟨t, ht, hlt, _⟩ => ?_⟩
    exact absurd hlt (not_lt_of_gt (hd t ht))
  | deadline hx hd hc => exact ⟨fun _ => ⟨x, hx, hd, hc⟩, fun _ => rfl⟩
  | cancel hi hx hd ht =>
    refine ⟨?_, fun ⟨t, htd, _, htc⟩ => ?_⟩
    · rintro ⟨⟩
      cases hi
    · exact absurd (ht t htd) (not_lt_of_gt (htc x hx))

theorem cancelled_iff (h : First d deadline cancel i x) :
    i.map (·.reason) = some .cancelled ↔ ∃ c ∈ cancel, c < d ∧ Precedes c deadline := by
  cases h with
  | delays hd hc =>
    refine ⟨nofun, fun ⟨c, hcc, hlt, _⟩ => ?_⟩
    exact absurd hlt (not_lt_of_gt (hc c hcc))
  | deadline hx hd hc =>
    refine ⟨nofun, fun ⟨c, hcc, _, hct⟩ => ?_⟩
    exact absurd (hc c hcc) (not_lt_of_gt (hct x hx))
  | cancel hi hx hd ht => exact ⟨fun _ => ⟨x, hx, hd, ht⟩, fun _ => congrArg some hi⟩

theorem eq_none (h : First d deadline cancel i x) (hd : i ≠ some .deadline)
    (hc : i.map (·.reason) ≠ some .cancelled) : i = none := by
  cases h with
  | delays => rfl
  | deadline => exact absurd rfl hd
  | cancel hi => exact absurd (congrArg some hi) hc

/-- A cancellation is not too late if it comes first. -/
theorem le_iff (h : First d deadline cancel i x) {c : Rat} (hc : c ∈ cancel) :
    c ≤ x ↔ c < d ∧ Precedes c deadline := by
  cases h with
  | delays hd hc' =>
    have hlt := hc' c hc
    exact ⟨fun hle => absurd hlt (not_lt.2 hle), fun hcd => le_of_lt hcd.1⟩
  | deadline hx hd hc' =>
    have hlt := hc' c hc
    exact ⟨fun hle => absurd hlt (not_lt.2 hle), fun hcd => le_of_lt (hcd.2 x hx)⟩
  | cancel hi hx hd ht =>
    obtain rfl : x = c := Option.mem_unique hx hc
    exact ⟨fun _ => ⟨hd, ht⟩, fun _ => le_refl x⟩

theorem eq_earliest (h : First d deadline cancel i x) : x = earliest d deadline cancel := by
  cases h with
  | delays hd hc =>
    cases deadline <;> cases cancel <;> simp_all [Precedes, earliest, le_of_lt]
  | deadline hx hd hc =>
    cases hx
    cases cancel <;> simp_all [Precedes, earliest, le_of_lt]
  | cancel hi hx hd ht =>
    cases hx
    cases deadline <;> simp_all [Precedes, earliest, le_of_lt]

end First

/-! ## The scan -/

namespace Agent

/-- The time limit that a deadline sets, if there is one. -/
def TimeLimit.within : Option Rat → TimeLimit
  | some t => .seconds t
  | none => .unlimited

/-- A watch for a deadline and a cancellation so many seconds from now. -/
def watchFor (a : Agent) (deadline cancel : Option Rat) : Watch :=
  ⟨.unset, cancel.map (a.waited + ·), deadline.map (a.waited + ·)⟩

/-- The turns of a scan that nothing breaks off. -/
def fullTurns (a : Agent) : List Turn :=
  match a.detect.2 with
  | .ok found => turns (a.terms .none) (found.flatMap a.desk.schedule) a.desk.world
  | .error _ => []

/-- The seconds of the delays that are visited in a scan that nothing breaks off. -/
def delays (a : Agent) : Rat := (a.fullTurns.map (Turn.seconds (a.terms .none))).sum

/-- The delays of an agent, a deadline and a cancellation come at different times, all of them after
the start. -/
structure Apart (a : Agent) (deadline cancel : Option Rat) : Prop where
  finite : ∀ p ∈ a.desk.registry.playbooks, p.DelaysFinite
  deadline_pos : ∀ t ∈ deadline, 0 < t
  cancel_pos : ∀ c ∈ cancel, 0 < c
  deadline_ne : ∀ t ∈ deadline, t ≠ a.delays
  cancel_ne : ∀ c ∈ cancel, c ≠ a.delays
  ne : ∀ t ∈ deadline, ∀ c ∈ cancel, t ≠ c

/-- How a scan that is asked for alone ends, with the cancellations that were heard. -/
inductive Decided (a : Agent) (deadline cancel : Option Rat) :
    Agent × List (Except ScanFault TimedScan) × List Rat → Prop
  /-- Detection comes to a fault, and no time passes. -/
  | fault {b : Agent} {f : Pattern.Fault} (full : a.scan .unlimited none = (b, .error (.rule f)))
      (waited : b.waited = a.waited) : Decided a deadline cancel (b, [.error (.rule f)], [])
  /-- The scan without a deadline and a cancellation leaves `b` and comes to `full`. -/
  | ended {a' b : Agent} {s full : Scan} {runs : List Turn} {millis : Float} {heard : List Rat}
      (completes : a.Completes b full runs)
      (delays : a.delays = (runs.map (Turn.seconds (a.terms .none))).sum)
      (timedOut : s.isTimedOut = true ↔ ∃ t ∈ deadline, t < a.delays ∧ Precedes t cancel)
      (cancelled : s.isCancelled = true ↔ ∃ c ∈ cancel, c < a.delays ∧ Precedes c deadline)
      (otherwise : s.isTimedOut = false → s.isCancelled = false → a' = b ∧ s = full)
      (heard_iff : ∀ c, c ∈ heard ↔ c ∈ cancel ∧ c < a.delays ∧ Precedes c deadline)
      (waited : a'.waited = a.waited + earliest a.delays deadline cancel) :
    Decided a deadline cancel (a', [.ok ⟨s, millis⟩], heard)

section
variable {a a₁ : Agent} {deadline cancel : Option Rat} {found : List Violation}

theorem isTimed_watchFor (hne : ∀ t ∈ deadline, ∀ c ∈ cancel, t ≠ c) :
    (a.watchFor deadline cancel).IsTimed := by
  refine ⟨rfl, fun c t hc ht heq => ?_⟩
  obtain ⟨x, hx, rfl⟩ := Option.map_eq_some_iff.1 hc
  obtain ⟨y, hy, rfl⟩ := Option.map_eq_some_iff.1 ht
  exact hne y hy x hx (add_left_cancel heq).symm

/-- What a watch waits for first. -/
theorem next?_watchFor (hne : ∀ t ∈ deadline, ∀ c ∈ cancel, t ≠ c) :
    (deadline = none ∧ cancel = none) ∨
      (∃ t ∈ deadline, Precedes t cancel ∧
        (a.watchFor deadline cancel).next? = some (a.waited + t, .deadline)) ∨
      ∃ c ∈ cancel, Precedes c deadline ∧
        (a.watchFor deadline cancel).next? = some (a.waited + c, .cancelled) := by
  cases deadline with
  | none =>
    cases cancel with
    | none => exact .inl ⟨rfl, rfl⟩
    | some c => exact .inr (.inr ⟨c, rfl, by simp [Precedes], rfl⟩)
  | some t =>
    cases cancel with
    | none => exact .inr (.inl ⟨t, rfl, by simp [Precedes], rfl⟩)
    | some c =>
      simp only [watchFor, Watch.next?, Option.map_some, add_lt_add_iff_left]
      rcases lt_or_gt_of_ne (hne t rfl c rfl) with hlt | hgt
      · exact .inr (.inl ⟨t, rfl, by simpa [Precedes] using hlt, by rw [if_neg (not_lt_of_gt hlt)]⟩)
      · exact .inr (.inr ⟨c, rfl, by simpa [Precedes] using hgt, by rw [if_pos hgt]⟩)

theorem fullTurns_eq (hdetect : a.detect = (a₁, .ok found)) :
    a.fullTurns = turns (a.terms .none) (found.flatMap a.desk.schedule) a.desk.world := by
  unfold fullTurns
  rw [hdetect]

/-- Where the time of a scan that nothing breaks off goes. -/
theorem worldAfter_waited (hd : ∀ p ∈ a.desk.registry.playbooks, p.DelaysFinite)
    (hdetect : a.detect = (a₁, .ok found)) :
    (worldAfter (turns (a.terms .none) (found.flatMap a.desk.schedule) a.desk.world)
      a.desk.world).clock.waited = a.waited + a.delays := by
  rw [delays, fullTurns_eq hdetect]
  exact turns_elapsed (a.terms .none) (schedules_finite hd found) a.desk.world

theorem responded_waited (w : Watch) (violations : ViolationStore) (found : List Violation) :
    (a.responded violations found w).waited =
      (worldAfter (turns (a.terms w) (found.flatMap a.desk.schedule) a.desk.world)
        a.desk.world).clock.waited := by
  have hdesk := (Desk.respondAll_eq (a.terms w) found a.desk).1
  rw [← Desk.after_world, ← hdesk]
  rfl

theorem scanOf_interruption (w : Watch) (found : List Violation) :
    (a.scanOf found w).interruption =
      interruption (turns (a.terms w) (found.flatMap a.desk.schedule) a.desk.world) :=
  congrArg Responses.interruption (Desk.respondAll_eq (a.terms w) found a.desk).2

/-- The turns of a scan under a watch are those of the scan that nothing breaks off. -/
def Unbroken (a : Agent) (found : List Violation) (w : Watch) : Prop :=
  turns (a.terms w) (found.flatMap a.desk.schedule) a.desk.world =
    turns (a.terms .none) (found.flatMap a.desk.schedule) a.desk.world

section
variable (hd : ∀ p ∈ a.desk.registry.playbooks, p.DelaysFinite)
  (hdetect : a.detect = (a₁, .ok found))
include hd

theorem Unbroken.respondAll {w : Watch} (h : a.Unbroken found w) :
    a.desk.respondAll (a.terms w) found = a.desk.respondAll (a.terms .none) found :=
  Desk.respondAll_unwatched (t := a.terms w) (schedules_finite hd found) h

theorem Unbroken.interruption {w : Watch} (h : a.Unbroken found w) :
    (a.scanOf found w).interruption = none := by
  rw [scanOf_interruption, h]
  exact turns_unwatched (a.terms .none) (schedules_finite hd found) a.desk.world

include hdetect

theorem Unbroken.waited {w : Watch} (h : a.Unbroken found w) :
    (a.responded a₁.violations found w).waited = a.waited + a.delays := by
  rw [responded_waited, h]
  exact worldAfter_waited hd hdetect

/-- Either the delays are over before anything is due, or what is due first breaks off the scan. -/
theorem scanOf_race {w : Watch} (hw : w.IsTimed) {x : Rat} {cause : Interruption}
    (hn : w.next? = some (a.waited + x, cause)) (hpos : 0 < x) (hne : x ≠ a.delays) :
    (a.delays < x ∧ a.Unbroken found w) ∨
      (x < a.delays ∧ (∃ i, (a.scanOf found w).interruption = some i ∧ i.reason = cause) ∧
        (a.responded a₁.violations found w).waited = a.waited + x) := by
  let t := a.terms w
  have hover : (worldAfter (turns t.unwatched (found.flatMap a.desk.schedule) a.desk.world)
      a.desk.world).clock.waited = a.waited + a.delays := worldAfter_waited hd hdetect
  have hle : a.waited ≤ a.waited + x := le_add_of_nonneg_right (le_of_lt hpos)
  have hne' : a.waited + a.delays ≠ a.waited + x := fun he => hne (add_left_cancel he).symm
  rcases turns_race t hw hn (schedules_finite hd found) hle (hover ▸ hne') with
    ⟨hlt, h⟩ | ⟨hlt, hi, hwaited⟩
  · rw [hover] at hlt
    exact .inl ⟨lt_of_add_lt_add_left hlt, h⟩
  · rw [hover] at hlt
    refine .inr ⟨lt_of_add_lt_add_left hlt, ?_, ?_⟩
    · rw [scanOf_interruption]
      exact hi
    · rw [responded_waited]
      exact hwaited

end

theorem isCancelled_iff {s : Scan} :
    s.isCancelled = true ↔ s.interruption.map (·.reason) = some .cancelled := by
  unfold Scan.isCancelled
  cases s.interruption with
  | none => simp
  | some i => cases i <;> simp [Interruption.reason]

/-- **What comes first interrupts a scan**, and decides when it ends. -/
theorem scanOf_first (h : a.Apart deadline cancel) (hdetect : a.detect = (a₁, .ok found)) :
    ∃ x, First a.delays deadline cancel
        (a.scanOf found (a.watchFor deadline cancel)).interruption x ∧
      (a.responded a₁.violations found (a.watchFor deadline cancel)).waited = a.waited + x ∧
      ((a.scanOf found (a.watchFor deadline cancel)).interruption = none →
        a.Unbroken found (a.watchFor deadline cancel)) := by
  have hdelays (unbroken : a.Unbroken found (a.watchFor deadline cancel))
      (hdeadline : Precedes a.delays deadline) (hcancel : Precedes a.delays cancel) :
      ∃ x, First a.delays deadline cancel
          (a.scanOf found (a.watchFor deadline cancel)).interruption x ∧
        (a.responded a₁.violations found (a.watchFor deadline cancel)).waited = a.waited + x ∧
        ((a.scanOf found (a.watchFor deadline cancel)).interruption = none →
          a.Unbroken found (a.watchFor deadline cancel)) := by
    refine ⟨a.delays, ?_, unbroken.waited h.finite hdetect, fun _ => unbroken⟩
    rw [unbroken.interruption h.finite]
    exact .delays hdeadline hcancel
  have htimed : (a.watchFor deadline cancel).IsTimed := isTimed_watchFor h.ne
  rcases next?_watchFor h.ne with ⟨rfl, rfl⟩ | ⟨t, ht, hc, hn⟩ | ⟨c, hc, ht, hn⟩
  · exact hdelays rfl (by simp [Precedes]) (by simp [Precedes])
  · rcases scanOf_race h.finite hdetect htimed hn (h.deadline_pos t ht) (h.deadline_ne t ht) with
      ⟨hlt, unbroken⟩ | ⟨hlt, ⟨i, hi, hreason⟩, hw⟩
    · refine hdelays unbroken (fun z hz => ?_) fun z hz => lt_trans hlt (hc z hz)
      rwa [Option.mem_unique hz ht]
    · obtain rfl : i = .deadline := by
        cases i <;> first | rfl | cases hreason
      refine ⟨t, hi ▸ .deadline ht hlt hc, hw, fun hnone => ?_⟩
      cases hi.symm.trans hnone
  · rcases scanOf_race h.finite hdetect htimed hn (h.cancel_pos c hc) (h.cancel_ne c hc) with
      ⟨hlt, unbroken⟩ | ⟨hlt, ⟨i, hi, hreason⟩, hw⟩
    · refine hdelays unbroken (fun z hz => lt_trans hlt (ht z hz)) fun z hz => ?_
      rwa [Option.mem_unique hz hc]
    · refine ⟨c, hi ▸ .cancel hreason hc hlt ht, hw, fun hnone => ?_⟩
      cases hi.symm.trans hnone

/-- A scan that is asked for alone, with the cancellation that it may hear. -/
theorem scanAll_alone {requested : Option TimeLimit} (hpos : ∀ c ∈ cancel, 0 < c)
    (hl : requested.getD a.defaultLimit = .within deadline) :
    a.scanAll [requested] cancel.toList =
      let b := (a.detectAndRespond (a.watchFor deadline cancel)).1
      let r := (a.detectAndRespond (a.watchFor deadline cancel)).2.mapError ScanFault.rule
      (b, [r.map fun s => ⟨s, millisBetween a.waited b.waited⟩],
        cancel.toList.filter (a.waited + · ≤ b.waited)) := by
  have hcancel : soonest? ((cancel.toList.map (a.waited + ·)).filter (a.waited < ·)) =
      cancel.map (a.waited + ·) := by
    cases cancel with
    | none => rfl
    | some c => simp [soonest?, hpos c rfl]
  have htoken : cancel.toList.any (· ≤ (0 : Rat)) = false := by
    cases cancel with
    | none => rfl
    | some c => simpa using hpos c rfl
  unfold scanAll
  simp only [scanFrom, hl, hcancel, htoken, Bool.false_eq_true, if_false]
  cases deadline <;> rfl

end

/-- **What comes first decides how a scan ends**: the end of its delays, its deadline or its
cancellation. -/
theorem scan_decided {a : Agent} {deadline cancel : Option Rat} (h : a.Apart deadline cancel)
    {requested : Option TimeLimit} (hl : requested.getD a.defaultLimit = .within deadline) :
    a.Decided deadline cancel (a.scanAll [requested] cancel.toList) := by
  rw [scanAll_alone h.cancel_pos hl]
  generalize hdetect : a.detect = result
  obtain ⟨a₁, r⟩ := result
  cases r with
  | error f =>
    have hfault : ∀ w, a.detectAndRespond w = (a₁, .error f) := by
      intro w
      simp only [detectAndRespond, hdetect]
    have hwaited : a₁.waited = a.waited := congrArg (·.1.waited) hdetect.symm
    have hheard : cancel.toList.filter (a.waited + · ≤ a₁.waited) = [] := by
      refine List.filter_eq_nil_iff.2 fun c hc => ?_
      have hpos := h.cancel_pos c (Option.mem_toList.1 hc)
      simpa [hwaited] using hpos
    rw [hfault]
    simp only [hheard]
    refine .fault ?_ hwaited
    rw [scan_unlimited_eq, hfault]
    rfl
  | ok found =>
    obtain ⟨x, first, hwaited, hunbroken⟩ := scanOf_first h hdetect
    rw [detectAndRespond_eq _ hdetect]
    refine .ended (scan_completes h.finite hdetect) ?_ ?_ ?_ (fun hin hup => ?_) (fun c => ?_) ?_
    · rw [delays, fullTurns_eq hdetect]
    · rw [← first.deadline_iff]
      simp [Scan.isTimedOut]
    · rw [← first.cancelled_iff, isCancelled_iff]
    · have hcancelled : (a.scanOf found (a.watchFor deadline cancel)).interruption.map (·.reason) ≠
          some .cancelled := fun hreason => by simp [isCancelled_iff.2 hreason] at hup
      simp only [Scan.isTimedOut, decide_eq_false_iff_not] at hin
      have hall := (hunbroken (first.eq_none hin hcancelled)).respondAll h.finite
      simp only [responded, scanOf, hall, and_self]
    · rw [List.mem_filter, Option.mem_toList, decide_eq_true_eq]
      simp only [hwaited, add_le_add_iff_left]
      exact and_congr_right first.le_iff
    · rw [← first.eq_earliest]
      exact hwaited

/-- The playbook waits for five minutes, and the deadline comes after one. -/
theorem scan_decided_alarmed :
    alarmed.Apart (some 60) (some 120) ∧ alarmed.delays = 300 ∧
      alarmed.Decided (some 60) (some 120) (alarmed.scanAll [some (.seconds 60)] [120]) := by
  have hdelays : alarmed.delays = 300 := by decide +kernel
  have apart : alarmed.Apart (some 60) (some 120) := by
    refine ⟨Desk.quiet_delaysFinite, ?_, ?_, ?_, ?_, ?_⟩ <;> simp [hdelays]
  exact ⟨apart, hdelays, scan_decided apart rfl⟩

end Agent
end Compliance
