import Compliance.Agent.Scan
import Compliance.Proofs.Visits

/-!
# Turns

A response gives playbooks their turns one after the other, each in the world that the turn before
left behind. `turns` lists them, up to one that is interrupted. What a response does to the desk and
what it gives back can be read off the list: `respond_eq` for one violation, `respondAll_eq` for
several.
-/
namespace Compliance

/-- A playbook as it was defined, whenever it was last run. -/
def Playbook.definition (p : Playbook) : Playbook := { p with lastRun := none }

/-- A run in a response. -/
structure Turn where
  violation : Violation
  playbook : Playbook
  /-- The world in which the run started. -/
  before : World
  run : Run
  ending : Ending

namespace Turn

/-- The turn of a playbook. -/
def of (t : Terms) (v : Violation) (p : Playbook) (w : World) : Turn :=
  ⟨v, p, w, (Run.start t p v w).1, (Run.start t p v w).2⟩

/-- The record of the run. -/
def entry (x : Turn) : Execution :=
  ⟨x.playbook.id, x.run.world.now, x.ending.outcome, x.run.bound⟩

/-- The incident that the run gives back. -/
def yields (x : Turn) : List String :=
  match x.ending with
  | .finished => x.run.bound.toList
  | _ => []

def interruption? (x : Turn) : Option Interruption :=
  match x.ending with
  | .interrupted cause => some cause
  | _ => none

/-- The world that turns leave behind. -/
def worldAfter (xs : List Turn) (w : World) : World := xs.foldl (fun _ x => x.run.world) w

/-- What broke off a list of turns. -/
def interruption (xs : List Turn) : Option Interruption := xs.findSome? interruption?

/-- What turns come to. -/
def responses (xs : List Turn) : Responses := ⟨xs.flatMap yields, interruption xs⟩

theorem interruption_cons_of_none {x : Turn} {xs : List Turn} (h : x.interruption? = none) :
    interruption (x :: xs) = interruption xs := by
  simp [interruption, h]

theorem interruption_of_append {xs ys : List Turn} (h : interruption (xs ++ ys) = none) :
    interruption xs = none := by
  unfold interruption at h ⊢
  rw [List.findSome?_append, Option.or_eq_none_iff] at h
  exact h.1

theorem interruption_append_of_none {xs : List Turn} (ys : List Turn)
    (h : interruption xs = none) : interruption (xs ++ ys) = interruption ys := by
  unfold interruption at h ⊢
  rw [List.findSome?_append, h, Option.none_or]

/-- Turns are broken off by what interrupts the last of them. -/
theorem interruption_concat {xs : List Turn} {y : Turn} {cause : Interruption}
    (h : interruption xs = none) (hy : y.ending = .interrupted cause) :
    interruption (xs ++ [y]) = some cause := by
  rw [interruption_append_of_none [y] h]
  simp [interruption, interruption?, hy]

end Turn

/-- The turns that playbooks get for violations. -/
def turns (t : Terms) : List (Violation × Playbook) → World → List Turn
  | [], _ => []
  | (v, p) :: rest, w =>
    match (Turn.of t v p w).interruption? with
    | some _ => [Turn.of t v p w]
    | none => Turn.of t v p w :: turns t rest (Turn.of t v p w).run.world

open Turn

section
variable (t : Terms)

theorem turns_cons_of_some {v : Violation} {p : Playbook} {w : World} {cause : Interruption}
    (rest : List (Violation × Playbook)) (h : (Turn.of t v p w).interruption? = some cause) :
    turns t ((v, p) :: rest) w = [Turn.of t v p w] := by
  simp [turns, h]

theorem turns_cons_of_none {v : Violation} {p : Playbook} {w : World}
    (rest : List (Violation × Playbook)) (h : (Turn.of t v p w).interruption? = none) :
    turns t ((v, p) :: rest) w =
      Turn.of t v p w :: turns t rest (Turn.of t v p w).run.world := by
  simp [turns, h]

theorem turns_singleton (v : Violation) (p : Playbook) (w : World) :
    turns t [(v, p)] w = [Turn.of t v p w] := by
  unfold turns
  split <;> rfl

variable {as ss : List (Violation × Playbook)} {w : World}

/-- Nothing comes after turns that were broken off. -/
theorem turns_append_of_some {cause : Interruption} (bs : List (Violation × Playbook))
    (h : interruption (turns t as w) = some cause) : turns t (as ++ bs) w = turns t as w := by
  fun_induction turns t as w with
  | case1 w => cases h
  | case2 v p rest w cause hx => exact turns_cons_of_some t (rest ++ bs) hx
  | case3 v p rest w hx ih =>
    rw [interruption_cons_of_none hx] at h
    rw [List.cons_append, turns_cons_of_none t _ hx, ih h]

/-- Turns go on where earlier ones left off. -/
theorem turns_append_of_none (bs : List (Violation × Playbook))
    (h : interruption (turns t as w) = none) :
    turns t (as ++ bs) w = turns t as w ++ turns t bs (worldAfter (turns t as w) w) := by
  fun_induction turns t as w with
  | case1 w => rfl
  | case2 v p rest w cause hx => simp [interruption, hx] at h
  | case3 v p rest w hx ih =>
    rw [interruption_cons_of_none hx] at h
    rw [List.cons_append, turns_cons_of_none t _ hx, ih h]
    rfl

/-- A turn is the run of its playbook in the world that it found. -/
theorem eq_of_mem_turns {x : Turn} (h : x ∈ turns t ss w) :
    x = Turn.of t x.violation x.playbook x.before := by
  fun_induction turns t ss w with
  | case1 w => cases h
  | case2 v p rest w cause hx =>
    rw [List.mem_singleton.1 h]
    rfl
  | case3 v p rest w hx ih =>
    rcases List.mem_cons.1 h with rfl | h
    · rfl
    · exact ih h

theorem mem_of_mem_turns {x : Turn} (h : x ∈ turns t ss w) : (x.violation, x.playbook) ∈ ss := by
  fun_induction turns t ss w with
  | case1 w => cases h
  | case2 v p rest w cause hx =>
    rw [List.mem_singleton.1 h]
    exact List.mem_cons_self
  | case3 v p rest w hx ih =>
    rcases List.mem_cons.1 h with rfl | h
    · exact List.mem_cons_self
    · exact List.mem_cons_of_mem (v, p) (ih h)

theorem length_turns_le (ss : List (Violation × Playbook)) (w : World) :
    (turns t ss w).length ≤ ss.length := by
  fun_induction turns t ss w with
  | case1 w => simp
  | case2 v p rest w cause hx => simp
  | case3 v p rest w hx ih => simpa using ih

/-- Every playbook gets its turn if none is interrupted. -/
theorem map_turns_of_none (h : interruption (turns t ss w) = none) :
    (turns t ss w).map (fun x => (x.violation, x.playbook)) = ss := by
  fun_induction turns t ss w with
  | case1 w => rfl
  | case2 v p rest w cause hx => simp [interruption, hx] at h
  | case3 v p rest w hx ih =>
    rw [interruption_cons_of_none hx] at h
    rw [List.map_cons, ih h]
    rfl

end

/-! ## The desk after turns -/

/-- A run does not depend on when its playbook was last run. -/
theorem Run.walk_definition (t : Terms) (p : Playbook) (v : Violation) (left : Nat)
    (s : Option Step) (r : Run) : walk t p.definition v left s r = walk t p v left s r := by
  induction left generalizing s r with
  | zero => cases s <;> rfl
  | succ left ih =>
    cases s with
    | none => rfl
    | some s =>
      have hid : p.definition.id = p.id := rfl
      have hnext : ∀ success, next? p.definition s success = next? p s success := fun _ => rfl
      simp only [walk, hid, hnext, ih]

theorem Run.start_definition (t : Terms) (p : Playbook) (v : Violation) (w : World) :
    start t p.definition v w = start t p v w :=
  walk_definition t p v t.limit p.first? ⟨w, none⟩

namespace Desk

/-- The desk once turns have been put on record. -/
def after (xs : List Turn) (d : Desk) : Desk :=
  xs.foldl (fun d x => d.conclude x.playbook x.run x.ending) d

theorem after_world (xs : List Turn) (d : Desk) : (d.after xs).world = worldAfter xs d.world := by
  induction xs generalizing d with
  | nil => rfl
  | cons x xs ih => exact ih (d.conclude x.playbook x.run x.ending)

theorem after_ledger (xs : List Turn) (d : Desk) :
    (d.after xs).ledger = d.ledger ++ xs.map entry := by
  induction xs generalizing d with
  | nil => simp [after]
  | cons x xs ih =>
    refine (ih (d.conclude x.playbook x.run x.ending)).trans ?_
    rw [List.map_cons, List.append_cons]
    rfl

theorem after_append (xs ys : List Turn) (d : Desk) :
    d.after (xs ++ ys) = (d.after xs).after ys := List.foldl_append

theorem mem_playbooksFor {d : Desk} {v : Violation} {q : Playbook} :
    q ∈ d.playbooksFor v ↔
      q ∈ d.registry.playbooks ∧ (q.enabled && q.trigger.accepts v) = true := by
  rw [playbooksFor, Registry.enabled, List.mem_filter, List.mem_filter, Bool.and_eq_true, and_assoc]

/-- The playbooks that respond to a violation, with the violation. -/
def schedule (d : Desk) (v : Violation) : List (Violation × Playbook) :=
  (d.playbooksFor v).map fun p => (v, p.definition)

theorem violation_of_mem_schedule {d : Desk} {v : Violation} {s : Violation × Playbook}
    (h : s ∈ d.schedule v) : s.1 = v := by
  obtain ⟨p, -, rfl⟩ := List.mem_map.1 h
  rfl

theorem schedule_conclude (p : Playbook) (run : Run) (ending : Ending) (d : Desk)
    (v : Violation) : (d.conclude p run ending).schedule v = d.schedule v := by
  simp only [schedule, playbooksFor, Registry.enabled, conclude, Registry.ran, Registry.modify,
    List.filter_map, List.map_map]
  have hf : ∀ q : Playbook, ∀ now : Calendar.Instant,
      (if q.hasId p.id then { q with lastRun := some now } else q).enabled = q.enabled ∧
        (if q.hasId p.id then { q with lastRun := some now } else q).trigger = q.trigger ∧
        (if q.hasId p.id then { q with lastRun := some now } else q).definition =
          q.definition := by
    intro q now
    split <;> exact ⟨rfl, rfl, rfl⟩
  simp only [Function.comp_def, hf]

/-- Runs do not change who responds to what. -/
theorem schedule_after (xs : List Turn) (d : Desk) : (d.after xs).schedule = d.schedule := by
  induction xs generalizing d with
  | nil => rfl
  | cons x xs ih =>
    refine (ih (d.conclude x.playbook x.run x.ending)).trans (funext fun v => ?_)
    exact schedule_conclude ..

variable (t : Terms)

theorem runAll_eq (v : Violation) (ps : List Playbook) (d : Desk) :
    d.runAll t v ps =
      (d.after (turns t (ps.map fun p => (v, p.definition)) d.world),
        responses (turns t (ps.map fun p => (v, p.definition)) d.world)) := by
  induction ps generalizing d with
  | nil => rfl
  | cons p ps ih =>
    have hrun := Run.start_definition t p v d.world
    generalize hr : Run.start t p v d.world = result at hrun
    obtain ⟨run, ending⟩ := result
    have hof : Turn.of t v p.definition d.world = ⟨v, p.definition, d.world, run, ending⟩ := by
      simp only [Turn.of, hrun]
    have hd : d.conclude p.definition run ending = d.conclude p run ending := rfl
    have hw : (d.conclude p run ending).world = run.world := rfl
    rw [List.map_cons]
    cases ending with
    | interrupted cause =>
      rw [turns_cons_of_some t _ (by rw [hof]; rfl), hof]
      simp only [runAll, hr]
      rfl
    | failed error =>
      rw [turns_cons_of_none t _ (by rw [hof]; rfl), hof]
      simp only [runAll, hr, ih, hw]
      rfl
    | finished =>
      rw [turns_cons_of_none t _ (by rw [hof]; rfl), hof]
      simp only [runAll, hr, ih, hw]
      rfl

/-- **A response to one violation, turn by turn.** -/
theorem respond_eq (v : Violation) (d : Desk) :
    d.respond t v =
      (d.after (turns t (d.schedule v) d.world), responses (turns t (d.schedule v) d.world)) :=
  runAll_eq t v (d.playbooksFor v) d

/-- **A response to several violations, turn by turn.** -/
theorem respondAll_eq (vs : List Violation) (d : Desk) :
    (d.respondAll t vs).1 = d.after (turns t (vs.flatMap d.schedule) d.world) ∧
      (d.respondAll t vs).2.responses = responses (turns t (vs.flatMap d.schedule) d.world) := by
  induction vs generalizing d with
  | nil => exact ⟨rfl, rfl⟩
  | cons v vs ih =>
    have hrest := ih (d.after (turns t (d.schedule v) d.world))
    simp only [after_world, schedule_after] at hrest
    rw [List.flatMap_cons]
    simp only [respondAll, respond_eq]
    generalize hxs : turns t (d.schedule v) d.world = xs at hrest
    cases hc : interruption xs with
    | some cause =>
      rw [turns_append_of_some t _ (hxs ▸ hc), hxs]
      simp [responses, hc]
    | none =>
      rw [turns_append_of_none t _ (hxs ▸ hc), hxs, after_append]
      simp only [responses, hc, interruption_append_of_none _ hc, List.flatMap_append]
      rw [hrest.2]
      exact ⟨hrest.1, rfl⟩

/-- Every violation is responded to if no turn is interrupted. -/
theorem respondAll_violations_of_none {vs : List Violation} {d : Desk}
    (h : interruption (turns t (vs.flatMap d.schedule) d.world) = none) :
    (d.respondAll t vs).2.violations = vs := by
  induction vs generalizing d with
  | nil => rfl
  | cons v vs ih =>
    rw [List.flatMap_cons] at h
    simp only [respondAll, respond_eq]
    generalize hxs : turns t (d.schedule v) d.world = xs
    cases hc : interruption xs with
    | some cause =>
      rw [turns_append_of_some t _ (hxs ▸ hc), hxs, hc] at h
      cases h
    | none =>
      rw [turns_append_of_none t _ (hxs ▸ hc), hxs, interruption_append_of_none _ hc] at h
      simp only [responses, hc]
      rw [ih (by rwa [schedule_after, after_world])]

/-- A response that is broken off has come to the violation whose turns are interrupted. -/
theorem respondAll_violations_of_some {vs : List Violation} {d : Desk} {cause : Interruption}
    (h : interruption (turns t (vs.flatMap d.schedule) d.world) = some cause) :
    ∃ earlier v later w,
      vs = earlier ++ v :: later ∧ (d.respondAll t vs).2.violations = earlier ++ [v] ∧
        interruption (turns t (earlier.flatMap d.schedule) d.world) = none ∧
        interruption (turns t (d.schedule v) w) = some cause ∧
        turns t (vs.flatMap d.schedule) d.world =
          turns t (earlier.flatMap d.schedule) d.world ++ turns t (d.schedule v) w := by
  induction vs generalizing d with
  | nil => cases h
  | cons v vs ih =>
    rw [List.flatMap_cons] at h ⊢
    simp only [respondAll, respond_eq]
    generalize hxs : turns t (d.schedule v) d.world = xs
    cases hc : interruption xs with
    | some c =>
      rw [turns_append_of_some t _ (hxs ▸ hc), hxs] at h ⊢
      refine ⟨[], v, vs, d.world, rfl, ?_, rfl, hxs ▸ h, hxs.symm⟩
      simp [responses, hc]
    | none =>
      have hd := turns_append_of_none t (vs.flatMap d.schedule) (hxs ▸ hc)
      rw [hxs] at hd
      rw [hd, interruption_append_of_none _ hc] at h
      have hrest := ih (d := d.after xs) (by rwa [schedule_after, after_world])
      rw [schedule_after, after_world] at hrest
      obtain ⟨earlier, u, later, w, hvs, hviolations, hnone, hsome, hturns⟩ := hrest
      have hearlier := turns_append_of_none t (earlier.flatMap d.schedule) (hxs ▸ hc)
      rw [hxs] at hearlier
      refine ⟨v :: earlier, u, later, w, by rw [hvs]; rfl, ?_, ?_, hsome, ?_⟩
      · simp only [responses, hc]
        rw [hviolations]
        rfl
      · rw [List.flatMap_cons, hearlier, interruption_append_of_none _ hc, hnone]
      · rw [List.flatMap_cons, hearlier, hd, hturns, List.append_assoc]

end Desk
end Compliance
