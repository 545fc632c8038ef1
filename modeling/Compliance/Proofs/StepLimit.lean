import Compliance.Proofs.Watched

/-!
# The limit of steps

The limit of steps shows in nothing but where a run stops. Under a lower limit a run makes the first
visits of the run under a higher one (`visits_take`). If these are all, both runs are the same;
otherwise the run ends as the next visit would have found it, and fails for the limit
(`walk_curtailed`). Main statement: `runAll_limited`.
-/
namespace Compliance
namespace Run

section
variable {t t' : Terms} {p : Playbook} {v : Violation}

/-- A step does not depend on the limit. -/
theorem take_congr (hb : t.backends = t'.backends) (hw : t.watch = t'.watch) (playbookId : Value)
    (s : Step) (r : Run) : r.take t playbookId v s = r.take t' playbookId v s := by
  obtain ⟨backends, limit, watch⟩ := t
  obtain ⟨backends', limit', watch'⟩ := t'
  subst hb hw
  rfl

theorem length_visits_le (left : Nat) (s : Option Step) (r : Run) :
    (visits t p v left s r).length ≤ left := by
  induction left generalizing s r with
  | zero => cases s <;> simp [visits]
  | succ left ih =>
    cases s with
    | none => simp [visits]
    | some s =>
      unfold visits
      split
      · simp
      · split
        · next success _ => simpa using ih (next? p s success) _
        · simp

variable (hb : t.backends = t'.backends) (hw : t.watch = t'.watch)
include hb hw

/-- A walk of fewer steps makes the first visits of one of more. -/
theorem visits_take {left more : Nat} (hle : left ≤ more) (s : Option Step) (r : Run) :
    visits t p v left s r = (visits t' p v more s r).take left := by
  induction left generalizing more s r with
  | zero => cases s <;> simp [visits]
  | succ left ih =>
    obtain ⟨more, rfl⟩ : ∃ k, more = k + 1 := ⟨more - 1, by omega⟩
    have hle : left ≤ more := by omega
    cases s with
    | none => simp [visits]
    | some s =>
      have htake := take_congr (v := v) hb hw p.id s r
      unfold visits
      rw [hw, htake]
      split
      · simp
      · generalize r.take t' p.id v s = result
        obtain ⟨r', e⟩ := result
        cases e with
        | done success => simp only [List.take_succ_cons, ih hle]
        | failed error => simp
        | interrupted cause => simp

/-- **A walk of fewer steps** is the walk of more steps, if that makes no more visits. Otherwise it
ends as the next visit would have found it, and fails for the limit. -/
theorem walk_curtailed (hc : t.watch = .none) {left more : Nat} (hlt : left < more)
    (s : Option Step) (r : Run) :
    ((visits t' p v more s r).length ≤ left ∧ walk t p v left s r = walk t' p v more s r) ∨
      ∃ x, (visits t' p v more s r)[left]? = some x ∧
        walk t p v left s r = (x.before, .failed (.stepLimit t.limit)) := by
  have hc' : t'.watch = .none := hw ▸ hc
  induction left generalizing more s r with
  | zero =>
    obtain ⟨more, rfl⟩ : ∃ k, more = k + 1 := ⟨more - 1, by omega⟩
    cases s with
    | none => exact .inl ⟨by simp [visits], rfl⟩
    | some s =>
      right
      simp only [visits, hc', Watch.isCancelled_none, Bool.false_eq_true, if_false]
      generalize r.take t' p.id v s = result
      obtain ⟨r', e⟩ := result
      cases e <;> exact ⟨_, rfl, rfl⟩
  | succ left ih =>
    obtain ⟨more, rfl⟩ : ∃ k, more = k + 1 := ⟨more - 1, by omega⟩
    cases s with
    | none => exact .inl ⟨by simp [visits], rfl⟩
    | some s =>
      have htake := take_congr (v := v) hb hw p.id s r
      simp only [visits, walk, hc, hc', htake, Watch.isCancelled_none, Bool.false_eq_true,
        if_false]
      generalize r.take t' p.id v s = result
      obtain ⟨r', e⟩ := result
      cases e with
      | failed error => exact .inl ⟨by simp, rfl⟩
      | interrupted cause => exact .inl ⟨by simp, rfl⟩
      | done success =>
        -- the first visit is the same, and the rest of the walk decides
        rcases ih (by omega : left < more) (next? p s success) r' with ⟨hle, h⟩ | ⟨x, hx, h⟩
        · exact .inl ⟨by simpa using hle, h⟩
        · exact .inr ⟨x, by simpa using hx, h⟩

end
end Run

/-! ## A run on record -/

namespace Desk

/-- The desk after a run of a playbook under a limit, and what the run gives back. -/
def ranUnder (b : Backends) (p : Playbook) (v : Violation) (d : Desk) (limit : Nat) :
    Desk × Responses := d.runAll ⟨b, limit, .none⟩ v [p]

/-- The visits of that run. -/
def visitsUnder (b : Backends) (p : Playbook) (v : Violation) (d : Desk) (limit : Nat) :
    List Visit := Run.startVisits ⟨b, limit, .none⟩ p v d.world

/-- How a run under a limit of `m` steps compares with the run under a limit of `n`. -/
structure Limited (b : Backends) (p : Playbook) (v : Violation) (d : Desk) (m n : Nat) : Prop where
  /-- The run makes its visits, at most as many as the limit, and comes to an end of its own. -/
  ends : ∃ run ending,
    Run.Walk ⟨b, m, .none⟩ p v p.first? ⟨d.world, none⟩ (d.visitsUnder b p v m) run ending ∧
      (d.visitsUnder b p v m).length ≤ m ∧ (∀ cause, ending ≠ .interrupted cause) ∧
      (d.ranUnder b p v m).1 = d.conclude p run ending
  /-- Its visits are the first ones of the other run. -/
  first : d.visitsUnder b p v m = (d.visitsUnder b p v n).take m
  same : (d.visitsUnder b p v n).length ≤ m → d.ranUnder b p v m = d.ranUnder b p v n
  /-- It has done what the other run has done when it comes to its next visit, and is put on record
  as a failure for the limit. -/
  curtailed : m < (d.visitsUnder b p v n).length →
    ∃ x error, (d.visitsUnder b p v n)[m]? = some x ∧
      error.message = "Step limit of " ++ toString m ++ " exceeded" ∧
      d.ranUnder b p v m = (d.conclude p x.before (.failed error), ⟨[], none⟩) ∧
      (d.ranUnder b p v m).1.world = x.before.world ∧
      (d.ranUnder b p v m).1.ledger =
        d.ledger ++ [⟨p.id, x.before.world.now, .failure error, x.before.bound⟩]

/-- What one run comes to at the desk follows from the run. -/
theorem runAll_singleton_congr {t t' : Terms} {p : Playbook} {v : Violation} {d : Desk}
    (h : Run.start t p v d.world = Run.start t' p v d.world) :
    d.runAll t v [p] = d.runAll t' v [p] := by
  unfold runAll
  rw [h]
  rfl

theorem runAll_singleton_desk (t : Terms) (p : Playbook) (v : Violation) (d : Desk) :
    (d.runAll t v [p]).1 =
      d.conclude p (Run.start t p v d.world).1 (Run.start t p v d.world).2 := by
  unfold runAll
  generalize Run.start t p v d.world = result
  obtain ⟨run, ending⟩ := result
  cases ending <;> rfl

theorem runAll_singleton_failed {t : Terms} {p : Playbook} {v : Violation} {d : Desk} {run : Run}
    {error : RunError} (h : Run.start t p v d.world = (run, .failed error)) :
    d.runAll t v [p] = (d.conclude p run (.failed error), ⟨[], none⟩) := by
  unfold runAll
  rw [h]
  rfl

/-- **The limit of steps is exact, and shows in nothing else.** Whatever the steps of the playbook,
as long as its delays are finite, the violation, the desk before and the answers to what is sent
out. -/
theorem runAll_limited (b : Backends) {p : Playbook} (v : Violation) (d : Desk) {m n : Nat}
    (hp : p.DelaysFinite) (hlt : m < n) : d.Limited b p v m n := by
  let lower : Terms := ⟨b, m, .none⟩
  let upper : Terms := ⟨b, n, .none⟩
  have hbackends : lower.backends = upper.backends := rfl
  have hwatch : lower.watch = upper.watch := rfl
  have hfirst : d.visitsUnder b p v m = (d.visitsUnder b p v n).take m :=
    Run.visits_take hbackends hwatch (Nat.le_of_lt hlt) p.first? ⟨d.world, none⟩
  have hcases := Run.walk_curtailed (p := p) (v := v) hbackends hwatch rfl hlt p.first?
    ⟨d.world, none⟩
  refine ⟨⟨_, _, Run.start_walk lower p v d.world, ?_, ?_, ?_⟩, hfirst, ?_, ?_⟩
  · exact Run.length_visits_le m p.first? _
  · exact Run.walk_unwatched lower v hp m p.first? (fun _ => Run.mem_of_first?) _
  · exact runAll_singleton_desk lower p v d
  · intro hle
    rcases hcases with ⟨-, h⟩ | ⟨x, hx, -⟩
    · exact runAll_singleton_congr h
    · have hm : m < (d.visitsUnder b p v n).length := (List.getElem?_eq_some_iff.1 hx).1
      omega
  · intro hm
    rcases hcases with ⟨hle, -⟩ | ⟨x, hx, h⟩
    · have hle : (d.visitsUnder b p v n).length ≤ m := hle
      omega
    · have hran : d.ranUnder b p v m =
          (d.conclude p x.before (.failed (.stepLimit m)), ⟨[], none⟩) :=
        runAll_singleton_failed h
      exact ⟨x, .stepLimit m, hx, rfl, hran, by rw [hran]; rfl, by rw [hran]; rfl⟩

end Desk

/-! ## A playbook without end -/

namespace Playbook

/-- Opens an incident, and escalates it for as long as it may. -/
def restless : Playbook :=
  forSeverities "restless" "Restless" "Escalate without end" []
    [actionStep "open" "Open" .createIncident (some "escalate"),
      actionStep "escalate" "Escalate" .escalate (some "escalate")]

end Playbook

/-- A desk where nothing has happened, and no playbook is registered. -/
def Desk.vacant : Desk := ⟨.fresh ⟨⟨0⟩, 0, 0⟩ "agent", .empty, []⟩

theorem Desk.runAll_limited_restless :
    Playbook.restless.DelaysFinite ∧ 2 < 9 ∧
      2 < (Desk.vacant.visitsUnder .recording .restless .leak 9).length ∧
      Desk.vacant.Limited .recording .restless .leak 2 9 := by
  have hfinite : Playbook.restless.DelaysFinite := by
    have hnone : ∀ s ∈ Playbook.restless.steps, s.config.delay = none := by
      simp [Playbook.restless, Playbook.forSeverities, Playbook.actionStep, StepConfig.blank]
    intro s hs d hd
    rw [hnone s hs] at hd
    cases hd
  exact ⟨hfinite, by decide, by decide +kernel,
    runAll_limited .recording .leak .vacant hfinite (by decide)⟩

end Compliance
