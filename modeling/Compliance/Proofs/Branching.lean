import Compliance.Proofs.Footprint
import Compliance.Proofs.Traversal
import Compliance.Proofs.Links
import Compliance.Proofs.Timeline

/-!
# Tests see the history of their run

A test within a run asks for the severity of the violation or for whether the incident has been
taken on. The answer can be read off the steps that the run has taken (`Acknowledged`): an incident
was opened, and the last assignment since then was to somebody. `Recalls` ties the incident that is
bound to these steps, through every further step. All other tests fail, and after a test the run
goes on where the step says. Main statement: `condition_branches`.
-/
namespace Compliance

/-! ## Equality without crossing types -/

namespace Value

theorem identical_text {s : String} {v : Value} :
    (Value.text s).identical v = true ↔ v = .text s := by
  constructor
  · intro h
    rw [identical, Bool.and_eq_true] at h
    exact eq_text_of_text_same h.2
  · rintro rfl
    simp [identical, same_text]

theorem identical_bool {b : Bool} {v : Value} :
    (Value.bool b).identical v = true ↔ v = .bool b := by
  constructor
  · intro h
    rw [identical, Bool.and_eq_true] at h
    cases v with
    | scalar a => cases a <;> cases b <;> simp_all [typeName, same, Scalar.same, Scalar.number?,
        Number.Exact.same]
    | _ => simp [same] at h
  · rintro rfl
    cases b <;> decide

end Value

/-! ## What steps have come to -/

namespace Step

/-- Whether a step is to open an incident. -/
def opens (s : Step) : Bool := s.actionKind? = some .createIncident

/-- The steps after the last one that is to open an incident. -/
def sinceOpening (steps : List Step) : List Step := (steps.reverse.takeWhile (!·.opens)).reverse

/-- The last one to whom steps assign an incident since they opened it. -/
def lastAssignee? (steps : List Step) : Option Value :=
  ((sinceOpening steps).filterMap (·.assignee?)).getLast?

/-- Steps have opened an incident, and have assigned it since then, at last to somebody. -/
def Acknowledged (steps : List Step) : Prop :=
  (∃ s ∈ steps, s.opens = true) ∧ ∃ a, lastAssignee? steps = some a ∧ a.truthy = true

variable {steps : List Step} {s : Step}

theorem sinceOpening_concat :
    sinceOpening (steps ++ [s]) = if s.opens then [] else sinceOpening steps ++ [s] := by
  unfold sinceOpening
  rw [reverse_takeWhile_concat]
  cases s.opens <;> rfl

theorem lastAssignee?_opens (h : s.opens = true) : lastAssignee? (steps ++ [s]) = none := by
  rw [lastAssignee?, sinceOpening_concat, if_pos h]
  rfl

theorem lastAssignee?_concat (h : s.opens = false) :
    lastAssignee? (steps ++ [s]) = s.assignee?.or (lastAssignee? steps) := by
  rw [lastAssignee?, sinceOpening_concat, h, if_neg Bool.false_ne_true, getLast?_filterMap_concat]
  rfl

end Step

/-! ## The incident that is bound -/

namespace Run

open Step

/-- What a step does that is done: an action, or nothing to the incidents. -/
theorem take_done {t : Terms} {playbookId : Value} {v : Violation} {s : Step} {r r' : Run}
    {success : Bool} (h : r.take t playbookId v s = (r', .done success)) :
    (∃ kind a, s.actionKind? = some kind ∧ s.config.action = some a ∧
      Acted playbookId v a.params r kind r' (.done success)) ∨
    (s.actionKind? = none ∧ r'.world.incidents = r.world.incidents ∧ r'.bound = r.bound) := by
  cases hm : s.type.member? with
  | none =>
    rw [take_of_unknown hm] at h
    cases h
    exact .inr ⟨by simp only [actionKind?, hm], rfl, rfl⟩
  | some type =>
    rw [take_of_known hm] at h
    have h := Step.eq_of_verdict_done h
    have hkind : s.actionKind? =
        if type = .action then s.config.action.bind (·.kind.member?) else none := by
      cases type <;> simp [actionKind?, hm]
    by_cases hact : type = .action
    · subst hact
      rw [if_pos rfl] at hkind
      simp only [perform] at h
      split at h
      · next a ha =>
        rw [ha, Option.bind_some] at hkind
        split at h
        · next kind hmember =>
          have acted := act_acted playbookId v kind a.params r
          rw [h] at acted
          exact .inl ⟨kind, a, hkind.trans hmember, ha, acted⟩
        · next hmember =>
          cases h
          exact .inr ⟨hkind.trans hmember, rfl, rfl⟩
      · next ha =>
        cases h
        exact .inr ⟨by rw [hkind, ha]; rfl, rfl, rfl⟩
    · have kept := perform_of_ne_action t playbookId v s.config r hact
      rw [h] at kept
      exact .inr ⟨by rw [hkind, if_neg hact], kept⟩

/-- What is bound to a run, as the steps have it that the run has taken. -/
structure Recalls (steps : List Step) (r : Run) : Prop where
  unbound : (∀ s ∈ steps, s.opens = false) → r.bound = none
  bound : (∃ s ∈ steps, s.opens = true) → ∃ i ∈ r.world.incidents.incidents,
    r.bound = some i.id ∧ i.assignee = (lastAssignee? steps).getD .null

theorem recalls_nil (w : World) : Recalls [] ⟨w, none⟩ := ⟨fun _ => rfl, by simp⟩

section
variable {t : Terms} {playbookId : Value} {v : Violation} {s : Step} {steps : List Step}
  {r r' : Run}

/-- A step that opens nothing, and assigns nothing that is bound, leaves what is recalled. -/
theorem Recalls.idle (h : Recalls steps r) (hs : s.opens = false)
    (ha : s.assignee? = none ∨ r.bound = none)
    (incidents : r'.world.incidents = r.world.incidents) (bound : r'.bound = r.bound) :
    Recalls (steps ++ [s]) r' := by
  refine ⟨fun hall => bound.trans (h.unbound fun o ho => hall o (List.mem_append_left _ ho)), ?_⟩
  rintro ⟨o, ho, hopens⟩
  rcases List.mem_append.1 ho with ho | ho
  · obtain ⟨i, hi, hb, hassignee⟩ := h.bound ⟨o, ho, hopens⟩
    rcases ha with ha | ha
    · refine ⟨i, incidents ▸ hi, bound.trans hb, ?_⟩
      rw [hassignee, lastAssignee?_concat hs, ha, Option.none_or]
    · cases ha.symm.trans hb
  · rw [List.mem_singleton.1 ho, hs] at hopens
    cases hopens

/-- An incident that was just opened is assigned to nobody. -/
theorem recalls_opened (hs : s.opens = true) (r : Run) (v : Violation) (steps : List Step) :
    Recalls (steps ++ [s]) (r.createIncident v) := by
  refine ⟨fun hall => ?_, fun _ => ?_⟩
  · cases (hall s (List.mem_append_right _ (List.mem_singleton_self s))).symm.trans hs
  · refine ⟨_, List.mem_append_right _ (List.mem_singleton_self _), rfl, ?_⟩
    rw [lastAssignee?_opens hs]
    rfl

/-- A mark writes the assignee that the step names, or leaves the one before. -/
theorem Recalls.mark (h : Recalls steps r) {id : String} (hb : r.bound = some id) {m : Mark}
    (hk : s.actionKind? = some m.kind)
    (hm : m.kind = .assign → ∃ a, m = .assignee a ∧ s.assignee? = some a) :
    Recalls (steps ++ [s]) (r.mark playbookId id m) := by
  have hs : s.opens = false := by
    rw [Step.opens, hk]
    cases m <;> rfl
  refine ⟨fun hall => ?_, fun ⟨o, ho, hopens⟩ => ?_⟩
  · cases (h.unbound fun o ho => hall o (List.mem_append_left _ ho)).symm.trans hb
  · have hbefore : o ∈ steps := by
      refine (List.mem_append.1 ho).resolve_right fun ho => ?_
      cases (List.mem_singleton.1 ho ▸ hs).symm.trans hopens
    obtain ⟨i, hi, hbi, hassignee⟩ := h.bound ⟨o, hbefore, hopens⟩
    obtain rfl : id = i.id := Option.some.inj (hb.symm.trans hbi)
    obtain ⟨e, -, -, he⟩ := Visit.mark_incidents playbookId i.id m r
    refine ⟨(i.updated r.world.now [m.change]).withEvent r.world.now e, ?_, ?_, ?_⟩
    · rw [he]
      exact List.mem_map.2 ⟨i, hi, if_pos rfl⟩
    · exact hb.trans (congrArg some (Incident.updated_id r.world.now _ i).symm)
    · rw [lastAssignee?_concat hs]
      cases m with
      | assignee a =>
        obtain ⟨b, hab, hb⟩ := hm rfl
        cases hab
        rw [hb]
        rfl
      | status _ | escalated =>
        have ha : s.assignee? = none := by simp [Step.assignee?, hk, Mark.kind]
        rw [ha, Option.none_or]
        exact hassignee

/-- A step that is done adds to the history that the run recalls. -/
theorem Recalls.take (h : Recalls steps r) {success : Bool}
    (htake : r.take t playbookId v s = (r', .done success)) : Recalls (steps ++ [s]) r' := by
  rcases take_done htake with ⟨kind, a, hk, ha, acted⟩ | ⟨hk, incidents, bound⟩
  · cases acted with
    | opened => exact recalls_opened (decide_eq_true hk) r v steps
    | unbound hne hb =>
      have hs : s.opens = false := by simp [Step.opens, hk, hne]
      exact h.idle hs (.inr hb) rfl rfl
    | marked hb m hm =>
      refine h.mark hb hk fun hass => ⟨_, (hm hass).1, ?_⟩
      simp [Step.assignee?, hk, hass, ha]
  · have hs : s.opens = false := by simp [Step.opens, hk]
    exact h.idle hs (.inl (by simp [Step.assignee?, hk])) incidents bound

/-- Whether the incident that is bound has an assignee can be read off the steps. -/
theorem Recalls.acknowledged (h : Recalls steps r) :
    (r.incident?.map (·.assignee)).any (·.truthy) = true ↔ Acknowledged steps := by
  by_cases hopened : ∃ s ∈ steps, s.opens = true
  · obtain ⟨i, hi, hb, hassignee⟩ := h.bound hopened
    have hi : r.incident? = some i := by
      rw [incident?, hb, Option.bind_some]
      exact IncidentStore.find?_of_mem hi
    rw [hi, Option.map_some, Option.any_some, hassignee]
    cases hlast : lastAssignee? steps with
    | none => simp [Acknowledged, hlast, Value.truthy]
    | some a => simp only [Acknowledged, hopened, hlast, Option.getD_some, Option.some.injEq,
        true_and, exists_eq_left']
  · have hnone : r.bound = none := h.unbound fun s hs =>
      Bool.eq_false_iff.2 fun hs' => hopened ⟨s, hs, hs'⟩
    simp [incident?, hnone, Acknowledged, hopened]

end

/-! ## In the middle of a run -/

section
variable {t : Terms} {p : Playbook} {v : Violation} {s : Option Step} {r r' : Run}
  {xs earlier later : List Visit} {x : Visit} {e : Ending} {steps : List Step}

/-- A visit finds the run as the visits before have left it, and once it is done the walk goes on
with the visits after it. -/
theorem Walk.recalls (walk : Walk t p v s r xs r' e) (h : Recalls steps r)
    (hx : xs = earlier ++ x :: later) :
    Recalls (steps ++ earlier.map (·.step)) x.before ∧
      ∃ after, x.before.take t p.id v x.step = (after, x.ending) ∧
        ∀ success, x.ending = .done success →
          Walk t p v (next? p x.step success) after later r' e := by
  refine ⟨?_, walk.at_visit hx⟩
  induction walk generalizing earlier steps with
  | done => simp at hx
  | limit => simp at hx
  | cancelled => simp at hx
  | failed | interrupted =>
    obtain ⟨rfl, hx⟩ | ⟨-, hx⟩ := List.singleton_eq_append_iff.1 hx <;> cases hx
    simpa using h
  | step htake rest ih =>
    cases earlier with
    | nil =>
      cases hx
      simpa using h
    | cons y earlier =>
      cases hx
      have found := ih (h.take htake) rfl
      rwa [List.append_assoc] at found

end
end Run

/-! ## Tests -/

/-- Whether a test succeeds after steps that a run has taken for a violation. -/
def Test.Passes (test : Test) (v : Violation) (steps : List Step) : Prop :=
  test.operator = .text "equals" ∧
    (test.field = .text "severity" ∧ test.value = .text (word v.severity) ∨
      test.field = .text "acknowledged" ∧
        ∃ b, test.value = .bool b ∧ (b = true ↔ Step.Acknowledged steps))

/-- What a test compares, and with what. -/
theorem Branch.holds_iff {test : Test} {severity : Severity} {assignee : Option Value} :
    holds test severity assignee = true ↔
      test.operator = .text "equals" ∧
        (test.field = .text "severity" ∧ test.value = .text (word severity) ∨
          test.field = .text "acknowledged" ∧
            test.value = .bool (assignee.any (·.truthy))) := by
  unfold holds
  split
  · next hop =>
    unfold resolve?
    split
    · next hfield => simp [hop, hfield, agrees, Value.identical_bool]
    · next hfield => simp [hop, hfield, agrees, Value.identical_text, Value.member]
    · next hack hsev =>
      refine iff_of_false Bool.false_ne_true ?_
      rintro ⟨-, ⟨hfield, -⟩ | ⟨hfield, -⟩⟩
      · exact hsev hfield
      · exact hack hfield
  · next hop => exact iff_of_false Bool.false_ne_true fun h => hop h.1

namespace Run

/-- A test succeeds or fails by the history that the run recalls. -/
theorem Recalls.passes {steps : List Step} {r : Run} (h : Recalls steps r) {test : Test}
    {v : Violation} :
    Branch.holds test v.severity (r.incident?.map (·.assignee)) = true ↔
      test.Passes v steps := by
  rw [Branch.holds_iff, Test.Passes, ← h.acknowledged]
  simp only [← Bool.eq_iff_iff, exists_eq_right]

/-- **Branching sees the history of the run.** Whatever the playbook, the violation and the world,
a step with a test is done: it succeeds just when the test passes by the steps before it, it leaves
the run as it found it, and the run goes on with the step that comes after success or failure. -/
theorem condition_branches (t : Terms) (p : Playbook) (v : Violation) (w : World)
    {earlier later : List Visit} {x : Visit} (hx : startVisits t p v w = earlier ++ x :: later)
    (type : x.step.type = .member .condition) {test : Test}
    (config : x.step.config.condition = some test) :
    ∃ success, x.ending = .done success ∧
      (success = true ↔ test.Passes v (earlier.map (·.step))) ∧
      Walk t p v (next? p x.step success) x.before later (start t p v w).1
        (start t p v w).2 := by
  obtain ⟨recalls, after, htake, next⟩ := (start_walk t p v w).recalls (recalls_nil w) hx
  rw [List.nil_append] at recalls
  have hperform : x.before.take t p.id v x.step =
      (x.before, .done (Branch.holds test v.severity (x.before.incident?.map (·.assignee)))) := by
    simp only [take, type, perform, config]
  obtain ⟨hafter, hending⟩ := Prod.mk.inj (htake.symm.trans hperform)
  subst hafter
  exact ⟨_, hending, recalls.passes, next _ hending⟩

end Run

/-- A step that asks whether somebody has taken the incident on. -/
def Playbook.askStep : Step :=
  ⟨"ask", .text "Ask", .member .condition,
    { StepConfig.blank with
      condition := some ⟨.text "acknowledged", .bool true, .text "equals"⟩ },
    .null, .null⟩

/-- Opens an incident, assigns it and asks whether somebody has taken it on. -/
def Playbook.asking : Playbook :=
  forSeverities "ask" "Ask" "Hand every violation to the team" []
    [actionStep "open" "Open" .createIncident (some "assign"),
      actionStep "assign" "Assign" .assign (some "ask"), askStep]

/-- What has been visited when somebody asks, and the visit that asks. -/
theorem Run.condition_branches_asking :
    let t : Terms := ⟨.recording, 100, .none⟩
    let w := World.fresh ⟨⟨0⟩, 0, 0⟩ "agent"
    ∃ earlier x later test, startVisits t .asking .leak w = earlier ++ x :: later ∧
      x.step.type = .member .condition ∧ x.step.config.condition = some test ∧
      x.ending = .done true ∧ test.Passes .leak (earlier.map (·.step)) := by
  intro t w
  have hlength : 2 < (startVisits t .asking .leak w).length := by decide +kernel
  have hx : startVisits t .asking .leak w = (startVisits t .asking .leak w).take 2 ++
      (startVisits t .asking .leak w)[2] :: (startVisits t .asking .leak w).drop 3 := by
    rw [← List.drop_eq_getElem_cons hlength, List.take_append_drop]
  have hcarried : (startVisits t .asking .leak w)[2]?.any (·.isCarriedOut) = true := by
    decide +kernel
  obtain ⟨success, hdone, hpasses, -⟩ := condition_branches t .asking .leak w hx rfl rfl
  simp only [List.getElem?_eq_getElem hlength, Option.any_some, Visit.isCarriedOut,
    hdone] at hcarried
  cases hcarried
  exact ⟨_, _, _, _, hx, rfl, rfl, hdone, hpasses.1 rfl⟩

end Compliance
