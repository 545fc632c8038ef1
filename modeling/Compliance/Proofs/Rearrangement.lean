import Compliance.Proofs.Links
import Compliance.Proofs.StepLimit
import Mathlib.Data.List.Forall2

/-!
# Rearranged playbooks

A run starts with the first step and goes where links lead. Where ids are different, the order of
the other steps decides nothing, and neither does a step that no link names. A playbook may
therefore be rearranged after its first step, and steps that nothing leads to may be put in: it
finds the same step for every link of an old one (`step?_rearranged`), walks the same way
(`walk_rearranged`), and takes the place of the old playbook at a desk without a trace. Main
statement: `rearranged_indistinct`.
-/
namespace Compliance

/-- A link of the step that a run may take leads to an id. -/
def Step.Names (s : Step) (id : String) : Prop :=
  ∃ success, (s.link success).truthy = true ∧ (Value.text id).same (s.link success) = true

namespace Playbook

/-- One playbook is another with its steps after the first one in any order, among further steps
whose ids are new and are named by no link. -/
structure Rearranged (p q : Playbook) : Prop where
  /-- The ids of the steps are different. -/
  distinct : (p.steps.map (·.id)).Nodup
  same : q = { p with steps := q.steps }
  first : q.first? = p.first?
  later : ∃ extra, q.steps.tail.Perm (p.steps.tail ++ extra) ∧
    ∀ e ∈ extra, ∀ s ∈ p.steps, e.id ≠ s.id ∧ ¬ s.Names e.id

section
variable {p q : Playbook}

theorem Rearranged.header (h : p.Rearranged q) :
    q.id = p.id ∧ q.enabled = p.enabled ∧ q.trigger = p.trigger := by
  rw [h.same]
  exact ⟨rfl, rfl, rfl⟩

/-- The steps are the old ones and further ones, in some order. -/
theorem Rearranged.steps (h : p.Rearranged q) :
    ∃ extra, q.steps.Perm (p.steps ++ extra) ∧
      ∀ e ∈ extra, ∀ s ∈ p.steps, e.id ≠ s.id ∧ ¬ s.Names e.id := by
  obtain ⟨extra, hperm, hextra⟩ := h.later
  have hfirst : q.steps.head? = p.steps.head? := h.first
  cases hp : p.steps with
  | nil =>
    have hq : q.steps = [] := by simpa [hp] using hfirst
    exact ⟨[], by simp [hq], by simp⟩
  | cons s rest =>
    cases hq : q.steps with
    | nil => simp [hp, hq] at hfirst
    | cons s' rest' =>
      rw [hp, hq] at hperm hfirst
      cases hfirst
      exact ⟨extra, hperm.cons s, hp ▸ hextra⟩

/-- Where ids are different, a link finds one step at most. -/
theorem length_filter_same_le_one {steps : List Step} (h : (steps.map (·.id)).Nodup)
    (link : Value) : (steps.filter fun s => (Value.text s.id).same link).length ≤ 1 := by
  have hids : ((steps.filter fun s => (Value.text s.id).same link).map (·.id)).Nodup :=
    h.sublist (List.filter_sublist.map _)
  have hlink : ∀ s ∈ steps.filter fun s => (Value.text s.id).same link, link = .text s.id :=
    fun s hs => Value.eq_text_of_text_same (List.mem_filter.1 hs).2
  generalize steps.filter (fun s => (Value.text s.id).same link) = found at hids hlink ⊢
  match found with
  | [] => exact Nat.zero_le 1
  | [_] => exact Nat.le_refl 1
  | s :: s' :: rest =>
    have hs := hlink s List.mem_cons_self
    have hs' := hlink s' (List.mem_cons_of_mem s List.mem_cons_self)
    have hid : s.id = s'.id := by simpa using hs.symm.trans hs'
    have hnot : s.id ∉ (s' :: rest).map (·.id) := (List.nodup_cons.1 hids).1
    exact absurd (List.mem_map.2 ⟨s', List.mem_cons_self, hid.symm⟩) hnot

theorem eq_of_perm_of_length_le_one {xs ys : List Step} (h : xs.Perm ys) (hone : ys.length ≤ 1) :
    xs = ys := by
  match ys with
  | [] => exact h.eq_nil
  | [y] => exact List.perm_singleton.1 h
  | y :: y' :: rest => simp at hone

/-- **A link of an old step leads where it led before**, or nowhere as before. -/
theorem step?_rearranged (h : p.Rearranged q) {s : Step} (hs : s ∈ p.steps) {success : Bool}
    (htruthy : (s.link success).truthy = true) :
    q.step? (s.link success) = p.step? (s.link success) := by
  obtain ⟨extra, hperm, hextra⟩ := h.steps
  generalize hlink : s.link success = link at htruthy ⊢
  have hnone : extra.filter (fun e => (Value.text e.id).same link) = [] := by
    rw [List.filter_eq_nil_iff]
    intro e he hsame
    exact (hextra e he s hs).2 ⟨success, hlink ▸ htruthy, hlink ▸ hsame⟩
  have hfound := hperm.filter fun s => (Value.text s.id).same link
  rw [List.filter_append, hnone, List.append_nil] at hfound
  -- at most one step is found among the old ones, so the order makes no difference
  have heq := eq_of_perm_of_length_le_one hfound (length_filter_same_le_one h.distinct link)
  rw [step?, step?, ← List.head?_filter, ← List.head?_filter, heq]

end
end Playbook

/-! ## Runs -/

namespace Run

variable {p q : Playbook}

theorem next?_rearranged (h : p.Rearranged q) {s : Step} (hs : s ∈ p.steps) (success : Bool) :
    next? q s success = next? p s success := by
  change (if (s.link success).truthy then q.step? (s.link success) else none) =
    if (s.link success).truthy then p.step? (s.link success) else none
  split
  · next htruthy => exact Playbook.step?_rearranged h hs htruthy
  · rfl

/-- A walk from an old step takes old steps only, and the same ones. -/
theorem walk_rearranged (h : p.Rearranged q) (t : Terms) (v : Violation) (left : Nat)
    (s : Option Step) (hs : ∀ s' ∈ s, s' ∈ p.steps) (r : Run) :
    walk t q v left s r = walk t p v left s r := by
  induction left generalizing s r with
  | zero => cases s <;> rfl
  | succ left ih =>
    cases s with
    | none => rfl
    | some s =>
      have hmem : s ∈ p.steps := hs s rfl
      simp only [walk, h.header.1]
      split
      · rfl
      · generalize r.take t p.id v s = result
        obtain ⟨r', e⟩ := result
        cases e with
        | failed error => rfl
        | interrupted cause => rfl
        | done success =>
          simp only [next?_rearranged h hmem]
          exact ih (next? p s success) (fun _ => mem_of_next?) r'

theorem start_rearranged (h : p.Rearranged q) (t : Terms) (v : Violation) (w : World) :
    start t q v w = start t p v w := by
  unfold start
  rw [h.first]
  exact walk_rearranged h t v t.limit p.first? (fun _ => mem_of_first?) ⟨w, none⟩

end Run

/-! ## At the desk -/

/-- One registered playbook is another, or stands in for it with what is known of its last run. -/
inductive Playbook.StandsIn (p q : Playbook) : Playbook → Playbook → Prop
  | same (a : Playbook) : StandsIn p q a a
  | instead (lastRun : Option Calendar.Instant) :
    StandsIn p q { p with lastRun } { q with lastRun }

/-- Two desks that differ in one playbook at most: one stands in for the other. -/
structure Desk.StandsIn (p q : Playbook) (d d' : Desk) : Prop where
  world : d'.world = d.world
  ledger : d'.ledger = d.ledger
  playbooks : List.Forall₂ (p.StandsIn q) d.registry.playbooks d'.registry.playbooks

section
variable {p q a b : Playbook}

theorem Playbook.StandsIn.start (h : p.Rearranged q) (hab : p.StandsIn q a b) (t : Terms)
    (v : Violation) (w : World) : Run.start t b v w = Run.start t a v w := by
  cases hab with
  | same a => rfl
  | instead lastRun =>
    calc Run.start t { q with lastRun } v w
        = Run.start t q v w := by rw [← Run.start_definition, ← Run.start_definition t q]; rfl
      _ = Run.start t p v w := Run.start_rearranged h t v w
      _ = Run.start t { p with lastRun } v w := by
        rw [← Run.start_definition, ← Run.start_definition t { p with lastRun }]; rfl

/-- Both have the same id, switch and trigger. -/
theorem Playbook.StandsIn.header (h : p.Rearranged q) (hab : p.StandsIn q a b) :
    b.id = a.id ∧ b.enabled = a.enabled ∧ b.trigger = a.trigger := by
  cases hab with
  | same a => exact ⟨rfl, rfl, rfl⟩
  | instead lastRun => exact h.header

namespace Desk

variable {d d' : Desk}

theorem StandsIn.conclude (h : p.Rearranged q) (hd : d.StandsIn p q d') {id : Value}
    (ha : a.id = id) (hb : b.id = id) (run : Run) (ending : Ending) :
    (d.conclude a run ending).StandsIn p q (d'.conclude b run ending) := by
  refine ⟨rfl, ?_, ?_⟩
  · simp only [Desk.conclude, hd.ledger, ha, hb]
  · simp only [Desk.conclude, ha, hb, Registry.ran, Registry.modify]
    rw [List.forall₂_map_left_iff, List.forall₂_map_right_iff]
    refine hd.playbooks.imp fun c c' hc => ?_
    have hid : c'.hasId id = c.hasId id := by
      simp only [Playbook.hasId, (hc.header h).1]
    rw [hid]
    split
    · cases hc with
      | same c => exact .same _
      | instead lastRun => exact .instead _
    · exact hc

/-- Playbooks are run in turn at both desks, to the same effect. -/
theorem StandsIn.runAll (h : p.Rearranged q) (t : Terms) (v : Violation) {ps ps' : List Playbook}
    (hps : List.Forall₂ (p.StandsIn q) ps ps') (hd : d.StandsIn p q d') :
    (d.runAll t v ps).1.StandsIn p q (d'.runAll t v ps').1 ∧
      (d'.runAll t v ps').2 = (d.runAll t v ps).2 := by
  induction hps generalizing d d' with
  | nil => exact ⟨hd, rfl⟩
  | @cons a b ps ps' hab hps ih =>
    have hstart := hab.start h t v d.world
    simp only [Desk.runAll, hd.world, hstart]
    generalize Run.start t a v d.world = result
    obtain ⟨run, ending⟩ := result
    have hconclude := hd.conclude h rfl (hab.header h).1 run ending
    obtain ⟨hlater, hresponses⟩ := ih hconclude
    cases ending with
    | interrupted cause => exact ⟨hconclude, rfl⟩
    | failed error => exact ⟨hlater, hresponses⟩
    | finished =>
      refine ⟨hlater, ?_⟩
      simp only [hresponses]

theorem StandsIn.respond (h : p.Rearranged q) (hd : d.StandsIn p q d') (t : Terms)
    (v : Violation) :
    (d.respond t v).1.StandsIn p q (d'.respond t v).1 ∧
      (d'.respond t v).2 = (d.respond t v).2 := by
  refine StandsIn.runAll h t v ?_ hd
  refine List.rel_filter (fun a b hab => ?_) (List.rel_filter (fun a b hab => ?_) hd.playbooks)
  · simp only [(hab.header h).2.2]
  · simp only [(hab.header h).2.1]

end Desk
end

/-- Whatever is done with one playbook comes to the same with the other. -/
structure Playbook.Indistinct (p q : Playbook) : Prop where
  /-- A run ends the same way, at the same time, with the same incidents, notifications and
  requests, whatever the world before. -/
  run : ∀ (t : Terms) (v : Violation) (w : World), Run.start t q v w = Run.start t p v w
  /-- It is put on record in the same way, and gives the same back. -/
  recorded : ∀ (t : Terms) (v : Violation) (d : Desk), d.runAll t v [q] = d.runAll t v [p]
  /-- A response at a desk where one stands in for the other leaves the same world and the same
  ledger, and gives the same back. -/
  response : ∀ (t : Terms) (v : Violation) (d d' : Desk), d.StandsIn p q d' →
    (d.respond t v).1.StandsIn p q (d'.respond t v).1 ∧ (d'.respond t v).2 = (d.respond t v).2

/-- **Only the first step and the links matter.** Steps after the first one may change places, and
steps that nothing leads to may be put in among them: for any graph of steps with different ids,
any violation, any state and any terms. -/
theorem rearranged_indistinct {p q : Playbook} (h : p.Rearranged q) : p.Indistinct q where
  run := Run.start_rearranged h
  recorded t v d := by
    have hid : q.id = p.id := h.header.1
    unfold Desk.runAll Desk.conclude
    rw [Run.start_rearranged h, hid]
  response t v _ _ hd := hd.respond h t v

/-! ## A playbook with its last steps exchanged -/

namespace Playbook

/-- The alert for critical violations, with a step put in that no link names. -/
def shuffledAlert : Playbook :=
  { criticalAlert with steps := [actionStep "step-1" "Create Incident" .createIncident
      (some "step-2"),
    actionStep "step-3" "Escalate to On-Call" .escalate none,
    actionStep "spare" "Assign" .assign (some "step-3"),
    alertStep "step-2" "Send Slack Alert" (titled "Critical Violation Detected")
      "#security-alerts" (some "step-3")] }

theorem criticalAlert_rearranged : criticalAlert.Rearranged shuffledAlert where
  distinct := by decide
  same := rfl
  first := rfl
  later := by
    refine ⟨[actionStep "spare" "Assign" .assign (some "step-3")], ?_, ?_⟩
    · exact @List.perm_append_comm _ shuffledAlert.steps.tail.dropLast _
    · have hlinks : ∀ s ∈ criticalAlert.steps, "spare" ≠ s.id ∧ ∀ success,
          (Value.text "spare").same (s.link success) = false := by decide +kernel
      intro e he s hs
      rw [List.mem_singleton.1 he]
      refine ⟨(hlinks s hs).1, ?_⟩
      rintro ⟨success, -, hsame⟩
      exact Bool.false_ne_true (((hlinks s hs).2 success).symm.trans hsame)

end Playbook

theorem rearranged_indistinct_criticalAlert :
    Playbook.criticalAlert.Rearranged .shuffledAlert ∧
      Playbook.criticalAlert.Indistinct .shuffledAlert :=
  ⟨Playbook.criticalAlert_rearranged, rearranged_indistinct Playbook.criticalAlert_rearranged⟩

end Compliance
