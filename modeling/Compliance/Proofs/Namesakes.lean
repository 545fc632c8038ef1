import Compliance.Proofs.Switching

/-!
# Rules with one id

Nothing keeps two rules from having one id. The first of them speaks for the id: it is the one that
is switched, and a check of its own asks it alone. The others are ever after as they were added, and
those without a check of their own are evaluated each for itself. So a switch governs an id with a
check of its own, but of any other id a rule that is off falls silent while a namesake that is on
goes on finding. Main statement: `toggle_reaches`.
-/
namespace Compliance

/-- An edit of the rule set. -/
inductive RuleEdit where
  | add (r : Rule)
  | toggle (id : String) (enabled : Bool)

namespace RuleEdit

/-- The id that an edit is about. -/
def id : RuleEdit → String
  | .add r => r.id
  | .toggle id _ => id

def added? : RuleEdit → Option Rule
  | .add r => some r
  | .toggle _ _ => none

/-- Makes an edit, and answers whether there was something to switch. -/
def perform (a : Agent) : RuleEdit → Agent × Bool
  | .add r => (a.addRule r, true)
  | .toggle id enabled =>
    match a.toggleRule id enabled with
    | some a => (a, true)
    | none => (a, false)

end RuleEdit

/-- An agent after edits of its rules. -/
def Agent.ruled (a : Agent) (h : List RuleEdit) : Agent := h.foldl (fun a e => (e.perform a).1) a

namespace Rule

/-- The rules with an id. -/
def namesakes (id : String) (rules : List Rule) : List Rule := rules.filter (·.id = id)

/-- The same rules, but for the switch of the first. -/
inductive Reswitched : List Rule → List Rule → Prop
  | nil : Reswitched [] []
  | cons (r : Rule) (enabled : Bool) (others : List Rule) :
    Reswitched (r :: others) ({ r with enabled } :: others)

theorem Reswitched.refl : ∀ rules : List Rule, Reswitched rules rules
  | [] => .nil
  | r :: others => .cons r r.enabled others

/-- Rules that come to the same in every check and in every evaluation. -/
structure Equivalent (rules rules' : List Rule) : Prop where
  checks : ∀ b : BuiltIn, b.isChecked = true → isOn b.id rules = isOn b.id rules'
  evaluated : ∀ a : Asset,
    rules.filter (Detection.isGeneric a) = rules'.filter (Detection.isGeneric a)

/-! ## The rules with an id -/

section
variable {id name : String} {rules : List Rule} {r : Rule} {others : List Rule}

theorem namesakes_append (rules' : List Rule) :
    namesakes id (rules ++ rules') = namesakes id rules ++ namesakes id rules' :=
  List.filter_append ..

theorem find?_eq_head? (id : String) (rules : List Rule) :
    find? id rules = (namesakes id rules).head? := List.head?_filter.symm

theorem find?_eq_none_iff : find? id rules = none ↔ ∀ r ∈ rules, r.id ≠ id := by
  simp [find?]

/-- A switch reaches the first rule with the id, and no other. -/
theorem toggle_eq (h : find? id rules = some r) (enabled : Bool) :
    ∃ before after, rules = before ++ r :: after ∧ (∀ q ∈ before, q.id ≠ id) ∧ r.id = id ∧
      toggle id enabled rules = before ++ { r with enabled } :: after := by
  induction rules with
  | nil => cases h
  | cons q rules ih =>
    by_cases hq : q.id = id
    · have hqr : q = r := by simpa [find?, hq] using h
      subst hqr
      exact ⟨[], rules, rfl, by simp, hq, by simp [toggle, hq]⟩
    · obtain ⟨before, after, hrules, hbefore, hr, htoggle⟩ := ih (by simpa [find?, hq] using h)
      exact ⟨q :: before, after, by rw [hrules]; rfl, List.forall_mem_cons.2 ⟨hq, hbefore⟩, hr,
        by simp [toggle, hq, htoggle]⟩

theorem namesakes_toggle_self (h : namesakes id rules = r :: others) (enabled : Bool) :
    namesakes id (toggle id enabled rules) = { r with enabled } :: others := by
  obtain ⟨before, after, hrules, hbefore, hr, htoggle⟩ :=
    toggle_eq (by rw [find?_eq_head?, h]; rfl) enabled
  have hnone : before.filter (fun q => decide (q.id = id)) = [] :=
    List.filter_eq_nil_iff.2 fun q hq => by simpa using hbefore q hq
  have hothers : namesakes id after = others := by
    simpa [namesakes, hrules, hnone, hr] using h
  rw [htoggle, ← hothers]
  simp [namesakes, hnone, hr]

theorem namesakes_toggle_of_ne (h : name ≠ id) (enabled : Bool) :
    namesakes id (toggle name enabled rules) = namesakes id rules := by
  cases hfind : find? name rules with
  | none =>
    -- there is nothing to switch
    have htoggle : toggle name enabled rules = rules := by
      clear h
      induction rules with
      | nil => rfl
      | cons q rules ih =>
        obtain ⟨hq, hrules⟩ := List.forall_mem_cons.1 (find?_eq_none_iff.1 hfind)
        rw [toggle, if_neg hq, ih (find?_eq_none_iff.2 hrules)]
    rw [htoggle]
  | some r =>
    obtain ⟨before, after, hrules, -, hr, htoggle⟩ := toggle_eq hfind enabled
    have hne : r.id ≠ id := fun hid => h (hr.symm.trans hid)
    rw [htoggle, hrules]
    simp [namesakes, hne]

theorem isOn_of_namesakes (h : namesakes id rules = r :: others) : isOn id rules = r.enabled := by
  rw [isOn, find?_eq_head?, h]
  rfl

theorem mem_namesakes {q : Rule} : q ∈ namesakes id rules ↔ q ∈ rules ∧ q.id = id := by
  simp [namesakes]

end
end Rule

/-! ## Edits -/

namespace RuleEdit

variable {id : String} {a : Agent}

theorem perform_toggle_of_none (h : Rule.find? id a.rules = none) (enabled : Bool) :
    (toggle id enabled).perform a = (a, false) := by
  simp only [perform, Agent.toggleRule, h, Option.map_none]

theorem perform_toggle_of_some {r : Rule} (h : Rule.find? id a.rules = some r) (enabled : Bool) :
    (toggle id enabled).perform a =
      ({ a with rules := Rule.toggle id enabled a.rules }, true) := by
  simp only [perform, Agent.toggleRule, h, Option.map_some]

theorem namesakes_perform_of_ne {e : RuleEdit} (h : e.id ≠ id) :
    Rule.namesakes id (e.perform a).1.rules = Rule.namesakes id a.rules := by
  cases e with
  | add r =>
    have hr : r.id ≠ id := h
    simp [perform, Agent.addRule, Rule.namesakes, hr]
  | toggle name enabled =>
    cases hfind : Rule.find? name a.rules with
    | none => rw [perform_toggle_of_none hfind]
    | some r =>
      rw [perform_toggle_of_some hfind]
      exact Rule.namesakes_toggle_of_ne h enabled

theorem namesakes_ruled_of_ne {later : List RuleEdit} (h : ∀ e ∈ later, e.id ≠ id) :
    Rule.namesakes id (a.ruled later).rules = Rule.namesakes id a.rules := by
  induction later generalizing a with
  | nil => rfl
  | cons e later ih =>
    obtain ⟨he, hlater⟩ := List.forall_mem_cons.1 h
    exact (ih hlater).trans (namesakes_perform_of_ne he)

/-- What an edit does to the rules with an id: one comes last, or the first is switched. -/
theorem perform_reswitched {asAdded : List Rule}
    (h : Rule.Reswitched (Rule.namesakes id asAdded) (Rule.namesakes id a.rules)) (e : RuleEdit) :
    Rule.Reswitched (Rule.namesakes id (asAdded ++ e.added?.toList))
      (Rule.namesakes id (e.perform a).1.rules) := by
  cases e with
  | add r =>
    have hrules : (perform a (.add r)).1.rules = a.rules ++ [r] := rfl
    rw [hrules, Rule.namesakes_append, Rule.namesakes_append, added?, Option.toList_some]
    generalize Rule.namesakes id asAdded = before at h
    generalize Rule.namesakes id a.rules = now at h
    cases h with
    | nil => exact .refl _
    | cons first enabled others => exact .cons first enabled _
  | toggle name enabled =>
    rw [added?, Option.toList_none, List.append_nil]
    cases hfind : Rule.find? name a.rules with
    | none =>
      rw [perform_toggle_of_none hfind]
      exact h
    | some r =>
      rw [perform_toggle_of_some hfind]
      by_cases hname : name = id
      · subst hname
        generalize Rule.namesakes name asAdded = before at h
        generalize hnow : Rule.namesakes name a.rules = now at h
        cases h with
        | nil => simp [Rule.find?_eq_head?, hnow] at hfind
        | cons first _ others =>
          rw [Rule.namesakes_toggle_self hnow enabled]
          exact .cons first enabled others
      · exact (Rule.namesakes_toggle_of_ne hname enabled).symm ▸ h

/-- **The rules with an id are as they were added, but for the switch of the first.** -/
theorem ruled_reswitched {asAdded : List Rule}
    (h : Rule.Reswitched (Rule.namesakes id asAdded) (Rule.namesakes id a.rules))
    (es : List RuleEdit) :
    Rule.Reswitched (Rule.namesakes id (asAdded ++ es.filterMap added?))
      (Rule.namesakes id (a.ruled es).rules) := by
  induction es generalizing a asAdded with
  | nil => simpa [Agent.ruled] using h
  | cons e es ih =>
    have hlater := ih (perform_reswitched h e)
    have hadded : (e :: es).filterMap added? = e.added?.toList ++ es.filterMap added? := by
      cases hadded : e.added? <;> simp [hadded]
    rw [hadded, ← List.append_assoc]
    exact hlater

end RuleEdit

/-! ## Passes -/

section
variable {rules rules' : List Rule}

theorem Detection.whenOn_congr {b : BuiltIn} (h : Rule.isOn b.id rules = Rule.isOn b.id rules')
    (condition : Bool) (d : Draft) :
    whenOn rules b condition d = whenOn rules' b condition d := by
  rw [whenOn, whenOn, h]

theorem Detection.findings_equivalent (h : Rule.Equivalent rules rules') (policies : List Policy)
    (a : Asset) (facts : Option Facts) :
    findings rules policies a facts = findings rules' policies a facts := by
  cases facts with
  | none => rfl
  | some facts =>
    have hgeneric : genericFindings rules policies a facts =
        genericFindings rules' policies a facts := by
      rw [genericFindings, genericFindings, h.evaluated a]
    have hchecks : checkDrafts rules policies a facts = checkDrafts rules' policies a facts := by
      cases facts with
      | certificate c =>
        simp only [checkDrafts, certificateDrafts]
        congr 1
        · cases hband : (Expiry.ofDays c.daysUntilExpiry).rule? with
          | none => rfl
          | some b => exact whenOn_congr (h.checks b (Expiry.isChecked_of_rule? hband).1) _ _
        · exact whenOn_congr (h.checks .invalidCertificate rfl) _ _
      | domain d =>
        simp only [checkDrafts, domainDrafts]
        rw [whenOn_congr (h.checks .missingSpf rfl), whenOn_congr (h.checks .missingDmarc rfl)]
      | ip f =>
        simp only [checkDrafts, ipDrafts]
        rw [whenOn_congr (h.checks .maliciousIp rfl), whenOn_congr (h.checks .torExit rfl)]
    simp only [findings, checkFindings, hgeneric, hchecks]

/-- Passes with equivalent rules are the same. -/
theorem ViolationStore.detect_equivalent (h : Rule.Equivalent rules rules')
    (now : Calendar.Instant) (inv : Inventory) (policies : List Policy) (s : ViolationStore) :
    s.detect now inv rules policies = s.detect now inv rules' policies := by
  unfold detect
  induction inv.assets generalizing s with
  | nil => rfl
  | cons a as ih =>
    simp only [checkAssets, checkAsset, Detection.findings_equivalent h, ih]

end

namespace Rule

section
variable {id : String} {rules : List Rule} {r : Rule} {others : List Rule}

theorem isOn_filter_ne (id name : String) (rules : List Rule) :
    isOn name (rules.filter (·.id ≠ id)) = (decide (name ≠ id) && isOn name rules) := by
  unfold isOn
  rw [find?_eq_head?, find?_eq_head?, namesakes, namesakes, List.filter_filter]
  by_cases h : name = id
  · simp [h]
  · have hsame : rules.filter (fun q => decide (q.id = name) && decide (q.id ≠ id)) =
        rules.filter (·.id = name) :=
      List.filter_congr fun q _ => by by_cases hq : q.id = name <;> simp [hq, h]
    rw [hsame, decide_eq_true h, Bool.true_and]

/-- All rules with an id that is switched off can be left out, if a check of its own asks the first
of them, or if the others are off too. -/
theorem equivalent_filter (h : namesakes id rules = r :: others) (hoff : r.enabled = false)
    (hothers : id ∈ checkedIds ∨ ∀ q ∈ others, q.enabled = false) :
    Equivalent rules (rules.filter (·.id ≠ id)) := by
  refine ⟨fun b _ => ?_, fun a => ?_⟩
  · rw [isOn_filter_ne]
    by_cases hb : b.id = id
    · simp [hb, isOn_of_namesakes h, hoff]
    · simp [hb]
  · rw [List.filter_filter]
    refine List.filter_congr fun q hq => ?_
    by_cases hid : q.id = id
    · have hsilent : Detection.isGeneric a q = false := by
        rcases hothers with hchecked | hothers
        · simp [Detection.isGeneric, hid, hchecked]
        · have hmem : q ∈ r :: others := h ▸ mem_namesakes.2 ⟨hq, hid⟩
          have hq : q.enabled = false := by
            rcases List.mem_cons.1 hmem with rfl | hmem
            · exact hoff
            · exact hothers q hmem
          simp [Detection.isGeneric, hq]
      simp [hid, hsilent]
    · simp [hid]

/-- A rule without a check of its own can be left out when it is off, without its namesakes. -/
theorem equivalent_eraseP (h : namesakes id rules = r :: others) (hoff : r.enabled = false)
    (hgeneric : id ∉ checkedIds) : Equivalent rules (rules.eraseP (·.id = id)) := by
  obtain ⟨before, after, hrules, hbefore, hr, -⟩ :=
    toggle_eq (by rw [find?_eq_head?, h]; rfl : find? id rules = some r) true
  have herase : rules.eraseP (·.id = id) = before ++ after := by
    rw [hrules, List.eraseP_append_right _ fun q hq => by simpa using hbefore q hq,
      List.eraseP_cons_of_pos (by simpa using hr)]
  rw [herase, hrules]
  refine ⟨fun b hb => ?_, fun a => ?_⟩
  · have hne : r.id ≠ b.id := fun hid => hgeneric (hr ▸ hid ▸ BuiltIn.id_mem_checkedIds hb)
    simp [isOn, find?, List.find?_append, hne]
  · simp [Detection.isGeneric, hoff]

end

/-! ## A switch -/

/-- What is said by a switch of an id for which other rules stand too. -/
structure Governed (id : String) (enabled : Bool) (others rules : List Rule) : Prop where
  /-- The rule that speaks for the id is switched so, and is listed if it is on. -/
  speaks : isOn id rules = enabled
  listed : namesakes id (enabledOnes rules) =
    ((find? id rules).filter (·.enabled)).toList ++ others.filter (·.enabled)
  /-- Switched off, the id is not listed if the others are off too, and only then. -/
  off : enabled = false →
    ((∀ r ∈ enabledOnes rules, r.id ≠ id) ↔ ∀ r ∈ others, r.enabled = false)
  /-- Switched on, all rules with the id are listed if the others are on too, and only then. -/
  on : enabled = true →
    ((∀ r ∈ rules, r.id = id → r ∈ enabledOnes rules) ↔ ∀ r ∈ others, r.enabled = true)
  /-- Switched off, an id with a check of its own is silent, and any other if the others are off. -/
  silent : enabled = false → (id ∈ checkedIds ∨ ∀ r ∈ others, r.enabled = false) →
    ∀ now inv policies (s : ViolationStore),
      s.detect now inv rules policies = s.detect now inv (rules.filter (·.id ≠ id)) policies
  /-- Switched off, a rule without a check of its own is passed over, and its namesakes are not. -/
  passes : enabled = false → id ∉ checkedIds → ∀ now inv policies (s : ViolationStore),
    s.detect now inv rules policies = s.detect now inv (rules.eraseP (·.id = id)) policies

section
variable {id : String} {rules : List Rule}

theorem namesakes_enabledOnes :
    namesakes id (enabledOnes rules) = (namesakes id rules).filter (·.enabled) := by
  simp only [namesakes, enabledOnes, List.filter_filter, Bool.and_comm]

theorem none_listed_iff : (∀ q ∈ enabledOnes rules, q.id ≠ id) ↔
    ∀ q ∈ namesakes id rules, q.enabled = false := by
  simp only [enabledOnes, List.mem_filter, mem_namesakes]
  constructor
  · intro h q hq
    exact Bool.eq_false_iff.2 fun hon => h q ⟨hq.1, hon⟩ hq.2
  · intro h q hq hid
    simp [h q ⟨hq.1, hid⟩] at hq

theorem all_listed_iff : (∀ q ∈ rules, q.id = id → q ∈ enabledOnes rules) ↔
    ∀ q ∈ namesakes id rules, q.enabled = true := by
  simp only [enabledOnes, List.mem_filter, mem_namesakes]
  constructor
  · intro h q hq
    exact (h q hq.1 hq.2).2
  · intro h q hq hid
    exact ⟨hq, h q ⟨hq, hid⟩⟩

theorem governed_of_namesakes {r : Rule} {others : List Rule}
    (h : namesakes id rules = r :: others) : Governed id r.enabled others rules where
  speaks := isOn_of_namesakes h
  listed := by
    rw [namesakes_enabledOnes, h, find?_eq_head?, h]
    cases hr : r.enabled <;> simp [Option.filter, hr]
  off := by
    intro hoff
    rw [none_listed_iff, h, List.forall_mem_cons]
    exact and_iff_right hoff
  on := by
    intro hon
    rw [all_listed_iff, h, List.forall_mem_cons]
    exact and_iff_right hon
  silent := by
    intro hoff hothers
    exact ViolationStore.detect_equivalent (equivalent_filter h hoff hothers)
  passes := by
    intro hoff hgeneric
    exact ViolationStore.detect_equivalent (equivalent_eraseP h hoff hgeneric)

end
end Rule

/-- What a switch of an id does after a history of edits, and what it answers. -/
structure Toggled (a : Agent) (h : List RuleEdit) (id : String) (enabled : Bool)
    (result : Agent × Bool) : Prop where
  refused : result.2 = false ↔ ∀ r ∈ (a.ruled h).rules, r.id ≠ id
  unchanged : result.2 = false → result.1 = a.ruled h
  /-- The first rule with the id is switched, and nothing else changes. -/
  reached : result.2 = true → ∃ before r after,
    (a.ruled h).rules = before ++ r :: after ∧ (∀ q ∈ before, q.id ≠ id) ∧ r.id = id ∧
      result.1 = { a.ruled h with rules := before ++ { r with enabled } :: after }
  /-- Until an edit is about the id again, the switch governs it as far as the other rules with the
  id, which are as they were added, let it. -/
  governs : result.2 = true → ∀ later : List RuleEdit, (∀ e ∈ later, e.id ≠ id) →
    Rule.Governed id enabled
      (Rule.namesakes id (a.rules ++ h.filterMap RuleEdit.added?)).tail
      (result.1.ruled later).rules

/-- **A switch reaches the first rule with an id.** -/
theorem Agent.toggle_reaches (a : Agent) (h : List RuleEdit) (id : String) (enabled : Bool) :
    Toggled a h id enabled ((RuleEdit.toggle id enabled).perform (a.ruled h)) := by
  cases hfind : Rule.find? id (a.ruled h).rules with
  | none =>
    rw [RuleEdit.perform_toggle_of_none hfind]
    exact ⟨iff_of_true rfl (Rule.find?_eq_none_iff.1 hfind), fun _ => rfl, nofun, nofun⟩
  | some r =>
    rw [RuleEdit.perform_toggle_of_some hfind]
    obtain ⟨before, after, hrules, hbefore, hr, htoggle⟩ := Rule.toggle_eq hfind enabled
    refine ⟨iff_of_false nofun fun hnone => ?_, nofun, fun _ => ?_, fun _ later hlater => ?_⟩
    · exact hnone r (List.mem_of_find?_eq_some hfind) hr
    · exact ⟨before, r, after, hrules, hbefore, hr, by rw [← htoggle]⟩
    · have hadded := RuleEdit.ruled_reswitched (.refl (Rule.namesakes id a.rules)) h
      generalize Rule.namesakes id (a.rules ++ h.filterMap RuleEdit.added?) = asAdded at hadded ⊢
      generalize hnow : Rule.namesakes id (a.ruled h).rules = now at hadded
      cases hadded with
      | nil => simp [Rule.find?_eq_head?, hnow] at hfind
      | cons first before others =>
        refine Rule.governed_of_namesakes (r := { first with enabled }) ?_
        rw [RuleEdit.namesakes_ruled_of_ne hlater]
        exact Rule.namesakes_toggle_self hnow enabled

/-- A rule for addresses, without a check of its own. -/
def Rule.onion : Rule :=
  ⟨"onion", "Onion", "Address is an exit", ⟨.ip, .equals, "is_tor", .bool true⟩, .low, true, .custom⟩

/-- A rule that was added twice and is switched off is still listed, and still finds. -/
theorem Agent.toggle_leaves_namesake :
    let a := { alarmed with rules := [] }
    let result := (RuleEdit.toggle "onion" false).perform (a.ruled [.add .onion, .add .onion])
    result.2 = true ∧ (Rule.enabledOnes result.1.rules).map (·.id) = ["onion"] ∧
      result.1.detect.2.toOption.map (·.map (·.title)) = some ["Onion"] := by
  decide +kernel

end Compliance
