import Compliance.Proofs.Locality

/-!
# Rules that are switched off

Two passes over one inventory are compared that differ in the switch of one rule. Where rules have
different ids the switch reaches one rule only: its own check, or its own evaluation. Of what the
pass with the rule gives for an asset the other pass leaves out just what the rule finds by itself,
which is at most one violation, and gives the rest as it was and in its order. The pass with the
rule returns if the one without it does and the rule can be evaluated by itself. Main statement:
`detect_switched`.
-/
namespace Compliance

open Calendar

/-! ## Lists with a piece cut out -/

section
variable {α β ε : Type}

/-- At most one element is cut out of a list, and the rest stays. -/
structure Cut (removed full rest : List α) : Prop where
  single : removed.length ≤ 1
  around : ∃ before after, full = before ++ removed ++ after ∧ rest = before ++ after

theorem Cut.nil (xs : List α) : Cut [] xs xs := ⟨Nat.zero_le 1, xs, [], by simp, by simp⟩

theorem Cut.whole {xs : List α} (h : xs.length ≤ 1) : Cut xs xs [] := ⟨h, [], [], by simp, rfl⟩

theorem Cut.append {removed removed' full full' rest rest' : List α}
    (h : Cut removed full rest) (h' : Cut removed' full' rest')
    (hone : removed = [] ∨ removed' = []) :
    Cut (removed ++ removed') (full ++ full') (rest ++ rest') := by
  obtain ⟨hsingle, before, after, rfl, rfl⟩ := h
  obtain ⟨hsingle', before', after', rfl, rfl⟩ := h'
  rcases hone with rfl | rfl
  · exact ⟨hsingle', before ++ after ++ before', after', by simp, by simp⟩
  · exact ⟨by simpa using hsingle, before, after ++ before' ++ after', by simp, by simp⟩

theorem Cut.map {removed full rest : List α} (h : Cut removed full rest) (f : α → β) :
    Cut (removed.map f) (full.map f) (rest.map f) := by
  obtain ⟨hsingle, before, after, rfl, rfl⟩ := h
  exact ⟨by simpa using hsingle, before.map f, after.map f, by simp, by simp⟩

/-- What is cut out, the whole and the rest, where each may come to a fault: the whole does exactly
if one of the others does. -/
inductive CutOut : Except ε (List α) → Except ε (List α) → Except ε (List α) → Prop
  | ok {removed full rest : List α} (h : Cut removed full rest) :
    CutOut (.ok removed) (.ok full) (.ok rest)
  | removed (e e' : ε) (rest : Except ε (List α)) : CutOut (.error e) (.error e') rest
  | rest (e e' : ε) (removed : Except ε (List α)) : CutOut removed (.error e') (.error e)

theorem CutOut.ok_iff {removed full rest : Except ε (List α)} (h : CutOut removed full rest) :
    (∃ xs, full = .ok xs) ↔ (∃ xs, removed = .ok xs) ∧ ∃ xs, rest = .ok xs := by
  cases h <;> simp

theorem CutOut.map {removed full rest : Except ε (List α)} (h : CutOut removed full rest)
    (f : α → β) : CutOut (removed.map (·.map f)) (full.map (·.map f)) (rest.map (·.map f)) := by
  cases h with
  | ok h => exact .ok (h.map f)
  | removed e e' rest => exact .removed e e' _
  | rest e e' removed => exact .rest e e' _

/-- What is cut out of two lists one after the other. -/
theorem CutOut.append {removed full rest removed' full' rest' : Except ε (List α)}
    (h : CutOut removed full rest) (h' : CutOut removed' full' rest')
    (hone : removed = .ok [] ∨ removed' = .ok []) :
    CutOut (do return (← removed) ++ (← removed')) (do return (← full) ++ (← full'))
      (do return (← rest) ++ (← rest')) := by
  cases h with
  | removed e e' rest => exact .removed e e' _
  | rest e e' removed => exact .rest e e' _
  | ok h =>
    cases h' with
    | removed e e' rest => exact .removed e e' _
    | rest e e' removed => exact .rest e e' _
    | ok h' => exact .ok (h.append h' (hone.imp Except.ok.inj Except.ok.inj))

/-- What is cut out, if something is done to each element that may come to a fault. -/
theorem Cut.mapM {removed full rest : List α} (h : Cut removed full rest)
    (f : α → Except ε β) : CutOut (removed.mapM f) (full.mapM f) (rest.mapM f) := by
  obtain ⟨hsingle, before, after, rfl, rfl⟩ := h
  rw [List.mapM_append, List.mapM_append, List.mapM_append]
  cases before.mapM f with
  | error e => exact .rest e e _
  | ok xs =>
    cases hremoved : removed.mapM f with
    | error e => exact .removed e e _
    | ok ys =>
      cases after.mapM f with
      | error e => exact .rest e e _
      | ok zs =>
        have hlength : ys.length = removed.length := by
          simpa using (congrArg List.length (mapM_eq_ok_iff.1 hremoved)).symm
        exact .ok ⟨hlength ▸ hsingle, xs, zs, rfl, rfl⟩

end

/-! ## Switching a rule -/

namespace Rule

/-- The rule by itself, switched on. -/
def alone (r : Rule) : List Rule := [{ r with enabled := true }]

section
variable {rules : List Rule} {r : Rule}

/-- Only the rule itself is switched, where rules have different ids. -/
theorem toggle_split (hids : (rules.map (·.id)).Nodup) (hr : r ∈ rules) :
    ∃ before after, (∀ q ∈ before, q.id ≠ r.id) ∧
      ∀ enabled, toggle r.id enabled rules = before ++ { r with enabled } :: after := by
  induction rules with
  | nil => cases hr
  | cons q rules ih =>
    rw [List.map_cons, List.nodup_cons] at hids
    rcases List.mem_cons.1 hr with rfl | hr
    · exact ⟨[], rules, by simp, fun enabled => by simp [toggle]⟩
    · obtain ⟨before, after, hbefore, htoggle⟩ := ih hids.2 hr
      have hq : q.id ≠ r.id := fun h => hids.1 (List.mem_map.2 ⟨r, hr, h.symm⟩)
      exact ⟨q :: before, after, List.forall_mem_cons.2 ⟨hq, hbefore⟩,
        fun enabled => by simp [toggle, hq, htoggle]⟩

theorem isOn_alone (id : String) : isOn id r.alone = decide (r.id = id) := by
  by_cases h : r.id = id <;> simp [isOn, find?, alone, h]

theorem isOn_toggle_self (hids : (rules.map (·.id)).Nodup) (hr : r ∈ rules) (enabled : Bool) :
    isOn r.id (toggle r.id enabled rules) = enabled := by
  obtain ⟨before, after, hbefore, htoggle⟩ := toggle_split hids hr
  have hnone : before.find? (fun q => decide (q.id = r.id)) = none :=
    List.find?_eq_none.2 fun q hq => by simpa using hbefore q hq
  simp [isOn, find?, htoggle, List.find?_append, hnone]

theorem isOn_toggle_of_ne {id : String} (h : r.id ≠ id) (enabled : Bool) (rules : List Rule) :
    isOn id (toggle r.id enabled rules) = isOn id rules := by
  induction rules with
  | nil => rfl
  | cons q rules ih =>
    by_cases hq : q.id = r.id
    · have hne : q.id ≠ id := fun hid => h (hq.symm.trans hid)
      simp [toggle, hq, isOn, find?, h]
    · unfold isOn find? at ih ⊢
      rw [toggle, if_neg hq, List.find?_cons, List.find?_cons]
      split
      · rfl
      · exact ih

end
end Rule

/-! ## The findings on an asset -/

theorem BuiltIn.id_inj {b b' : BuiltIn} (h : b.id = b'.id) : b = b' := by
  revert h
  cases b <;> cases b' <;> decide

theorem BuiltIn.id_mem_checkedIds {b : BuiltIn} (h : b.isChecked = true) :
    b.id ∈ Rule.checkedIds :=
  List.mem_map.2 ⟨b, List.mem_filter.2 ⟨by cases b <;> decide, h⟩, rfl⟩

/-- The rule for a band of remaining lifetime has a check, and not that for invalid certificates. -/
theorem Expiry.isChecked_of_rule? {e : Expiry} {b : BuiltIn} (h : e.rule? = some b) :
    b.isChecked = true ∧ b ≠ .invalidCertificate := by
  unfold rule? at h
  split at h <;> cases h <;> decide

namespace Detection

section
variable {rules : List Rule} {r : Rule} (policies : List Policy) (a : Asset)

/-- The check of a built-in rule is silenced if it is the rule's own, and stays otherwise. -/
theorem whenOn_cut (hids : (rules.map (·.id)).Nodup) (hr : r ∈ rules) (b : BuiltIn)
    (condition : Bool) (d : Draft) :
    Cut (whenOn r.alone b condition d) (whenOn (Rule.toggle r.id true rules) b condition d)
      (whenOn (Rule.toggle r.id false rules) b condition d) := by
  by_cases hid : r.id = b.id
  · have hon := Rule.isOn_toggle_self hids hr true
    have hoff := Rule.isOn_toggle_self hids hr false
    rw [hid] at hon hoff
    cases condition <;> simp [whenOn, Rule.isOn_alone, hid, hon, hoff, Cut.whole]
  · have hon := Rule.isOn_toggle_of_ne hid true rules
    have hoff := Rule.isOn_toggle_of_ne hid false rules
    simp only [whenOn, Rule.isOn_alone, hon, hoff, hid]
    simp [Cut.nil]

/-- A rule has at most one check of its own. -/
theorem whenOn_alone_or {b b' : BuiltIn} (hne : b ≠ b') (condition condition' : Bool)
    (d d' : Draft) :
    whenOn r.alone b condition d = [] ∨ whenOn r.alone b' condition' d' = [] := by
  by_cases hid : r.id = b.id
  · have hid' : r.id ≠ b'.id := fun hid' => hne (BuiltIn.id_inj (hid.symm.trans hid'))
    exact .inr (by simp [whenOn, Rule.isOn_alone, hid'])
  · exact .inl (by simp [whenOn, Rule.isOn_alone, hid])

theorem checkDrafts_cut (hids : (rules.map (·.id)).Nodup) (hr : r ∈ rules) (facts : Facts) :
    Cut (checkDrafts r.alone policies a facts)
      (checkDrafts (Rule.toggle r.id true rules) policies a facts)
      (checkDrafts (Rule.toggle r.id false rules) policies a facts) := by
  cases facts with
  | certificate c =>
    refine Cut.append ?_ (whenOn_cut hids hr _ _ _) ?_
    · cases (Expiry.ofDays c.daysUntilExpiry).rule? with
      | some b => exact whenOn_cut hids hr _ _ _
      | none => exact .nil []
    · cases hband : (Expiry.ofDays c.daysUntilExpiry).rule? with
      | some b => exact whenOn_alone_or (Expiry.isChecked_of_rule? hband).2 _ _ _ _
      | none => exact .inl rfl
  | domain d =>
    exact (whenOn_cut hids hr _ _ _).append (whenOn_cut hids hr _ _ _)
      (whenOn_alone_or (by decide) _ _ _ _)
  | ip f =>
    exact (whenOn_cut hids hr _ _ _).append (whenOn_cut hids hr _ _ _)
      (whenOn_alone_or (by decide) _ _ _ _)

theorem genericFindings_append (rules rules' : List Rule) (facts : Facts) :
    genericFindings (rules ++ rules') policies a facts = do
      return (← genericFindings rules policies a facts) ++
        (← genericFindings rules' policies a facts) := by
  unfold genericFindings
  rw [List.filter_append, List.mapM_append]
  cases (rules.filter (isGeneric a)).mapM (ruleFindings policies a facts) with
  | error e => rfl
  | ok found =>
    cases (rules'.filter (isGeneric a)).mapM (ruleFindings policies a facts) with
    | error e => rfl
    | ok found' => simp [bind, Except.bind, pure, Except.pure]

theorem genericFindings_singleton (q : Rule) (facts : Facts) :
    genericFindings [q] policies a facts =
      if isGeneric a q then ruleFindings policies a facts q else .ok [] := by
  unfold genericFindings
  by_cases hgeneric : isGeneric a q = true
  · rw [List.filter_cons_of_pos hgeneric, List.filter_nil, List.mapM_cons, List.mapM_nil,
      if_pos hgeneric]
    cases ruleFindings policies a facts q with
    | error e => rfl
    | ok fs => simp [bind, Except.bind, pure, Except.pure]
  · rw [List.filter_cons_of_neg hgeneric, if_neg hgeneric]
    rfl

/-- What a rule is evaluated to by itself. -/
theorem genericFindings_alone {facts : Facts} {fs : List Finding}
    (h : genericFindings r.alone policies a facts = .ok fs) :
    fs = [] ∨ ∃ f, fs = [f] ∧ (genericDraft policies a facts r).written = .ok f ∧
      r.id ∉ Rule.checkedIds ∧ r.condition.assetType = a.type ∧
      r.condition.holds facts.evaluated = .ok true := by
  rw [Rule.alone, genericFindings_singleton] at h
  split at h
  · next hgeneric =>
    have happlies : r.id ∉ Rule.checkedIds ∧ r.condition.assetType = a.type := by
      simpa [isGeneric] using hgeneric
    obtain ⟨holds, hholds, h⟩ := bind_eq_ok.1 h
    cases holds with
    | false =>
      cases h
      exact .inl rfl
    | true =>
      obtain ⟨f, hf, h⟩ := bind_eq_ok.1 h
      cases h
      exact .inr ⟨f, rfl, hf, happlies.1, happlies.2, hholds⟩
  · cases h
    exact .inl rfl

theorem genericFindings_cut (hids : (rules.map (·.id)).Nodup) (hr : r ∈ rules) (facts : Facts) :
    CutOut (genericFindings r.alone policies a facts)
      (genericFindings (Rule.toggle r.id true rules) policies a facts)
      (genericFindings (Rule.toggle r.id false rules) policies a facts) := by
  obtain ⟨before, after, -, htoggle⟩ := Rule.toggle_split hids hr
  have hsingle : ∀ fs, genericFindings r.alone policies a facts = .ok fs → fs.length ≤ 1 := by
    intro fs hfs
    rcases genericFindings_alone policies a hfs with rfl | ⟨f, rfl, -⟩ <;> simp
  have hoff : genericFindings [{ r with enabled := false }] policies a facts = .ok [] := by
    simp [genericFindings_singleton, isGeneric]
  have hon : genericFindings [{ r with enabled := true }] policies a facts =
      genericFindings r.alone policies a facts := rfl
  rw [htoggle, htoggle, ← List.singleton_append, ← List.singleton_append (l := after),
    genericFindings_append, genericFindings_append, genericFindings_append,
    genericFindings_append, hoff, hon]
  cases genericFindings before policies a facts with
  | error e => exact .rest e e _
  | ok fs =>
    cases hgeneric : genericFindings r.alone policies a facts with
    | error e => exact .removed e e _
    | ok gs =>
      cases genericFindings after policies a facts with
      | error e => exact .rest e e _
      | ok hs => exact .ok ⟨hsingle gs hgeneric, fs, hs, by simp, rfl⟩

theorem whenOn_alone_of_generic (h : r.id ∉ Rule.checkedIds) {b : BuiltIn} (hb : b.isChecked = true)
    (condition : Bool) (d : Draft) : whenOn r.alone b condition d = [] := by
  have hid : r.id ≠ b.id := fun hid => h (hid ▸ BuiltIn.id_mem_checkedIds hb)
  simp [whenOn, Rule.isOn_alone, hid]

/-- A rule without a check of its own finds nothing by a check. -/
theorem checkDrafts_alone_of_generic (h : r.id ∉ Rule.checkedIds) (facts : Facts) :
    checkDrafts r.alone policies a facts = [] := by
  cases facts with
  | certificate c =>
    have hvalid := whenOn_alone_of_generic h (b := .invalidCertificate) rfl
    unfold checkDrafts certificateDrafts
    simp only [hvalid, List.append_nil]
    cases hband : (Expiry.ofDays c.daysUntilExpiry).rule? with
    | some b => exact whenOn_alone_of_generic h (Expiry.isChecked_of_rule? hband).1 _ _
    | none => rfl
  | domain d =>
    unfold checkDrafts domainDrafts
    simp only [whenOn_alone_of_generic h (b := .missingSpf) rfl,
      whenOn_alone_of_generic h (b := .missingDmarc) rfl, List.append_nil]
  | ip f =>
    unfold checkDrafts ipDrafts
    simp only [whenOn_alone_of_generic h (b := .maliciousIp) rfl,
      whenOn_alone_of_generic h (b := .torExit) rfl, List.append_nil]

theorem genericFindings_alone_of_checked (h : r.id ∈ Rule.checkedIds) (facts : Facts) :
    genericFindings r.alone policies a facts = .ok [] := by
  rw [Rule.alone, genericFindings_singleton, if_neg (by simp [isGeneric, h])]

/-- **The findings on an asset with a rule and without it.** -/
theorem findings_cut (hids : (rules.map (·.id)).Nodup) (hr : r ∈ rules) (facts : Option Facts) :
    CutOut (findings r.alone policies a facts)
      (findings (Rule.toggle r.id true rules) policies a facts)
      (findings (Rule.toggle r.id false rules) policies a facts) := by
  cases facts with
  | none => exact .ok (.nil [])
  | some facts =>
    refine CutOut.append ((checkDrafts_cut policies a hids hr facts).mapM Draft.written)
      (genericFindings_cut policies a hids hr facts) ?_
    by_cases hchecked : r.id ∈ Rule.checkedIds
    · exact .inr (genericFindings_alone_of_checked policies a hchecked facts)
    · rw [checkFindings, checkDrafts_alone_of_generic policies a hchecked facts]
      exact .inl rfl

/-- What a rule finds on an asset: what its own check yields if it has one, and otherwise what it
comes to if its condition holds. -/
inductive FoundBy (facts : Facts) (r : Rule) (f : Finding) : Prop
  | checked (hid : r.id ∈ Rule.checkedIds) {d : Draft}
    (hd : d ∈ checkDrafts r.alone policies a facts) (written : d.written = .ok f)
  | evaluated (hid : r.id ∉ Rule.checkedIds) (htype : r.condition.assetType = a.type)
    (holds : r.condition.holds facts.evaluated = .ok true)
    (written : (genericDraft policies a facts r).written = .ok f)

theorem foundBy_of_mem {facts : Facts} {fs : List Finding}
    (h : findings r.alone policies a (some facts) = .ok fs) {f : Finding} (hf : f ∈ fs) :
    FoundBy policies a facts r f := by
  obtain ⟨checked, hchecked, h⟩ := bind_eq_ok.1 h
  obtain ⟨gs, hgs, h⟩ := bind_eq_ok.1 h
  cases h
  rcases List.mem_append.1 hf with hf | hf
  · obtain ⟨d, hd, hwritten⟩ := exists_of_mapM_eq_ok hchecked hf
    by_cases hid : r.id ∈ Rule.checkedIds
    · exact .checked hid hd hwritten
    · rw [checkDrafts_alone_of_generic policies a hid facts] at hd
      cases hd
  · rcases genericFindings_alone policies a hgs with rfl | ⟨g, rfl, hwritten, hid, htype, holds⟩
    · cases hf
    · rw [List.mem_singleton.1 hf]
      exact .evaluated hid htype holds hwritten

end
end Detection

/-! ## The passes -/

/-- What two passes make of an asset, but for the numbers: what one finds and the other leaves out
stands between what both find. -/
structure Part where
  asset : Asset
  before : List Violation
  removed : List Violation
  after : List Violation

namespace Part

/-- What the pass with the rule finds. -/
def full (p : Part) : List Violation := p.before ++ p.removed ++ p.after

/-- What the pass without the rule finds. -/
def rest (p : Part) : List Violation := p.before ++ p.after

/-- The pass without the rule finds nothing that the other does not find. -/
theorem rest_sublist (parts : List Part) :
    (parts.flatMap rest).Sublist (parts.flatMap full) := by
  induction parts with
  | nil => exact .slnil
  | cons p parts ih =>
    have hp : p.rest.Sublist p.full :=
      (List.sublist_append_left p.before p.removed).append_right p.after
    exact hp.append ih

/-- What is left out is what the rule finds on the asset, one violation at most. -/
structure Of (now : Instant) (inv : Inventory) (policies : List Policy) (r : Rule) (p : Part) :
    Prop where
  single : p.removed.length ≤ 1
  own : p.asset.share now inv r.alone policies = .ok p.removed
  found : ∀ v ∈ p.removed, ∃ facts f, inv.factsOf? p.asset = some facts ∧
    Detection.FoundBy policies p.asset facts r f ∧ v = (f.filed now 0 0).unnumbered

end Part

theorem share_cut (now : Instant) (inv : Inventory) {rules : List Rule} (policies : List Policy)
    {r : Rule} (hids : (rules.map (·.id)).Nodup) (hr : r ∈ rules) (a : Asset) :
    CutOut (a.share now inv r.alone policies)
      (a.share now inv (Rule.toggle r.id true rules) policies)
      (a.share now inv (Rule.toggle r.id false rules) policies) := by
  unfold Asset.share
  rw [Detection.share_eq, Detection.share_eq, Detection.share_eq]
  exact (Detection.findings_cut policies a hids hr (inv.factsOf? a)).map _

section
variable {now : Instant} {inv : Inventory} {rules : List Rule} {policies : List Policy} {r : Rule}

theorem found_of_share {a : Asset} {vs : List Violation}
    (h : a.share now inv r.alone policies = .ok vs) {v : Violation} (hv : v ∈ vs) :
    ∃ facts f, inv.factsOf? a = some facts ∧ Detection.FoundBy policies a facts r f ∧
      v = (f.filed now 0 0).unnumbered := by
  rw [Asset.share, Detection.share_eq] at h
  obtain ⟨fs, hfs, rfl⟩ := map_eq_ok.1 h
  obtain ⟨f, hf, rfl⟩ := List.mem_map.1 hv
  cases hfacts : inv.factsOf? a with
  | none =>
    rw [hfacts] at hfs
    cases hfs
    cases hf
  | some facts =>
    rw [hfacts] at hfs
    exact ⟨facts, f, rfl, Detection.foundBy_of_mem policies a hfs hf, rfl⟩

/-- The parts of a pass, asset by asset. -/
theorem parts_of_shares (hids : (rules.map (·.id)).Nodup) (hr : r ∈ rules) {as : List Asset}
    {vss : List (List Violation)}
    (h : as.mapM (fun a : Asset => a.share now inv (Rule.toggle r.id true rules) policies) =
      .ok vss) :
    ∃ parts : List Part, parts.map (·.asset) = as ∧ (∀ p ∈ parts, p.Of now inv policies r) ∧
      vss = parts.map Part.full ∧
      as.mapM (fun a : Asset => a.share now inv (Rule.toggle r.id false rules) policies) =
        .ok (parts.map Part.rest) := by
  induction as generalizing vss with
  | nil =>
    cases h
    exact ⟨[], rfl, by simp, rfl, rfl⟩
  | cons a as ih =>
    rw [List.mapM_cons] at h
    obtain ⟨vs, hvs, h⟩ := bind_eq_ok.1 h
    obtain ⟨vss, hvss, h⟩ := bind_eq_ok.1 h
    cases h
    obtain ⟨parts, hassets, hparts, rfl, hrest⟩ := ih hvss
    have hcut := share_cut now inv policies hids hr a
    rw [hvs] at hcut
    generalize hown : a.share now inv r.alone policies = own at hcut
    generalize hoff : a.share now inv (Rule.toggle r.id false rules) policies = off at hcut
    cases hcut with
    | @ok removed _ rest cut =>
      obtain ⟨hsingle, before, after, rfl, rfl⟩ := cut
      refine ⟨⟨a, before, removed, after⟩ :: parts, congrArg _ hassets,
        List.forall_mem_cons.2 ⟨⟨hsingle, hown, fun v hv => found_of_share hown hv⟩, hparts⟩, rfl,
        mapM_cons_eq_ok hoff hrest⟩

end

namespace ViolationStore

section
variable (now : Instant) (inv : Inventory) (rules : List Rule) (policies : List Policy)

/-- A pass gives the shares of all assets one after the other, or the first fault among them. -/
theorem checkAssets_shares (as : List Asset) (s : ViolationStore) :
    (s.checkAssets now inv rules policies as).2.map (·.map (·.unnumbered)) =
      (as.mapM fun a : Asset => a.share now inv rules policies).map List.flatten := by
  induction as generalizing s with
  | nil => rfl
  | cons a as ih =>
    have hshare := checkAsset_share now inv rules policies a s
    rw [List.mapM_cons, ← hshare]
    unfold checkAssets
    generalize s.checkAsset now inv rules policies a = result
    obtain ⟨s₁, part⟩ := result
    cases part with
    | error f => rfl
    | ok vs =>
      have hlater := ih s₁
      simp only
      generalize (s₁.checkAssets now inv rules policies as).2 = later at hlater ⊢
      generalize as.mapM (fun a : Asset => a.share now inv rules policies) = shares at hlater ⊢
      cases later with
      | error f =>
        cases shares with
        | error g =>
          cases hlater
          rfl
        | ok vss => cases hlater
      | ok vs' =>
        cases shares with
        | error g => cases hlater
        | ok vss =>
          have hflatten : vs'.map (·.unnumbered) = vss.flatten := Except.ok.inj hlater
          simp [Except.map, bind, Except.bind, pure, Except.pure, hflatten]

theorem detect_shares (s : ViolationStore) :
    (s.detect now inv rules policies).2.map (·.map (·.unnumbered)) =
      (inv.assets.mapM fun a : Asset => a.share now inv rules policies).map List.flatten :=
  checkAssets_shares now inv rules policies inv.assets s

/-- A pass returns if there is a share for each asset. -/
theorem detect_returns_iff (s : ViolationStore) :
    (∃ vs, (s.detect now inv rules policies).2 = .ok vs) ↔
      ∀ a ∈ inv.assets, ∃ vs, a.share now inv rules policies = .ok vs := by
  have hshares := detect_shares now inv rules policies s
  constructor
  · rintro ⟨vs, hvs⟩
    rw [hvs] at hshares
    obtain ⟨vss, hvss, -⟩ := map_eq_ok.1 hshares.symm
    exact forall_of_mapM_eq_ok hvss
  · intro h
    obtain ⟨vss, hvss⟩ := mapM_eq_ok_of_forall h
    rw [hvss] at hshares
    obtain ⟨vs, hvs, -⟩ := map_eq_ok.1 hshares
    exact ⟨vs, hvs⟩

end

/-- A pass with a rule switched on and one with it switched off, on whatever is on file. -/
structure Switched (now : Instant) (inv : Inventory) (rules : List Rule) (policies : List Policy)
    (r : Rule) (s s' : ViolationStore) : Prop where
  /-- The pass with the rule returns exactly if the passes without it and with it alone do. -/
  returns : (∃ vs, (s.detect now inv (Rule.toggle r.id true rules) policies).2 = .ok vs) ↔
    (∃ vs, (s.detect now inv r.alone policies).2 = .ok vs) ∧
      ∃ vs, (s'.detect now inv (Rule.toggle r.id false rules) policies).2 = .ok vs
  /-- Then the pass without the rule leaves out, asset by asset, what the rule finds, and gives the
  rest as it was and in its order. -/
  removes : ∀ vs, (s.detect now inv (Rule.toggle r.id true rules) policies).2 = .ok vs →
    ∃ (parts : List Part) (vs' : List Violation),
      (s'.detect now inv (Rule.toggle r.id false rules) policies).2 = .ok vs' ∧
      parts.map (·.asset) = inv.assets ∧ (∀ p ∈ parts, p.Of now inv policies r) ∧
      vs.map (·.unnumbered) = parts.flatMap Part.full ∧
      vs'.map (·.unnumbered) = parts.flatMap Part.rest ∧
      (vs'.map (·.unnumbered)).Sublist (vs.map (·.unnumbered))

section
variable {rules : List Rule} {r : Rule}

/-- **Switching a rule off filters out exactly what it finds.** -/
theorem detect_switched (hids : (rules.map (·.id)).Nodup) (hr : r ∈ rules) (now : Instant)
    (inv : Inventory) (policies : List Policy) (s s' : ViolationStore) :
    Switched now inv rules policies r s s' := by
  constructor
  · rw [detect_returns_iff, detect_returns_iff, detect_returns_iff, ← forall₂_and]
    exact forall₂_congr fun a _ => (share_cut now inv policies hids hr a).ok_iff
  · intro vs hvs
    have hon := detect_shares now inv (Rule.toggle r.id true rules) policies s
    have hoff := detect_shares now inv (Rule.toggle r.id false rules) policies s'
    rw [hvs] at hon
    obtain ⟨vss, hvss, hflatten⟩ := map_eq_ok.1 hon.symm
    obtain ⟨parts, hassets, hparts, rfl, hrests⟩ := parts_of_shares hids hr hvss
    rw [hrests] at hoff
    obtain ⟨vs', hvs', hflatten'⟩ := map_eq_ok.1 hoff
    have hfull : vs.map (·.unnumbered) = parts.flatMap Part.full := hflatten.symm
    have hrest : vs'.map (·.unnumbered) = parts.flatMap Part.rest := hflatten'
    refine ⟨parts, vs', hvs', hassets, hparts, hfull, hrest, ?_⟩
    rw [hfull, hrest]
    exact Part.rest_sublist parts

end

/-- The rule for exits of the Tor network, among the built-in ones. -/
theorem detect_switched_torExit :
    (Rule.standard.map (·.id)).Nodup ∧ BuiltIn.torExit.rule true ∈ Rule.standard ∧
      Switched ⟨0⟩ .mixed Rule.standard [] (BuiltIn.torExit.rule true) empty empty := by
  have hids : (Rule.standard.map (·.id)).Nodup := by decide
  have hr : BuiltIn.torExit.rule true ∈ Rule.standard :=
    List.mem_map.2 ⟨.torExit, by decide, rfl⟩
  exact ⟨hids, hr, detect_switched hids hr ⟨0⟩ .mixed [] empty empty⟩

/-- A rule that cannot be evaluated takes away what the others find, and gives it back when it is
switched off. -/
theorem detect_switched_lost :
    let rules := Rule.standard ++ [Rule.uncountable]
    let pass := fun enabled =>
      (empty.detect ⟨0⟩ Inventory.mixed (Rule.toggle Rule.uncountable.id enabled rules) []).2
    (rules.map (·.id)).Nodup ∧ (pass true).toOption = none ∧
      (pass false).toOption.map (·.map (·.title)) = some ["Tor Exit Node Detected"] := by
  decide +kernel

end ViolationStore
end Compliance
