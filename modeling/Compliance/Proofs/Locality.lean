import Compliance.Proofs.Interruption
import Compliance.Proofs.Lifecycle
import Compliance.Proofs.Traversal

/-!
# Detection is local to each asset

What a check makes of an asset is its share: it depends on the type and the identifier of the asset,
the facts for them, the rules and the policies, and on nothing else that is in the inventory or on
file. A pass over the inventory gives the parts of the assets one after the other, each its share
with numbers, and adds just these to what is on file; changes to other assets and to other facts
leave the share of an asset as it is.

The exceptions are a rule whose pattern cannot be read for another reason than its form, a number
with too many digits in what a rule searches as text, and one in what is to be shown as evidence.
Each ends the pass at the first asset that it concerns, and the parts of the assets before are on
file but are not given back. Main statement: `detect_local`.
-/
namespace Compliance

open Calendar

/-! ## The share of an asset -/

/-- A violation without the numbers that it got when it was filed. -/
def Violation.unnumbered (v : Violation) : Violation :=
  { v with id := "", remediation := v.remediation.map fun r => { r with id := "" } }

theorem ViolationStore.fileAll_unnumbered (now : Instant) (fs : List Finding)
    (s : ViolationStore) :
    (s.fileAll now fs).2.map (·.unnumbered) = fs.map fun f => (f.filed now 0 0).unnumbered := by
  induction fs generalizing s with
  | nil => rfl
  | cons f fs ih =>
    -- whatever numbers the finding gets, they are not compared
    exact congrArg _ (ih _)

namespace Detection

variable (now : Instant) (rules : List Rule) (policies : List Policy)

/-- The findings on an asset depend on its type and its identifier only. -/
theorem findings_congr {a b : Asset} (htype : a.type = b.type)
    (hidentifier : a.identifier = b.identifier) (facts : Option Facts) :
    findings rules policies a facts = findings rules policies b facts := by
  obtain ⟨_, type, identifier, _, _, _, _⟩ := a
  obtain ⟨_, _, _, _, _, _, _⟩ := b
  subst htype hidentifier
  rfl

/-- Any asset of a type and identifier. -/
def anyAsset (type : AssetType) (identifier : String) : Asset :=
  ⟨"", type, identifier, "", none, .unknown, .null⟩

/-- What a check makes of any asset of a type and identifier, but for the numbers. -/
def share (type : AssetType) (identifier : String) (facts : Option Facts) :
    Except Pattern.Fault (List Violation) :=
  (findings rules policies (anyAsset type identifier) facts).map
    (·.map fun f => (f.filed now 0 0).unnumbered)

theorem share_eq (a : Asset) (facts : Option Facts) :
    share now rules policies a.type a.identifier facts =
      (findings rules policies a facts).map (·.map fun f => (f.filed now 0 0).unnumbered) := by
  have hany : findings rules policies (anyAsset a.type a.identifier) facts =
      findings rules policies a facts := findings_congr rules policies rfl rfl facts
  rw [share, hany]

/-! ### What ends a pass -/

/-- Why a condition cannot be decided for the value that it looks at. -/
inductive Undecidable (c : Condition) (actual : Value) : Pattern.Fault → Prop
  /-- Text is searched, and a number in what is searched for or in is too long to be written. -/
  | overlong (operator : c.operator = .contains ∨ c.operator = .regex)
    (number : c.value.isWritable = false ∨ actual.isWritable = false) :
    Undecidable c actual .unwritable
  /-- A pattern is searched for that cannot be read although it is not malformed. -/
  | pattern {f : Pattern.Fault} (operator : c.operator = .regex)
    (unreadable : Pattern.read c.value.toText = .error f) (wellFormed : f ≠ .malformed) :
    Undecidable c actual f

/-- What keeps an asset with some facts from being checked. -/
inductive Stops (rules : List Rule) (policies : List Policy) (a : Asset) (facts : Facts) :
    Pattern.Fault → Prop
  /-- A check finds something, and there is a number in its evidence that is too long. -/
  | check {d : Draft} (found : d ∈ checkDrafts rules policies a facts)
    (overlong : d.evidenceData.isWritable = false) : Stops rules policies a facts .unwritable
  /-- The condition of a rule that is evaluated over the facts cannot be decided. -/
  | condition {r : Rule} {actual : Value} {f : Pattern.Fault} (hr : r ∈ rules)
    (applies : isGeneric a r = true) (looksAt : facts.evaluated.at? r.condition.field = some actual)
    (undecidable : Undecidable r.condition actual f) : Stops rules policies a facts f
  /-- The condition of such a rule holds, and there is a number in the facts, which are its
  evidence, that is too long. -/
  | evidence {r : Rule} (hr : r ∈ rules) (applies : isGeneric a r = true)
    (holds : r.condition.holds facts.evaluated = .ok true)
    (overlong : facts.evaluated.isWritable = false) : Stops rules policies a facts .unwritable

theorem containing_error {actual expected : Value} {f : Pattern.Fault}
    (h : Operator.containing actual expected = .error f) :
    (expected.isWritable = false ∨ actual.isWritable = false) ∧ f = .unwritable := by
  unfold Operator.containing at h
  split at h
  · cases h
  · rcases bind_eq_error.1 h with h | ⟨_, -, h⟩
    · obtain ⟨hlong, rfl⟩ := Operator.searched_eq_error_iff.1 h
      exact ⟨.inl hlong, rfl⟩
    · rcases bind_eq_error.1 h with h | ⟨_, -, h⟩
      · obtain ⟨hlong, rfl⟩ := Operator.searched_eq_error_iff.1 h
        exact ⟨.inr hlong, rfl⟩
      · cases h

theorem matching_error {actual expected : Value} {f : Pattern.Fault}
    (h : Operator.matching actual expected = .error f) :
    (expected.isWritable = false ∨ actual.isWritable = false) ∧ f = .unwritable ∨
      Pattern.read expected.toText = .error f ∧ f ≠ .malformed := by
  unfold Operator.matching at h
  rcases bind_eq_error.1 h with h | ⟨pattern, hpattern, h⟩
  · obtain ⟨hlong, rfl⟩ := Operator.searched_eq_error_iff.1 h
    exact .inl ⟨.inl hlong, rfl⟩
  · obtain ⟨-, rfl⟩ := Operator.searched_eq_ok_iff.1 hpattern
    rcases bind_eq_error.1 h with h | ⟨_, -, h⟩
    · obtain ⟨hlong, rfl⟩ := Operator.searched_eq_error_iff.1 h
      exact .inl ⟨.inr hlong, rfl⟩
    · split at h
      · cases h
      · cases h
      · next g hg hread =>
        cases h
        exact .inr ⟨hread, hg⟩

/-- Only searching text keeps a condition from being evaluated. -/
theorem holds_error {c : Condition} {facts : Value} {f : Pattern.Fault}
    (h : c.holds facts = .error f) :
    ∃ actual, facts.at? c.field = some actual ∧ Undecidable c actual f := by
  unfold Condition.holds at h
  split at h
  · next actual hactual =>
    refine ⟨actual, hactual, ?_⟩
    cases hop : c.operator with
    | contains =>
      rw [hop] at h
      obtain ⟨hlong, rfl⟩ := containing_error h
      exact .overlong (.inl hop) hlong
    | regex =>
      rw [hop] at h
      rcases matching_error h with ⟨hlong, rfl⟩ | ⟨hread, hf⟩
      · exact .overlong (.inr hop) hlong
      · exact .pattern hop hread hf
    | _ =>
      rw [hop] at h
      cases h
  · cases h

theorem checkFindings_error {a : Asset} {facts : Facts} {f : Pattern.Fault}
    (h : checkFindings rules policies a facts = .error f) : Stops rules policies a facts f := by
  obtain ⟨d, hd, hwritten⟩ := exists_of_mapM_eq_error h
  obtain ⟨hlong, rfl⟩ := Draft.written_eq_error_iff.1 hwritten
  exact .check hd hlong

theorem genericFindings_error {a : Asset} {facts : Facts} {f : Pattern.Fault}
    (h : genericFindings rules policies a facts = .error f) : Stops rules policies a facts f := by
  rcases bind_eq_error.1 h with h | ⟨_, -, h⟩
  · obtain ⟨r, hr, h⟩ := exists_of_mapM_eq_error h
    obtain ⟨hmem, happlies⟩ := List.mem_filter.1 hr
    rcases bind_eq_error.1 h with hholds | ⟨holds, hholds, h⟩
    · obtain ⟨actual, hactual, undecidable⟩ := holds_error hholds
      exact .condition hmem happlies hactual undecidable
    · cases holds with
      | false => cases h
      | true =>
        rcases bind_eq_error.1 h with hwritten | ⟨_, -, h⟩
        · obtain ⟨hlong, rfl⟩ := Draft.written_eq_error_iff.1 hwritten
          exact .evidence hmem happlies hholds hlong
        · cases h
  · cases h

theorem findings_error {a : Asset} {facts : Option Facts} {f : Pattern.Fault}
    (h : findings rules policies a facts = .error f) :
    ∃ known, facts = some known ∧ Stops rules policies a known f := by
  cases facts with
  | none => cases h
  | some facts =>
    refine ⟨facts, rfl, ?_⟩
    rcases bind_eq_error.1 h with h | ⟨_, -, h⟩
    · exact checkFindings_error rules policies h
    · rcases bind_eq_error.1 h with h | ⟨_, -, h⟩
      · exact genericFindings_error rules policies h
      · cases h

end Detection

/-- The share of an asset of an inventory. -/
def Asset.share (now : Instant) (inv : Inventory) (rules : List Rule) (policies : List Policy)
    (a : Asset) : Except Pattern.Fault (List Violation) :=
  Detection.share now rules policies a.type a.identifier (inv.factsOf? a)

/-! ## A pass -/

namespace ViolationStore

section
variable (now : Instant) (inv : Inventory) (rules : List Rule) (policies : List Policy)

section
variable {a : Asset}

theorem checkAsset_of_ok {fs : List Finding}
    (h : Detection.findings rules policies a (inv.factsOf? a) = .ok fs) (s : ViolationStore) :
    s.checkAsset now inv rules policies a = ((s.fileAll now fs).1, .ok (s.fileAll now fs).2) := by
  unfold checkAsset
  rw [h]

theorem checkAsset_of_error {f : Pattern.Fault}
    (h : Detection.findings rules policies a (inv.factsOf? a) = .error f) (s : ViolationStore) :
    s.checkAsset now inv rules policies a = (s, .error f) := by
  unfold checkAsset
  rw [h]

end

/-- **A check gives an asset its share**, whatever is on file. -/
theorem checkAsset_share (a : Asset) (s : ViolationStore) :
    (s.checkAsset now inv rules policies a).2.map (·.map (·.unnumbered)) =
      a.share now inv rules policies := by
  rw [Asset.share, Detection.share_eq]
  cases h : Detection.findings rules policies a (inv.factsOf? a) with
  | ok fs =>
    rw [checkAsset_of_ok now inv rules policies h]
    exact congrArg Except.ok (fileAll_unnumbered now fs s)
  | error f =>
    rw [checkAsset_of_error now inv rules policies h]
    rfl

/-- Checks one after the other, each on what the one before leaves on file, and what each gives. -/
inductive Checks :
    List Asset → ViolationStore → List (List Violation) → ViolationStore → Prop
  | nil (s : ViolationStore) : Checks [] s [] s
  | cons {a : Asset} {rest : List Asset} {s s₁ s' : ViolationStore} {part : List Violation}
      {parts : List (List Violation)}
      (check : s.checkAsset now inv rules policies a = (s₁, .ok part))
      (later : Checks rest s₁ parts s') : Checks (a :: rest) s (part :: parts) s'

/-- How a pass ends after some checks: all assets are checked, or something stops the check of the
next one. -/
inductive Ends (s : ViolationStore) (parts : List (List Violation)) :
    List Asset → ViolationStore × Except Pattern.Fault (List Violation) → Prop
  | all : Ends s parts [] (s, .ok parts.flatten)
  | stopped {a : Asset} {rest : List Asset} {facts : Facts} {f : Pattern.Fault}
      (check : s.checkAsset now inv rules policies a = (s, .error f))
      (known : inv.factsOf? a = some facts) (stops : Detection.Stops rules policies a facts f) :
      Ends s parts (a :: rest) (s, .error f)

theorem checkAssets_ends (as : List Asset) (s : ViolationStore) :
    ∃ checked unchecked parts s', as = checked ++ unchecked ∧
      Checks now inv rules policies checked s parts s' ∧
      Ends now inv rules policies s' parts unchecked
        (s.checkAssets now inv rules policies as) := by
  induction as generalizing s with
  | nil => exact ⟨[], [], [], s, rfl, .nil s, .all⟩
  | cons a rest ih =>
    unfold checkAssets
    cases hfindings : Detection.findings rules policies a (inv.factsOf? a) with
    | error f =>
      have hcheck := checkAsset_of_error now inv rules policies hfindings s
      obtain ⟨facts, known, stops⟩ := Detection.findings_error rules policies hfindings
      rw [hcheck]
      exact ⟨[], a :: rest, [], s, rfl, .nil s, .stopped hcheck known stops⟩
    | ok fs =>
      have hcheck := checkAsset_of_ok now inv rules policies hfindings s
      obtain ⟨checked, unchecked, parts, s', hrest, checks, ends⟩ := ih (s.fileAll now fs).1
      rw [hcheck]
      refine ⟨a :: checked, unchecked, _ :: parts, s', congrArg _ hrest, .cons hcheck checks, ?_⟩
      simp only
      generalize (s.fileAll now fs).1.checkAssets now inv rules policies rest = result at ends ⊢
      cases ends with
      | all => exact .all
      | stopped check known stops => exact .stopped check known stops

section
variable {now inv rules policies} {as : List Asset} {s s' : ViolationStore}
  {parts : List (List Violation)}

theorem Checks.shares (h : Checks now inv rules policies as s parts s') :
    as.map (·.share now inv rules policies) =
      parts.map fun part => .ok (part.map (·.unnumbered)) := by
  induction h with
  | nil s => rfl
  | cons check later ih =>
    have hshare := checkAsset_share now inv rules policies
    rw [List.map_cons, List.map_cons, ih, ← hshare, check]
    rfl

theorem Checks.files (h : Checks now inv rules policies as s parts s') :
    s.Files parts.flatten s' := by
  induction h with
  | nil s => exact .nil s
  | cons check later ih => exact (checkAsset_files now inv rules policies _ check).append ih

theorem Checks.numbered (h : Checks now inv rules policies as s parts s') (hs : s.Numbered) :
    s'.Numbered := by
  induction h with
  | nil s => exact hs
  | @cons a _ s s₁ _ _ _ check later ih =>
    obtain ⟨fs, hfs⟩ := checkAsset_filed now s inv rules policies a
    have hs₁ : s₁ = (s.fileAll now fs).1 := (congrArg Prod.fst check).symm.trans hfs
    exact ih (hs₁ ▸ hs.fileAll now fs)

end
end
end ViolationStore

/-! ## Changes of the inventory -/

namespace Inventory

/-- What can be done to an inventory. -/
inductive Change where
  | add (type : AssetType) (identifier organization : String) (metadata : Value)
  | remove (id : String)
  | learn (now : Instant) (f : Facts)

def Change.apply (inv : Inventory) : Change → Inventory
  | .add type identifier organization metadata =>
    (inv.add type identifier organization metadata).1
  | .remove id => inv.remove id
  | .learn now f => inv.setFacts now f

/-- Whether a change is about other assets, or about facts for another type and identifier. -/
def Change.Spares (a : Asset) : Change → Prop
  | .add .. => True
  | .remove id => id ≠ a.id
  | .learn _ f => ¬ (f.type = a.type ∧ f.identifier = a.identifier)

/-- The inventory after changes. -/
def after (inv : Inventory) (cs : List Change) : Inventory := cs.foldl Change.apply inv

/-- An asset stays as it is, with the same facts. -/
structure Keeps (a : Asset) (inv inv' : Inventory) : Prop where
  asset : a ∈ inv.assets → a ∈ inv'.assets
  facts : inv'.factsOf? a = inv.factsOf? a

variable {a : Asset}

theorem find?_replaceFacts {f : Facts} {type : AssetType} {identifier : String}
    (h : ¬ (f.type = type ∧ f.identifier = identifier)) (fs : List Facts) :
    (replaceFacts f fs).find? (fun g => g.type = type && g.identifier = identifier) =
      fs.find? fun g => g.type = type && g.identifier = identifier := by
  have hf : (decide (f.type = type) && decide (f.identifier = identifier)) = false := by
    simpa using h
  induction fs with
  | nil => simp only [replaceFacts, List.find?_cons, hf]
  | cons g fs ih =>
    unfold replaceFacts
    split
    · next hg =>
      rw [List.find?_cons, List.find?_cons, hg.1, hg.2, hf]
    · rw [List.find?_cons, List.find?_cons, ih]

theorem apply_keeps (inv : Inventory) {c : Change} (h : c.Spares a) :
    Keeps a inv (c.apply inv) := by
  cases c with
  | add type identifier organization metadata =>
    simp only [Change.apply, Inventory.add]
    split
    · exact ⟨id, rfl⟩
    · exact ⟨List.mem_append_left _, rfl⟩
  | remove id => exact ⟨fun ha => List.mem_filter.2 ⟨ha, by simpa using Ne.symm h⟩, rfl⟩
  | learn now f =>
    refine ⟨fun ha => ?_, find?_replaceFacts h inv.facts⟩
    have hfor : a.isFor f.type f.identifier = false := by
      simp only [Asset.isFor, Bool.and_eq_false_iff, decide_eq_false_iff_not]
      exact not_and_or.1 fun hf => h ⟨hf.1.symm, hf.2.symm⟩
    exact List.mem_map.2 ⟨a, ha, by rw [hfor]; rfl⟩

theorem after_keeps (inv : Inventory) {cs : List Change} (h : ∀ c ∈ cs, c.Spares a) :
    Keeps a inv (inv.after cs) := by
  induction cs generalizing inv with
  | nil => exact ⟨id, rfl⟩
  | cons c cs ih =>
    have first := apply_keeps inv (h c List.mem_cons_self)
    have later := ih (c.apply inv) fun c hc => h c (List.mem_cons_of_mem _ hc)
    exact ⟨fun ha => later.asset (first.asset ha), later.facts.trans first.facts⟩

end Inventory

/-! ## Locality -/

namespace ViolationStore

section
variable (now : Instant) (inv : Inventory) (rules : List Rule) (policies : List Policy)
  (s : ViolationStore)

/-- A pass that checks some assets, leaves the others, and gives `parts` for those it checks. -/
structure Pass (checked unchecked : List Asset) (parts : List (List Violation))
    (s' : ViolationStore) : Prop where
  assets : inv.assets = checked ++ unchecked
  checks : Checks now inv rules policies checked s parts s'
  ends : Ends now inv rules policies s' parts unchecked (s.detect now inv rules policies)
  /-- Each part is the share of its asset, but for the numbers. -/
  shares : checked.map (·.share now inv rules policies) =
    parts.map fun part => .ok (part.map (·.unnumbered))
  violations : s'.violations = s.violations ++ parts.flatten
  /-- What was on file is found as it was. -/
  untouched : ∀ id v, s.find? id = some v → s'.find? id = some v
  /-- The numbers are new ones. -/
  numbered : s.Numbered → s'.Numbered

/-- Detection looks at each asset by itself. -/
structure Local : Prop where
  pass : ∃ checked unchecked parts s', s.Pass now inv rules policies checked unchecked parts s'
  /-- If there is a share for each asset, the pass gives the parts of all one after the other. -/
  returns : (∀ a ∈ inv.assets, ∃ vs, a.share now inv rules policies = .ok vs) →
    ∃ parts s', s.Pass now inv rules policies inv.assets [] parts s' ∧
      s.detect now inv rules policies = (s', .ok parts.flatten)
  /-- Changes to other assets and other facts leave the share of an asset as it is. -/
  spared : ∀ a ∈ inv.assets, ∀ cs : List Inventory.Change, (∀ c ∈ cs, c.Spares a) →
    a ∈ (inv.after cs).assets ∧
      a.share now (inv.after cs) rules policies = a.share now inv rules policies

theorem detect_pass :
    ∃ checked unchecked parts s', s.Pass now inv rules policies checked unchecked parts s' := by
  obtain ⟨checked, unchecked, parts, s', assets, checks, ends⟩ :=
    checkAssets_ends now inv rules policies inv.assets s
  have files := checks.files
  refine ⟨checked, unchecked, parts, s',
    ⟨assets, checks, ends, checks.shares, files.violations, fun id v hv => ?_, checks.numbered⟩⟩
  unfold find? at hv ⊢
  rw [files.violations, List.find?_append, hv]
  rfl

/-- **Detection is local to each asset.** -/
theorem detect_local : s.Local now inv rules policies := by
  obtain ⟨checked, unchecked, parts, s', pass⟩ := detect_pass now inv rules policies s
  refine ⟨⟨checked, unchecked, parts, s', pass⟩, fun hshares => ?_, fun a ha cs hcs => ?_⟩
  · have hassets := pass.assets
    have ends := pass.ends
    generalize s.detect now inv rules policies = result at ends ⊢
    cases ends with
    | all =>
      rw [List.append_nil] at hassets
      subst hassets
      exact ⟨parts, s', pass, rfl⟩
    | @stopped a rest facts f check known stops =>
      -- the next asset has no share, since its check comes to the fault
      obtain ⟨vs, hvs⟩ := hshares a (by simp [hassets])
      rw [← checkAsset_share now inv rules policies a s', check] at hvs
      cases hvs
  · have keeps := Inventory.after_keeps inv hcs
    exact ⟨keeps.asset ha, by rw [Asset.share, Asset.share, keeps.facts]⟩

end
end ViolationStore

/-- A rule for domains whose pattern repeats a letter more often than can be counted. -/
def Rule.uncountable : Rule :=
  ⟨"parked", "Parked domain", "Domain is parked",
    ⟨.domain, .regex, "registrar", .text "x{4294967295}"⟩, .low, true, .custom⟩

/-- An exit of the Tor network, registered before a domain. -/
def Inventory.mixed : Inventory where
  assets := [⟨"asset-1", .ip, "203.0.113.7", "default", none, .active, .map []⟩,
    ⟨"asset-2", .domain, "example.com", "default", none, .active, .map []⟩]
  facts := [.ip ⟨"203.0.113.7", .good, true, false, false, false, 4, 0, "", "", "", "", none⟩,
    .domain ⟨"example.com", [⟨.txt, "example.com", "v=spf1 -all", 3600⟩,
      ⟨.txt, "_dmarc.example.com", "v=DMARC1; p=reject", 3600⟩], "Example Registrar", [], [], none,
      none⟩]
  issued := 2

/-- The rule ends the pass at the domain: the finding on the address, which the pass gives back when
the domain is not there, is put on file and is not given back. -/
theorem ViolationStore.detect_local_lost :
    let rules := Rule.standard ++ [Rule.uncountable]
    let alone := empty.detect ⟨0⟩ (Inventory.mixed.remove "asset-2") rules []
    let both := empty.detect ⟨0⟩ Inventory.mixed rules []
    alone.2.toOption = some alone.1.violations ∧
      alone.1.violations.map (·.title) = ["Tor Exit Node Detected"] ∧
      both.1.violations = alone.1.violations ∧ both.2.toOption = none := by
  decide +kernel

end Compliance
