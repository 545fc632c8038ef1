import Compliance.Asset.Inventory
import Compliance.Detection.Rule
import Compliance.Value.Text
import Compliance.Violation.Store

/-!
# Detection

The findings of one pass over the inventory, asset by asset, as `run_detection` and `check_asset` of
the detector make them. The findings for an asset depend on its facts, the rules and the policies
alone; filing them is a step of its own. A built-in rule with a check of its own only switches that
check; every other rule that is on is evaluated over the record of the facts. What is found is
drafted first; its evidence is the facts in JSON. A rule that cannot be evaluated ends the pass, and
so does evidence with a number that is too long to be written; what was found on the assets before
stays on file.
-/
namespace Compliance

/-- What violations are filed under when no policy fits. -/
def systemPolicyId : String := "system"

/-- A finding whose evidence is still to be written. -/
structure Draft where
  policyId : String
  policyName : String
  assetId : String
  assetType : AssetType
  assetIdentifier : String
  severity : Severity
  title : String
  description : String
  evidenceType : EvidenceType
  evidenceDescription : String
  evidenceData : Value
  remedy : String

/-- The finding of a draft, with its evidence written. -/
def Draft.finding (d : Draft) (data : String) : Finding where
  policyId := d.policyId
  policyName := d.policyName
  assetId := d.assetId
  assetType := d.assetType
  assetIdentifier := d.assetIdentifier
  severity := d.severity
  title := d.title
  description := d.description
  evidence := [⟨d.evidenceType, d.evidenceDescription, data⟩]
  remedy := d.remedy

/-- Writes the evidence of a draft (`_build_violation`). A title that names a number of days has
that number in its evidence too, so that what cannot be put into a title is refused here. -/
def Draft.written (d : Draft) : Except Pattern.Fault Finding :=
  match d.evidenceData.writtenAs Value.json with
  | .ok data => .ok (d.finding data)
  | .error _ => .error .unwritable

theorem Draft.written_eq_ok_iff {d : Draft} {f : Finding} :
    d.written = .ok f ↔ d.evidenceData.isWritable = true ∧ f = d.finding d.evidenceData.json := by
  unfold written Value.writtenAs
  cases d.evidenceData.isWritable <;> simp [eq_comm]

theorem Draft.written_eq_error_iff {d : Draft} {e : Pattern.Fault} :
    d.written = .error e ↔ d.evidenceData.isWritable = false ∧ e = .unwritable := by
  unfold written Value.writtenAs
  cases d.evidenceData.isWritable <;> simp [eq_comm]

namespace Asset

/-- A finding on an asset, to be filed under a policy if there is one (`_build_violation`). -/
def draft (a : Asset) (policy : Option Policy) (fallbackName : String) (severity : Severity)
    (title description : String) (evidenceType : EvidenceType) (evidenceDescription : String)
    (evidenceData : Value) (remedy : String) : Draft where
  policyId := match policy with | some p => p.id | none => systemPolicyId
  policyName := match policy with | some p => p.name | none => fallbackName
  assetId := a.identifier
  assetType := a.type
  assetIdentifier := a.identifier
  severity := severity
  title := title
  description := description
  evidenceType := evidenceType
  evidenceDescription := evidenceDescription
  evidenceData := evidenceData
  remedy := remedy

end Asset

/-- The built-in rule for a band of remaining lifetime. -/
def Expiry.rule? (e : Expiry) : Option BuiltIn :=
  match e.severity with
  | .critical => some .expiryCritical
  | .high => some .expiryHigh
  | .medium => some .expiryMedium
  | _ => none

namespace Detection

variable (rules : List Rule) (policies : List Policy) (a : Asset)

/-- The draft, if a condition holds and its built-in rule is on. -/
def whenOn (b : BuiltIn) (condition : Bool) (d : Draft) : List Draft :=
  if condition && Rule.isOn b.id rules then [d] else []

theorem eq_of_mem_whenOn {rules : List Rule} {b : BuiltIn} {condition : Bool} {d d' : Draft}
    (h : d' ∈ whenOn rules b condition d) : d' = d := by
  unfold whenOn at h
  split at h
  · exact List.mem_singleton.1 h
  · cases h

/-- A certificate that soon runs out, or that is not valid (`_check_certificate`). -/
def certificateDrafts (c : CertificateFacts) : List Draft :=
  let data := c.toValue
  let e := Expiry.ofDays c.daysUntilExpiry
  let days := toString e.daysLeft
  let expiring :=
    match e.rule? with
    | some b =>
      whenOn rules b e.isExpiring
        (a.draft (Policy.firstOf? .soc2 policies) "Certificate Policy" e.severity
          ("Certificate Expiring in " ++ days ++ " Days")
          ("SSL/TLS certificate for " ++ c.domain ++ " will expire in " ++ days ++
            " days. Immediate renewal is required.")
          .certificate "Certificate expiration info" data "Renew SSL/TLS certificate")
    | none => []
  expiring ++ whenOn rules .invalidCertificate (!c.isValid)
    (a.draft none "Certificate Policy" .critical "Invalid SSL/TLS Certificate"
      ("SSL/TLS certificate for " ++ c.domain ++
        " is invalid. This may cause security warnings and service disruptions.")
      .certificate "Certificate validation failure" data "Replace with valid certificate")

/-- A domain without one of the records against forged mail (`_check_domain`). -/
def domainDrafts (d : DomainFacts) : List Draft :=
  let data := Value.list (d.txtRecords.map DnsRecord.toValue)
  let missing := fun (b : BuiltIn) (isMissing : Bool) (record : String) =>
    whenOn rules b isMissing
      (a.draft (Policy.firstOf? .soc2 policies) "Email Security Policy" .high
        ("Missing " ++ record ++ " Record")
        ("Domain " ++ d.domain ++ " is missing " ++ record ++
          " record. This increases the risk of email spoofing and phishing attacks.")
        .config "DNS TXT records" data ("Add " ++ record ++ " record to domain DNS"))
  missing .missingSpf (!d.mailSecurity.spf) "SPF" ++
    missing .missingDmarc (!d.mailSecurity.dmarc) "DMARC"

/-- An address with a bad name, or an exit of the Tor network (`_check_ip`). -/
def ipDrafts (f : IpFacts) : List Draft :=
  let data := f.toValue
  let policy := Policy.firstOf? .custom policies
  whenOn rules .maliciousIp (f.reputation = .malicious)
      (a.draft policy "IP Reputation Policy" .critical "Malicious IP Address Detected"
        ("IP address " ++ f.ip ++
          " has a malicious reputation. Immediate investigation required.")
        .apiResponse "IP reputation data" data "Block IP at firewall level") ++
    whenOn rules .torExit f.isTor
      (a.draft policy "Network Security Policy" .high "Tor Exit Node Detected"
        ("IP address " ++ f.ip ++ " is a known Tor exit node. This may indicate attempts to " ++
          "hide the source of network traffic.")
        .apiResponse "IP classification data" data "Review and potentially block Tor traffic")

/-- What the checks for the type of the facts come to (the dispatch of `check_asset`). -/
def checkDrafts : Facts → List Draft
  | .certificate c => certificateDrafts rules policies a c
  | .domain d => domainDrafts rules policies a d
  | .ip f => ipDrafts rules policies a f

/-- Whether a rule is evaluated over the facts of an asset. -/
def isGeneric (r : Rule) : Bool :=
  r.enabled && !Rule.checkedIds.contains r.id && r.condition.assetType = a.type

/-- What a rule that holds of an asset comes to. -/
def genericDraft (facts : Facts) (r : Rule) : Draft :=
  a.draft (Policy.firstOf? r.framework policies) r.name r.severity r.name
    (r.description ++ " (" ++ a.identifier ++ ")")
    .other ("Facts matched by rule " ++ r.id) facts.evaluated "Review and remediate violation"

/-- The finding of a rule without a check of its own, if its condition holds. -/
def ruleFindings (facts : Facts) (r : Rule) : Except Pattern.Fault (List Finding) := do
  if ← r.condition.holds facts.evaluated then
    return [← (genericDraft policies a facts r).written]
  else
    return []

/-- The findings of the rules without a check of their own, one rule after the other
(`_check_generic_rules`). -/
def genericFindings (facts : Facts) : Except Pattern.Fault (List Finding) := do
  return (← (rules.filter (isGeneric a)).mapM (ruleFindings policies a facts)).flatten

/-- The findings of the checks. -/
def checkFindings (facts : Facts) : Except Pattern.Fault (List Finding) :=
  (checkDrafts rules policies a facts).mapM Draft.written

/-- The findings on an asset, those of the checks first; there are none while nothing is known about
it. -/
def findings (facts : Option Facts) : Except Pattern.Fault (List Finding) :=
  match facts with
  | some f => do
    return (← checkFindings rules policies a f) ++ (← genericFindings rules policies a f)
  | none => .ok []

end Detection

/-- Checks one asset and files what it yields (`check_asset`). Nothing is filed if a rule cannot be
evaluated or evidence cannot be written. -/
def ViolationStore.checkAsset (now : Calendar.Instant) (inv : Inventory) (rules : List Rule)
    (policies : List Policy) (a : Asset) (s : ViolationStore) :
    ViolationStore × Except Pattern.Fault (List Violation) :=
  match Detection.findings rules policies a (inv.factsOf? a) with
  | .ok fs =>
    let (s, vs) := s.fileAll now fs
    (s, .ok vs)
  | .error f => (s, .error f)

/-- Checks assets one after the other, up to one for which the check comes to a fault. -/
def ViolationStore.checkAssets (now : Calendar.Instant) (inv : Inventory) (rules : List Rule)
    (policies : List Policy) :
    List Asset → ViolationStore → ViolationStore × Except Pattern.Fault (List Violation)
  | [], s => (s, .ok [])
  | a :: rest, s =>
    match s.checkAsset now inv rules policies a with
    | (s, .ok vs) =>
      let (s, later) := s.checkAssets now inv rules policies rest
      (s, later.map (vs ++ ·))
    | (s, .error f) => (s, .error f)

/-- One pass of detection over the whole inventory (`run_detection`). -/
def ViolationStore.detect (now : Calendar.Instant) (inv : Inventory) (rules : List Rule)
    (policies : List Policy) (s : ViolationStore) :
    ViolationStore × Except Pattern.Fault (List Violation) :=
  s.checkAssets now inv rules policies inv.assets

end Compliance
