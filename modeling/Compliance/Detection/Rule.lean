import Compliance.Detection.Condition
import Compliance.Policy
import Compliance.Vocabulary

/-!
# Detection rules

A rule is a condition with a name, a severity and a switch (`DetectionRule`). The rule set is a
list; where two rules have the same id, the first one speaks for it.
-/
namespace Compliance

structure Rule where
  id : String
  name : String
  description : String
  condition : Condition
  severity : Severity
  enabled : Bool
  framework : Framework

namespace Rule

def toValue (r : Rule) : Value :=
  .record [("id", .text r.id), ("name", .text r.name), ("description", .text r.description),
    ("condition", r.condition.toValue), ("severity", .member r.severity),
    ("enabled", .bool r.enabled), ("framework", .member r.framework)]

/-- The first rule with an id (`get_rule`). -/
def find? (id : String) (rules : List Rule) : Option Rule := rules.find? (·.id = id)

/-- Whether the rule that speaks for an id is switched on (`_rule_enabled`). -/
def isOn (id : String) (rules : List Rule) : Bool := (find? id rules).any (·.enabled)

/-- The rules that are switched on. -/
def enabledOnes (rules : List Rule) : List Rule := rules.filter (·.enabled)

/-- Switches the rule that speaks for an id (`toggle_rule`). -/
def toggle (id : String) (enabled : Bool) : List Rule → List Rule
  | [] => []
  | r :: rest => if r.id = id then { r with enabled } :: rest else r :: toggle id enabled rest

end Rule

/-- The built-in rules. Each but `suspiciousIp` has a check of its own. -/
inductive BuiltIn where
  | expiryCritical
  | expiryHigh
  | expiryMedium
  | invalidCertificate
  | missingSpf
  | missingDmarc
  | maliciousIp
  | suspiciousIp
  | torExit
  deriving DecidableEq

namespace BuiltIn

def all : List BuiltIn :=
  [.expiryCritical, .expiryHigh, .expiryMedium, .invalidCertificate, .missingSpf, .missingDmarc,
    .maliciousIp, .suspiciousIp, .torExit]

def id : BuiltIn → String
  | .expiryCritical => "cert-expiry-critical"
  | .expiryHigh => "cert-expiry-high"
  | .expiryMedium => "cert-expiry-medium"
  | .invalidCertificate => "cert-invalid"
  | .missingSpf => "domain-missing-spf"
  | .missingDmarc => "domain-missing-dmarc"
  | .maliciousIp => "ip-malicious"
  | .suspiciousIp => "ip-suspicious"
  | .torExit => "ip-tor-exit"

def name : BuiltIn → String
  | .expiryCritical => "Certificate Expiring Within 7 Days"
  | .expiryHigh => "Certificate Expiring Within 30 Days"
  | .expiryMedium => "Certificate Expiring Within 60 Days"
  | .invalidCertificate => "Invalid Certificate"
  | .missingSpf => "Domain Missing SPF Record"
  | .missingDmarc => "Domain Missing DMARC Record"
  | .maliciousIp => "Malicious IP Address"
  | .suspiciousIp => "Suspicious IP Address"
  | .torExit => "Tor Exit Node"

def description : BuiltIn → String
  | .expiryCritical => "SSL/TLS certificate will expire within 7 days - critical"
  | .expiryHigh => "SSL/TLS certificate will expire within 30 days"
  | .expiryMedium => "SSL/TLS certificate will expire within 60 days"
  | .invalidCertificate => "SSL/TLS certificate failed signature or chain validation"
  | .missingSpf => "Domain is missing SPF record - email spoofing risk"
  | .missingDmarc => "Domain is missing DMARC record - email spoofing risk"
  | .maliciousIp => "IP address has malicious reputation"
  | .suspiciousIp => "IP address has suspicious reputation"
  | .torExit => "IP address is a known Tor exit node"

def condition : BuiltIn → Condition
  | .expiryCritical => ⟨.certificate, .lessThan, "days_until_expiry", .int 8⟩
  | .expiryHigh => ⟨.certificate, .lessThan, "days_until_expiry", .int 31⟩
  | .expiryMedium => ⟨.certificate, .lessThan, "days_until_expiry", .int 61⟩
  | .invalidCertificate => ⟨.certificate, .equals, "is_valid", .bool false⟩
  | .missingSpf => ⟨.domain, .notIn, "security", .texts ["spf"]⟩
  | .missingDmarc => ⟨.domain, .notIn, "security", .texts ["dmarc"]⟩
  | .maliciousIp => ⟨.ip, .equals, "reputation", .text "malicious"⟩
  | .suspiciousIp => ⟨.ip, .equals, "reputation", .text "suspicious"⟩
  | .torExit => ⟨.ip, .equals, "is_tor", .bool true⟩

def severity : BuiltIn → Severity
  | .expiryCritical => .critical
  | .expiryHigh => .high
  | .expiryMedium => .medium
  | .invalidCertificate => .critical
  | .missingSpf => .high
  | .missingDmarc => .high
  | .maliciousIp => .critical
  | .suspiciousIp => .high
  | .torExit => .high

/-- The built-in rule, with its switch set. -/
def rule (b : BuiltIn) (enabled : Bool) : Rule :=
  ⟨b.id, b.name, b.description, b.condition, b.severity, enabled, .custom⟩

/-- Whether the rule has a check of its own. -/
def isChecked (b : BuiltIn) : Bool := b ≠ .suspiciousIp

end BuiltIn

/-- The rule set to begin with: all built-in rules, suspicious addresses switched off
(`default_rules`). -/
def Rule.standard : List Rule := BuiltIn.all.map fun b => b.rule b.isChecked

/-- The ids that are left to checks of their own. -/
def Rule.checkedIds : List String := (BuiltIn.all.filter (·.isChecked)).map (·.id)

end Compliance
