import Compliance.Playbook.Basic

/-!
# The standard playbooks

What is done about violations unless a set of playbooks is given (`default_playbooks`).
-/
namespace Compliance.Playbook

/-- A step that takes an action on the incident. -/
def actionStep (id name : String) (kind : ActionKind) (next : Option String) : Step :=
  ⟨id, .text name, .member .action, { StepConfig.blank with action := some ⟨.member kind, []⟩ },
    .text? next, .null⟩

/-- A step that sends a message to a chat channel. -/
def alertStep (id name template recipient : String) (next : Option String) : Step :=
  ⟨id, .text name, .member .notification,
    { StepConfig.blank with notification := some ⟨.slack, .text template, [.text recipient]⟩ },
    .text? next, .null⟩

/-- A playbook for violations of some severities. -/
def forSeverities (id name description : String) (severities : List Severity)
    (steps : List Step) : Playbook :=
  ⟨.text id, .text name, .text description, ⟨.violation, severities, [], .null⟩, steps, true, none⟩

/-- A template that ends with the title of the violation. -/
def titled (lead : String) : String := lead ++ ": \x7b\x7bviolation.title\x7d\x7d"

def criticalAlert : Playbook :=
  forSeverities "critical-alert" "Critical Violation Alert"
    "Automatically alert on critical severity violations" [.critical]
    [actionStep "step-1" "Create Incident" .createIncident (some "step-2"),
      alertStep "step-2" "Send Slack Alert" (titled "Critical Violation Detected")
        "#security-alerts" (some "step-3"),
      actionStep "step-3" "Escalate to On-Call" .escalate none]

def highSeverityResponse : Playbook :=
  forSeverities "high-severity-response" "High Severity Response"
    "Automated response for high severity violations" [.high]
    [actionStep "step-1" "Create Incident" .createIncident none,
      alertStep "step-2" "Send Notification" (titled "High Severity Violation")
        "#security-team" none]

/-- The first step ends the run; the steps after it wait to be linked. -/
def certificateExpiryAlert : Playbook :=
  forSeverities "cert-expiry-alert" "Certificate Expiry Alert"
    "Alert when certificates are expiring" [.critical, .high]
    [actionStep "step-1" "Create Incident" .createIncident none,
      ⟨"step-2", .text "Wait for Acknowledgment", .member .delay,
        { StepConfig.blank with delay := some (.whole 300) }, .text "step-3", .null⟩,
      ⟨"step-3", .text "Escalate if Unacknowledged", .member .condition,
        { StepConfig.blank with
          condition := some ⟨.text "acknowledged", .bool false, .text "equals"⟩ },
        .null, .text "step-4"⟩,
      alertStep "step-4" "Send Escalation" (titled "Certificate Expiry Unacknowledged")
        "#security-alerts" none]

def standard : List Playbook := [criticalAlert, highSeverityResponse, certificateExpiryAlert]

end Compliance.Playbook
