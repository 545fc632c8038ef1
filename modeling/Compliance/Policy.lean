import Compliance.Vocabulary

/-!
# Policies

A violation is filed under the first active policy of the framework that it offends against
(`find_policy`).
-/
namespace Compliance

/-- The compliance frameworks that policies and rules belong to. -/
inductive Framework where
  | soc2
  | iso27001
  | hipaa
  | gdpr
  | pciDss
  | custom
  deriving DecidableEq

instance : Vocabulary Framework where
  name := "ComplianceFramework"
  members := [.soc2, .iso27001, .hipaa, .gdpr, .pciDss, .custom]
  word
    | .soc2 => "SOC2"
    | .iso27001 => "ISO27001"
    | .hipaa => "HIPAA"
    | .gdpr => "GDPR"
    | .pciDss => "PCI-DSS"
    | .custom => "CUSTOM"

inductive PolicyStatus where
  | active
  | draft
  | archived
  | superseded
  deriving DecidableEq

instance : Vocabulary PolicyStatus where
  name := "PolicyStatus"
  members := [.active, .draft, .archived, .superseded]
  word
    | .active => "active"
    | .draft => "draft"
    | .archived => "archived"
    | .superseded => "superseded"

structure Policy where
  id : String
  name : String
  framework : Framework
  status : PolicyStatus
  description : String
  version : String
  deriving DecidableEq

namespace Policy

/-- The policy as a record. -/
def toValue (p : Policy) : Value :=
  .record [("id", .text p.id), ("name", .text p.name), ("framework", .member p.framework),
    ("status", .member p.status), ("description", .text p.description),
    ("version", .text p.version)]

/-- Adds a policy to the registered ones; one with the same id is replaced where it stands
(`add_policy`). -/
def register (p : Policy) : List Policy → List Policy
  | [] => [p]
  | q :: rest => if q.id = p.id then p :: rest else q :: register p rest

/-- The policies in force (`get_active_policies`). -/
def active (ps : List Policy) : List Policy := ps.filter (·.status = .active)

/-- The first policy of a framework (`find_policy`). -/
def firstOf? (f : Framework) (ps : List Policy) : Option Policy := ps.find? (·.framework = f)

end Policy
end Compliance
