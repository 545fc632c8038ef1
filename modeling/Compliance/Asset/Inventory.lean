import Compliance.Asset.Facts
import Compliance.Text.Basic
import Compliance.Vocabulary

/-!
# The inventory

The monitored assets in the order of their registration, and the latest facts for each type and
identifier (`AssetInventory`). Facts stay when their asset is removed, and may arrive before it is
added.
-/
namespace Compliance

/-!
## What facts amount to

How soon a certificate runs out, and which records against forged mail a domain publishes.
-/

structure Expiry where
  isExpiring : Bool
  daysLeft : Int
  severity : Severity
  deriving DecidableEq

/-- The band that a remaining lifetime in days falls into (`check_certificate_expiry`). -/
def Expiry.ofDays (days : Int) : Expiry :=
  if days ≤ 7 then ⟨true, days, .critical⟩
  else if days ≤ 30 then ⟨true, days, .high⟩
  else if days ≤ 60 then ⟨true, days, .medium⟩
  else ⟨false, days, .low⟩

def Expiry.toValue (e : Expiry) : Value :=
  .record [("is_expiring", .bool e.isExpiring), ("days_left", .int e.daysLeft),
    ("severity", .member e.severity)]

/-- The records against forged mail that a domain has. -/
structure MailSecurity where
  spf : Bool
  dmarc : Bool
  dkim : Bool
  deriving DecidableEq

namespace MailSecurity

/-- Looks for the marks of the three kinds of records (`check_domain_security`). -/
def ofTexts (texts : List String) : MailSecurity where
  spf := texts.any (Text.contains "v=spf1")
  dmarc := texts.any (Text.contains "v=DMARC1")
  dkim := texts.any (Text.contains "v=DKIM1")

/-- The names of the records that are there. -/
def markers (m : MailSecurity) : List String :=
  (if m.spf then ["spf"] else []) ++ (if m.dmarc then ["dmarc"] else []) ++
    (if m.dkim then ["dkim"] else [])

/-- A line for each record that is not there. -/
def issues (m : MailSecurity) : List String :=
  (if m.spf then [] else ["Missing SPF record"]) ++
    (if m.dmarc then [] else ["Missing DMARC record"]) ++
    (if m.dkim then [] else ["Missing DKIM record"])

def toValue (m : MailSecurity) : Value :=
  .record [("has_spf", .bool m.spf), ("has_dmarc", .bool m.dmarc), ("has_dkim", .bool m.dkim),
    ("issues", .texts m.issues), ("markers", .texts m.markers)]

end MailSecurity

/-- The texts of a domain's text records. -/
def DomainFacts.txtValues (d : DomainFacts) : List String := d.txtRecords.map (·.value)

def DomainFacts.mailSecurity (d : DomainFacts) : MailSecurity := .ofTexts d.txtValues

/-- The record that rules are evaluated over (`get_facts`): that of a domain also has the marks
found in its text records, and their texts. -/
def Facts.evaluated : Facts → Value
  | .domain d =>
    match d.toValue with
    | .map es => .map (es ++ [(.text "security", .texts d.mailSecurity.markers),
        (.text "txt_records", .texts d.txtValues)])
    | v => v
  | f => f.toValue

/-! ## The inventory -/

open Calendar

structure Inventory where
  assets : List Asset
  facts : List Facts
  /-- How many assets have been registered so far. -/
  issued : Nat

namespace Inventory

def empty : Inventory := ⟨[], [], 0⟩

def find? (inv : Inventory) (id : String) : Option Asset := inv.assets.find? (·.id = id)

/-- The asset of a type and identifier. -/
def assetFor? (inv : Inventory) (type : AssetType) (identifier : String) : Option Asset :=
  inv.assets.find? (·.isFor type identifier)

/-- Registers an asset, or finds it if it is registered (`add_asset`). Metadata that count as false
are none. -/
def add (inv : Inventory) (type : AssetType) (identifier organization : String)
    (metadata : Value) : Inventory × Asset :=
  match inv.assetFor? type identifier with
  | some a => (inv, a)
  | none =>
    let a : Asset :=
      ⟨label "asset" (inv.issued + 1), type, identifier, organization, none, .unknown,
        if metadata.truthy then metadata else .map []⟩
    ({ inv with assets := inv.assets ++ [a], issued := inv.issued + 1 }, a)

/-- Takes an asset out (`remove_asset`). -/
def remove (inv : Inventory) (id : String) : Inventory :=
  { inv with assets := inv.assets.filter (·.id ≠ id) }

/-- The facts for a type and identifier. -/
def factsFor? (inv : Inventory) (type : AssetType) (identifier : String) : Option Facts :=
  inv.facts.find? fun f => f.type = type && f.identifier = identifier

/-- Writes facts in place of earlier ones for the same type and identifier. -/
def replaceFacts (f : Facts) : List Facts → List Facts
  | [] => [f]
  | g :: rest =>
    if g.type = f.type ∧ g.identifier = f.identifier then f :: rest
    else g :: replaceFacts f rest

/-- Takes in facts, and marks their asset as checked (`set_domain_info` and its like). -/
def setFacts (now : Instant) (f : Facts) (inv : Inventory) : Inventory :=
  { inv with
    facts := replaceFacts f inv.facts
    assets := inv.assets.map fun a =>
      if a.isFor f.type f.identifier then a.checked now else a }

/-- The facts for an asset, of the cache for its type. -/
def factsOf? (inv : Inventory) (a : Asset) : Option Facts := inv.factsFor? a.type a.identifier

/-- The mail security of a domain with known facts. -/
def mailSecurity? (inv : Inventory) (domain : String) : Option MailSecurity :=
  match inv.factsFor? .domain domain with
  | some (.domain d) => some d.mailSecurity
  | _ => none

end Inventory

end Compliance
