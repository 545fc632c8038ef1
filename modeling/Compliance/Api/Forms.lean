import Compliance.Agent.Basic
import Compliance.Form.Field

/-!
# The forms of the control interface

What the bodies of requests are read as (`AssetRequest` to `ScanRequest`).
-/
namespace Compliance.Api

open Checked

structure AssetForm where
  type : AssetType
  identifier : String
  organization : Option String

def AssetForm.read : Value → Checked AssetForm := Field.record fun es =>
  AssetForm.mk <$> field (Field.member AssetType) "type" es
    <*> field Field.text "identifier" es
    <*> fieldOr none (Field.optional Field.text) "organization_id" es

def readDnsRecord : Value → Checked DnsRecord := Field.record fun es =>
  DnsRecord.mk <$> field (Field.member DnsRecordType) "type" es
    <*> field Field.text "name" es
    <*> field Field.text "value" es
    <*> fieldOr 3600 Field.int "ttl" es

def readDomainFacts : Value → Checked DomainFacts := Field.record fun es =>
  (fun domain records registrar nameservers =>
      ⟨domain, records, registrar, nameservers, [], none, none⟩)
    <$> field Field.text "domain" es
    <*> fieldOr [] (Field.list readDnsRecord) "dns_records" es
    <*> fieldOr "" Field.text "registrar" es
    <*> fieldOr [] (Field.list Field.text) "nameservers" es

def readIpFacts : Value → Checked IpFacts := Field.record fun es =>
  (fun ip reputation isTor isPrivate isProxy isVpn country asn asnOrg =>
      ⟨ip, reputation, isTor, isPrivate, isProxy, isVpn, 4, asn, asnOrg, country, "", "", none⟩)
    <$> field Field.text "ip" es
    <*> fieldOr .unknown (Field.member Reputation) "reputation" es
    <*> fieldOr false Field.bool "is_tor" es
    <*> fieldOr false Field.bool "is_private" es
    <*> fieldOr false Field.bool "is_proxy" es
    <*> fieldOr false Field.bool "is_vpn" es
    <*> fieldOr "" Field.text "country" es
    <*> fieldOr 0 Field.int "asn" es
    <*> fieldOr "" Field.text "asn_org" es

def readCertificateFacts : Value → Checked CertificateFacts := Field.record fun es =>
  (fun domain days isValid issuer subject validFrom validTo =>
      ⟨domain, days, isValid, issuer, subject, "", "", "", 0, validFrom, validTo⟩)
    <$> field Field.text "domain" es
    <*> field Field.int "days_until_expiry" es
    <*> fieldOr true Field.bool "is_valid" es
    <*> fieldOr "" Field.text "issuer" es
    <*> fieldOr "" Field.text "subject" es
    <*> fieldOr none (Field.optional Field.timestamp) "valid_from" es
    <*> fieldOr none (Field.optional Field.timestamp) "valid_to" es

def readPolicy : Value → Checked Policy := Field.record fun es =>
  (fun id name framework status description => ⟨id, name, framework, status, description, "1.0"⟩)
    <$> field Field.text "id" es
    <*> field Field.text "name" es
    <*> fieldOr .custom (Field.member Framework) "framework" es
    <*> fieldOr .active (Field.member PolicyStatus) "status" es
    <*> fieldOr "" Field.text "description" es

def readExhibit : Value → Checked Exhibit := Field.record fun es =>
  Exhibit.mk <$> fieldOr .other (Field.member EvidenceType) "type" es
    <*> field Field.text "description" es
    <*> fieldOr "" Field.text "data" es

/-- A finding that is reported by hand. -/
def readFinding : Value → Checked Finding := Field.record fun es =>
  (fun policyId policyName assetId assetType identifier severity title description evidence =>
      ⟨policyId, policyName, assetId, assetType, identifier, severity, title, description,
        evidence, "Review and remediate violation"⟩)
    <$> fieldOr systemPolicyId Field.text "policy_id" es
    <*> fieldOr "Manual Report" Field.text "policy_name" es
    <*> field Field.text "asset_id" es
    <*> field (Field.member AssetType) "asset_type" es
    <*> field Field.text "asset_identifier" es
    <*> field (Field.member Severity) "severity" es
    <*> field Field.text "title" es
    <*> field Field.text "description" es
    <*> fieldOr [] (Field.list readExhibit) "evidence" es

def readStatus : Value → Checked ViolationStatus := Field.record fun es =>
  field (Field.member ViolationStatus) "status" es

/-- The fields to be written into an incident; those that are null are left alone. -/
def readUpdate : Value → Checked (List (String × Value)) := Field.record fun es =>
  let written {α : Type} (name : String) (read : Value → Checked α) (toValue : α → Value) :=
    (fieldOr none (Field.optional read) name es).map fun a =>
      (a.map fun a => (name, toValue a)).toList
  (fun title description status priority assignee =>
      title ++ description ++ status ++ priority ++ assignee)
    <$> written "title" Field.text .text
    <*> written "description" Field.text .text
    <*> written "status" (Field.member IncidentStatus) .member
    <*> written "priority" (Field.member Priority) .member
    <*> written "assignee" Field.text .text

structure EventForm where
  type : EventType
  description : String
  actor : Option String
  data : Option Entries

def EventForm.read : Value → Checked EventForm := Field.record fun es =>
  EventForm.mk <$> fieldOr .comment (Field.member EventType) "type" es
    <*> field Field.text "description" es
    <*> fieldOr none (Field.optional Field.text) "actor" es
    <*> fieldOr none (Field.optional Field.mapping) "data" es

/-- The time limit of a scan in seconds, above zero. -/
def readTimeout : Value → Checked (Option Float) := Field.record fun es =>
  let isPositive := fun x => (Number.Exact.finite 0).below (Number.exact x)
  fieldOr none (Field.optional (Field.such isPositive .greaterThan Field.float)) "timeout" es

end Compliance.Api
