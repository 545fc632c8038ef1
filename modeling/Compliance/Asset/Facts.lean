import Compliance.Asset.Basic
import Compliance.Calendar.Moment

/-!
# Facts

The latest facts known about an asset (`DomainRecord`, `IPRecord`, `CertificateInfo`), and their
form as a record (`snapshot`), which rules are evaluated over and evidence is made from.
-/
namespace Compliance

open Calendar

inductive DnsRecordType where
  | a
  | aaaa
  | cname
  | mx
  | txt
  | ns
  | soa
  deriving DecidableEq

instance : Vocabulary DnsRecordType where
  name := "DNSRecordType"
  members := [.a, .aaaa, .cname, .mx, .txt, .ns, .soa]
  word
    | .a => "A"
    | .aaaa => "AAAA"
    | .cname => "CNAME"
    | .mx => "MX"
    | .txt => "TXT"
    | .ns => "NS"
    | .soa => "SOA"

inductive Reputation where
  | good
  | suspicious
  | malicious
  | unknown
  deriving DecidableEq

instance : Vocabulary Reputation where
  name := "IPReputation"
  members := [.good, .suspicious, .malicious, .unknown]
  word
    | .good => "good"
    | .suspicious => "suspicious"
    | .malicious => "malicious"
    | .unknown => "unknown"

structure DnsRecord where
  type : DnsRecordType
  name : String
  value : String
  ttl : Int
  deriving DecidableEq

/-- The record as a value. -/
def DnsRecord.toValue (r : DnsRecord) : Value :=
  .record [("type", .member r.type), ("name", .text r.name), ("value", .text r.value),
    ("ttl", .int r.ttl)]

/-- A moment that may be missing. -/
def Value.moment? (m : Option Moment) : Value := .text? (m.map Moment.iso)

/-- Registration and name service facts of a domain. -/
structure DomainFacts where
  domain : String
  dnsRecords : List DnsRecord
  registrar : String
  nameservers : List String
  status : List String
  registered : Option Moment
  expires : Option Moment
  deriving DecidableEq

namespace DomainFacts

def txtRecords (d : DomainFacts) : List DnsRecord := d.dnsRecords.filter (·.type = .txt)

def toValue (d : DomainFacts) : Value :=
  .record [("domain", .text d.domain),
    ("dns_records", .list (d.dnsRecords.map DnsRecord.toValue)),
    ("registrar", .text d.registrar), ("nameservers", .texts d.nameservers),
    ("status", .texts d.status), ("registration_date", .moment? d.registered),
    ("expiration_date", .moment? d.expires)]

end DomainFacts

/-- Reputation and network facts of an address. -/
structure IpFacts where
  ip : String
  reputation : Reputation
  isTor : Bool
  isPrivate : Bool
  isProxy : Bool
  isVpn : Bool
  version : Int
  asn : Int
  asnOrg : String
  country : String
  city : String
  isp : String
  hostname : Option String
  deriving DecidableEq

def IpFacts.toValue (f : IpFacts) : Value :=
  .record [("ip", .text f.ip), ("reputation", .member f.reputation), ("is_tor", .bool f.isTor),
    ("is_private", .bool f.isPrivate), ("is_proxy", .bool f.isProxy), ("is_vpn", .bool f.isVpn),
    ("version", .int f.version), ("asn", .int f.asn), ("asn_org", .text f.asnOrg),
    ("country", .text f.country), ("city", .text f.city), ("isp", .text f.isp),
    ("hostname", .text? f.hostname)]

/-- Facts of the certificate that a domain presents. -/
structure CertificateFacts where
  domain : String
  daysUntilExpiry : Int
  isValid : Bool
  issuer : String
  subject : String
  serialNumber : String
  signatureAlgorithm : String
  keyAlgorithm : String
  keySize : Int
  validFrom : Option Moment
  validTo : Option Moment
  deriving DecidableEq

def CertificateFacts.toValue (c : CertificateFacts) : Value :=
  .record [("domain", .text c.domain), ("days_until_expiry", .int c.daysUntilExpiry),
    ("is_valid", .bool c.isValid), ("issuer", .text c.issuer), ("subject", .text c.subject),
    ("serial_number", .text c.serialNumber),
    ("signature_algorithm", .text c.signatureAlgorithm),
    ("key_algorithm", .text c.keyAlgorithm), ("key_size", .int c.keySize),
    ("valid_from", .moment? c.validFrom), ("valid_to", .moment? c.validTo)]

inductive Facts where
  | domain (d : DomainFacts)
  | ip (f : IpFacts)
  | certificate (c : CertificateFacts)
  deriving DecidableEq

namespace Facts

/-- The type of the assets that the facts are about. -/
def type : Facts → AssetType
  | .domain _ => .domain
  | .ip _ => .ip
  | .certificate _ => .certificate

/-- The identifier of the asset that the facts are about. -/
def identifier : Facts → String
  | .domain d => d.domain
  | .ip f => f.ip
  | .certificate c => c.domain

/-- The facts as a record. -/
def toValue : Facts → Value
  | .domain d => d.toValue
  | .ip f => f.toValue
  | .certificate c => c.toValue

end Facts
end Compliance
