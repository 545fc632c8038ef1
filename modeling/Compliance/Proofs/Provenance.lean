import Compliance.Agent.Basic
import Compliance.Proofs.Locality
import Compliance.Proofs.Rereading

/-!
# What a detected violation refers to

Every violation that a pass of detection files comes from one of six sites: the two checks of
certificates, the one of mail records, the two of addresses, and the evaluation of a rule. It is
open, it is about the asset that was checked, its only evidence are the facts that the site looked
at, and its only remediation action is still to be done by hand.

It is filed under the policy of the framework of the site that is active and whose id was added
before those of all others, however policies were added and replaced; only if there is none is it
filed under the system. Main statement: `detect_provenance`.
-/
namespace Compliance

open Calendar

/-! ## The policies that were added -/

namespace Policy

/-- A policy is the last one that was added with its id. -/
def Stands (adds : List Policy) (p : Policy) : Prop :=
  (adds.filter (·.id = p.id)).getLast? = some p

/-- How many policies were added before the first one with an id. -/
def founded (adds : List Policy) (id : String) : Nat := adds.findIdx (·.id = id)

/-- A policy of a framework that is in force. -/
structure Fits (adds : List Policy) (f : Framework) (p : Policy) : Prop where
  stands : Stands adds p
  active : p.status = .active
  framework : p.framework = f

/-- Among the policies that fit, the one whose id was added first. -/
structure FitsFirst (adds : List Policy) (f : Framework) (p : Policy) : Prop
    extends Fits adds f p where
  first : ∀ q, Fits adds f q → founded adds p.id ≤ founded adds q.id

/-- Policies are listed as they stand, in the order in which their ids were first added. -/
structure Lists (adds ps : List Policy) : Prop where
  members : ∀ p, p ∈ ps ↔ Stands adds p
  order : (ps.map (·.id)).Pairwise fun i j => founded adds i < founded adds j

variable {adds ps : List Policy} {p q : Policy} {f : Framework}

theorem stands_concat :
    Stands (adds ++ [q]) p ↔ if q.id = p.id then p = q else Stands adds p := by
  unfold Stands
  split
  · next h => simp [h, eq_comm]
  · next h => simp [h]

/-- Some policy stands under every id that was added. -/
theorem exists_stands {id : String} (h : id ∈ adds.map (·.id)) :
    ∃ p, Stands adds p ∧ p.id = id := by
  obtain ⟨q, hq, hid⟩ := List.mem_map.1 h
  have hmem : q ∈ adds.filter (·.id = id) := List.mem_filter.2 ⟨hq, by simpa using hid⟩
  obtain ⟨p, hp⟩ := Option.isSome_iff_exists.1 (List.getLast?_isSome.2 (List.ne_nil_of_mem hmem))
  have hpid : p.id = id := by simpa using (List.mem_filter.1 (List.mem_of_getLast? hp)).2
  exact ⟨p, by rw [Stands, hpid, hp], hpid⟩

theorem Stands.mem (h : Stands adds p) : p ∈ adds :=
  (List.mem_filter.1 (List.mem_of_getLast? h)).1

theorem founded_lt {id : String} (h : id ∈ adds.map (·.id)) : founded adds id < adds.length := by
  obtain ⟨q, hq, hid⟩ := List.mem_map.1 h
  exact List.findIdx_lt_length.2 ⟨q, hq, by simpa using hid⟩

/-- An id that was added before keeps its place. -/
theorem founded_concat {id : String} (h : id ∈ adds.map (·.id)) (q : Policy) :
    founded (adds ++ [q]) id = founded adds id := by
  have hlt := founded_lt h
  unfold founded at hlt ⊢
  rw [List.findIdx_append, if_pos hlt]

/-- A new id comes last. -/
theorem founded_concat_new (h : q.id ∉ adds.map (·.id)) :
    founded (adds ++ [q]) q.id = adds.length := by
  have hnone : adds.findIdx (·.id = q.id) = adds.length :=
    List.findIdx_eq_length.2 fun p hp =>
      decide_eq_false fun he => h (List.mem_map.2 ⟨p, hp, he⟩)
  unfold founded
  rw [List.findIdx_append, hnone, if_neg (Nat.lt_irrefl _)]
  simp

theorem lists_nil : Lists [] [] := ⟨fun p => by simp [Stands], .nil⟩

/-- Registering a policy writes it in place of the first one with its id, or at the end. -/
theorem register_cases (q : Policy) (ps : List Policy) :
    (∃ before p after, ps = before ++ p :: after ∧ p.id = q.id ∧
      q.register ps = before ++ q :: after) ∨
    q.id ∉ ps.map (·.id) ∧ q.register ps = ps ++ [q] := by
  induction ps with
  | nil => exact .inr ⟨List.not_mem_nil, rfl⟩
  | cons p ps ih =>
    unfold register
    split
    · next h => exact .inl ⟨[], p, ps, rfl, h, rfl⟩
    · next h =>
      rcases ih with ⟨before, p', after, rfl, hid, hreg⟩ | ⟨hnew, hreg⟩
      · exact .inl ⟨p :: before, p', after, rfl, hid, by rw [hreg]; rfl⟩
      · refine .inr ⟨?_, by rw [hreg]; rfl⟩
        rw [List.map_cons, List.mem_cons, not_or]
        exact ⟨Ne.symm h, hnew⟩

/-- Where ids are distinct, registering a policy leaves it and what has another id. -/
theorem mem_register (hnodup : (ps.map (·.id)).Nodup) :
    p ∈ q.register ps ↔ if q.id = p.id then p = q else p ∈ ps := by
  rcases register_cases q ps with ⟨before, p', after, rfl, hid, hreg⟩ | ⟨hnew, hreg⟩
  · rw [List.map_append, List.map_cons, List.nodup_middle, List.nodup_cons, List.mem_append, not_or]
      at hnodup
    obtain ⟨⟨hbefore, hafter⟩, -⟩ := hnodup
    rw [hreg, List.mem_append, List.mem_cons, List.mem_append, List.mem_cons]
    split
    · next h =>
      have hout : ∀ {rs : List Policy}, p'.id ∉ rs.map (·.id) → p ∉ rs := fun hrs hp =>
        hrs (List.mem_map.2 ⟨p, hp, h.symm.trans hid.symm⟩)
      simp [hout hbefore, hout hafter]
    · next h =>
      have hq : p ≠ q := fun he => h (he ▸ rfl)
      have hp' : p ≠ p' := fun he => h (he ▸ hid.symm)
      simp [hq, hp']
  · rw [hreg, List.mem_append, List.mem_singleton]
    split
    · next h =>
      have hp : p ∉ ps := fun hp => hnew (List.mem_map.2 ⟨p, hp, h.symm⟩)
      simp [hp]
    · next h =>
      have hq : p ≠ q := fun he => h (he ▸ rfl)
      simp [hq]

namespace Lists

theorem nodup (h : Lists adds ps) : (ps.map (·.id)).Nodup := by
  refine h.order.imp fun {i j} hlt he => ?_
  rw [he] at hlt
  exact Nat.lt_irrefl _ hlt

/-- The ids of the registered policies are those that were added. -/
theorem mem_ids (h : Lists adds ps) {id : String} :
    id ∈ ps.map (·.id) ↔ id ∈ adds.map (·.id) := by
  constructor
  · intro hid
    obtain ⟨p, hp, rfl⟩ := List.mem_map.1 hid
    exact List.mem_map_of_mem ((h.members p).1 hp).mem
  · intro hid
    obtain ⟨p, hp, rfl⟩ := exists_stands hid
    exact List.mem_map_of_mem ((h.members p).2 hp)

/-- One more policy is added. -/
theorem register (h : Lists adds ps) (q : Policy) : Lists (adds ++ [q]) (q.register ps) where
  members p := by rw [mem_register h.nodup, stands_concat, h.members]
  order := by
    -- ids that were added before keep their places, and a new one comes after them
    have kept : (ps.map (·.id)).Pairwise fun i j =>
        founded (adds ++ [q]) i < founded (adds ++ [q]) j :=
      h.order.imp_of_mem fun hi hj hlt => by
        rwa [founded_concat (h.mem_ids.1 hi), founded_concat (h.mem_ids.1 hj)]
    rcases register_cases q ps with ⟨before, p, after, rfl, hid, hreg⟩ | ⟨hnew, hreg⟩
    · rw [hreg, List.map_append, List.map_cons, ← hid]
      rwa [List.map_append, List.map_cons] at kept
    · rw [hreg, List.map_append]
      refine List.pairwise_append.2 ⟨kept, List.pairwise_singleton _ _, fun i hi j hj => ?_⟩
      rw [List.mem_singleton.1 hj, founded_concat (h.mem_ids.1 hi),
        founded_concat_new (mt h.mem_ids.2 hnew)]
      exact founded_lt (h.mem_ids.1 hi)

theorem fits_iff (h : Lists adds ps) :
    Fits adds f p ↔ p ∈ ps ∧ p.status = .active ∧ p.framework = f :=
  ⟨fun hp => ⟨(h.members p).2 hp.stands, hp.active, hp.framework⟩,
    fun ⟨hp, hactive, hframework⟩ => ⟨(h.members p).1 hp, hactive, hframework⟩⟩

/-- The first active policy of a framework in the list is the one whose id was added first. -/
theorem fitsFirst_of_firstOf? (h : Lists adds ps) (hfirst : firstOf? f (active ps) = some p) :
    FitsFirst adds f p := by
  rw [firstOf?, active, List.find?_filter, List.find?_eq_some_iff_append] at hfirst
  obtain ⟨hp, before, after, rfl, hbefore⟩ := hfirst
  simp only [decide_eq_true_eq] at hp
  refine ⟨h.fits_iff.2 ⟨by simp, hp⟩, fun q hq => ?_⟩
  obtain ⟨hmem, hq⟩ := h.fits_iff.1 hq
  -- a policy that fits is not passed over, so it stands where the first one does or after it
  rcases List.mem_append.1 hmem with hmem | hmem
  · have hpassed := hbefore q hmem
    simp [hq.1, hq.2] at hpassed
  · rcases List.mem_cons.1 hmem with rfl | hmem
    · exact Nat.le_refl _
    · have order := h.order
      rw [List.map_append, List.map_cons, List.pairwise_append, List.pairwise_cons] at order
      exact Nat.le_of_lt (order.2.1.1 q.id (List.mem_map_of_mem hmem))

theorem not_fits_of_firstOf? (h : Lists adds ps) (hnone : firstOf? f (active ps) = none)
    (p : Policy) : ¬ Fits adds f p := by
  intro hp
  obtain ⟨hmem, hactive, hframework⟩ := h.fits_iff.1 hp
  refine List.find?_eq_none.1 hnone p (List.mem_filter.2 ⟨hmem, ?_⟩) ?_
  · simpa using hactive
  · simpa using hframework

end Lists
end Policy

namespace Agent

/-- The agent after policies were added, from none on. -/
def withPolicies (a : Agent) (adds : List Policy) : Agent :=
  adds.foldl addPolicy { a with policies := [] }

/-- Adding policies changes nothing else, and lists them. -/
theorem foldl_addPolicy {before : List Policy} {a : Agent} (h : Policy.Lists before a.policies)
    (adds : List Policy) : ∃ policies, adds.foldl addPolicy a = { a with policies } ∧
      Policy.Lists (before ++ adds) policies := by
  induction adds generalizing before a with
  | nil => exact ⟨a.policies, rfl, by rwa [List.append_nil]⟩
  | cons p adds ih =>
    obtain ⟨policies, heq, lists⟩ := ih (a := a.addPolicy p) (h.register p)
    exact ⟨policies, heq, by rwa [List.append_assoc] at lists⟩

end Agent

/-! ## The sites that findings come from -/

/-- What a finding comes from, with the facts that were looked at. -/
inductive Site where
  | expiring (c : CertificateFacts)
  | invalid (c : CertificateFacts)
  /-- A domain without one of the records against forged mail. -/
  | unprotected (d : DomainFacts)
  | malicious (f : IpFacts)
  | torExit (f : IpFacts)
  /-- A rule without a check of its own. -/
  | matched (r : Rule) (facts : Facts)

namespace Site

/-- The facts that are known about the asset. -/
def facts : Site → Facts
  | expiring c => .certificate c
  | invalid c => .certificate c
  | unprotected d => .domain d
  | malicious f => .ip f
  | torExit f => .ip f
  | matched _ facts => facts

def rule? : Site → Option Rule
  | matched r _ => some r
  | _ => none

/-- The framework that is offended against; an invalid certificate offends against none. -/
def framework? : Site → Option Framework
  | expiring _ => some .soc2
  | invalid _ => none
  | unprotected _ => some .soc2
  | malicious _ => some .custom
  | torExit _ => some .custom
  | matched r _ => some r.framework

/-- The name to file under when no policy fits. -/
def fallbackName : Site → String
  | expiring _ => "Certificate Policy"
  | invalid _ => "Certificate Policy"
  | unprotected _ => "Email Security Policy"
  | malicious _ => "IP Reputation Policy"
  | torExit _ => "Network Security Policy"
  | matched r _ => r.name

/-- A certificate as it is shown. -/
def certificate (c : CertificateFacts) : List (String × Value) :=
  [("domain", .text c.domain), ("days_until_expiry", .int c.daysUntilExpiry),
    ("is_valid", .bool c.isValid), ("issuer", .text c.issuer), ("subject", .text c.subject),
    ("serial_number", .text c.serialNumber), ("signature_algorithm", .text c.signatureAlgorithm),
    ("key_algorithm", .text c.keyAlgorithm), ("key_size", .int c.keySize),
    ("valid_from", .text? (c.validFrom.map Moment.iso)),
    ("valid_to", .text? (c.validTo.map Moment.iso))]

/-- An address as it is shown. -/
def address (f : IpFacts) : List (String × Value) :=
  [("ip", .text f.ip), ("reputation", .text (word f.reputation)), ("is_tor", .bool f.isTor),
    ("is_private", .bool f.isPrivate), ("is_proxy", .bool f.isProxy), ("is_vpn", .bool f.isVpn),
    ("version", .int f.version), ("asn", .int f.asn), ("asn_org", .text f.asnOrg),
    ("country", .text f.country), ("city", .text f.city), ("isp", .text f.isp),
    ("hostname", .text? f.hostname)]

/-- The records of a domain as they are shown. -/
def dnsRecords (rs : List DnsRecord) : Value :=
  .list (rs.map fun r => .record [("type", .text (word r.type)), ("name", .text r.name),
    ("value", .text r.value), ("ttl", .int r.ttl)])

/-- A domain as it is shown, with the marks and the texts of its text records. -/
def domain (d : DomainFacts) : List (String × Value) :=
  [("domain", .text d.domain), ("dns_records", dnsRecords d.dnsRecords),
    ("registrar", .text d.registrar), ("nameservers", .texts d.nameservers),
    ("status", .texts d.status), ("registration_date", .text? (d.registered.map Moment.iso)),
    ("expiration_date", .text? (d.expires.map Moment.iso)),
    ("security", .texts d.mailSecurity.markers),
    ("txt_records", .texts ((d.dnsRecords.filter (·.type = .txt)).map (·.value)))]

/-- What is shown as evidence: all fields of the record that was looked at, of a domain without
mail records only its text records in their order. -/
def shown : Site → Value
  | expiring c => .record (certificate c)
  | invalid c => .record (certificate c)
  | unprotected d => dnsRecords (d.dnsRecords.filter (·.type = .txt))
  | malicious f => .record (address f)
  | torExit f => .record (address f)
  | matched _ (.certificate c) => .record (certificate c)
  | matched _ (.ip f) => .record (address f)
  | matched _ (.domain d) => .record (domain d)

/-- The kind of the evidence, and words that tell the sites apart. -/
def caption : Site → EvidenceType × String
  | expiring _ => (.certificate, "Certificate expiration info")
  | invalid _ => (.certificate, "Certificate validation failure")
  | unprotected _ => (.config, "DNS TXT records")
  | malicious _ => (.apiResponse, "IP reputation data")
  | torExit _ => (.apiResponse, "IP classification data")
  | matched r _ => (.other, "Facts matched by rule " ++ r.id)

/-- The evidence, with what is shown in JSON. -/
def exhibit (site : Site) : Exhibit := ⟨site.caption.1, site.caption.2, site.shown.json⟩

/-- The policy that findings are filed under. -/
def policy? (policies : List Policy) (site : Site) : Option Policy :=
  site.framework?.bind fun f => Policy.firstOf? f policies

/-- A site looks at the facts for an asset, and its rule is one of the rules. -/
structure On (inv : Inventory) (rules : List Rule) (a : Asset) (site : Site) : Prop where
  facts : inv.factsOf? a = some site.facts
  rule : ∀ r, site.rule? = some r → r ∈ rules ∧ Detection.isGeneric a r = true

/-- A draft that a site comes to. -/
def Drafts (policies : List Policy) (a : Asset) (site : Site) (d : Draft) : Prop :=
  ∃ severity title description remedy,
    d = a.draft (site.policy? policies) site.fallbackName severity title description site.caption.1
      site.caption.2 site.shown remedy

/-- A finding that a site comes to. -/
def Finds (policies : List Policy) (a : Asset) (site : Site) (f : Finding) : Prop :=
  ∃ d, site.Drafts policies a d ∧ d.written = .ok f

theorem shown_matched (r : Rule) (facts : Facts) : (matched r facts).shown = facts.evaluated := by
  cases facts <;> rfl

end Site

namespace Detection

variable {rules : List Rule} {policies : List Policy} {a : Asset} {f : Finding} {d : Draft}

theorem certificateDrafts_site {c : CertificateFacts}
    (h : d ∈ certificateDrafts rules policies a c) :
    (Site.expiring c).Drafts policies a d ∨ (Site.invalid c).Drafts policies a d := by
  rcases List.mem_append.1 h with h | h
  · split at h
    · exact .inl ⟨_, _, _, _, eq_of_mem_whenOn h⟩
    · cases h
  · exact .inr ⟨_, _, _, _, eq_of_mem_whenOn h⟩

theorem domainDrafts_site {known : DomainFacts} (h : d ∈ domainDrafts rules policies a known) :
    (Site.unprotected known).Drafts policies a d := by
  rcases List.mem_append.1 h with h | h
  · exact ⟨_, _, _, _, eq_of_mem_whenOn h⟩
  · exact ⟨_, _, _, _, eq_of_mem_whenOn h⟩

theorem ipDrafts_site {i : IpFacts} (h : d ∈ ipDrafts rules policies a i) :
    (Site.malicious i).Drafts policies a d ∨ (Site.torExit i).Drafts policies a d := by
  rcases List.mem_append.1 h with h | h
  · exact .inl ⟨_, _, _, _, eq_of_mem_whenOn h⟩
  · exact .inr ⟨_, _, _, _, eq_of_mem_whenOn h⟩

theorem checkDrafts_site {facts : Facts} (h : d ∈ checkDrafts rules policies a facts) :
    ∃ site : Site, site.facts = facts ∧ site.rule? = none ∧ site.Drafts policies a d := by
  cases facts with
  | certificate c =>
    rcases certificateDrafts_site h with hd | hd
    · exact ⟨_, rfl, rfl, hd⟩
    · exact ⟨_, rfl, rfl, hd⟩
  | domain known => exact ⟨_, rfl, rfl, domainDrafts_site h⟩
  | ip i =>
    rcases ipDrafts_site h with hd | hd
    · exact ⟨_, rfl, rfl, hd⟩
    · exact ⟨_, rfl, rfl, hd⟩

theorem genericFindings_site {facts : Facts} {fs : List Finding}
    (h : genericFindings rules policies a facts = .ok fs) (hf : f ∈ fs) :
    ∃ r ∈ rules, isGeneric a r = true ∧ (Site.matched r facts).Finds policies a f := by
  obtain ⟨parts, hparts, h⟩ := bind_eq_ok.1 h
  cases h
  obtain ⟨part, hpart, hf⟩ := List.mem_flatten.1 hf
  obtain ⟨r, hr, hfindings⟩ := exists_of_mapM_eq_ok hparts hpart
  obtain ⟨hmem, hgeneric⟩ := List.mem_filter.1 hr
  refine ⟨r, hmem, hgeneric, genericDraft policies a facts r, ?_, ?_⟩
  · rw [Site.Drafts, Site.shown_matched]
    exact ⟨_, _, _, _, rfl⟩
  · obtain ⟨holds, -, h⟩ := bind_eq_ok.1 hfindings
    cases holds with
    | false =>
      cases h
      cases hf
    | true =>
      obtain ⟨found, hfound, h⟩ := bind_eq_ok.1 h
      cases h
      rwa [List.mem_singleton.1 hf]

/-- Every finding on an asset comes from a site. -/
theorem findings_site {inv : Inventory} {fs : List Finding}
    (h : findings rules policies a (inv.factsOf? a) = .ok fs) (hf : f ∈ fs) :
    ∃ site : Site, site.On inv rules a ∧ site.Finds policies a f := by
  cases hfacts : inv.factsOf? a with
  | none =>
    rw [hfacts] at h
    cases h
    cases hf
  | some facts =>
    rw [hfacts] at h
    obtain ⟨checked, hchecked, h⟩ := bind_eq_ok.1 h
    obtain ⟨generic, hgeneric, h⟩ := bind_eq_ok.1 h
    cases h
    rcases List.mem_append.1 hf with hf | hf
    · obtain ⟨d, hd, hwritten⟩ := exists_of_mapM_eq_ok hchecked hf
      obtain ⟨site, rfl, hrule, drafts⟩ := checkDrafts_site hd
      exact ⟨site, ⟨hfacts, by simp [hrule]⟩, d, drafts, hwritten⟩
    · obtain ⟨r, hr, happlies, finds⟩ := genericFindings_site hgeneric hf
      refine ⟨.matched r facts, ⟨hfacts, fun r' hr' => ?_⟩, finds⟩
      cases hr'
      exact ⟨hr, happlies⟩

end Detection

/-! ## What is filed -/

namespace ViolationStore

theorem exists_of_mem_fileAll {now : Instant} {fs : List Finding} {s : ViolationStore}
    {v : Violation} (hv : v ∈ (s.fileAll now fs).2) :
    ∃ f ∈ fs, ∃ number remediation, v = f.filed now number remediation := by
  induction fs generalizing s with
  | nil => cases hv
  | cons f fs ih =>
    rcases List.mem_cons.1 hv with rfl | hv
    · exact ⟨f, List.mem_cons_self, _, _, rfl⟩
    · obtain ⟨f', hf', filed⟩ := ih hv
      exact ⟨f', List.mem_cons_of_mem _ hf', filed⟩

/-- Every violation that checks give is a finding on one of the assets, filed. -/
theorem Checks.exists_finding {now : Instant} {inv : Inventory} {rules : List Rule}
    {policies : List Policy} {as : List Asset} {s s' : ViolationStore}
    {parts : List (List Violation)} (h : Checks now inv rules policies as s parts s')
    {v : Violation} (hv : v ∈ parts.flatten) :
    ∃ a ∈ as, ∃ site : Site, site.On inv rules a ∧ ∃ f, site.Finds policies a f ∧
      ∃ number remediation, v = f.filed now number remediation := by
  induction h with
  | nil s => cases hv
  | @cons a rest s s₁ s' part parts check later ih =>
    rcases List.mem_append.1 hv with hv | hv
    · unfold checkAsset at check
      split at check
      · next fs hfs =>
        cases check
        obtain ⟨f, hf, filed⟩ := exists_of_mem_fileAll hv
        obtain ⟨site, on, finds⟩ := Detection.findings_site hfs hf
        exact ⟨a, List.mem_cons_self, site, on, f, finds, filed⟩
      · cases check
    · obtain ⟨b, hb, hsite⟩ := ih hv
      exact ⟨b, List.mem_cons_of_mem a hb, hsite⟩

end ViolationStore

namespace Violation

/-- A violation is filed under the policy that fits first, or under the system if none fits. -/
inductive FiledUnder (adds : List Policy) (site : Site) (v : Violation) : Prop
  | policy (f : Framework) (p : Policy) (offends : site.framework? = some f)
      (first : p.FitsFirst adds f) (id : v.policyId = p.id) (name : v.policyName = p.name)
  | system (none : ∀ f, site.framework? = some f → ∀ p, ¬ Policy.Fits adds f p)
      (id : v.policyId = systemPolicyId) (name : v.policyName = site.fallbackName)

/-- A violation says what was found on an asset, where, and under which policy. -/
structure Reports (adds : List Policy) (a : Asset) (site : Site) (v : Violation) : Prop where
  opened : v.status = .opened
  unresolved : v.resolvedAt = none
  asset : v.assetId = a.identifier ∧ v.assetIdentifier = a.identifier ∧ v.assetType = a.type
  evidence : ∃ e, v.evidence = [e] ∧ e.toExhibit = site.exhibit
  remediation : ∃ r, v.remediation = [r] ∧ r.type = .manual ∧ r.status = .pending
  policy : v.FiledUnder adds site

theorem reports_filed {adds ps : List Policy} (h : Policy.Lists adds ps) {a : Asset} {site : Site}
    {f : Finding} (finds : site.Finds (Policy.active ps) a f) (now : Instant)
    (number remediation : Nat) : (f.filed now number remediation).Reports adds a site := by
  obtain ⟨d, ⟨severity, title, description, remedy, rfl⟩, hwritten⟩ := finds
  obtain ⟨-, rfl⟩ := Draft.written_eq_ok_iff.1 hwritten
  refine ⟨rfl, rfl, ⟨rfl, rfl, rfl⟩, ⟨_, rfl, rfl⟩, ⟨_, rfl, rfl, rfl⟩, ?_⟩
  cases hpolicy : site.policy? (Policy.active ps) with
  | some p =>
    obtain ⟨f, hf, hfirst⟩ := Option.bind_eq_some_iff.1 hpolicy
    exact .policy f p hf (h.fitsFirst_of_firstOf? hfirst) (by rfl) (by rfl)
  | none =>
    refine .system (fun f hf => h.not_fits_of_firstOf? ?_) (by rfl) (by rfl)
    simpa [Site.policy?, hf] using hpolicy

end Violation

/-- A pass of detection under policies that were added one after the other: what it puts on file,
and gives back unless something ends it. -/
theorem ViolationStore.detect_reports {adds ps : List Policy} (h : Policy.Lists adds ps)
    (now : Instant) (inv : Inventory) (rules : List Rule) (s : ViolationStore) :
    ∃ found, (s.detect now inv rules (Policy.active ps)).1.violations = s.violations ++ found ∧
      (∀ vs, (s.detect now inv rules (Policy.active ps)).2 = .ok vs → vs = found) ∧
      ∀ v ∈ found, ∃ a ∈ inv.assets, ∃ site : Site, site.On inv rules a ∧ v.Reports adds a site := by
  obtain ⟨checked, unchecked, parts, s', pass⟩ :=
    detect_pass now inv rules (Policy.active ps) s
  have ends := pass.ends
  generalize s.detect now inv rules (Policy.active ps) = result at ends ⊢
  refine ⟨parts.flatten, ?_, ?_, fun v hv => ?_⟩
  · cases ends <;> exact pass.violations
  · intro vs hvs
    cases ends <;> cases hvs
    rfl
  · obtain ⟨a, ha, site, on, f, finds, number, remediation, rfl⟩ := pass.checks.exists_finding hv
    refine ⟨a, ?_, site, on, Violation.reports_filed h finds now number remediation⟩
    rw [pass.assets]
    exact List.mem_append_left unchecked ha

/-- A policy that is archived when it is added again gives way to the next one. -/
example :
    let adds : List Policy := [⟨"first", "First", .custom, .active, "", "1.0"⟩,
      ⟨"second", "Second", .custom, .active, "", "1.0"⟩,
      ⟨"first", "First", .custom, .archived, "", "1.1"⟩]
    let policies := Policy.active (adds.foldl (fun ps p => p.register ps) [])
    (ViolationStore.empty.detect ⟨0⟩ .mixed Rule.standard policies).1.violations.map
      (fun v => (v.policyId, v.policyName)) = [("second", "Second")] := by
  decide +kernel

/-- **Every violation that is detected reports what was found**, and is filed under the policy that
was added first among those that fit. -/
theorem detect_provenance (a : Agent) (adds : List Policy) :
    ∃ found, (a.withPolicies adds).detect.1.violations.violations =
        a.violations.violations ++ found ∧
      (∀ vs, (a.withPolicies adds).detect.2 = .ok vs → vs = found) ∧
      ∀ v ∈ found, ∃ asset ∈ a.inventory.assets, ∃ site : Site,
        site.On a.inventory a.rules asset ∧ v.Reports adds asset site := by
  obtain ⟨policies, heq, lists⟩ :=
    Agent.foldl_addPolicy (a := { a with policies := [] }) Policy.lists_nil adds
  rw [List.nil_append] at lists
  rw [Agent.withPolicies, heq]
  exact ViolationStore.detect_reports lists a.now a.inventory a.rules a.violations

end Compliance
