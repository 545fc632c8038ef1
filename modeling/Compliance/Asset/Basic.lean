import Compliance.Calendar.Clock
import Compliance.Vocabulary

/-!
# Assets

What is monitored (`MonitoredAsset`): domains, addresses, certificates and cloud resources. An asset
is active from the first time that facts about it arrive.
-/
namespace Compliance

open Calendar

inductive AssetType where
  | domain
  | ip
  | certificate
  | cloudResource
  deriving DecidableEq

instance : Vocabulary AssetType where
  name := "AssetType"
  members := [.domain, .ip, .certificate, .cloudResource]
  word
    | .domain => "domain"
    | .ip => "ip"
    | .certificate => "certificate"
    | .cloudResource => "cloud_resource"

inductive AssetStatus where
  | unknown
  | active
  deriving DecidableEq

instance : Vocabulary AssetStatus where
  name := "AssetStatus"
  members := [.unknown, .active]
  word
    | .unknown => "unknown"
    | .active => "active"

structure Asset where
  id : String
  type : AssetType
  identifier : String
  organization : String
  lastChecked : Option Instant
  status : AssetStatus
  metadata : Value

namespace Asset

/-- Whether an asset is the one of a type and identifier. -/
def isFor (a : Asset) (type : AssetType) (identifier : String) : Bool :=
  a.type = type && a.identifier = identifier

/-- The asset after facts about it have arrived (`_mark_checked`). -/
def checked (now : Instant) (a : Asset) : Asset :=
  { a with lastChecked := some now, status := .active }

/-- The asset as a record. -/
def toValue (a : Asset) : Value :=
  .record [("id", .text a.id), ("type", .member a.type), ("identifier", .text a.identifier),
    ("organization_id", .text a.organization),
    ("last_checked", .text? (a.lastChecked.map Instant.iso)), ("status", .member a.status),
    ("metadata", a.metadata)]

end Asset

/-- The name of the `n`th object of a kind. -/
def label (kind : String) (n : Nat) : String := kind ++ "-" ++ toString n

theorem label_inj {kind : String} {m n : Nat} : label kind m = label kind n ↔ m = n := by
  refine ⟨fun h => ?_, fun h => h ▸ rfl⟩
  have hr : m.repr = n.repr := (String.append_right_inj _).1 h
  have hd := congrArg (fun s => Nat.ofDigitChars 10 s.toList 0) hr
  simpa [Nat.repr] using hd

/-- Where no two objects have the same id, looking up the id of one finds it. -/
theorem find?_of_nodup {α : Type} {id : α → String} {xs : List α} (h : (xs.map id).Nodup) {x : α}
    (hx : x ∈ xs) : xs.find? (id · = id x) = some x := by
  induction xs with
  | nil => cases hx
  | cons y ys ih =>
    rw [List.map_cons, List.nodup_cons] at h
    rcases List.mem_cons.1 hx with rfl | hx
    · simp
    · have hne : id y ≠ id x := fun he => h.1 (he ▸ List.mem_map_of_mem hx)
      simp only [List.find?_cons, hne, decide_false]
      exact ih h.2 hx

end Compliance
