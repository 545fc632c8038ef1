import Compliance.Agent.Basic
import Compliance.Number.Literal
import Compliance.Number.Exact

/-!
# Scans

A scan (`run_scan`) detects violations on all assets and then responds to each of them
(`_detect_and_respond`), unless a deadline passes or it is cancelled (`cancel_scan`). Scans that are
asked for together follow one another, since a scan holds a lock.
-/
namespace Compliance

open Calendar Number

/-- What a scan comes to (`ScanResult`). -/
structure Scan where
  /-- The violations that were responded to, the last one perhaps in part. -/
  violations : List Violation
  /-- The incidents of the runs that succeeded. -/
  incidentIds : List String
  assetsChecked : Nat
  interruption : Option Interruption

/-- Whether the time limit broke the scan off. -/
def Scan.isTimedOut (s : Scan) : Bool := s.interruption = some .deadline

/-- Whether a cancellation broke the scan off. -/
def Scan.isCancelled (s : Scan) : Bool :=
  s.interruption = some .cancelled || s.interruption = some .cancelledBefore

/-- The violations responded to, and what the responses come to. -/
structure Progress where
  violations : List Violation
  responses : Responses

namespace Desk

/-- Responds to violations one after the other (the loop of `_detect_and_respond`). -/
def respondAll (t : Terms) : List Violation → Desk → Desk × Progress
  | [], d => (d, ⟨[], ⟨[], none⟩⟩)
  | v :: rest, d =>
    let (d, r) := d.respond t v
    match r.interruption with
    | some _ => (d, ⟨[v], r⟩)
    | none =>
      let (d, later) := respondAll t rest d
      (d, ⟨v :: later.violations,
        { later.responses with incidentIds := r.incidentIds ++ later.responses.incidentIds }⟩)

end Desk

namespace Agent

/-- Detects violations and responds to them (`_detect_and_respond`). -/
def detectAndRespond (a : Agent) (watch : Watch) : Agent × Except Pattern.Fault Scan :=
  match a.detect with
  | (a, .error f) => (a, .error f)
  | (a, .ok found) =>
    let (desk, p) := a.desk.respondAll (a.terms watch) found
    ({ a with desk }, .ok
      ⟨p.violations, p.responses.incidentIds, a.inventory.assets.length, p.responses.interruption⟩)

/-- How long a scan may take. -/
inductive TimeLimit where
  | unlimited
  /-- The time is up before the scan has begun. -/
  | expired
  | seconds (s : Rat)
  /-- The time is up as soon as the scan waits. -/
  | atOnce
  /-- More seconds than can be counted. -/
  | beyond

/-- The limit that a number of seconds sets. -/
def TimeLimit.of : Exact → TimeLimit
  | .finite s => if s ≤ 0 then .expired else .seconds s
  | .infinite true => .expired
  | .infinite false => .unlimited
  | .undefined => .atOnce

/-- The limit that a whole number of seconds sets. -/
def TimeLimit.ofInt (n : Int) : TimeLimit :=
  match ofInt? n with
  | some _ => .of (.finite n)
  | none => if n ≤ 0 then .expired else .beyond

/-- When the time is up of a scan that begins. -/
def TimeLimit.deadline? (start : Rat) : TimeLimit → Option Rat
  | .seconds s => some (start + s)
  | .atOnce => some start
  | _ => none

/-- The time that has been spent waiting. -/
def waited (a : Agent) : Rat := a.desk.world.clock.waited

/-- Why a scan comes to nothing. -/
inductive ScanFault where
  | rule (f : Pattern.Fault)
  | timeLimit

/-- Scans under a time limit (`run_scan`), unless cancelled (`cancel_scan`) when so much time has
been spent waiting, or when the token of the scan is set otherwise. -/
def scanWith (a : Agent) (limit : TimeLimit) (token : Token) (cancelAt : Option Rat) :
    Agent × Except ScanFault Scan :=
  match limit with
  | .expired => (a, .ok ⟨[], [], 0, some .deadline⟩)
  | .beyond => (a, .error .timeLimit)
  | limit =>
    let (a, r) := a.detectAndRespond ⟨token, cancelAt, limit.deadline? a.waited⟩
    (a, r.mapError .rule)

/-- Scans under a time limit, unless cancelled when so much time has been spent waiting. -/
def scan (a : Agent) (limit : TimeLimit) (cancelAt : Option Rat) : Agent × Except ScanFault Scan :=
  a.scanWith limit .unset cancelAt

/-- The time limit of the settings. -/
def defaultLimit (a : Agent) : TimeLimit :=
  match a.settings.scanTimeout with
  | some x => .of (exact x)
  | none => .unlimited

/-- The milliseconds between two times, in the arithmetic of doubles. -/
def millisBetween (start stop : Rat) : Float := (nearest stop - nearest start) * 1000

/-- A scan with the milliseconds from the time it was asked for to its end. -/
structure TimedScan where
  scan : Scan
  millis : Float

/-- Scans that were all asked for at the time `start`. Each has a token of its own, and is open to
the cancellations that come after its own beginning. -/
def scanFrom (start : Rat) (cancels : List Rat) :
    Token → List (Option TimeLimit) → Agent → Agent × List (Except ScanFault TimedScan)
  | _, [], a => (a, [])
  | token, limit :: rest, a =>
    let cancelAt := soonest? (cancels.filter (a.waited < ·))
    let (a, r) := a.scanWith (limit.getD a.defaultLimit) token cancelAt
    let timed := r.map fun s => ⟨s, millisBetween start a.waited⟩
    let (a, later) := scanFrom start cancels .unset rest a
    (a, timed :: later)

/-- Scans that are asked for together, with cancellations so many seconds later; one that is due at
once comes in the first wait of the first scan. What comes back last is the cancellations that came
before the end of all scans or ended the last of them. -/
def scanAll (limits : List (Option TimeLimit)) (cancels : List Rat) (a : Agent) :
    Agent × List (Except ScanFault TimedScan) × List Rat :=
  let start := a.waited
  let token : Token :=
    if cancels.any (· ≤ 0) then .during a.desk.world.clock.waits 0 else .unset
  let (a, scans) := scanFrom start (cancels.map (start + ·)) token limits a
  (a, scans, cancels.filter (start + · ≤ a.waited))

/-- The record of a scan (`to_dict` of `ScanResult`). -/
def scanRecord (a : Agent) (t : TimedScan) : Except ShapeFault Value := do
  let incidents := t.scan.incidentIds.filterMap a.incidents.find?
  let incidents ← incidents.mapM Incident.toValue
  return .record [("violations", .list (t.scan.violations.map Violation.toValue)),
    ("incidents", .list incidents), ("assets_checked", .int t.scan.assetsChecked),
    ("cancelled", .bool t.scan.isCancelled),
    ("timed_out", .bool t.scan.isTimedOut),
    ("duration_ms", .float ((exact t.millis).toPlaces 1))]

end Agent
end Compliance
