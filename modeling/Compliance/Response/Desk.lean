import Compliance.Playbook.Registry
import Compliance.Response.Run

/-!
# Responding to violations

The desk runs every playbook that responds to a violation, in the order of registration, and puts
each run on record (`execute_playbooks`). A run that fails does not keep the next from starting; an
interruption ends the whole response.
-/
namespace Compliance

open Calendar

structure Desk where
  world : World
  registry : Registry
  ledger : Ledger

/-- What a response comes to: the incidents of its successful runs, and why it was broken off. -/
structure Responses where
  incidentIds : List String
  interruption : Option Interruption

/-- The incidents that a response gives back. One that is broken off gives nothing back. -/
def Responses.returned? (r : Responses) : Option (List String) :=
  if r.interruption.isNone then some r.incidentIds else none

/-- A list of incidents that takes in those of each successful run as it ends. -/
def Responses.collected (r : Responses) (earlier : List String) : List String :=
  earlier ++ r.incidentIds

namespace Desk

/-- Puts a run on record (`_finish`). -/
def conclude (p : Playbook) (run : Run) (ending : Ending) (d : Desk) : Desk :=
  let now := run.world.now
  { world := run.world
    registry := d.registry.ran now p.id
    ledger := d.ledger ++ [⟨p.id, now, ending.outcome, run.bound⟩] }

/-- Runs playbooks for a violation, one after the other (the loop of `execute_playbooks`). -/
def runAll (t : Terms) (v : Violation) : List Playbook → Desk → Desk × Responses
  | [], d => (d, ⟨[], none⟩)
  | p :: rest, d =>
    let (run, ending) := Run.start t p v d.world
    let d := d.conclude p run ending
    match ending with
    | .interrupted cause => (d, ⟨[], some cause⟩)
    | .failed _ => runAll t v rest d
    | .finished =>
      let (d, later) := runAll t v rest d
      (d, { later with incidentIds := run.bound.toList ++ later.incidentIds })

/-- The playbooks that respond to a violation (`list_enabled`, `should_trigger`). -/
def playbooksFor (d : Desk) (v : Violation) : List Playbook :=
  d.registry.enabled.filter (·.trigger.accepts v)

/-- Responds to a violation (`execute_playbooks`). -/
def respond (t : Terms) (v : Violation) (d : Desk) : Desk × Responses :=
  d.runAll t v (d.playbooksFor v)

/-- Counts of playbooks, incidents and runs (`get_stats` of the executor). -/
def statistics (d : Desk) : Value :=
  let incidents := d.world.incidents.incidents
  .record [("total_playbooks", .int d.registry.playbooks.length),
    ("enabled_playbooks", .int d.registry.enabled.length),
    ("total_incidents", .int incidents.length),
    ("open_incidents", .int (incidents.filter (·.status ≠ .closed)).length),
    ("closed_incidents", .int (incidents.filter (·.status = .closed)).length),
    ("recent_executions", .int d.ledger.length)]

end Desk
end Compliance
