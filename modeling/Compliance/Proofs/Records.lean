import Compliance.Proofs.Answers
import Compliance.Proofs.Catalogue
import Compliance.Proofs.Decimals
import Compliance.Proofs.Interruption

/-!
# The ledger and what is shown of it

The ledger grows at its end only, by one record for every run, whatever happens between the runs. A
query shows the last records, as many as it asks for (`IsEnd`). A request for no records at all is
answered as if it had not said how many, so it shows as many as the settings say
(`executions_none`). Main statement: `ledger_shows`.
-/
namespace Compliance

/-! ## Runs are put on record -/

/-- Playbooks are run for a violation, whatever has happened since the last such runs. -/
structure Undertaking where
  world : World
  registry : Registry
  terms : Terms
  violation : Violation
  playbooks : List Playbook

/-- The runs of an undertaking. -/
def Undertaking.runs (u : Undertaking) : List Turn :=
  turns u.terms (u.playbooks.map fun p => (u.violation, p.definition)) u.world

namespace Desk

/-- The desk after an undertaking. -/
def undertake (d : Desk) (u : Undertaking) : Desk :=
  ({ d with world := u.world, registry := u.registry }.runAll u.terms u.violation u.playbooks).1

/-- A response is an undertaking. -/
example (d : Desk) (t : Terms) (v : Violation) :
    d.undertake ⟨d.world, d.registry, t, v, d.playbooksFor v⟩ = (d.respond t v).1 := rfl

/-- An undertaking adds the records of its runs to what is on record. -/
theorem undertake_ledger (d : Desk) (u : Undertaking) :
    (d.undertake u).ledger = d.ledger ++ u.runs.map Turn.entry := by
  rw [undertake, runAll_eq, after_ledger]
  rfl

theorem foldl_undertake_ledger (us : List Undertaking) (d : Desk) :
    (us.foldl undertake d).ledger = d.ledger ++ (us.flatMap (·.runs)).map Turn.entry := by
  induction us generalizing d with
  | nil => simp
  | cons u us ih =>
    rw [List.foldl_cons, ih, undertake_ledger, List.flatMap_cons, List.map_append,
      List.append_assoc]

theorem count?_recent (d : Desk) :
    d.count? "recent_executions" = some (.int d.ledger.length) := by
  simp [count?, statistics, Value.record, Value.entries?, Value.opened]

end Desk

/-! ## The end of the ledger -/

/-- The last records of a ledger, as many as asked for, or all if there are not so many. -/
structure Ledger.IsEnd (l : Ledger) (limit : Int) (shown : Ledger) : Prop where
  suffix : shown <:+ l
  length : (shown.length : Int) = min (max limit 0) l.length

theorem Ledger.recent_isEnd (l : Ledger) (limit : Int) : l.IsEnd limit (l.recent limit) := by
  refine ⟨List.drop_suffix _ _, ?_⟩
  rw [recent, List.length_drop]
  omega

/-- There is only one such end. -/
theorem Ledger.IsEnd.eq_recent {l shown : Ledger} {limit : Int} (h : l.IsEnd limit shown) :
    shown = l.recent limit := by
  have hlength : shown.length = (l.recent limit).length :=
    Int.ofNat_inj.1 (h.length.trans (l.recent_isEnd limit).length.symm)
  rw [List.suffix_iff_eq_drop.1 h.suffix, hlength,
    ← List.suffix_iff_eq_drop.1 (l.recent_isEnd limit).suffix]

/-! ## Requests for the ledger -/

namespace Api

/-- A record of a run of a playbook with a text for id is sent as it is. -/
theorem isSent_execution {e : Execution} (h : ∃ s, e.playbookId = .text s) : IsSent e.toValue := by
  obtain ⟨s, hs⟩ := h
  have hnames : AreSendable ["playbook_id", "executed_at", "result", "incident_id", "error"] := by
    decide
  unfold Execution.toValue
  split
  refine isSent_record hnames ?_
  simp [hs, isSent_text, isSent_text?]

/-- A request for the ledger, and what it says of how much to show. -/
structure Request.AsksForRuns (r : Request) (limit : Option String) : Prop where
  method : r.method = "GET"
  path : r.segments = ["executions"]
  limit : r.parameters.reverse.lookup "limit" = limit

/-- The answer that shows some records. -/
def showing (l : Ledger) : Reply := .of 200 (.list (l.map Execution.toValue))

variable {a : Agent} {r : Request}

theorem Request.AsksForRuns.answer_eq {limit : Option String} (h : r.AsksForRuns limit) :
    answer a r = executions a r := by
  have hget : ("GET" = "HEAD") = False := by decide
  simp only [answer, h.method, hget, if_false]
  unfold fullAnswer
  rw [h.path, h.method]
  rfl

/-- Without a word on how much to show, as much is shown as the settings say. -/
theorem answer_unlimited (h : r.AsksForRuns none) :
    answer a r = (a, showing (a.desk.ledger.recent a.settings.historyLimit)) := by
  rw [h.answer_eq]
  simp only [executions, Request.parameter, h.limit, withForm, showing]

/-- A whole number of records to show. -/
theorem answer_limited {n : Int} (h : r.AsksForRuns (some (toString n)))
    (hn : (toString n).length ≤ Number.digitLimit) :
    answer a r = (a, showing (a.desk.ledger.recent
      (if n = 0 then (a.settings.historyLimit : Int) else n))) := by
  have hread : Field.int (.text (toString n)) = .accepted n := by
    rw [Field.int_toString, if_neg (Nat.not_lt.2 hn)]
  rw [h.answer_eq]
  simp only [executions, Request.parameter, h.limit, hread]
  rfl

/-- A limit with too many characters is refused. -/
theorem answer_overlong {n : Int} (h : r.AsksForRuns (some (toString n)))
    (hn : Number.digitLimit < (toString n).length) :
    ∃ cs, answer a r = (a, .invalid cs) := by
  have hread : Field.int (.text (toString n)) = Checked.complain .intParsingSize := by
    rw [Field.int_toString, if_pos hn]
  rw [h.answer_eq]
  simp only [executions, Request.parameter, h.limit, hread]
  exact ⟨_, rfl⟩

end Api

/-- What an agent holds and shows on record after runs. -/
structure Agent.ShowsRuns (before : Agent) (runs : List Turn) (a : Agent) : Prop where
  /-- Each run is put on record at the end, and what was on record stays as it was. -/
  appended : a.desk.ledger = before.desk.ledger ++ runs.map Turn.entry
  counted : a.desk.count? "recent_executions" =
    some (.int (before.desk.ledger.length + runs.length))
  queried : ∀ limit, a.desk.ledger.IsEnd limit (a.desk.ledger.recent limit)
  unlimited : ∀ r : Api.Request, r.AsksForRuns none →
    ∃ shown, a.desk.ledger.IsEnd a.settings.historyLimit shown ∧
      Api.answer a r = (a, Api.showing shown)
  limited : ∀ (r : Api.Request) (n : Int), r.AsksForRuns (some (toString n)) → n ≠ 0 →
    (toString n).length ≤ Number.digitLimit →
      ∃ shown, a.desk.ledger.IsEnd n shown ∧ Api.answer a r = (a, Api.showing shown)
  overlong : ∀ (r : Api.Request) (n : Int), r.AsksForRuns (some (toString n)) →
    Number.digitLimit < (toString n).length → ∃ cs, Api.answer a r = (a, .invalid cs)
  /-- Records of playbooks with texts for ids are sent as they are. -/
  sent : (∀ e ∈ a.desk.ledger, ∃ s, e.playbookId = .text s) → ∀ shown, shown <:+ a.desk.ledger →
    Api.showing shown = .json 200 (.list (shown.map Execution.toValue))

/-- **The ledger grows at its end, and queries show the end of it.** Whatever the agent, the runs
and what happens between them: every run that was started adds one record, however it ended, and a
query is answered with the last records, as many as it asks for or else as the settings say. -/
theorem ledger_shows (before : Agent) (us : List Undertaking) :
    before.ShowsRuns (us.flatMap (·.runs))
      { before with desk := us.foldl Desk.undertake before.desk } := by
  have happended := Desk.foldl_undertake_ledger us before.desk
  refine ⟨happended, ?_, Ledger.recent_isEnd _, fun r h => ?_, fun r n h hzero hn => ?_,
    fun r n h hn => Api.answer_overlong h hn, fun hids shown hshown => ?_⟩
  · rw [Desk.count?_recent, happended]
    simp
  · exact ⟨_, Ledger.recent_isEnd _ _, Api.answer_unlimited h⟩
  · refine ⟨_, Ledger.recent_isEnd _ _, ?_⟩
    rw [Api.answer_limited h hn, if_neg hzero]
  · refine (Api.isSent_list fun v hv => ?_).reply 200
    obtain ⟨e, he, rfl⟩ := List.mem_map.1 hv
    exact Api.isSent_execution (hids e (hshown.subset he))

/-- **A request for no records is answered with some.** One run is on record. The last none of the
records are none, but the request is answered as if it had not said how many. -/
theorem executions_none :
    let e : Execution := ⟨.text "empty", ⟨0⟩, .success, none⟩
    let a : Agent := { Agent.alarmed with desk := { Desk.quiet with ledger := [e] } }
    let r : Api.Request := ⟨"GET", "/executions", [("limit", "0")], none⟩
    r.AsksForRuns (some (toString (0 : Int))) ∧
      Api.answer a r = (a, .json 200 (.list [e.toValue])) ∧
        ¬ ∃ shown, a.desk.ledger.IsEnd 0 shown ∧ Api.answer a r = (a, Api.showing shown) := by
  intro e a r
  have hasks : r.AsksForRuns (some (toString (0 : Int))) := ⟨rfl, by decide +kernel, by decide⟩
  have hanswer : Api.answer a r = (a, .json 200 (.list [e.toValue])) := by
    rw [Api.answer_limited hasks (by decide), if_pos rfl]
    have hsent : ∀ v ∈ [e.toValue], Api.IsSent v :=
      List.forall_mem_singleton.2 (Api.isSent_execution ⟨"empty", rfl⟩)
    exact congrArg (Prod.mk a) ((Api.isSent_list hsent).reply 200)
  refine ⟨hasks, hanswer, ?_⟩
  rintro ⟨shown, hend, hshown⟩
  have hempty : shown = [] := hend.eq_recent
  have hnone : Api.showing [] = .json 200 (.list []) :=
    (Api.isSent_list (List.forall_mem_nil Api.IsSent)).reply 200
  rw [hanswer, hempty, hnone] at hshown
  cases hshown

end Compliance
