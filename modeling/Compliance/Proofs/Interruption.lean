import Compliance.Proofs.Isolation
import Compliance.Proofs.Passing

/-!
# Scans that are broken off

A scan (`run_scan`) that is broken off has done what the same scan does when nothing breaks it off,
up to a visit in one of its runs. That run leaves one record, of a failure (`_finish`), and its
incident is not given back. All that detection found stays on file. Main statement:
`scan_brokenOff`, which tells apart three ways for a scan to end (`Ends`):

* `whole`: nothing broke it off;
* `suspended`: it was broken off in a delay, by its deadline or by a cancellation;
* `noticed`: it was broken off before a step, because the token had been set in an earlier delay
  that went on to its end (`scan_brokenOff_overheard`). A scan that is `whole` may have been
  cancelled so as well, if no step came after.
-/
namespace Compliance

open Turn

/-! ## What detection files -/

namespace ViolationStore

/-- What is filed comes after what was on file, and is open. -/
structure Files (s : ViolationStore) (vs : List Violation) (s' : ViolationStore) : Prop where
  violations : s'.violations = s.violations ++ vs
  opened : ∀ v ∈ vs, v.status = .opened

theorem Files.nil (s : ViolationStore) : s.Files [] s := ⟨(List.append_nil _).symm, by simp⟩

theorem Files.append {s s' s'' : ViolationStore} {vs ws : List Violation} (h : s.Files vs s')
    (h' : s'.Files ws s'') : s.Files (vs ++ ws) s'' := by
  refine ⟨?_, fun v hv => ?_⟩
  · rw [h'.violations, h.violations, List.append_assoc]
  · rcases List.mem_append.1 hv with hv | hv
    · exact h.opened v hv
    · exact h'.opened v hv

theorem file_files (now : Calendar.Instant) (f : Finding) (s : ViolationStore) :
    s.Files [(s.file now f).2] (s.file now f).1 :=
  ⟨rfl, fun v hv => by rw [List.mem_singleton.1 hv]; rfl⟩

theorem fileAll_files (now : Calendar.Instant) (fs : List Finding) (s : ViolationStore) :
    s.Files (s.fileAll now fs).2 (s.fileAll now fs).1 := by
  induction fs generalizing s with
  | nil => exact .nil s
  | cons f fs ih => exact (file_files now f s).append (ih (s.file now f).1)

variable (now : Calendar.Instant) (inv : Inventory) (rules : List Rule) (policies : List Policy)

theorem checkAsset_files (a : Asset) {s s' : ViolationStore} {vs : List Violation}
    (h : s.checkAsset now inv rules policies a = (s', .ok vs)) : s.Files vs s' := by
  unfold checkAsset at h
  split at h
  · next fs _ =>
    have hfiles := fileAll_files now fs s
    cases h
    exact hfiles
  · cases h

theorem checkAssets_files (as : List Asset) {s s' : ViolationStore} {vs : List Violation}
    (h : s.checkAssets now inv rules policies as = (s', .ok vs)) : s.Files vs s' := by
  induction as generalizing s vs with
  | nil =>
    cases h
    exact .nil _
  | cons a as ih =>
    unfold checkAssets at h
    split at h
    · next s₁ found hfirst =>
      have hfiles := checkAsset_files now inv rules policies a hfirst
      generalize hrest : s₁.checkAssets now inv rules policies as = result at h
      obtain ⟨s₂, later⟩ := result
      cases later with
      | error f => cases h
      | ok later =>
        cases h
        exact hfiles.append (ih hrest)
    · cases h

end ViolationStore

namespace Agent

/-- Detection changes nothing but the violations on file. -/
theorem detect_ok {a a₁ : Agent} {found : List Violation} (h : a.detect = (a₁, .ok found)) :
    a₁ = { a with violations := a₁.violations } ∧
      a.violations.Files found a₁.violations := by
  unfold detect at h
  generalize hd : a.violations.detect a.now a.inventory a.rules a.activePolicies = result at h
  obtain ⟨violations, r⟩ := result
  cases h
  exact ⟨rfl, ViolationStore.checkAssets_files _ _ _ _ _ hd⟩

/-! ## Scans turn by turn -/

/-- The agent after a response to what was found. -/
def responded (a : Agent) (violations : ViolationStore) (found : List Violation) (watch : Watch) :
    Agent :=
  { a with violations, desk := (a.desk.respondAll (a.terms watch) found).1 }

/-- What a scan that found something comes to. -/
def scanOf (a : Agent) (found : List Violation) (watch : Watch) : Scan :=
  let p := (a.desk.respondAll (a.terms watch) found).2
  ⟨p.violations, p.responses.incidentIds, a.inventory.assets.length, p.responses.interruption⟩

theorem detectAndRespond_eq {a a₁ : Agent} {found : List Violation} (watch : Watch)
    (h : a.detect = (a₁, .ok found)) :
    a.detectAndRespond watch =
      (a.responded a₁.violations found watch, .ok (a.scanOf found watch)) := by
  have ha := (detect_ok h).1
  unfold detectAndRespond
  rw [h, ha]
  rfl

/-- All that is found is on file and open, whatever the response comes to. -/
theorem responded_onFile {a a₁ : Agent} {found : List Violation} (h : a.detect = (a₁, .ok found))
    (watch : Watch) :
    ∀ v ∈ found, v ∈ (a.responded a₁.violations found watch).violations.violations ∧
      v.status = .opened := by
  have hfiles := (detect_ok h).2
  intro v hv
  refine ⟨?_, hfiles.opened v hv⟩
  change v ∈ a₁.violations.violations
  rw [hfiles.violations]
  exact List.mem_append_right _ hv

/-- A scan that has time to begin is detection and response under a watch. -/
theorem scanWith_eq (a : Agent) {limit : TimeLimit} (hl : limit ≠ .expired) (hb : limit ≠ .beyond)
    (token : Token) (cancelAt : Option Rat) :
    a.scanWith limit token cancelAt =
      ((a.detectAndRespond ⟨token, cancelAt, limit.deadline? a.waited⟩).1,
        (a.detectAndRespond ⟨token, cancelAt, limit.deadline? a.waited⟩).2.mapError .rule) := by
  cases limit with
  | expired => exact absurd rfl hl
  | beyond => exact absurd rfl hb
  | _ => rfl

theorem scan_unlimited_eq (a : Agent) :
    a.scan .unlimited none =
      ((a.detectAndRespond .none).1, (a.detectAndRespond .none).2.mapError .rule) := rfl

theorem scan_unlimited {a a₁ : Agent} {found : List Violation} (h : a.detect = (a₁, .ok found)) :
    a.scan .unlimited none =
      (a.responded a₁.violations found .none, .ok (a.scanOf found .none)) := by
  rw [scan_unlimited_eq, detectAndRespond_eq _ h]
  rfl

/-! ## The run that is suspended -/

/-- The turns that a scan gives when nothing breaks it off. -/
structure Completes (a b : Agent) (full : Scan) (runs : List Turn) : Prop where
  scan : a.scan .unlimited none = (b, .ok full)
  found : a.detect.2 = .ok full.violations
  given : runs =
    turns (a.terms .none) (full.violations.flatMap a.desk.schedule) a.desk.world
  ledger : b.desk.ledger = a.desk.ledger ++ runs.map entry
  uninterrupted : full.interruption = none

/-- A scan is broken off in run `k`, at a visit that the run makes when nothing breaks it off. -/
structure BrokenOff (a a' : Agent) (s full : Scan) (runs : List Turn) (k : Nat) (x : Turn)
    (visit : Visit) : Prop where
  run : runs[k]? = some x
  visited : visit ∈ x.visits (a.terms .none)
  /-- The records of the runs before, and one more for the run that is broken off. -/
  ledger : a'.desk.ledger = a.desk.ledger ++ (runs.map entry).take k ++
    [⟨x.playbook.id, a'.now, .failure .cancelled, visit.before.bound⟩]
  /-- The violations up to the one that run `k` responds to. -/
  violations : ∃ earlier later,
    full.violations = earlier ++ x.violation :: later ∧
      s.violations = earlier ++ [x.violation] ∧
      (earlier.flatMap a.desk.schedule).length ≤ k ∧
      k < ((earlier ++ [x.violation]).flatMap a.desk.schedule).length
  incidentIds : s.incidentIds = successIds ((runs.map entry).take k)
  /-- The run that is broken off leaves the incidents and what was sent as they were at the visit.
  -/
  incidents : a'.incidents = visit.before.world.incidents
  outbox : a'.desk.world.outbox = visit.before.world.outbox
  /-- All that was detected is on file and open, whether it was responded to or not. -/
  onFile : ∀ v ∈ full.violations, v ∈ a'.violations.violations ∧ v.status = .opened
  flags : s.isTimedOut = !s.isCancelled

/-- How a scan under a watch ends, compared with the scan that nothing breaks off. -/
inductive Ends (a : Agent) (w : Watch) (a' : Agent) (s : Scan) : Prop
  /-- It is that scan. If it was cancelled then in a delay that went on to its end, and if it has a
  deadline then it is over before that. -/
  | whole {runs : List Turn} (completes : a.Completes a' s runs)
    (inTime : ∀ d, w.deadline = some d → a.waited < d → a'.waited < d)
    (overheard : w.isCancelled a.desk.world.clock = false →
      w.isCancelled a'.desk.world.clock = true → ∃ x ∈ runs, x.Overhears (a.terms w))
  /-- It is broken off in a delay. -/
  | suspended {b : Agent} {full : Scan} {runs : List Turn} {k : Nat} {x : Turn} {visit : Visit}
    {cause : Interruption} (completes : a.Completes b full runs)
    (brokenOff : a.BrokenOff a' s full runs k x visit) (interruption : s.interruption = some cause)
    (allowed : w.Allows cause) (delay : visit.step.type.member? = some .delay)
  /-- It is broken off before a step. It was cancelled in an earlier delay that went on to its end.
  -/
  | noticed {b : Agent} {full : Scan} {runs : List Turn} {k : Nat} {x : Turn} {visit : Visit}
    (completes : a.Completes b full runs) (brokenOff : a.BrokenOff a' s full runs k x visit)
    (interruption : s.interruption = some .cancelledBefore)
    (world : a'.desk.world = visit.before.world)
    (inTime : ∀ d, w.deadline = some d → a.waited < d → a'.waited < d)
    (overheard : w.isCancelled a.desk.world.clock = false →
      ∃ y ∈ runs.take (k + 1), y.Overhears (a.terms w))

/-- What a scan under a watch comes to. If detection finds a fault then so does the scan that
nothing breaks off, and they are the same. -/
inductive Scanned (a : Agent) (w : Watch) : Agent × Except ScanFault Scan → Prop
  | fault {b : Agent} {f : ScanFault} (unwatched : a.scan .unlimited none = (b, .error f)) :
    Scanned a w (b, .error f)
  | ends {b : Agent} {s : Scan} (h : a.Ends w b s) : Scanned a w (b, .ok s)

theorem Scanned.ended {a b : Agent} {w : Watch} {s : Scan} (h : a.Scanned w (b, .ok s)) :
    a.Ends w b s := by
  cases h with
  | ends h => exact h

/-- What a watch breaks off is out of time or cancelled, and not both. -/
theorem isTimedOut_of_breaks {s : Scan} {w : Watch} {cause : Interruption}
    (hi : s.interruption = some cause) (hw : w.Breaks cause) : s.isTimedOut = !s.isCancelled := by
  unfold Scan.isTimedOut Scan.isCancelled
  rw [hi]
  cases hw with
  | before h => rfl
  | within h => cases h <;> rfl

/-- The record of a turn that is broken off. -/
theorem entry_of_cutShort {t : Terms} {x y : Turn} {visit : Visit} {cause : Interruption}
    (cut : CutShort t x y) (hending : y.ending = .interrupted cause)
    (hvisit : Run.CutShort t.watch visit y.run cause) :
    y.entry = ⟨x.playbook.id, y.run.world.now, .failure .cancelled, visit.before.bound⟩ := by
  rw [entry, cut.playbook, hending, hvisit.kept.1]
  rfl

/-- The turn that is broken off is one of those for the last violation that is responded to. -/
theorem violations_of_cut {t : Terms} {d : Desk} {found : List Violation} {earlier : List Turn}
    {y : Turn} {cause : Interruption}
    (hcut : turns t (found.flatMap d.schedule) d.world = earlier ++ [y])
    (hi : interruption (turns t (found.flatMap d.schedule) d.world) = some cause) :
    ∃ before after, found = before ++ y.violation :: after ∧
      (d.respondAll t found).2.violations = before ++ [y.violation] ∧
      (before.flatMap d.schedule).length ≤ earlier.length ∧
      earlier.length < ((before ++ [y.violation]).flatMap d.schedule).length := by
  obtain ⟨before, v, after, w, hfound, hviolations, hnone, hsome, hturns⟩ :=
    Desk.respondAll_violations_of_some t hi
  have hbefore := congrArg List.length (map_turns_of_none t hnone)
  have hle := length_turns_le t (d.schedule v) w
  rw [hcut] at hturns
  generalize turns t (before.flatMap d.schedule) d.world = xs at hbefore hturns
  generalize hys : turns t (d.schedule v) w = ys at hsome hle hturns
  have hne : ys ≠ [] := by
    rintro rfl
    cases hsome
  have hy : y ∈ ys := by
    have hlast := congrArg List.getLast? hturns
    rw [List.getLast?_concat, List.getLast?_append_of_ne_nil _ hne] at hlast
    exact List.mem_of_getLast? hlast.symm
  have hv : y.violation = v :=
    Desk.violation_of_mem_schedule (mem_of_mem_turns t (hys ▸ hy))
  have hlength := congrArg List.length hturns
  have hpos := List.length_pos_of_ne_nil hne
  simp only [List.length_append, List.length_singleton, List.length_map] at hlength hbefore
  rw [hv]
  refine ⟨before, after, hfound, hviolations, by omega, ?_⟩
  rw [List.flatMap_append, List.flatMap_singleton, List.length_append]
  omega

/-- The turns of a response leave the world as it then is. -/
theorem responded_world (a : Agent) (violations : ViolationStore) (found : List Violation)
    (w : Watch) : (a.responded violations found w).desk.world =
      worldAfter (turns (a.terms w) (found.flatMap a.desk.schedule) a.desk.world)
        a.desk.world := by
  rw [← Desk.after_world]
  exact congrArg Desk.world (Desk.respondAll_eq (a.terms w) found a.desk).1

theorem responded_world_of_cut {a : Agent} (violations : ViolationStore) {found : List Violation}
    {w : Watch} {earlier : List Turn} {y : Turn}
    (hcut : turns (a.terms w) (found.flatMap a.desk.schedule) a.desk.world = earlier ++ [y]) :
    (a.responded violations found w).desk.world = y.run.world := by
  rw [responded_world, hcut]
  simp [worldAfter]

/-- What the turns of a response overhear is overheard in the runs up to the one that is cut short,
since that begins as it does when nothing breaks it off. -/
theorem overhears_of_cut {t : Terms} {earlier later : List Turn} {x y z : Turn}
    (cut : CutShort t x y) (hz : z ∈ earlier ++ [y]) (overhears : z.Overhears t) :
    ∃ z ∈ (earlier ++ x :: later).take (earlier.length + 1), z.Overhears t := by
  have hruns : (earlier ++ x :: later).take (earlier.length + 1) = earlier ++ [x] := by
    simp [List.take_append, List.take_of_length_le]
  rw [hruns]
  rcases List.mem_append.1 hz with hz | hz
  · exact ⟨z, List.mem_append_left _ hz, overhears⟩
  · refine ⟨x, List.mem_concat_self, ?_⟩
    rw [List.mem_singleton.1 hz] at overhears
    unfold Overhears visits at overhears ⊢
    rwa [cut.playbook, cut.violation, cut.before] at overhears

section
variable {a a₁ : Agent} {found : List Violation}
  (hd : ∀ p ∈ a.desk.registry.playbooks, p.DelaysFinite) (hdetect : a.detect = (a₁, .ok found))
include hd

theorem schedules_finite (vs : List Violation) :
    ∀ s ∈ vs.flatMap a.desk.schedule, s.2.DelaysFinite := by
  intro s hs
  obtain ⟨v, -, hs⟩ := List.mem_flatMap.1 hs
  exact Desk.schedule_finite hd v s hs

/-- A response whose turns a watch leaves as they are is the response that nothing breaks off. -/
theorem responded_eq_unwatched (violations : ViolationStore) {w : Watch}
    (h : turns (a.terms w) (found.flatMap a.desk.schedule) a.desk.world =
      turns (a.terms .none) (found.flatMap a.desk.schedule) a.desk.world) :
    a.responded violations found w = a.responded violations found .none ∧
      a.scanOf found w = a.scanOf found .none := by
  have hall : a.desk.respondAll (a.terms w) found = a.desk.respondAll (a.terms .none) found :=
    Desk.respondAll_unwatched (schedules_finite hd found) h
  constructor
  · unfold responded
    rw [hall]
  · unfold scanOf
    rw [hall]

include hdetect

theorem scan_completes :
    a.Completes (a.responded a₁.violations found .none) (a.scanOf found .none)
      (turns (a.terms .none) (found.flatMap a.desk.schedule) a.desk.world) := by
  let t := a.terms .none
  have hnone := turns_unwatched t (schedules_finite hd found) a.desk.world
  obtain ⟨hdesk, hresponses⟩ := Desk.respondAll_eq t found a.desk
  have hall : (a.scanOf found .none).violations = found :=
    Desk.respondAll_violations_of_none t hnone
  refine ⟨scan_unlimited hdetect, ?_, ?_, ?_, ?_⟩
  · rw [hdetect, hall]
  · rw [hall]
  · exact (congrArg Desk.ledger hdesk).trans (Desk.after_ledger _ a.desk)
  · exact (congrArg Responses.interruption hresponses).trans hnone

/-- A response whose turns a watch leaves as they are is whole. -/
theorem ends_of_unwatched {w : Watch}
    (h : turns (a.terms w) (found.flatMap a.desk.schedule) a.desk.world =
      turns (a.terms .none) (found.flatMap a.desk.schedule) a.desk.world) :
    a.Ends w (a.responded a₁.violations found w) (a.scanOf found w) := by
  have hfinite := schedules_finite hd found
  have hnone : interruption (turns (a.terms w) (found.flatMap a.desk.schedule) a.desk.world) =
      none := h ▸ turns_unwatched (a.terms w) hfinite a.desk.world
  have hcauses : ∀ cause, interruption
      (turns (a.terms w) (found.flatMap a.desk.schedule) a.desk.world) = some cause →
        cause = .cancelledBefore := by simp [hnone]
  have hworld := responded_world a a₁.violations found w
  have completes := scan_completes hd hdetect
  obtain ⟨hagent, hscan⟩ := responded_eq_unwatched hd a₁.violations h
  rw [← hagent, ← hscan] at completes
  refine .whole completes (fun d hdeadline hlt => ?_) fun hbefore hafter => ?_
  · have hin := turns_inTime (a.terms w) hfinite hcauses hdeadline hlt
    rwa [← hworld] at hin
  · obtain ⟨x, hx, overhears⟩ :=
      turns_overheard (a.terms w) hfinite hcauses hbefore (hworld ▸ hafter)
    exact ⟨x, h ▸ hx, overhears⟩

section
variable {w : Watch} {earlier : List Turn} {x y : Turn}
  (hcut : turns (a.terms w) (found.flatMap a.desk.schedule) a.desk.world = earlier ++ [y])
  (cut : CutShort (a.terms w) x y)
include hcut cut

/-- A response is broken off in the turn that is cut short. -/
theorem brokenOff_of_cut (later : List Turn) {visit : Visit} {cause : Interruption}
    (hvisit : visit ∈ x.visits (a.terms .none)) (hending : y.ending = .interrupted cause)
    (hrun : Run.CutShort w visit y.run cause)
    (hi : interruption (turns (a.terms w) (found.flatMap a.desk.schedule) a.desk.world) =
      some cause) :
    a.BrokenOff (a.responded a₁.violations found w) (a.scanOf found w) (a.scanOf found .none)
      (earlier ++ x :: later) earlier.length x visit := by
  let t := a.terms w
  obtain ⟨hdesk, hresponses⟩ := Desk.respondAll_eq t found a.desk
  have hnone := turns_unwatched t (schedules_finite hd found) a.desk.world
  have hall : (a.scanOf found .none).violations = found :=
    Desk.respondAll_violations_of_none t.unwatched hnone
  obtain ⟨before, after, hfound, hviolations, hle, hlt⟩ := violations_of_cut hcut hi
  rw [cut.violation] at hfound hviolations hlt
  have hworld := responded_world_of_cut a₁.violations hcut
  have hentry := entry_of_cutShort cut hending hrun
  rw [← hworld] at hentry
  have htake : ((earlier ++ x :: later).map entry).take earlier.length = earlier.map entry := by
    simp
  obtain ⟨-, hincidents, houtbox⟩ := hrun.kept
  refine
    { run := by simp
      visited := hvisit
      ledger := ?_
      violations := ⟨before, after, hall.trans hfound, hviolations, hle, hlt⟩
      incidentIds := ?_
      incidents := (congrArg World.incidents hworld).trans hincidents
      outbox := (congrArg World.outbox hworld).trans houtbox
      onFile := hall.symm ▸ responded_onFile hdetect w
      flags := isTimedOut_of_breaks ((congrArg Responses.interruption hresponses).trans hi)
        hrun.breaks }
  · rw [htake, List.append_assoc]
    refine (congrArg Desk.ledger hdesk).trans ?_
    rw [hcut, Desk.after_ledger, List.map_append, List.map_singleton, hentry]
    rfl
  · rw [htake, successIds_map_entry]
    refine (congrArg Responses.incidentIds hresponses).trans ?_
    rw [hcut]
    simp [responses, yields, hending]

theorem ends_of_cut {later : List Turn}
    (hfull : turns (a.terms .none) (found.flatMap a.desk.schedule) a.desk.world =
      earlier ++ x :: later) :
    a.Ends w (a.responded a₁.violations found w) (a.scanOf found w) := by
  let t := a.terms w
  have hfinite := schedules_finite hd found
  have completes := scan_completes hd hdetect
  rw [hfull] at completes
  obtain ⟨visit, hvisit, cause, hending, hrun⟩ := cut.visit
  have hi : interruption (turns t (found.flatMap a.desk.schedule) a.desk.world) = some cause := by
    have hnone := turns_unwatched t hfinite a.desk.world
    rw [hcut]
    exact interruption_concat (interruption_of_append (hfull ▸ hnone)) hending
  have hscan : (a.scanOf found w).interruption = some cause :=
    (congrArg Responses.interruption (Desk.respondAll_eq t found a.desk).2).trans hi
  have brokenOff := brokenOff_of_cut hd hdetect hcut cut later hvisit hending hrun hi
  -- the turn is cut short in a delay, or before a step at which the token is set
  have hworld := responded_world_of_cut a₁.violations hcut
  generalize y.run = run at hrun hworld
  cases hrun with
  | suspended h => exact .suspended completes brokenOff hscan h.allowed h.delay
  | noticed hset =>
    have hcauses : ∀ cause, interruption
        (turns t (found.flatMap a.desk.schedule) a.desk.world) = some cause →
          cause = .cancelledBefore := fun cause hcause => Option.some.inj (hcause.symm.trans hi)
    have hafter := (responded_world a a₁.violations found w).symm
    refine .noticed completes brokenOff hscan hworld (fun d hdeadline hlt => ?_) fun hbefore => ?_
    · have hin := turns_inTime t hfinite hcauses hdeadline hlt
      rwa [hafter] at hin
    · rw [← hworld, ← hafter] at hset
      obtain ⟨z, hz, overhears⟩ := turns_overheard t hfinite hcauses hbefore hset
      rw [hcut] at hz
      exact overhears_of_cut cut hz overhears

end

/-- A response under a watch ends in one of three ways. -/
theorem detected_ends (w : Watch) :
    a.Ends w (a.responded a₁.violations found w) (a.scanOf found w) := by
  rcases turns_watched (a.terms w) (schedules_finite hd found) a.desk.world with
    h | ⟨earlier, x, later, y, hfull, hcut, cut⟩
  · exact ends_of_unwatched hd hdetect h
  · exact ends_of_cut hd hdetect hcut cut hfull

end

/-- **How scans end.** Whatever the agent, as long as the delays of its playbooks are finite, and
whatever time limit or cancellation there is: a scan is what it is when nothing breaks it off, or
an exact prefix of that, up to a visit in one of the runs. A cancellation in a delay ends it there
unless that is over, and then before the next step if there is one. -/
theorem scan_brokenOff {a : Agent} {limit : TimeLimit}
    (hd : ∀ p ∈ a.desk.registry.playbooks, p.DelaysFinite) (hl : limit ≠ .expired)
    (hb : limit ≠ .beyond) (token : Token) (cancelAt : Option Rat) :
    a.Scanned ⟨token, cancelAt, limit.deadline? a.waited⟩ (a.scanWith limit token cancelAt) := by
  rw [scanWith_eq a hl hb]
  generalize hdetect : a.detect = result
  obtain ⟨a₁, r⟩ := result
  cases r with
  | error f =>
    have hfault : ∀ w, a.detectAndRespond w = (a₁, .error f) := by
      intro w
      simp only [detectAndRespond, hdetect]
    rw [hfault]
    refine .fault ?_
    rw [scan_unlimited_eq, hfault]
    rfl
  | ok found =>
    rw [detectAndRespond_eq _ hdetect]
    exact .ends (detected_ends hd hdetect _)

/-- An agent that has heard of an exit of the Tor network. -/
def alarmed : Agent :=
  let address := "203.0.113.7"
  let inventory := (Inventory.empty.add .ip address "default" .null).1
  { settings := ⟨"default", "Default", "agent", "0.0.0.0", 8090, "INFO", .json, 100, 10, none, none,
      .log, none, none, none, none, none, 10⟩
    backends := .recording
    inventory := inventory.setFacts ⟨0⟩
      (.ip ⟨address, .good, true, false, false, false, 4, 64496, "", "", "", "", none⟩)
    rules := Rule.standard
    policies := []
    violations := .empty
    desk := .quiet }

theorem scan_brokenOff_alarmed :
    ∃ a' s, alarmed.scan (.seconds 60) none = (a', .ok s) ∧ s.isTimedOut = true ∧
      alarmed.Ends ⟨.unset, none, TimeLimit.deadline? alarmed.waited (.seconds 60)⟩ a' s := by
  have htimedOut : (match (alarmed.scan (.seconds 60) none).2 with
      | .ok s => s.isTimedOut
      | .error _ => false) = true := by decide +kernel
  split at htimedOut
  · next s hs =>
    have hscan : alarmed.scan (.seconds 60) none =
        ((alarmed.scan (.seconds 60) none).1, .ok s) := by rw [← hs]
    have scanned : alarmed.Scanned ⟨.unset, none, TimeLimit.deadline? alarmed.waited (.seconds 60)⟩
        (alarmed.scan (.seconds 60) none) :=
      scan_brokenOff Desk.quiet_delaysFinite (by simp) (by simp) .unset none
    rw [hscan] at scanned
    exact ⟨_, s, hscan, htimedOut, scanned.ended⟩
  · cases htimedOut

/-- Opens an incident, and waits for no time at all. -/
def hasty : Playbook :=
  .forSeverities "hasty" "Hasty" "Open an incident and give way" []
    [Playbook.actionStep "open" "Open" .createIncident (some "wait"),
      ⟨"wait", .text "Wait", .member .delay, { StepConfig.blank with delay := some (.whole 0) },
        .null, .null⟩]

theorem hasty_keyed : Keyed [hasty, Playbook.patient] := by
  have hdistinct : (Value.text "hasty").alike (.text "patient") = false := by decide
  refine ⟨?_, by simpa [Playbook.hasId, hasty, Playbook.patient, Playbook.forSeverities]⟩
  intro p hp
  rcases List.mem_pair.1 hp with rfl | rfl
  · exact ⟨.text "hasty", rfl⟩
  · exact ⟨.text "patient", rfl⟩

theorem hasty_delaysFinite : hasty.DelaysFinite :=
  Playbook.delaysFinite_of_whole
    (by simp [hasty, Playbook.forSeverities, Playbook.actionStep, StepConfig.blank])

/-- An agent in a hurry to respond. -/
def hurried : Agent :=
  { alarmed with desk := ⟨.fresh ⟨⟨0⟩, 0, 0⟩ "agent", ⟨[hasty, .patient], hasty_keyed⟩, []⟩ }

/-- The token is set in the delay of the first run. That run succeeds nevertheless and its incident
is given back. The cancellation shows only in the run that follows. -/
theorem scan_brokenOff_overheard :
    (∀ p ∈ hurried.desk.registry.playbooks, p.DelaysFinite) ∧
    ∃ a' s, hurried.scanWith .unlimited (.during 0 0) none = (a', .ok s) ∧
      s.isCancelled = true ∧ s.incidentIds = ["incident-1"] ∧
      successIds a'.desk.ledger = ["incident-1"] ∧
      a'.desk.ledger.map (·.incidentId) = [some "incident-1", none] ∧
      hurried.desk.world.clock.waits = 0 ∧ a'.desk.world.clock.waits = 1 := by
  let result := hurried.scanWith .unlimited (.during 0 0) none
  have hfinite : ∀ p ∈ hurried.desk.registry.playbooks, p.DelaysFinite := by
    intro p hp
    rcases List.mem_pair.1 hp with rfl | rfl
    · exact hasty_delaysFinite
    · exact Playbook.patient_delaysFinite
  have hended : (match result.2 with
      | .ok s => s.isCancelled && s.incidentIds == ["incident-1"]
      | .error _ => false) = true := by decide +kernel
  have hledger : successIds result.1.desk.ledger = ["incident-1"] ∧
      result.1.desk.ledger.map (·.incidentId) = [some "incident-1", none] ∧
      result.1.desk.world.clock.waits = 1 := by decide +kernel
  split at hended
  · next s hs =>
    obtain ⟨hcancelled, hids⟩ := Bool.and_eq_true_iff.1 hended
    have hscan : hurried.scanWith .unlimited (.during 0 0) none = (result.1, .ok s) := by rw [← hs]
    exact ⟨hfinite, _, s, hscan, hcancelled, by simpa using hids, hledger.1, hledger.2.1, rfl,
      hledger.2.2⟩
  · cases hended

end Agent
end Compliance
