import Compliance.Proofs.Rereading

/-!
# How reading a definition ends

A definition is accepted or refused, whatever value it is, and a refusal names the id that was
given. There are two other ends. A whole number of seconds beyond the range of doubles overflows,
and an id with too many digits to be written cannot be named. Main statement: `read_ends`.
-/
namespace Compliance.Definition

/-! ## What a definition gives -/

/-- The id that a refusal names: that of a mapping, where it counts as true. -/
def givenId (v : Value) : Value :=
  match v.entries? with
  | some es => if (get es "id").truthy then get es "id" else .null
  | none => .null

/-- What a step gives for the seconds of its delay. -/
def givenSeconds? (step : Value) : Option Value := do
  let config ← (get (← step.entries?) "config").entries?
  let delay ← (← config.field? "delay").entries?
  delay.field? "seconds"

/-- What the steps of a definition give for the seconds of their delays. -/
def givenDelays (v : Value) : List Value :=
  match v.entries? with
  | some es =>
    match elements (get es "steps") with
    | .ok steps => steps.filterMap givenSeconds?
    | .error _ => []
  | none => []

/-- A whole number beyond the range of doubles. -/
def IsTooLarge (v : Value) : Prop := ∃ n, v = .int n ∧ Number.ofInt? n = none

/-! ## Parts without numbers -/

/-- Reading a part meets no number beyond the range of doubles. -/
def Fits {α : Type} (r : Read α) : Prop := r ≠ .error .tooLarge

section
variable {α β : Type}

theorem fits_ok (a : α) : Fits (.ok a : Read α) := by
  intro h
  cases h

theorem Fits.bind {x : Read α} {f : α → Read β} (hx : Fits x) (hf : ∀ a, Fits (f a)) :
    Fits (x >>= f) := by
  intro h
  rcases bind_eq_error.1 h with h | ⟨a, -, h⟩
  · exact hx h
  · exact hf a h

theorem Fits.mapM {f : α → Read β} (hf : ∀ a, Fits (f a)) (xs : List α) : Fits (xs.mapM f) := by
  induction xs with
  | nil => exact fits_ok []
  | cons x xs ih =>
    rw [List.mapM_cons]
    exact (hf x).bind fun y => ih.bind fun ys => fits_ok (y :: ys)

theorem Fits.part {config : Entries} {key : String} {read : Value → Read α}
    (h : ∀ v, Fits (read v)) : Fits (part config key read) := by
  unfold Definition.part
  split
  · rename_i v _
    exact (h v).bind fun a => fits_ok (some a)
  · exact fits_ok none

/-- Past a part that fits, the number is met in what follows. -/
theorem Fits.tooLarge_of_bind {x : Read α} {f : α → Read β} (hx : Fits x)
    (h : x >>= f = .error .tooLarge) : ∃ a, x = .ok a ∧ f a = .error .tooLarge :=
  (bind_eq_error.1 h).resolve_left hx

/-- Before parts that fit, the number is met in what stands before. -/
theorem tooLarge_of_bind_fits {x : Read α} {f : α → Read β} (h : x >>= f = .error .tooLarge)
    (hf : ∀ a, Fits (f a)) : x = .error .tooLarge :=
  (bind_eq_error.1 h).resolve_right fun ⟨a, _, ha⟩ => hf a ha

theorem fits_shaped (r : Except ShapeFault α) : Fits (shaped r) := by
  cases r <;> exact fun h => by cases h

theorem fits_memberOf [Vocabulary α] (v : Value) : Fits (memberOf α v) := by
  unfold memberOf
  cases readMember α v with
  | ok a => exact fits_ok a
  | error f =>
    intro h
    have hfault := Except.error.inj h
    split at hfault <;> cases hfault

end

theorem fits_mapping (name : String) (v : Value) : Fits (mapping name v) := by
  unfold mapping
  split <;> exact fun h => by cases h

theorem fits_require (es : Entries) (key : String) : Fits (require es key) := by
  unfold require
  split <;> exact fun h => by cases h

theorem fits_entriesOf (v : Value) : Fits (entriesOf v) := by
  unfold entriesOf
  split <;> exact fun h => by cases h

theorem fits_elements (v : Value) : Fits (elements v) := by
  unfold elements
  split
  · exact fits_shaped _
  · exact fits_ok []

theorem fits_written (v : Value) : Fits (written v) := by
  unfold written
  cases v.writtenAs Value.toText <;> exact fun h => by cases h

theorem fits_parameters (v : Value) : Fits (parameters v) := by
  unfold parameters
  split
  · refine Fits.bind (Fits.mapM (fun e => ?_) _) fun texts => fits_ok _
    exact (fits_written _).bind fun k => (fits_written _).bind fun w => fits_ok _
  · split <;> exact fun h => by cases h

theorem fits_trigger (v : Value) : Fits (trigger v) :=
  (fits_mapping _ _).bind fun _ => (fits_mapping _ _).bind fun _ => (fits_memberOf _).bind fun _ =>
    (fits_elements _).bind fun severities => (Fits.mapM fits_memberOf severities).bind fun _ =>
      (fits_elements _).bind fun types => (Fits.mapM fits_memberOf types).bind fun _ => fits_ok _

theorem fits_action (config : Entries) (v : Value) : Fits (action config v) :=
  (fits_memberOf v).bind fun _ => (fits_shaped _).bind fun _ => fits_ok _

theorem fits_notification (v : Value) : Fits (notification v) :=
  (fits_entriesOf v).bind fun _ => (fits_require _ _).bind fun _ => (fits_memberOf _).bind fun _ =>
    (fits_require _ _).bind fun _ => (fits_elements _).bind fun _ => fits_ok _

theorem fits_condition (v : Value) : Fits (condition v) :=
  (fits_entriesOf v).bind fun _ => (fits_require _ _).bind fun _ => fits_ok _

theorem fits_remediation (v : Value) : Fits (remediation v) :=
  (fits_entriesOf v).bind fun _ => (fits_require _ _).bind fun _ =>
    (fits_parameters _).bind fun _ => fits_ok _

/-! ## Seconds -/

theorem seconds_tooLarge_iff {v : Value} : seconds v = .error .tooLarge ↔ IsTooLarge v := by
  constructor
  · intro h
    unfold seconds at h
    split at h
    · cases h
    · rename_i n
      split at h
      · cases h
      · exact ⟨n, rfl, ‹_›⟩
    · cases h
    · split at h <;> cases h
    · split at h <;> cases h
    · cases h
  · rintro ⟨n, rfl, hn⟩
    simp only [seconds, hn]

theorem entriesOf_eq_ok_iff {v : Value} {es : Entries} :
    entriesOf v = .ok es ↔ v.entries? = some es := by
  unfold entriesOf Value.entries?
  split <;> simp_all

theorem require_eq_ok_iff {es : Entries} {key : String} {v : Value} :
    require es key = .ok v ↔ es.field? key = some v := by
  unfold require
  split <;> simp_all

/-- A part that is read and has a field is a mapping. -/
theorem entries?_of_mapping {name key : String} {v w : Value} {es : Entries}
    (h : mapping name v = .ok es) (hw : es.field? key = some w) : v.entries? = some es := by
  unfold mapping at h
  split at h
  · cases h
    cases hw
  · rename_i hes
    cases h
    exact hes
  · cases h

theorem mapping_of_entries? {name : String} {v : Value} {es : Entries} (h : v.entries? = some es) :
    mapping name v = .ok es := by
  unfold mapping
  split
  · cases h
  · rename_i hes
    cases h.symm.trans hes
    rfl
  · rename_i hes
    cases h.symm.trans hes

theorem delay_tooLarge {v : Value} (h : delay v = .error .tooLarge) :
    ∃ es w, v.entries? = some es ∧ es.field? "seconds" = some w ∧ IsTooLarge w := by
  obtain ⟨es, hes, h⟩ := (fits_entriesOf v).tooLarge_of_bind h
  obtain ⟨w, hw, h⟩ := (fits_require es "seconds").tooLarge_of_bind h
  refine ⟨es, w, entriesOf_eq_ok_iff.1 hes, require_eq_ok_iff.1 hw, seconds_tooLarge_iff.1 ?_⟩
  exact tooLarge_of_bind_fits h fun x => fits_ok (Seconds.real x)

theorem not_tooLarge_of_delay {v w : Value} {s : Seconds} {es : Entries} (h : delay v = .ok s)
    (hes : v.entries? = some es) (hw : es.field? "seconds" = some w) : ¬ IsTooLarge w := by
  obtain ⟨es', hes', h⟩ := bind_eq_ok.1 h
  obtain ⟨w', hw', h⟩ := bind_eq_ok.1 h
  obtain ⟨x, hx, -⟩ := bind_eq_ok.1 h
  cases hes.symm.trans (entriesOf_eq_ok_iff.1 hes')
  cases hw.symm.trans (require_eq_ok_iff.1 hw')
  intro hlarge
  rw [seconds_tooLarge_iff.2 hlarge] at hx
  cases hx

/-! ## Steps -/

theorem stepConfig_tooLarge {config : Entries} (h : stepConfig config = .error .tooLarge) :
    ∃ v, config.field? "delay" = some v ∧ delay v = .error .tooLarge := by
  obtain ⟨_, -, h⟩ := (Fits.part (fits_action config)).tooLarge_of_bind h
  obtain ⟨_, -, h⟩ := (Fits.part fits_notification).tooLarge_of_bind h
  replace h := tooLarge_of_bind_fits h fun _ => (Fits.part fits_condition).bind fun _ =>
    (Fits.part fits_remediation).bind fun _ => fits_ok _
  unfold part at h
  split at h
  · rename_i v hv
    exact ⟨v, hv, tooLarge_of_bind_fits h fun s => fits_ok (some s)⟩
  · cases h

theorem step_tooLarge {v : Value} (h : step v = .error .tooLarge) :
    ∃ w, givenSeconds? v = some w ∧ IsTooLarge w := by
  obtain ⟨es, hes, h⟩ := (fits_mapping "step" v).tooLarge_of_bind h
  obtain ⟨kind, hkind, h⟩ := (fits_require es "type").tooLarge_of_bind h
  obtain ⟨_, -, h⟩ := (fits_memberOf kind).tooLarge_of_bind h
  obtain ⟨config, hconfig, h⟩ := (fits_mapping "step config" (get es "config")).tooLarge_of_bind h
  replace h := tooLarge_of_bind_fits h fun _ => (fits_require es "id").bind fun _ =>
    (fits_written _).bind fun _ => fits_ok _
  obtain ⟨d, hd, h⟩ := stepConfig_tooLarge h
  obtain ⟨ds, w, hds, hw, hlarge⟩ := delay_tooLarge h
  refine ⟨w, ?_, hlarge⟩
  simp [givenSeconds?, entries?_of_mapping hes (require_eq_ok_iff.1 hkind),
    entries?_of_mapping hconfig hd, hd, hds, hw]

theorem not_tooLarge_of_step {v w : Value} {s : Step} (h : step v = .ok s)
    (hw : givenSeconds? v = some w) : ¬ IsTooLarge w := by
  obtain ⟨es, hes, config, hconfig, d, hd, ds, hds, hw⟩ : ∃ es, v.entries? = some es ∧
      ∃ config, (get es "config").entries? = some config ∧ ∃ d, config.field? "delay" = some d ∧
      ∃ ds, d.entries? = some ds ∧ ds.field? "seconds" = some w := by
    simpa [givenSeconds?, Option.bind_eq_some_iff] using hw
  obtain ⟨es', hes', h⟩ := bind_eq_ok.1 h
  obtain ⟨_, -, h⟩ := bind_eq_ok.1 h
  obtain ⟨_, -, h⟩ := bind_eq_ok.1 h
  obtain ⟨config', hconfig', h⟩ := bind_eq_ok.1 h
  obtain ⟨c, hc, -⟩ := bind_eq_ok.1 h
  obtain ⟨_, -, hc⟩ := bind_eq_ok.1 hc
  obtain ⟨_, -, hc⟩ := bind_eq_ok.1 hc
  obtain ⟨delay?, hdelay, -⟩ := bind_eq_ok.1 hc
  cases (mapping_of_entries? hes).symm.trans hes'
  cases (mapping_of_entries? hconfig).symm.trans hconfig'
  simp only [part, hd] at hdelay
  obtain ⟨s, hs, -⟩ := bind_eq_ok.1 hdelay
  exact not_tooLarge_of_delay hs hds hw

/-! ## Definitions -/

/-- A step with a number of seconds that is too large is what makes a body too large. -/
theorem body_tooLarge {es : Entries} (h : body es = .error .tooLarge) :
    ∃ steps, elements (get es "steps") = .ok steps ∧
      ∃ w ∈ steps.filterMap givenSeconds?, IsTooLarge w := by
  obtain ⟨_, -, h⟩ := (fits_trigger (get es "trigger")).tooLarge_of_bind h
  obtain ⟨steps, hsteps, h⟩ := (fits_elements (get es "steps")).tooLarge_of_bind h
  replace h := tooLarge_of_bind_fits h fun steps => fits_ok (_, steps)
  obtain ⟨v, hv, h⟩ := exists_of_mapM_eq_error h
  obtain ⟨w, hw, hlarge⟩ := step_tooLarge h
  exact ⟨steps, hsteps, w, List.mem_filterMap.2 ⟨v, hv, hw⟩, hlarge⟩

theorem not_tooLarge_of_body {es : Entries} {trigger : Trigger} {steps : List Step}
    (h : body es = .ok (trigger, steps)) : ∃ vs, elements (get es "steps") = .ok vs ∧
      ∀ w ∈ vs.filterMap givenSeconds?, ¬ IsTooLarge w := by
  obtain ⟨_, -, h⟩ := bind_eq_ok.1 h
  obtain ⟨vs, hvs, h⟩ := bind_eq_ok.1 h
  obtain ⟨_, h, -⟩ := bind_eq_ok.1 h
  refine ⟨vs, hvs, fun w hw => ?_⟩
  obtain ⟨v, hv, hw⟩ := List.mem_filterMap.1 hw
  obtain ⟨s, hs⟩ := forall_of_mapM_eq_ok h v hv
  exact not_tooLarge_of_step hs hw

theorem refusal_ends (id : Value) (r : Refusal) :
    refusal id r = .refused r ∨ refusal id r = .unwritableId ∧ id.isWritable = false := by
  unfold refusal
  cases id.isWritable <;> simp

theorem givenId_of_truthy {v : Value} {es : Entries} (hes : v.entries? = some es)
    (hid : (get es "id").truthy = true) : givenId v = get es "id" := by
  simp only [givenId, hes, hid, if_true]

/-- What fails to be read has no id, or a body that is too large, or is refused by its id. -/
theorem read_eq_error {v : Value} {e : DefinitionFailure} (h : read v = .error e) :
    (∃ r, e = .refused r ∧ r.playbookId = givenId v) ∨
    ∃ es, v.entries? = some es ∧ (body es = .error .tooLarge ∧ e = .overflow ∨
      ∃ r, e = refusal (givenId v) r ∧ r.playbookId = givenId v) := by
  simp only [read] at h
  split at h
  · rename_i es hes
    split at h
    · rename_i hid
      refine .inr ⟨es, hes, ?_⟩
      rw [givenId_of_truthy hes hid]
      split at h
      · rename_i hbody
        cases h
        exact .inl ⟨hbody, rfl⟩
      · cases h
        exact .inr ⟨_, rfl, rfl⟩
      · split at h
        · cases h
        · cases h
          exact .inr ⟨_, rfl, rfl⟩
    · rename_i hid
      cases h
      exact .inl ⟨.missingId, rfl, by simp only [givenId, hes, hid]; rfl⟩
  · rename_i hes
    cases h
    exact .inl ⟨_, rfl, by simp only [givenId, hes]; rfl⟩

/-- **Every definition is accepted or refused, but for two ends.** What is accepted has the id that
was given, and what is refused names it, null standing for none. Reading overflows only at a delay
that is too large, which is accepted nowhere, and fails to name the id only where that cannot be
written. -/
theorem read_ends (v : Value) :
    match read v with
    | .ok p => p.id = givenId v ∧ ∀ w ∈ givenDelays v, ¬ IsTooLarge w
    | .error (.refused r) => r.playbookId = givenId v
    | .error .overflow => ∃ w ∈ givenDelays v, IsTooLarge w
    | .error .unwritableId => (givenId v).isWritable = false := by
  cases h : read v with
  | ok p =>
    obtain ⟨es, trigger, steps, hes, hid, hbody, -, rfl⟩ := read_eq_ok_iff.1 h
    obtain ⟨vs, hvs, hsmall⟩ := not_tooLarge_of_body hbody
    refine ⟨(givenId_of_truthy hes hid).symm, ?_⟩
    simpa only [givenDelays, hes, hvs] using hsmall
  | error e =>
    rcases read_eq_error h with ⟨r, rfl, hr⟩ | ⟨es, hes, ⟨hbody, rfl⟩ | ⟨r, rfl, hr⟩⟩
    · exact hr
    · obtain ⟨vs, hvs, hlarge⟩ := body_tooLarge hbody
      simpa only [givenDelays, hes, hvs] using hlarge
    · rcases refusal_ends (givenId v) r with hends | ⟨hends, hid⟩
      · rw [hends]
        exact hr
      · rw [hends]
        exact hid

/-- A playbook of one delay. -/
def waiting (seconds : Value) : Value :=
  .record [("id", .text "p"), ("steps", .list [.record [("id", .text "s"), ("type", .text "delay"),
    ("config", .record [("delay", .record [("seconds", seconds)])])]])]

/-- A delay that is too large is neither accepted nor refused. -/
theorem read_waiting {w : Value} (h : IsTooLarge w) : read (waiting w) = .error .overflow := by
  have hs := seconds_tooLarge_iff.2 h
  have ht : memberOf StepType (.text "delay") = .ok .delay := memberOf_member StepType.delay
  have hv : memberOf TriggerType (.member TriggerType.violation) = .ok .violation :=
    memberOf_member TriggerType.violation
  simp [read, waiting, Value.record, Value.entries?, Value.opened, get, getOr, body, trigger,
    mapping, hv, Value.truthy, elements, Value.items, shaped_ok, step, require, stepConfig, part,
    delay, entriesOf, hs, ht, bind, Except.bind, pure, Except.pure, Except.map]

theorem read_waiting_overlong : givenId (waiting (.int (Int.ofNat (Nat.pow 10 400)))) = .text "p" ∧
    read (waiting (.int (Int.ofNat (Nat.pow 10 400)))) = .error .overflow :=
  ⟨rfl, read_waiting ⟨_, rfl, by decide +kernel⟩⟩

end Compliance.Definition
