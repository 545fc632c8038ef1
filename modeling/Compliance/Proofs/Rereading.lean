import Compliance.Playbook.Definition
import Compliance.Playbook.Record
import Compliance.Proofs.Traversal

/-!
# Records of playbooks are read back

A playbook that was read from a definition has a form of its own: its tags are members, its waiting
times are doubles, and the parameters of its scripts are texts under different texts. The record of
a playbook in that form is a definition of that playbook, so reading and writing settle after the
first reading. Main statement: `read_record`.
-/
namespace Compliance

/-! ## Fields of records -/

@[simp] theorem Entries.field?_partField {α : Type} (name key : String) (toValue : α → Value)
    (a : Option α) :
    field? ((partField name toValue a).map fun f => (.text f.1, f.2)) key =
      if name = key then a.map toValue else none := by
  cases a <;> simp [partField]

/-! ## Texts under texts -/

/-- Texts under texts that are all different. -/
structure Entries.AreTexts (es : Entries) : Prop where
  texts : ∀ e ∈ es, ∃ k v : String, e = (.text k, .text v)
  different : es.Pairwise fun e e' => e.1.alike e'.1 = false

namespace Entries

theorem key_of_mem_put {key : Scalar} {value : Value} {es : Entries} {e : Scalar × Value}
    (h : e ∈ es.put key value) : e.1 = key ∨ ∃ e' ∈ es, e'.1 = e.1 := by
  induction es with
  | nil =>
    rw [put, List.mem_singleton] at h
    exact .inl (by rw [h])
  | cons e₀ es ih =>
    rw [put] at h
    split at h
    · rcases List.mem_cons.1 h with rfl | h
      · exact .inr ⟨e₀, List.mem_cons_self, rfl⟩
      · exact .inr ⟨e, List.mem_cons_of_mem _ h, rfl⟩
    · rcases List.mem_cons.1 h with rfl | h
      · exact .inr ⟨_, List.mem_cons_self, rfl⟩
      · rcases ih h with h | ⟨e', he', h⟩
        · exact .inl h
        · exact .inr ⟨e', List.mem_cons_of_mem _ he', h⟩

theorem AreTexts.put {es : Entries} (h : es.AreTexts) (k v : String) :
    (Entries.put (.text k) (.text v) es).AreTexts := by
  induction es with
  | nil => exact ⟨by simp [Entries.put], by simp [Entries.put]⟩
  | cons e es ih =>
    obtain ⟨he, hes⟩ := List.forall_mem_cons.1 h.texts
    obtain ⟨hd, hds⟩ := List.pairwise_cons.1 h.different
    obtain ⟨k₀, v₀, rfl⟩ := he
    rw [Entries.put]
    split
    · exact ⟨List.forall_mem_cons.2 ⟨⟨_, _, rfl⟩, hes⟩, List.pairwise_cons.2 ⟨hd, hds⟩⟩
    · rename_i hk
      obtain ⟨htexts, hdifferent⟩ := ih ⟨hes, hds⟩
      refine ⟨List.forall_mem_cons.2 ⟨⟨_, _, rfl⟩, htexts⟩, List.pairwise_cons.2 ⟨?_, hdifferent⟩⟩
      intro e he
      rcases key_of_mem_put he with hkey | ⟨e', he', hkey⟩
      · rw [hkey]
        exact Bool.eq_false_iff.2 hk
      · rw [← hkey]
        exact hd e' he'

theorem ofList_areTexts {es : Entries} (h : ∀ e ∈ es, ∃ k v : String, e = (.text k, .text v)) :
    (ofList es).AreTexts := by
  suffices ∀ acc : Entries, acc.AreTexts →
      (es.foldl (fun acc e => Entries.put e.1 e.2 acc) acc).AreTexts from
    this [] ⟨fun e he => absurd he List.not_mem_nil, List.Pairwise.nil⟩
  induction es with
  | nil => exact fun acc hacc => hacc
  | cons e es ih =>
    obtain ⟨he, hes⟩ := List.forall_mem_cons.1 h
    obtain ⟨k, v, rfl⟩ := he
    exact fun acc hacc => ih hes _ (hacc.put k v)

theorem put_of_unlike {key : Scalar} {value : Value} {es : Entries}
    (h : ∀ e ∈ es, e.1.alike key = false) : es.put key value = es ++ [(key, value)] := by
  induction es with
  | nil => rfl
  | cons e es ih =>
    obtain ⟨he, h⟩ := List.forall_mem_cons.1 h
    simp [put, he, ih h]

/-- Entries under different keys are the mapping that writing them gives. -/
theorem ofList_eq_self {es : Entries} (h : es.Pairwise fun e e' => e.1.alike e'.1 = false) :
    ofList es = es := by
  suffices ∀ acc : Entries, (acc ++ es).Pairwise (fun e e' => e.1.alike e'.1 = false) →
      es.foldl (fun acc e => Entries.put e.1 e.2 acc) acc = acc ++ es from this [] h
  clear h
  induction es with
  | nil => simp
  | cons e es ih =>
    intro acc hacc
    have hput : acc.put e.1 e.2 = acc ++ [e] :=
      put_of_unlike fun e' he' => (List.pairwise_append.1 hacc).2.2 e' he' e List.mem_cons_self
    rw [List.foldl_cons, hput, ih _ (by simpa using hacc)]
    simp

end Entries

namespace Definition

/-! ## Parts of playbooks -/

theorem shaped_ok {α : Type} (a : α) : shaped (.ok a) = .ok a := rfl

theorem elements_list (vs : List Value) : elements (.list vs) = .ok vs := by
  cases vs <;> rfl

theorem memberOf_member {α : Type} [Vocabulary α] (a : α) : memberOf α (.member a) = .ok a := by
  rw [memberOf, readMember_member]
  rfl

theorem parameters_map {es : Entries} (h : es.AreTexts) : parameters (.map es) = .ok es := by
  have hself : (es.map id).mapM (fun e : Scalar × Value => do
      return (Scalar.text (← written (.scalar e.1)), Value.text (← written e.2))) = .ok es := by
    refine mapM_map_eq_ok fun e he => ?_
    obtain ⟨k, v, rfl⟩ := h.texts e he
    rfl
  rw [List.map_id] at hself
  simp only [parameters, Value.entries?, Value.opened, hself]
  exact congrArg Except.ok (Entries.ofList_eq_self h.different)

theorem areTexts_of_parameters {v : Value} {es : Entries} (h : parameters v = .ok es) :
    es.AreTexts := by
  unfold parameters at h
  split at h
  · obtain ⟨texts, htexts, h⟩ := bind_eq_ok.1 h
    cases h
    refine Entries.ofList_areTexts fun e he => ?_
    obtain ⟨e₀, -, he⟩ := exists_of_mapM_eq_ok htexts he
    obtain ⟨k, -, he⟩ := bind_eq_ok.1 he
    obtain ⟨v, -, he⟩ := bind_eq_ok.1 he
    cases he
    exact ⟨k, v, rfl⟩
  · split at h
    · cases h
    · cases h
      exact ⟨fun e he => absurd he List.not_mem_nil, List.Pairwise.nil⟩

theorem trigger_toValue (t : Trigger) : trigger t.toValue = .ok t := by
  have hs : (t.severities.map Value.member).mapM (memberOf Severity) = .ok t.severities :=
    mapM_map_eq_ok fun s _ => memberOf_member s
  have ha : (t.assetTypes.map Value.member).mapM (memberOf AssetType) = .ok t.assetTypes :=
    mapM_map_eq_ok fun a _ => memberOf_member a
  simp [trigger, Trigger.toValue, Value.record, mapping, Value.entries?, Value.opened, get, getOr,
    memberOf_member, elements_list, hs, ha, bind, Except.bind, pure, Except.pure]

theorem notification_toValue (n : Notification) : notification n.toValue = .ok n := by
  simp [notification, Notification.toValue, Value.record, entriesOf, Value.opened, require, get,
    memberOf_member, elements_list, bind, Except.bind, pure, Except.pure]

theorem delay_real (x : Float) : delay (.record [("seconds", .float x)]) = .ok (.real x) := by
  simp [delay, Value.record, entriesOf, Value.opened, require, seconds, bind, Except.bind, pure,
    Except.pure]

theorem condition_toValue (t : Test) : condition t.toValue = .ok t := by
  simp [condition, Test.toValue, Value.record, entriesOf, Value.opened, require, get, getOr, bind,
    Except.bind, pure, Except.pure]

theorem remediation_toValue {s : Script} (h : s.parameters.AreTexts) :
    remediation s.toValue = .ok s := by
  simp [remediation, Script.toValue, Value.record, entriesOf, Value.opened, require, get,
    parameters_map h, bind, Except.bind, pure, Except.pure]

/-- A part that is written when it is there is read back. -/
theorem part_eq_ok {α : Type} {config : Entries} {key : String} {read : Value → Read α}
    {a : Option α} (toValue : α → Value) (h : config.field? key = a.map toValue)
    (hread : ∀ x ∈ a, read (toValue x) = .ok x) : part config key read = .ok a := by
  unfold part
  rw [h]
  cases a with
  | none => rfl
  | some x => simp only [Option.map_some, hread x rfl, Except.map]

theorem exists_of_part_eq_ok {α : Type} {config : Entries} {key : String} {read : Value → Read α}
    {a : Option α} (h : part config key read = .ok a) : ∀ x ∈ a, ∃ v, read v = .ok x := by
  unfold part at h
  split at h
  · rename_i v _
    cases hv : read v with
    | error f => rw [hv] at h; cases h
    | ok y =>
      rw [hv] at h
      cases h
      rintro x ⟨⟩
      exact ⟨v, hv⟩
  · cases h
    rintro x ⟨⟩

end Definition

/-! ## Settled playbooks -/

/-- Members, doubles and texts where a definition allows for more. -/
structure StepConfig.Settled (c : StepConfig) : Prop where
  action : ∀ a ∈ c.action, ∃ k, a.kind = .member k
  delay : ∀ d ∈ c.delay, ∃ x, d = .real x
  remediation : ∀ r ∈ c.remediation, r.parameters.AreTexts

structure Step.Settled (s : Step) : Prop where
  type : ∃ t, s.type = .member t
  config : s.config.Settled

/-- The form of a playbook that was read from a definition and not yet run. -/
structure Playbook.Settled (p : Playbook) : Prop where
  id : p.id.truthy = true
  steps : ∀ s ∈ p.steps, s.Settled
  distinct : Definition.distinct (p.steps.map (·.id)) = true
  lastRun : p.lastRun = none

/-- The fields for the parts other than an action. -/
def StepConfig.otherFields (c : StepConfig) : List (String × Value) :=
  partField "notification" Notification.toValue c.notification ++
    partField "delay" (fun s => .record [("seconds", s.toValue)]) c.delay ++
    partField "condition" Test.toValue c.condition ++
    partField "remediation" Script.toValue c.remediation

namespace Definition

theorem settled_of_stepConfig {config : Entries} {c : StepConfig} (h : stepConfig config = .ok c) :
    c.Settled := by
  obtain ⟨_, haction, h⟩ := bind_eq_ok.1 h
  obtain ⟨_, -, h⟩ := bind_eq_ok.1 h
  obtain ⟨_, hdelay, h⟩ := bind_eq_ok.1 h
  obtain ⟨_, -, h⟩ := bind_eq_ok.1 h
  obtain ⟨_, hremediation, h⟩ := bind_eq_ok.1 h
  cases h
  refine ⟨fun a ha => ?_, fun d hd => ?_, fun r hr => ?_⟩
  · obtain ⟨v, hv⟩ := exists_of_part_eq_ok haction a ha
    obtain ⟨kind, -, hv⟩ := bind_eq_ok.1 hv
    obtain ⟨params, -, hv⟩ := bind_eq_ok.1 hv
    cases hv
    exact ⟨kind, rfl⟩
  · obtain ⟨v, hv⟩ := exists_of_part_eq_ok hdelay d hd
    obtain ⟨es, -, hv⟩ := bind_eq_ok.1 hv
    obtain ⟨v, -, hv⟩ := bind_eq_ok.1 hv
    obtain ⟨x, -, hv⟩ := bind_eq_ok.1 hv
    cases hv
    exact ⟨x, rfl⟩
  · obtain ⟨v, hv⟩ := exists_of_part_eq_ok hremediation r hr
    obtain ⟨es, -, hv⟩ := bind_eq_ok.1 hv
    obtain ⟨script, -, hv⟩ := bind_eq_ok.1 hv
    obtain ⟨parameters, hparameters, hv⟩ := bind_eq_ok.1 hv
    cases hv
    exact areTexts_of_parameters hparameters

theorem settled_of_step {v : Value} {s : Step} (h : step v = .ok s) : s.Settled := by
  obtain ⟨es, -, h⟩ := bind_eq_ok.1 h
  obtain ⟨_, -, h⟩ := bind_eq_ok.1 h
  obtain ⟨type, -, h⟩ := bind_eq_ok.1 h
  obtain ⟨_, -, h⟩ := bind_eq_ok.1 h
  obtain ⟨config, hconfig, h⟩ := bind_eq_ok.1 h
  obtain ⟨_, -, h⟩ := bind_eq_ok.1 h
  obtain ⟨id, -, h⟩ := bind_eq_ok.1 h
  cases h
  exact ⟨⟨type, rfl⟩, settled_of_stepConfig hconfig⟩

/-- A definition is read exactly when it is a mapping with an id, its parts are read, and its steps
have different ids. -/
theorem read_eq_ok_iff {v : Value} {p : Playbook} : read v = .ok p ↔
    ∃ es trigger steps, v.entries? = some es ∧ (get es "id").truthy = true ∧
      body es = .ok (trigger, steps) ∧ distinct (steps.map (·.id)) = true ∧
      p = ⟨get es "id", getOr es "name" (get es "id"), getOr es "description" (.text ""), trigger,
        steps, (getOr es "enabled" (.bool true)).truthy, none⟩ := by
  constructor
  · intro h
    simp only [read] at h
    split at h
    · rename_i es hes
      split at h
      · rename_i hid
        split at h
        · cases h
        · cases h
        · rename_i trigger steps hbody
          split at h
          · rename_i hdistinct
            cases h
            exact ⟨es, trigger, steps, hes, hid, hbody, hdistinct, rfl⟩
          · cases h
      · cases h
    · cases h
  · rintro ⟨es, trigger, steps, hes, hid, hbody, hdistinct, rfl⟩
    simp only [read, hes, hid, hbody, hdistinct, if_true]

/-- Every definition that is read gives a settled playbook. -/
theorem settled_of_read {v : Value} {p : Playbook} (h : read v = .ok p) : p.Settled := by
  obtain ⟨es, trigger, steps, -, hid, hbody, hdistinct, rfl⟩ := read_eq_ok_iff.1 h
  obtain ⟨_, -, hbody⟩ := bind_eq_ok.1 hbody
  obtain ⟨_, -, hbody⟩ := bind_eq_ok.1 hbody
  obtain ⟨_, hsteps, hbody⟩ := bind_eq_ok.1 hbody
  cases hbody
  refine ⟨hid, fun s hs => ?_, hdistinct, rfl⟩
  obtain ⟨v, -, hv⟩ := exists_of_mapM_eq_ok hsteps hs
  exact settled_of_step hv

/-! ## Records of settled playbooks -/

theorem stepConfig_fields (fields : List (String × Value)) {c : StepConfig} (h : c.Settled)
    (hfields : ∀ key, key ≠ "action" → key ≠ "params" →
      Entries.field? (fields.map fun f => (.text f.1, f.2)) key = none)
    (haction : part ((fields ++ c.otherFields).map fun f => (.text f.1, f.2)) "action"
      (action ((fields ++ c.otherFields).map fun f => (.text f.1, f.2))) = .ok c.action) :
    stepConfig ((fields ++ c.otherFields).map fun f => (.text f.1, f.2)) = .ok c := by
  refine bind_eq_ok.2 ⟨_, haction, bind_eq_ok.2 ⟨c.notification, ?_,
    bind_eq_ok.2 ⟨c.delay, ?_, bind_eq_ok.2 ⟨c.condition, ?_,
      bind_eq_ok.2 ⟨c.remediation, ?_, rfl⟩⟩⟩⟩⟩
  · exact part_eq_ok Notification.toValue (by simp [StepConfig.otherFields, hfields])
      fun n _ => notification_toValue n
  · refine part_eq_ok (fun s => .record [("seconds", s.toValue)])
      (by simp [StepConfig.otherFields, hfields]) fun d hd => ?_
    obtain ⟨x, rfl⟩ := h.delay d hd
    exact delay_real x
  · exact part_eq_ok Test.toValue (by simp [StepConfig.otherFields, hfields])
      fun t _ => condition_toValue t
  · exact part_eq_ok Script.toValue (by simp [StepConfig.otherFields, hfields])
      fun s hs => remediation_toValue (h.remediation s hs)

theorem stepConfig_toValue {c : StepConfig} (h : c.Settled) :
    ∃ config, c.toValue = .ok (.record config) ∧
      stepConfig (config.map fun f => (.text f.1, f.2)) = .ok c := by
  cases haction : c.action with
  | none =>
    refine ⟨c.otherFields, ?_, ?_⟩
    · simp [StepConfig.toValue, haction, StepConfig.otherFields, bind, Except.bind, pure,
        Except.pure]
    · refine stepConfig_fields [] h (fun _ _ _ => rfl) ?_
      simp [part, haction, StepConfig.otherFields]
  | some a =>
    obtain ⟨kind, ps⟩ := a
    obtain ⟨k, rfl⟩ := h.action _ haction
    refine ⟨("action", .member k) :: (if ps.isEmpty then [] else [("params", .map ps)]) ++
      c.otherFields, ?_, ?_⟩
    · simp [StepConfig.toValue, Action.fields, haction, StepConfig.otherFields, bind, Except.bind,
        pure, Except.pure]
    · refine stepConfig_fields _ h (fun key hkey hparams => ?_) ?_
      · cases ps <;> simp [Ne.symm hkey, Ne.symm hparams]
      · rw [haction]
        cases ps <;>
          simp [part, action, memberOf_member, get, params, Value.entries?, Value.opened,
            Value.truthy, shaped_ok, StepConfig.otherFields, bind, Except.bind, pure, Except.pure,
            Except.map]

theorem step_toValue {s : Step} (h : s.Settled) : ∃ v, s.toValue = .ok v ∧ step v = .ok s := by
  obtain ⟨config, hwrite, hread⟩ := stepConfig_toValue h.config
  obtain ⟨id, name, type, settings, onSuccess, onFailure⟩ := s
  obtain ⟨⟨t, rfl⟩, -⟩ := h
  refine ⟨_, by simp only [Step.toValue, hwrite]; rfl, ?_⟩
  have ht : memberOf StepType (.text (word t)) = .ok t := memberOf_member t
  simp only [Value.record] at hread ⊢
  simp [step, mapping, Value.entries?, Value.opened, require, get, getOr, Tag.word, ht, hread,
    written, Value.writtenAs, Value.isWritable, Scalar.isWritable, Value.toText, bind, Except.bind,
    pure, Except.pure]

/-- The record of a settled playbook is a definition of it. -/
theorem playbook_toValue {p : Playbook} (h : p.Settled) :
    ∃ v, p.toValue = .ok v ∧ read v = .ok p := by
  obtain ⟨steps, hwrite, hread⟩ := mapM_mapM_eq_ok fun s hs => step_toValue (h.steps s hs)
  obtain ⟨id, name, description, trigger, _, enabled, lastRun⟩ := p
  obtain ⟨hid, -, hdistinct, rfl⟩ := h
  refine ⟨_, by simp only [Playbook.toValue, hwrite]; rfl, read_eq_ok_iff.2 ?_⟩
  refine ⟨_, trigger, _, rfl, ?_, ?_, hdistinct, ?_⟩
  · simpa [get] using hid
  · simp [body, get, trigger_toValue, elements_list, hread, bind, Except.bind, pure, Except.pure]
  · simp [get, getOr, Value.truthy]

end Definition

/-- Settled playbooks are the ones that definitions give. -/
theorem settled_iff {p : Playbook} : p.Settled ↔ ∃ v, Definition.read v = .ok p := by
  constructor
  · intro h
    obtain ⟨v, -, hread⟩ := Definition.playbook_toValue h
    exact ⟨v, hread⟩
  · rintro ⟨v, hread⟩
    exact Definition.settled_of_read hread

/-- **Reading and writing settle.** When a definition of any form gives a playbook, the playbook has
a record, and the record read as a definition gives the same playbook again. -/
theorem read_record {v : Value} {p : Playbook} (h : Definition.read v = .ok p) :
    ∃ w, p.toValue = .ok w ∧ Definition.read w = .ok p :=
  Definition.playbook_toValue (Definition.settled_of_read h)

/-- A definition in which parameters are given as pairs, recipients as the keys of a mapping,
seconds as text, and much else that is no text in the place of one. -/
def Definition.coerced : Value :=
  .record [("id", .int 7), ("enabled", .list []),
    ("trigger", .record [("conditions", .record [("severity", .list [.text "high"])])]),
    ("steps", .list [
      .record [("id", .text "open"), ("type", .text "action"), ("on_success", .text "True"),
        ("config", .record [("action", .text "create_incident"),
          ("params", .list [.pair (.text "assignee") .null, .list [.int 1, .text "one"]])])],
      .record [("id", .bool true), ("type", .text "delay"),
        ("config", .record [("delay", .record [("seconds", .text " 0 ")]),
          ("notification", .record [("channel", .text "slack"), ("template", .null),
            ("recipients", .map [(.int 3, .null)])]),
          ("remediation", .record [("script", .text "rotate"),
            ("parameters", .map [(.int 1, .list [.null]), (.text "1", .bool false)])])])]])]

theorem read_record_coerced : ∃ p w, Definition.read Definition.coerced = .ok p ∧
    p.toValue = .ok w ∧ Definition.read w = .ok p := by
  have hok : (Definition.read Definition.coerced).isOk = true := by decide +kernel
  cases h : Definition.read Definition.coerced with
  | ok p =>
    obtain ⟨w, hwrite, hread⟩ := read_record h
    exact ⟨p, w, rfl, hwrite, hread⟩
  | error f =>
    rw [h] at hok
    cases hok

end Compliance
