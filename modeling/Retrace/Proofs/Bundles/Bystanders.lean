import Retrace.Proofs.Bundles.Acceptance
import Retrace.Proofs.Bundles.Texts
import Retrace.Proofs.Decoding.Members
import Retrace.Proofs.Plan.Parts

/-!
Bundles among recorded events. The text of a bundle can be read as an event too, of a kind that is
not replayed. Such an event is a bystander: unless it comes first it changes nothing about the task
that a stream records, but where it stands no other event can.
-/

namespace Retrace

open Decoding

theorem Action.depth_toJson_le (a : Action) : a.toJson.depth ≤ 2 := by
  have hparameters : Json.membersDepth a.parameters ≤ 0 := by
    rw [Json.membersDepth_le_iff]
    cases a with
    | clickByText text elementType nth =>
        cases elementType <;> simp [parameters, naturalJson, Json.depth]
    | _ => simp [parameters, naturalJson, Json.depth]
  simp only [toJson, Json.depth, Json.membersDepth]
  omega

namespace Bundle

theorem depth_toJson_le (b : Bundle) : b.toJson.depth ≤ 4 := by
  have hplan : Json.itemsDepth (b.plan.map Action.toJson) ≤ 2 := by
    rw [Json.itemsDepth_le_iff]
    exact List.forall_mem_map.mpr fun a _ => a.depth_toJson_le
  simp only [toJson, Plan.toJson, Json.depth, Json.membersDepth]
  omega

theorem exists_ofJson (b : Bundle) :
    ∃ e, Event.ofJson b.toJson = .ok e ∧ e.kind = .unknown b.replayType.text := by
  have hgoal : Event.record.field? "ultimate_goal" = none := by decide
  have hid : Event.record.field? "task_id" = none := by decide
  have htype : Event.record.field? "type" =
      some (.optional "type" json fun v e => { e with kind := .ofJson v }) := rfl
  have hactions : Event.record.field? "action_list" = none := by decide
  have hother : ∀ name d (e : Event), Event.record.other name .value d e =
      (json .value d).map fun v => { e with extra := Entries.set name v e.extra } :=
    fun _ _ _ => rfl
  have hplan : json .value (Document.ofJson b.plan.toJson) = .ok b.plan.toJson :=
    json_ofJson b.plan.wellFormed_toJson trivial
  have hkind : EventKind.ofJson (.string b.replayType.text) = .unknown b.replayType.text := by
    cases b.replayType
    rfl
  have hread : ∃ seen e, Event.record.readMembers .value [] Event.record.start
      (Document.ofMembers [("ultimate_goal", .string b.goal), ("task_id", .string b.taskId),
        ("type", .string b.replayType.text), ("action_list", b.plan.toJson)]) = .ok (seen, e) ∧
      e.kind = .unknown b.replayType.text := by
    simp [Document.ofMembers, Document.ofJson, Record.readMembers, RecordField.optional, hgoal, hid,
      htype, hactions, hother, hplan, hkind, json, bind, Except.bind, Except.map]
  obtain ⟨seen, e, hmembers, hunknown⟩ := hread
  refine ⟨e, ?_, hunknown⟩
  exact Record.ofMembers_of_readMembers (by decide) hmembers

/-- The text of a bundle is read as an event of its own kind. -/
theorem exists_event (b : Bundle) :
    ∃ e, Event.ofText b.pretty = .ok e ∧ e.kind = .unknown b.replayType.text := by
  have hdepth : b.toJson.depth ≤ nestingLimit := Nat.le_trans b.depth_toJson_le (by decide)
  have htext := Event.toOption_ofText_pretty b.wellFormed_toJson b.doubleFree_toJson hdepth
  obtain ⟨e, he, hkind⟩ := b.exists_ofJson
  refine ⟨e, ?_, hkind⟩
  rw [he] at htext
  exact toOption_eq_some_iff.mp htext

end Bundle

/-- An event that is not replayed and does not start a task. -/
def Event.IsBystander (e : Event) : Prop := ∃ name, e.kind = .unknown name

theorem Event.IsBystander.kind_ne {e : Event} (h : e.IsBystander) : e.kind ≠ .taskStart := by
  obtain ⟨name, hname⟩ := h
  rw [hname]
  exact nofun

theorem Event.IsBystander.actions_eq {e : Event} (h : e.IsBystander) : e.actions = [] := by
  obtain ⟨name, hname⟩ := h
  rw [actions, replay, hname]
  rfl

/-- The bundle of a stream is that of the task it records, and its plan is what the events give. -/
theorem Labelled.bundle_eq_ok_iff {stream : List Labelled} {b : Bundle} :
    bundle stream = .ok b ↔ ∃ first rest, stream.map event = first :: rest ∧
      RecordsTask b.taskId b.goal first rest ∧
        b.plan = (stream.map event).flatMap Event.actions := by
  constructor
  · intro h
    cases judged_iff.mpr h with
    | accepted htask => exact ⟨_, _, rfl, htask, Compilation.plan_ofEventsFrom 0 _⟩
  · rintro ⟨first, rest, hstream, htask, hplan⟩
    cases stream with
    | nil => cases hstream
    | cons l others =>
        cases hstream
        rw [List.map_cons, ← Compilation.plan_ofEventsFrom 0] at hplan
        obtain ⟨goal, id, ⟨⟩, plan⟩ := b
        cases hplan
        exact judged_iff.mp (.accepted htask)

namespace Bundle

theorem ofLoaded_eq_ok_iff {loaded : List LoadedEvent} {b : Bundle} :
    ofLoaded loaded = .ok b ↔ ∃ first rest, loaded.map LoadedEvent.event = first :: rest ∧
      RecordsTask b.taskId b.goal first rest ∧
        b.plan = (loaded.map LoadedEvent.event).flatMap Event.actions := by
  have hevents : (loaded.map LoadedEvent.labelled).map Labelled.event =
      loaded.map LoadedEvent.event := by
    rw [List.map_map]
    rfl
  rw [ofLoaded, Labelled.bundle_eq_ok_iff, hevents]

variable {before old after : List LoadedEvent} {l : LoadedEvent} {b c : Bundle}

theorem before_ne_nil_of_bystander (hl : l.event.IsBystander)
    (h : ofLoaded (before ++ [l] ++ after) = .ok c) : before ≠ [] := by
  rintro rfl
  obtain ⟨first, rest, hfirst, htask, -⟩ := ofLoaded_eq_ok_iff.mp h
  rw [List.nil_append, List.singleton_append, List.map_cons] at hfirst
  have hstart := htask.start
  rw [← (List.cons.inj hfirst).1] at hstart
  exact hl.kind_ne hstart

/-- Before all events of a stream that is accepted, a bystander bars it. -/
theorem ofLoaded_cons_bystander {name : String} (hl : l.event.kind = .unknown name)
    (h : ofLoaded after = .ok b) :
    ofLoaded (l :: after) = .error (.taskStartNotFirst l.label name) := by
  cases after with
  | nil => cases h
  | cons start rest =>
      obtain ⟨first, others, hfirst, htask, -⟩ := ofLoaded_eq_ok_iff.mp h
      obtain ⟨rfl, rfl⟩ := List.cons.inj hfirst
      have honly : ∀ o ∈ rest.map LoadedEvent.labelled, o.event.kind ≠ .taskStart := by
        intro o ho
        obtain ⟨r, hr, rfl⟩ := List.mem_map.mp ho
        exact htask.only r.event (List.mem_map_of_mem hr)
      have hone : (((start :: rest).map LoadedEvent.labelled).filter
          Labelled.isTaskStart).length = 1 := by
        rw [List.map_cons, Labelled.filter_cons_eq_singleton htask.start honly,
          List.length_singleton]
      have hbystander : l.labelled.event.IsBystander := ⟨name, hl⟩
      have hjudged := (Labelled.Judged.lateStart hbystander.kind_ne hone).bundle_eq
      have hname : l.labelled.event.kind.name = name := congrArg EventKind.name hl
      rw [hname] at hjudged
      exact hjudged

/-- Where a bystander comes into a stream after others, in the place of any events that were there,
the task stays as it is, and what those events gave is gone from the plan. -/
theorem ofLoaded_bystander (hl : l.event.IsBystander)
    (h : ofLoaded (before ++ old ++ after) = .ok b) (hbefore : before ≠ []) :
    ofLoaded (before ++ [l] ++ after) =
      .ok { b with plan := ((before ++ after).map LoadedEvent.event).flatMap Event.actions } := by
  obtain ⟨first, rest, hfirst, htask, -⟩ := ofLoaded_eq_ok_iff.mp h
  cases before with
  | nil => exact absurd rfl hbefore
  | cons f others =>
      simp only [List.cons_append, List.map_cons, List.cons.injEq] at hfirst
      obtain ⟨rfl, rfl⟩ := hfirst
      have honly : ∀ e ∈ (others ++ [l] ++ after).map LoadedEvent.event, e.kind ≠ .taskStart := by
        have hrest := htask.only
        simp only [List.map_append, List.forall_mem_append] at hrest ⊢
        exact ⟨⟨hrest.1.1, List.forall_mem_singleton.mpr hl.kind_ne⟩, hrest.2⟩
      refine ofLoaded_eq_ok_iff.mpr ⟨f.event, _, rfl, { htask with only := honly }, ?_⟩
      simp [hl.actions_eq]

/-- The bundle stays as it is exactly if the bystander does not come first and the events in whose
place it comes gave no actions. -/
theorem ofLoaded_bystander_iff (hl : l.event.IsBystander)
    (h : ofLoaded (before ++ old ++ after) = .ok b) :
    ofLoaded (before ++ [l] ++ after) = .ok b ↔
      before ≠ [] ∧ ∀ o ∈ old, o.event.actions = [] := by
  obtain ⟨-, -, -, -, hplan⟩ := ofLoaded_eq_ok_iff.mp h
  have hsame : ((before ++ after).map LoadedEvent.event).flatMap Event.actions = b.plan ↔
      ∀ o ∈ old, o.event.actions = [] := by
    rw [hplan]
    simp
  constructor
  · intro hb
    have hbefore := before_ne_nil_of_bystander hl hb
    rw [ofLoaded_bystander hl h hbefore, Except.ok.injEq] at hb
    exact ⟨hbefore, hsame.mp (congrArg plan hb)⟩
  · rintro ⟨hbefore, hold⟩
    rw [ofLoaded_bystander hl h hbefore, hsame.mpr hold]

end Bundle

end Retrace
