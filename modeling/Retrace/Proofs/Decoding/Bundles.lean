import Retrace.Bundle
import Retrace.Proofs.Decoding.Records
import Retrace.Proofs.Decoding.Values

/-!
Actions and bundles are decoded from their JSON form as they were, in text as well as in memory.
-/

namespace Retrace

open Decoding

namespace Decoding

variable {origin : Origin}

theorem natural_ofNat {bound n : Nat} (h : n < bound) (expected : String) :
    natural bound expected origin (.number (some (.integer n))) = .ok n := by
  have hn : 0 ≤ (n : Int) ∧ (n : Int) < bound := by omega
  rw [natural, if_pos hn]
  rfl

theorem word64_natural (origin : Origin) (n : UInt64) :
    word64 origin (.number (some (.integer n.toNat))) = .ok n := by
  rw [word64, natural_ofNat n.toNat_lt]
  exact congrArg Except.ok UInt64.ofNat_toNat

theorem word32_natural (origin : Origin) (n : UInt32) :
    word32 origin (.number (some (.integer n.toNat))) = .ok n := by
  rw [word32, natural_ofNat n.toNat_lt]
  exact congrArg Except.ok UInt32.ofNat_toNat

theorem optional_text (origin : Origin) (s : Option String) :
    optional text origin (Document.ofJson ((s.map Json.string).getD .null)) = .ok s := by
  cases s <;> rfl

theorem sequence_map {α : Type} {decode : Decoder α} {write : α → Json} {values : List α}
    {inner : Origin} (henter : origin.enter = .ok inner)
    (h : ∀ a ∈ values, decode inner (Document.ofJson (write a)) = .ok a) :
    sequence decode origin (Document.ofJson (.array (values.map write))) = .ok values := by
  have hitems : (Document.ofItems (values.map write)).mapM (decode inner) = .ok values := by
    rw [Document.ofItems_eq_map, List.mapM_map, List.mapM_map]
    exact (mapM_eq_ok h).trans (congrArg Except.ok (List.map_id' values))
  simp only [sequence, Document.ofJson, henter, bind, Except.bind, hitems]

end Decoding

namespace Action

theorem pick_known (name : Name) : pick Name.known name.text = .ok name := by
  cases name <;> rfl

/-- The values of an action's parameters in the order of their names. -/
def parameterValues (a : Action) : List Document :=
  (Document.ofMembers a.parameters).map Prod.snd

theorem ofMembers_parameters (a : Action) :
    Document.ofMembers a.parameters =
      Record.membersOf (parameterRecord a.name).fields a.parameterValues := by
  cases a <;> rfl

theorem ofItems_parameterValues (origin : Origin) (a : Action) :
    (parameterRecord a.name).ofItems origin a.parameterValues = .ok a := by
  cases a with
  | waitForElement selector timeout =>
      have ht := RecordField.read_mandatory (word64_natural origin timeout) "timeout"
        setTimeout (.waitForElement selector 0)
      exact (Record.readItems_cons rfl).trans (Record.readItems_cons ht)
  | clickByText text elementType nth =>
      have he := RecordField.read_optional (optional_text origin elementType)
        "element_type" setElementType (.clickByText text none 0)
      have hn := RecordField.read_mandatory (word32_natural origin nth) "nth" setNth
        (.clickByText text elementType 0)
      exact (Record.readItems_cons rfl).trans
        ((Record.readItems_cons he).trans (Record.readItems_cons hn))
  | _ => rfl

theorem nodup_parameterNames (name : Name) :
    ((parameterRecord name).fields.map RecordField.name).Nodup := by
  cases name <;> decide

theorem length_parameterValues (a : Action) :
    a.parameterValues.length = (parameterRecord a.name).fields.length := by
  cases a <;> rfl

theorem decodeParameters_parameters {origin : Origin} (h : origin.Admits 1) (a : Action) :
    decodeParameters a.name origin (.object (Document.ofMembers a.parameters)) = .ok a := by
  obtain ⟨inner, henter, -⟩ := h.enter
  have hrecord := Record.ofMembers_membersOf (nodup_parameterNames a.name)
    (length_parameterValues a) (ofItems_parameterValues inner a)
  simp only [decodeParameters, Record.decodeOpened, henter, bind, Except.bind,
    ofMembers_parameters, hrecord]

theorem decode_toJson {origin : Origin} (h : origin.Admits 2) (a : Action) :
    decode origin (Document.ofJson a.toJson) = .ok a := by
  obtain ⟨inner, henter, hinner⟩ := h.enter
  have htag : choice Name.known inner (.string (some a.name.text)) = .ok a.name :=
    pick_known a.name
  have hparameters := decodeParameters_parameters hinner a
  have henvelope : decodeEnvelope inner
      [(some "action", .string (some a.name.text)),
        (some "action_params", .object (Document.ofMembers a.parameters))] = .ok a := by
    have hfirst : ∀ tag rest, nextPart? ((some "action", tag) :: rest) =
        .ok (some (.tag, tag, rest)) := fun _ _ => rfl
    have hsecond : ∀ parameters rest, nextPart? ((some "action_params", parameters) :: rest) =
        .ok (some (.parameters, parameters, rest)) := fun _ _ => rfl
    simp only [decodeEnvelope, hfirst, hsecond, bind, Except.bind, htag, hparameters]
    rfl
  simp only [decode, toJson, Document.ofJson, Document.ofMembers, henter, bind, Except.bind,
    henvelope]

end Action

namespace Bundle

theorem decode_toJson {origin : Origin} (h : origin.Admits 4) (b : Bundle) :
    decode origin (Document.ofJson b.toJson) = .ok b := by
  obtain ⟨inner, henter, hinner⟩ := h.enter
  obtain ⟨item, hitem, hdepth⟩ := hinner.enter
  have hplan : sequence Action.decode inner (Document.ofJson b.plan.toJson) = .ok b.plan :=
    sequence_map hitem fun a _ => Action.decode_toJson hdepth a
  have hitems : record.ofItems inner [.string (some b.goal), .string (some b.taskId),
      .string (some b.replayType.text), Document.ofJson b.plan.toJson] = .ok b := by
    have ha := RecordField.read_mandatory hplan "action_list"
      (fun plan (b : Bundle) => { b with plan }) { b with plan := [] }
    have ht : choice ReplayType.known inner (.string (some b.replayType.text)) =
        .ok b.replayType := by
      cases b.replayType
      rfl
    have hr := RecordField.read_mandatory ht "type"
      (fun replayType (b : Bundle) => { b with replayType })
      { goal := b.goal, taskId := b.taskId, plan := [] }
    exact (Record.readItems_cons rfl).trans ((Record.readItems_cons rfl).trans
      ((Record.readItems_cons hr).trans (Record.readItems_cons ha)))
  have hrecord := Record.ofMembers_membersOf (r := record) (by decide) rfl hitems
  simp only [decode, Record.decode, toJson, Document.ofJson, henter, bind, Except.bind]
  exact hrecord

end Bundle

end Retrace
