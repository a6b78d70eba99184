import Retrace.Http.Collector
import Retrace.Proofs.Decoding.Bundles
import Retrace.Proofs.Decoding.Origins
import Retrace.Proofs.Files.Disk
import Retrace.Store.Bundles

/-!
The texts of a bundle: the pretty one that is written to a file, and the compact one that a
collector answers with. Either is read as the bundle, so the text of a bundle determines it.
-/

namespace Retrace

open Decoding Files Http

namespace Action

theorem wellFormed_naturalJson {n : Nat} (h : n < Nat.pow 2 64) : (naturalJson n).WellFormed := by
  have hlow : -(Nat.pow 2 63 : Nat) ≤ (n : Int) := by
    have := Int.natCast_nonneg (Nat.pow 2 63)
    omega
  exact ⟨hlow, Int.ofNat_lt.mpr h⟩

theorem nodup_parameters (a : Action) : (a.parameters.map Prod.fst).Nodup := by
  cases a <;> simp [parameters]

theorem wellFormed_parameters (a : Action) : ∀ m ∈ a.parameters, m.2.WellFormed := by
  cases a with
  | waitForElement selector timeout =>
      have ht := wellFormed_naturalJson timeout.toNat_lt
      simp [parameters, Json.WellFormed, ht]
  | clickByText text elementType nth =>
      have hn := wellFormed_naturalJson (Nat.lt_trans nth.toNat_lt (by decide))
      cases elementType <;> simp [parameters, Json.WellFormed, hn]
  | _ => simp [parameters, Json.WellFormed]

theorem doubleFree_parameters (a : Action) : ∀ m ∈ a.parameters, m.2.DoubleFree := by
  cases a with
  | clickByText text elementType nth =>
      cases elementType <;> simp [parameters, Json.DoubleFree, naturalJson]
  | _ => simp [parameters, Json.DoubleFree, naturalJson]

theorem wellFormed_toJson (a : Action) : a.toJson.WellFormed := by
  have hparameters : (Json.object a.parameters).WellFormed :=
    ⟨a.nodup_parameters, Json.membersWellFormed_iff.mpr a.wellFormed_parameters⟩
  refine ⟨(by decide : ["action", "action_params"].Nodup), ?_⟩
  exact ⟨trivial, hparameters, trivial⟩

theorem doubleFree_toJson (a : Action) : a.toJson.DoubleFree :=
  ⟨trivial, Json.membersDoubleFree_iff.mpr a.doubleFree_parameters, trivial⟩

end Action

theorem Plan.wellFormed_toJson (plan : Plan) : (Plan.toJson plan).WellFormed := by
  refine Json.itemsWellFormed_iff.mpr ?_
  intro v hv
  obtain ⟨a, -, rfl⟩ := List.mem_map.mp hv
  exact a.wellFormed_toJson

theorem Plan.doubleFree_toJson (plan : Plan) : (Plan.toJson plan).DoubleFree := by
  refine Json.itemsDoubleFree_iff.mpr ?_
  intro v hv
  obtain ⟨a, -, rfl⟩ := List.mem_map.mp hv
  exact a.doubleFree_toJson

namespace Bundle

theorem wellFormed_toJson (b : Bundle) : b.toJson.WellFormed := by
  refine ⟨(by decide : ["ultimate_goal", "task_id", "type", "action_list"].Nodup), ?_⟩
  exact ⟨trivial, trivial, trivial, b.plan.wellFormed_toJson, trivial⟩

theorem doubleFree_toJson (b : Bundle) : b.toJson.DoubleFree :=
  ⟨trivial, trivial, trivial, b.plan.doubleFree_toJson, trivial⟩

theorem ofText_of_read {b : Bundle} {text : String}
    (h : Document.read text = some (Document.ofJson b.toJson)) : ofText text = .ok b := by
  have hdepth : (Origin.text nestingLimit).Admits 4 := by
    show 4 ≤ nestingLimit
    decide
  rw [ofText, Decoding.ofText, h]
  exact decode_toJson hdepth b

theorem ofText_pretty (b : Bundle) : ofText b.pretty = .ok b :=
  ofText_of_read (Document.read_pretty b.wellFormed_toJson b.doubleFree_toJson)

theorem ofText_compact (b : Bundle) : ofText b.compact = .ok b :=
  ofText_of_read (Document.read_compact b.wellFormed_toJson b.doubleFree_toJson)

theorem eq_of_ofText {b c : Bundle} {text : String} (hb : ofText text = .ok b)
    (hc : ofText text = .ok c) : b = c :=
  Except.ok.inj (hb.symm.trans hc)

/-- What a write that goes well has done. -/
theorem write_eq_ok {b : Bundle} {folder path : Path} {disk later : Disk}
    (h : b.write folder disk = (later, .ok path)) :
    ValidTaskId b.taskId ∧ path = folder.join (fileName b.taskId) ∧
      ∃ made, disk.makeFolders folder = (made, .ok ()) ∧
        made.writeText path b.pretty = (later, .ok ()) := by
  unfold write at h
  split at h
  · cases h
  · next hrequire =>
      split at h
      · cases h
      · next made hmade =>
          dsimp only at h
          split at h
          · cases h
          · next hwrite =>
              cases h
              exact ⟨requireTaskId_eq_ok_iff.mp hrequire, rfl, made, hmade, hwrite⟩

/-- A bundle that was written can be read from the path that the write gives. -/
theorem readText?_write {b : Bundle} {folder path : Path} {disk later : Disk}
    (h : b.write folder disk = (later, .ok path)) : later.readText? path = some b.pretty := by
  obtain ⟨-, rfl, made, -, hwrite⟩ := write_eq_ok h
  exact Disk.readText?_writeText hwrite

theorem body_replayResponse {collector : Collector} {piece id : String} {b : Bundle}
    (hpiece : decodePiece? piece = some id) (hb : collector.replay id = .ok b) :
    collector.replayResponse piece = .json 200 b.compact := by
  simp only [Collector.replayResponse, hpiece, hb]

/-- Each text of a bundle is read as that bundle, wherever it ends up: in a file or in a response;
and no two bundles share a text. -/
theorem texts_read_back (b : Bundle) :
    ofText b.pretty = .ok b ∧ ofText b.compact = .ok b ∧
      (∀ c : Bundle, (c.pretty = b.pretty ∨ c.compact = b.compact ∨ c.pretty = b.compact) →
        c = b) ∧
      (∀ folder disk later path, b.write folder disk = (later, .ok path) →
        (later.readText? path).map ofText = some (.ok b)) ∧
      ∀ (collector : Collector) piece id, decodePiece? piece = some id →
        collector.replay id = .ok b →
        ofText (collector.replayResponse piece).body = .ok b := by
  refine ⟨b.ofText_pretty, b.ofText_compact, ?_, ?_, ?_⟩
  · intro c h
    rcases h with h | h | h
    · exact eq_of_ofText c.ofText_pretty (h ▸ b.ofText_pretty)
    · exact eq_of_ofText c.ofText_compact (h ▸ b.ofText_compact)
    · exact eq_of_ofText c.ofText_pretty (h ▸ b.ofText_compact)
  · intro folder disk later path h
    rw [readText?_write h, Option.map_some, b.ofText_pretty]
  · intro collector piece id hpiece hb
    rw [body_replayResponse hpiece hb]
    exact b.ofText_compact

/-- A bundle with a quote and a backslash, written into a folder that is made for it. -/
theorem texts_read_back_written :
    let b : Bundle := { goal := "say \"ä\\\"", taskId := "t", plan := [.clickByText "x" none 7] }
    let path : Path := ⟨"out", ["wap_exact_replay_list_t.json"]⟩
    (b.write ⟨"out", []⟩ {}).2 = .ok path ∧
      ((b.write ⟨"out", []⟩ {}).1.readText? path).map ofText = some (.ok b) := by
  intro b path
  have hpath : (b.write ⟨"out", []⟩ {}).2 = .ok path := by
    have hsome : (b.write ⟨"out", []⟩ {}).2.toOption = some path := by
      decide +kernel
    exact toOption_eq_some_iff.mp hsome
  exact ⟨hpath, (texts_read_back b).2.2.2.1 ⟨"out", []⟩ {} _ path (Prod.ext rfl hpath)⟩

end Bundle

end Retrace
