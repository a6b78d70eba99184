import Retrace.Http.Endpoint
import Retrace.Proofs.Files.Disk
import Retrace.Proofs.Json.Strings

/-!
Addresses of plans. A path spells the bytes of a task id one by one, each as it is or as an escape,
and every spelling of an id is an address of its plan.
-/

namespace Retrace.Http

open Text

/-- An ASCII character that ends neither a path nor a piece of it. -/
def PieceChar (c : Char) : Prop := c.toNat < 128 ∧ c ∉ ['/', '?', '#']

instance (c : Char) : Decidable (PieceChar c) := inferInstanceAs (Decidable (_ ∧ _))

/-- The text is a percent-encoding of the bytes. What cannot stand in a piece of a path must be
escaped, anything else may be. -/
inductive Encodes : List Char → List UInt8 → Prop
  | nil : Encodes [] []
  | plain {c : Char} {text : List Char} {bytes : List UInt8} (hc : PieceChar c) (hne : c ≠ '%')
      (hrest : Encodes text bytes) : Encodes (c :: text) (c.toUInt8 :: bytes)
  | escaped {high low : Char} {m n : Nat} {text : List Char} {bytes : List UInt8}
      (hhigh : Document.hexValue? high = some m) (hlow : Document.hexValue? low = some n)
      (hrest : Encodes text bytes) :
      Encodes ('%' :: high :: low :: text) (UInt8.ofNat (m * 16 + n) :: bytes)

/-- The path at which the plan of a task is asked for. -/
def planTarget (piece : List Char) : String :=
  "/tasks/" ++ String.ofList piece ++ "/exact-replay"

theorem toList_planTarget (piece : List Char) :
    (planTarget piece).toList =
      '/' :: ("tasks".toList ++ '/' :: (piece ++ '/' :: "exact-replay".toList)) := by
  simp [planTarget]

theorem targetPath_eq_self {path : List Char} (h : ∀ c ∈ path, c ∉ ['?', '#']) :
    targetPath ('/' :: path) = '/' :: path := by
  have hkept : ∀ c ∈ '/' :: path, (!(c == '?' || c == '#')) = true := by
    refine List.forall_mem_cons.mpr ⟨by decide, fun c hc => ?_⟩
    have hne := h c hc
    simp only [List.mem_cons, List.not_mem_nil, or_false, not_or] at hne
    simp [hne.1, hne.2]
  have hall := @List.takeWhile_append_of_pos _ _ ('/' :: path) [] hkept
  rw [List.takeWhile_nil, List.append_nil] at hall
  simp only [targetPath, hall]

theorem pieceChar_of_hexValue? {c : Char} {n : Nat} (h : Document.hexValue? c = some n) :
    PieceChar c := by
  have hrange : ('0' ≤ c ∧ c ≤ '9') ∨ ('a' ≤ c ∧ c ≤ 'f') ∨ ('A' ≤ c ∧ c ≤ 'F') := by
    unfold Document.hexValue? at h
    split at h
    · left
      assumption
    · split at h
      · right; left
        assumption
      · split at h
        · right; right
          assumption
        · cases h
  constructor
  · simp only [Char.le_def, UInt32.le_iff_toNat_le] at hrange
    show c.val.toNat < 128
    rcases hrange with ⟨-, hle⟩ | ⟨-, hle⟩ | ⟨-, hle⟩
    · exact Nat.lt_of_le_of_lt hle (by decide)
    · exact Nat.lt_of_le_of_lt hle (by decide)
    · exact Nat.lt_of_le_of_lt hle (by decide)
  · intro hc
    simp only [List.mem_cons, List.not_mem_nil, or_false] at hc
    rcases hc with rfl | rfl | rfl
    · revert hrange
      decide
    · revert hrange
      decide
    · revert hrange
      decide

namespace Encodes

variable {piece : List Char} {bytes : List UInt8}

theorem pieceChar (h : Encodes piece bytes) : ∀ c ∈ piece, PieceChar c := by
  induction h with
  | nil => exact List.forall_mem_nil _
  | plain hc _ _ ih => exact List.forall_mem_cons.mpr ⟨hc, ih⟩
  | escaped hhigh hlow _ ih =>
      refine List.forall_mem_cons.mpr ⟨by decide, List.forall_mem_cons.mpr ⟨?_, ?_⟩⟩
      · exact pieceChar_of_hexValue? hhigh
      · exact List.forall_mem_cons.mpr ⟨pieceChar_of_hexValue? hlow, ih⟩

end Encodes

theorem toUTF8_ofList {text : List Char} (h : ∀ c ∈ text, c.toNat < 128) :
    (String.ofList text).toUTF8 = ⟨(text.map Char.toUInt8).toArray⟩ := by
  show (String.ofList text).toByteArray = _
  rw [String.toByteArray_ofList]
  induction text with
  | nil => rfl
  | cons c rest ih =>
      obtain ⟨hc, hrest⟩ := List.forall_mem_cons.mp h
      have hsize : c.utf8Size = 1 := by
        rw [Char.utf8Size_eq_one_iff, UInt32.le_iff_toNat_le]
        exact Nat.le_of_lt_succ hc
      rw [List.utf8Encode_cons, List.utf8Encode_singleton,
        String.utf8EncodeChar_eq_singleton hsize, ih hrest]
      apply ByteArray.ext
      simp

theorem toList_bytes (bytes : List UInt8) : (ByteArray.mk bytes.toArray).toList = bytes := by
  have hloop : ∀ (i : Nat) (done : List UInt8),
      ByteArray.toList.loop ⟨bytes.toArray⟩ i done = done.reverse ++ bytes.drop i := by
    intro i done
    fun_induction ByteArray.toList.loop ⟨bytes.toArray⟩ i done with
    | case1 i done hi ih =>
        have hlt : i < bytes.length := hi
        rw [ih, List.drop_eq_getElem_cons hlt]
        simp [ByteArray.get!, hlt]
    | case2 i done hi =>
        have hle : bytes.length ≤ i := Nat.le_of_not_lt hi
        rw [List.drop_eq_nil_of_le hle, List.append_nil]
  exact hloop 0 []

theorem percentDecode_plain {a : UInt8} (h : a ≠ 37) (rest : List UInt8) :
    percentDecode (a :: rest) = a :: percentDecode rest := by
  match rest with
  | [] => rfl
  | [b] => rfl
  | b :: c :: rest => rw [percentDecode, if_neg h]

theorem ofUInt8_toUInt8 {c : Char} (h : c.toNat < 128) : Char.ofUInt8 c.toUInt8 = c := by
  apply Char.toNat_inj.mp
  show c.val.toUInt8.toNat = c.val.toNat
  rw [UInt32.toNat_toUInt8]
  exact Nat.mod_eq_of_lt (Nat.lt_trans h (by decide))

theorem percentDecode_escaped {high low : Char} {m n : Nat}
    (hhigh : Document.hexValue? high = some m) (hlow : Document.hexValue? low = some n)
    (rest : List UInt8) :
    percentDecode (37 :: high.toUInt8 :: low.toUInt8 :: rest) =
      UInt8.ofNat (m * 16 + n) :: percentDecode rest := by
  have hhighBack := ofUInt8_toUInt8 (pieceChar_of_hexValue? hhigh).1
  have hlowBack := ofUInt8_toUInt8 (pieceChar_of_hexValue? hlow).1
  rw [percentDecode, if_pos rfl, hhighBack, hlowBack, hhigh, hlow]

namespace Encodes

variable {piece : List Char} {bytes : List UInt8}

theorem percentDecode_eq (h : Encodes piece bytes) :
    percentDecode (piece.map Char.toUInt8) = bytes := by
  induction h with
  | nil => rfl
  | plain hc hne _ ih =>
      rw [List.map_cons, percentDecode_plain, ih]
      intro heq
      apply hne
      rw [← ofUInt8_toUInt8 hc.1, heq]
      rfl
  | escaped hhigh hlow _ ih =>
      rw [List.map_cons, List.map_cons, List.map_cons, ← ih]
      exact percentDecode_escaped hhigh hlow _

/-- Every spelling of an id stands for the id. -/
theorem decodePiece? {id : String} (h : Encodes piece id.toUTF8.toList) :
    Http.decodePiece? (String.ofList piece) = some id := by
  have hbytes := toUTF8_ofList fun c hc => (h.pieceChar c hc).1
  have hsame : (ByteArray.mk id.toUTF8.toList.toArray) = id.toUTF8 :=
    congrArg (fun bytes => ByteArray.mk (List.toArray bytes)) (toList_bytes id.toUTF8.data.toList)
  rw [Http.decodePiece?, hbytes, toList_bytes, h.percentDecode_eq, hsame]
  exact Files.Disk.fromUTF8?_toUTF8 id

/-- The endpoint of a spelling is that of the plan. -/
theorem ofTarget?_planTarget (h : Encodes piece bytes) :
    Endpoint.ofTarget? (planTarget piece) = some (.exactReplay (String.ofList piece)) := by
  have hslash : '/' ∉ piece := fun hc => (h.pieceChar _ hc).2 (by decide)
  have hpath : targetPath ('/' :: ("tasks".toList ++ '/' :: (piece ++ '/' ::
      "exact-replay".toList))) =
        '/' :: ("tasks".toList ++ '/' :: (piece ++ '/' :: "exact-replay".toList)) := by
    apply targetPath_eq_self
    refine List.forall_mem_append.mpr ⟨by simp, List.forall_mem_cons.mpr ⟨by decide, ?_⟩⟩
    refine List.forall_mem_append.mpr ⟨fun c hc hend => ?_, by simp⟩
    exact (h.pieceChar c hc).2 (List.mem_cons_of_mem _ hend)
  have hpieces : pieces '/' ('/' :: ("tasks".toList ++ '/' :: (piece ++ '/' ::
      "exact-replay".toList))) = [[], "tasks".toList, piece, "exact-replay".toList] := by
    rw [← List.nil_append ('/' :: _), pieces_append_cons (by decide),
      pieces_append_cons (by decide), pieces_append_cons hslash,
      pieces_of_not_mem (by decide)]
  rw [Endpoint.ofTarget?, toList_planTarget, hpath, hpieces]
  rfl

end Encodes

end Retrace.Http
