import Retrace.Files.Path

/-!
Paths as they are spelled, read back piece by piece. A name that holds no separator and is no step
of its own kind adds exactly itself to the spelling of a path, wherever the path starts.
-/

namespace Retrace

namespace Text

theorem pieces_append (separator : Char) (first second : List Char) :
    pieces separator (first ++ separator :: second) =
      pieces separator first ++ pieces separator second := by
  induction first with
  | nil => simp [pieces]
  | cons c rest ih =>
      rw [List.cons_append, pieces, pieces, ih]
      split
      · rfl
      · cases hrest : pieces separator rest with
        | nil => exact absurd hrest (pieces_ne_nil separator rest)
        | cons piece others => rfl

end Text

namespace Files

open Text

/-- A name that is one step down wherever it is spelled. -/
structure IsName (name : String) : Prop where
  nonempty : name ≠ ""
  noSlash : '/' ∉ name.toList
  notStay : name ≠ "."
  notUp : name ≠ ".."

theorem isName_of_head {name : String} {c : Char} {rest : List Char} (h : name.toList = c :: rest)
    (hdot : c ≠ '.') (hslash : '/' ∉ name.toList) : IsName name := by
  constructor
  case nonempty =>
    rintro rfl
    cases h
  case noSlash => exact hslash
  case notStay =>
    rintro rfl
    exact hdot (List.cons.inj h).1.symm
  case notUp =>
    rintro rfl
    exact hdot (List.cons.inj h).1.symm

theorem IsName.ofPiece? {name : String} (h : IsName name) :
    Step.ofPiece? name.toList = some (.down name) := by
  unfold Step.ofPiece?
  split
  · next hlist => exact absurd (String.toList_inj.mp hlist) h.nonempty
  · next hlist => exact absurd (String.toList_inj.mp hlist) h.notStay
  · next hlist => exact absurd (String.toList_inj.mp hlist) h.notUp
  · rw [String.ofList_toList]

/-- The steps that a text spells. -/
def spelledSteps (text : List Char) : List Step := (pieces '/' text).filterMap Step.ofPiece?

@[simp] theorem spelledSteps_nil : spelledSteps [] = [] := rfl

theorem spelledSteps_append (first second : List Char) :
    spelledSteps (first ++ '/' :: second) = spelledSteps first ++ spelledSteps second := by
  rw [spelledSteps, pieces_append, List.filterMap_append]
  rfl

/-- Slashes at the end of a text spell no step. -/
theorem spelledSteps_append_replicate (text : List Char) (count : Nat) :
    spelledSteps (text ++ List.replicate count '/') = spelledSteps text := by
  induction count generalizing text with
  | zero => rw [List.replicate_zero, List.append_nil]
  | succ count ih =>
      have hslashes := ih []
      rw [List.nil_append, spelledSteps_nil] at hslashes
      rw [List.replicate_succ, spelledSteps_append, hslashes, List.append_nil]

theorem IsName.spelledSteps {name : String} (h : IsName name) :
    spelledSteps name.toList = [.down name] := by
  rw [Files.spelledSteps, pieces_of_not_mem h.noSlash]
  simp [h.ofPiece?]

theorem IsName.head?_ne {name : String} (h : IsName name) : name.toList.head? ≠ some '/' := by
  intro hhead
  exact h.noSlash (List.mem_of_head? hhead)

/-- What a path says as a text: whether it starts at the top of the tree, and the steps it takes. -/
structure Components where
  absolute : Bool
  steps : List Step
deriving DecidableEq, Repr

namespace Components

def ofText (text : String) : Components :=
  { absolute := text.toList.head? == some '/', steps := spelledSteps text.toList }

/-- The components of what lies below, at the given names. -/
def down (c : Components) (names : Route) : Components :=
  { c with steps := c.steps ++ names.map Step.down }

theorem down_down (c : Components) (first second : Route) :
    (c.down first).down second = c.down (first ++ second) := by
  simp [down]

theorem ofText_joinText (text : String) {name : String} (hname : IsName name) :
    ofText (Path.joinText text name) = (ofText text).down [name] := by
  unfold Path.joinText ofText down
  split
  · next h =>
      rw [String.toList_append]
      rcases h with rfl | hslash
      · have hhead : (name.toList.head? == some '/') = false := by simpa using hname.head?_ne
        simp [hname.spelledSteps, hhead]
      · -- The slash that ends the text is the one before the name.
        rw [Path.endsWithSlash, beq_iff_eq, List.getLast?_eq_some_iff] at hslash
        obtain ⟨front, hfront⟩ := hslash
        rw [hfront, List.append_assoc, List.singleton_append, spelledSteps_append,
          spelledSteps_append, hname.spelledSteps]
        cases front <;> simp
  · next h =>
      rw [not_or] at h
      have hlist : (text ++ "/" ++ name).toList = text.toList ++ '/' :: name.toList := by simp
      have hne : text.toList ≠ [] := fun he => h.1 (String.toList_inj.mp he)
      rw [hlist, spelledSteps_append, hname.spelledSteps]
      cases hc : text.toList with
      | nil => exact absurd hc hne
      | cons c rest => simp

/-- Names below a path are the components after those of the path. -/
theorem ofText_append (path : Path) {names : Route} (h : ∀ name ∈ names, IsName name) :
    ofText (path.append names).text = (ofText path.text).down names := by
  induction names generalizing path with
  | nil => simp [Path.append, down]
  | cons name rest ih =>
      have hfirst := h name List.mem_cons_self
      have hrest := ih (path.join name) fun other ho => h other (List.mem_cons_of_mem _ ho)
      rw [Path.text_join, ofText_joinText _ hfirst, down_down] at hrest
      have happend : (path.join name).append rest = path.append (name :: rest) := by
        simp [Path.join, Path.append]
      rwa [happend] at hrest

end Components

namespace Path

theorem le_utf8ByteSize_joinText (text name : String) :
    text.utf8ByteSize + name.utf8ByteSize ≤ (joinText text name).utf8ByteSize := by
  unfold joinText
  split <;> simp only [String.utf8ByteSize_append] <;> omega

/-- A path is no shorter than its spelling and the names below it together. -/
theorem le_utf8ByteSize_append (path : Path) {names : Route} {size : Nat}
    (h : ∀ name ∈ names, size ≤ name.utf8ByteSize) :
    path.text.utf8ByteSize + names.length * size ≤ (path.append names).text.utf8ByteSize := by
  induction names generalizing path with
  | nil => simp [append]
  | cons name rest ih =>
      have happend : path.append (name :: rest) = (path.join name).append rest := by
        simp [join, append]
      have hname := h name List.mem_cons_self
      have hjoined := le_utf8ByteSize_joinText path.text name
      rw [← text_join] at hjoined
      have hrest := ih (path.join name) fun other ho => h other (List.mem_cons_of_mem _ ho)
      rw [happend, List.length_cons, Nat.succ_mul]
      omega

end Path

end Files

end Retrace
