import Retrace.Proofs.Json.Layout
import Retrace.Proofs.Json.Numbers
import Retrace.Proofs.Json.Strings
import Retrace.Proofs.Json.Values

/-!
Reading gives back what was written, compactly or prettily, for every value without doubles. The
fuel that a text needs is bounded by its length.
-/

namespace Retrace

namespace Document

def AllSpace (blanks : List Char) : Prop := ∀ c ∈ blanks, isSpace c

theorem skipSpace_append {blanks : List Char} (h : AllSpace blanks) (text : List Char) :
    skipSpace (blanks ++ text) = skipSpace text :=
  List.dropWhile_append_of_pos h

theorem skipSpace_cons {c : Char} (h : isSpace c = false) (text : List Char) :
    skipSpace (c :: text) = c :: text := by
  simp [skipSpace, h]

theorem isSpace_iff {c : Char} : isSpace c ↔ c = ' ' ∨ c = '\n' ∨ c = '\r' ∨ c = '\t' := by
  simp [isSpace, or_assoc]

theorem isSpace_of_isDigit {c : Char} (h : c.isDigit) : isSpace c = false := by
  cases hs : isSpace c with
  | false => rfl
  | true =>
      rcases isSpace_iff.mp hs with hs | hs | hs | hs
      all_goals
        subst hs
        cases h

-- The reader unfolds in every lemma below: its equations are found once, here.
attribute [local simp] readValue readItems readMembers

theorem readValue_skip {blanks : List Char} (h : AllSpace blanks) (fuel : Nat)
    (text : List Char) : readValue fuel (blanks ++ text) = readValue fuel text := by
  cases fuel with
  | zero => simp only [readValue]
  | succ fuel => simp only [readValue, skipSpace_append h]

theorem readItems_skip {blanks : List Char} (h : AllSpace blanks) (fuel : Nat)
    (text : List Char) : readItems fuel (blanks ++ text) = readItems fuel text := by
  cases fuel with
  | zero => simp only [readItems]
  | succ fuel => simp only [readItems, readValue_skip h]

theorem readMembers_skip {blanks : List Char} (h : AllSpace blanks) (fuel : Nat)
    (text : List Char) : readMembers fuel (blanks ++ text) = readMembers fuel text := by
  cases fuel with
  | zero => simp only [readMembers]
  | succ fuel => simp only [readMembers, skipSpace_append h]

/-! One equation for each way a value can start. -/

theorem readValue_string (fuel : Nat) (s : String) (rest : List Char) :
    readValue (fuel + 1) (Json.stringText s ++ rest) = some (.string (some s), rest) := by
  rw [Json.stringText, List.cons_append, readValue, skipSpace_cons (by decide)]
  simp [readString_escape]

theorem readValue_negative (fuel : Nat) (text : List Char) :
    readValue (fuel + 1) ('-' :: text) = readNumber true text := by
  rw [readValue, skipSpace_cons (by decide)]
  rfl

theorem readValue_digit (fuel : Nat) {c : Char} (h : c.isDigit) (text : List Char) :
    readValue (fuel + 1) (c :: text) = readNumber false (c :: text) := by
  rw [readValue, skipSpace_cons (isSpace_of_isDigit h)]
  split
  all_goals first
    | rfl
    | (next heq =>
        cases heq
        cases h)

theorem readValue_array_nil (fuel : Nat) (rest : List Char) :
    readValue (fuel + 1) ('[' :: ']' :: rest) = some (.array [], rest) := by
  rw [readValue, skipSpace_cons (by decide)]
  simp only [skipSpace_cons (c := ']') (by decide)]

theorem readValue_array (fuel : Nat) {text : List Char} {c : Char} {tail : List Char}
    (h : skipSpace text = c :: tail) (hc : c ≠ ']') :
    readValue (fuel + 1) ('[' :: text) =
      (readItems fuel (c :: tail)).map fun read => (.array read.1, read.2) := by
  rw [readValue, skipSpace_cons (by decide)]
  simp only [h]
  split
  · next heq =>
      cases heq
      exact absurd rfl hc
  · cases readItems fuel (c :: tail) <;> rfl

theorem readValue_object_nil (fuel : Nat) (rest : List Char) :
    readValue (fuel + 1) ('\x7b' :: '\x7d' :: rest) = some (.object [], rest) := by
  rw [readValue, skipSpace_cons (by decide)]
  simp only [skipSpace_cons (c := '\x7d') (by decide)]

theorem readValue_object (fuel : Nat) {text : List Char} {c : Char} {tail : List Char}
    (h : skipSpace text = c :: tail) (hc : c ≠ '\x7d') :
    readValue (fuel + 1) ('\x7b' :: text) =
      (readMembers fuel (c :: tail)).map fun read => (.object read.1, read.2) := by
  rw [readValue, skipSpace_cons (by decide)]
  simp only [h]
  split
  · next heq =>
      cases heq
      exact absurd rfl hc
  · cases readMembers fuel (c :: tail) <;> rfl

/-! One equation for each way the items and the members can go on. -/

theorem readItems_last {fuel : Nat} {text rest more : List Char} {item : Document}
    (h : readValue fuel text = some (item, rest)) (hs : skipSpace rest = ']' :: more) :
    readItems (fuel + 1) text = some ([item], more) := by
  simp [h, hs]

theorem readItems_comma {fuel : Nat} {text rest more : List Char} {item : Document}
    (h : readValue fuel text = some (item, rest)) (hs : skipSpace rest = ',' :: more) :
    readItems (fuel + 1) text =
      (readItems fuel more).map fun read => (item :: read.1, read.2) := by
  simp only [readItems, h, bind, Option.bind, hs]
  cases readItems fuel more <;> rfl

theorem readMembers_last {fuel : Nat} {text rest more : List Char} {value : Document} (k : String)
    (h : readValue fuel text = some (value, rest)) (hs : skipSpace rest = '\x7d' :: more) :
    readMembers (fuel + 1) (Json.stringText k ++ ':' :: text) =
      some ([(some k, value)], more) := by
  rw [Json.stringText, List.cons_append, List.append_assoc, readMembers,
    skipSpace_cons (by decide)]
  simp [readString_escape, skipSpace_cons (c := ':') (by decide), h, hs]

theorem readMembers_comma {fuel : Nat} {text rest more : List Char} {value : Document}
    (k : String) (h : readValue fuel text = some (value, rest))
    (hs : skipSpace rest = ',' :: more) :
    readMembers (fuel + 1) (Json.stringText k ++ ':' :: text) =
      (readMembers fuel more).map fun read => ((some k, value) :: read.1, read.2) := by
  rw [Json.stringText, List.cons_append, List.append_assoc, readMembers,
    skipSpace_cons (by decide)]
  simp only [List.cons_append, List.nil_append, readString_escape, bind, Option.bind,
    skipSpace_cons (c := ':') (by decide), h, hs]
  cases readMembers fuel more <;> rfl

/-- Blanks before a delimiter end a number. -/
theorem endsNumber_append {blanks : List Char} (hb : AllSpace blanks) {text : List Char}
    (ht : EndsNumber text) : EndsNumber (blanks ++ text) := by
  cases blanks with
  | nil => exact ht
  | cons c rest =>
      apply endsNumber_cons
      rcases isSpace_iff.mp (hb c List.mem_cons_self) with hs | hs | hs | hs
      all_goals
        subst hs
        decide

end Document

namespace Json.Layout

open Document

/-- A layout that puts nothing but blanks between the parts of a text. -/
structure IsBlank (l : Layout) : Prop where
  gap : ∀ level, AllSpace (l.gap level)
  colonGap : AllSpace l.colonGap

theorem isBlank_compact : compact.IsBlank := ⟨fun _ => nofun, nofun⟩

theorem isBlank_pretty : pretty.IsBlank := by
  refine ⟨?_, ?_⟩
  · intro level c hc
    rcases List.mem_cons.mp hc with rfl | hc
    · rfl
    · rw [List.eq_of_mem_replicate hc]
      rfl
  · intro c hc
    rw [List.mem_singleton.mp hc]
    rfl

theorem endsNumber_itemsText {l : Layout} (hl : l.IsBlank) (level : Nat) (items : List Json)
    (rest : List Char) : EndsNumber (l.itemsText level items ++ rest) := by
  cases items with
  | nil =>
      rw [itemsText, List.append_assoc]
      exact endsNumber_append (hl.gap level) (endsNumber_cons rest (by decide))
  | cons v items => exact endsNumber_cons _ (by decide)

theorem endsNumber_membersText {l : Layout} (hl : l.IsBlank) (level : Nat) (members : Members)
    (rest : List Char) : EndsNumber (l.membersText level members ++ rest) := by
  cases members with
  | nil =>
      rw [membersText, List.append_assoc]
      exact endsNumber_append (hl.gap level) (endsNumber_cons rest (by decide))
  | cons m members => exact endsNumber_cons _ (by decide)

theorem exists_toDigits_eq_cons (n : Nat) :
    ∃ c tail, Nat.toDigits 10 n = c :: tail ∧ c.isDigit := by
  cases h : Nat.toDigits 10 n with
  | nil => exact absurd h Nat.toDigits_ne_nil
  | cons c tail =>
      have hc : c ∈ Nat.toDigits 10 n := h ▸ List.mem_cons_self
      exact ⟨c, tail, rfl, Nat.isDigit_of_mem_toDigits (by decide) (by decide) hc⟩

/-- A value starts neither with a blank nor with what closes an array. -/
theorem exists_text_eq_cons (l : Layout) (level : Nat) {v : Json} (h : v.DoubleFree) :
    ∃ c tail, l.text level v = c :: tail ∧ isSpace c = false ∧ c ≠ ']' := by
  cases v with
  | null => exact ⟨_, _, rfl, by decide⟩
  | bool b => cases b <;> exact ⟨_, _, rfl, by decide⟩
  | number n =>
      cases n with
      | double d => exact h.elim
      | integer i =>
          by_cases hi : i < 0
          · refine ⟨'-', Nat.toDigits 10 i.natAbs, ?_, by decide⟩
            simp [text, compactText, Number.text, hi]
          · obtain ⟨c, tail, hc, hd⟩ := exists_toDigits_eq_cons i.natAbs
            refine ⟨c, tail, ?_, isSpace_of_isDigit hd, ?_⟩
            · simp [text, compactText, Number.text, hi, hc]
            · rintro rfl
              cases hd
  | string s => exact ⟨_, _, rfl, by decide⟩
  | array items => cases items <;> exact ⟨_, _, rfl, by decide⟩
  | object members => cases members <;> exact ⟨_, _, rfl, by decide⟩

/-- The text of a value is read as the value, whatever follows it. -/
def Reads (l : Layout) (v : Json) : Prop :=
  ∀ level fuel rest, (l.text level v).length < fuel → EndsNumber rest →
    readValue fuel (l.text level v ++ rest) = some (ofJson v, rest)

theorem length_itemsText_pos (l : Layout) (level : Nat) (items : List Json) :
    0 < (l.itemsText level items).length := by
  cases items <;> simp [itemsText]

theorem length_membersText_pos (l : Layout) (level : Nat) (members : Members) :
    0 < (l.membersText level members).length := by
  cases members <;> simp [membersText]

theorem readItems_text {l : Layout} (hl : l.IsBlank) {v : Json} {items : List Json}
    (hreads : ∀ w ∈ v :: items, l.Reads w) (level : Nat) {fuel : Nat} (rest : List Char)
    (hf : (l.text (level + 1) v).length + (l.itemsText level items).length < fuel) :
    readItems fuel (l.text (level + 1) v ++ (l.itemsText level items ++ rest)) =
      some (ofItems (v :: items), rest) := by
  induction items generalizing v fuel with
  | nil =>
      obtain ⟨fuel, rfl⟩ := Nat.exists_eq_add_one_of_ne_zero (Nat.ne_zero_of_lt hf)
      have hpos := l.length_itemsText_pos level []
      have hv := hreads v List.mem_cons_self (level + 1) fuel (l.itemsText level [] ++ rest)
        (by omega) (endsNumber_itemsText hl level [] rest)
      have hclose : skipSpace (l.itemsText level [] ++ rest) = ']' :: rest := by
        rw [itemsText, List.append_assoc, skipSpace_append (hl.gap level)]
        rfl
      exact readItems_last hv hclose
  | cons w items ih =>
      obtain ⟨fuel, rfl⟩ := Nat.exists_eq_add_one_of_ne_zero (Nat.ne_zero_of_lt hf)
      have hpos := l.length_itemsText_pos level (w :: items)
      have hv := hreads v List.mem_cons_self (level + 1) fuel
        (l.itemsText level (w :: items) ++ rest) (by omega)
        (endsNumber_itemsText hl level (w :: items) rest)
      have hcomma : skipSpace (l.itemsText level (w :: items) ++ rest) =
          ',' :: (l.gap (level + 1) ++
            (l.text (level + 1) w ++ (l.itemsText level items ++ rest))) := by
        simp only [itemsText, List.cons_append, List.append_assoc]
        exact skipSpace_cons (by decide) _
      have hlen : (l.text (level + 1) w).length + (l.itemsText level items).length <
          (l.itemsText level (w :: items)).length := by
        simp only [itemsText, List.length_cons, List.length_append]
        omega
      have hfuel : (l.text (level + 1) w).length + (l.itemsText level items).length < fuel := by
        omega
      have hrest := ih (fun u hu => hreads u (List.mem_cons_of_mem _ hu)) hfuel
      rw [readItems_comma hv hcomma, readItems_skip (hl.gap (level + 1)), hrest]
      rfl

theorem readMembers_text {l : Layout} (hl : l.IsBlank) {k : String} {v : Json}
    {members : Members} (hreads : ∀ m ∈ (k, v) :: members, l.Reads m.2) (level : Nat)
    {fuel : Nat} (rest : List Char)
    (hf : (l.text (level + 1) v).length + (l.membersText level members).length < fuel) :
    readMembers fuel (stringText k ++ ':' :: (l.colonGap ++
        (l.text (level + 1) v ++ (l.membersText level members ++ rest)))) =
      some (ofMembers ((k, v) :: members), rest) := by
  induction members generalizing k v fuel with
  | nil =>
      obtain ⟨fuel, rfl⟩ := Nat.exists_eq_add_one_of_ne_zero (Nat.ne_zero_of_lt hf)
      have hpos := l.length_membersText_pos level []
      have hv := hreads (k, v) List.mem_cons_self (level + 1) fuel
        (l.membersText level [] ++ rest) (by dsimp only; omega)
        (endsNumber_membersText hl level [] rest)
      have hclose : skipSpace (l.membersText level [] ++ rest) = '\x7d' :: rest := by
        rw [membersText, List.append_assoc, skipSpace_append (hl.gap level)]
        rfl
      rw [← readValue_skip hl.colonGap] at hv
      exact readMembers_last k hv hclose
  | cons m members ih =>
      obtain ⟨fuel, rfl⟩ := Nat.exists_eq_add_one_of_ne_zero (Nat.ne_zero_of_lt hf)
      have hpos := l.length_membersText_pos level (m :: members)
      have hv := hreads (k, v) List.mem_cons_self (level + 1) fuel
        (l.membersText level (m :: members) ++ rest) (by dsimp only; omega)
        (endsNumber_membersText hl level (m :: members) rest)
      have hcomma : skipSpace (l.membersText level (m :: members) ++ rest) =
          ',' :: (l.gap (level + 1) ++ (stringText m.1 ++ ':' :: (l.colonGap ++
            (l.text (level + 1) m.2 ++ (l.membersText level members ++ rest))))) := by
        simp only [membersText, List.cons_append, List.append_assoc]
        exact skipSpace_cons (by decide) _
      have hlen : (l.text (level + 1) m.2).length + (l.membersText level members).length <
          (l.membersText level (m :: members)).length := by
        simp only [membersText, List.length_cons, List.length_append]
        omega
      have hfuel : (l.text (level + 1) m.2).length + (l.membersText level members).length <
          fuel := by omega
      have hrest := ih (fun u hu => hreads u (List.mem_cons_of_mem _ hu)) hfuel
      rw [← readValue_skip hl.colonGap] at hv
      rw [readMembers_comma k hv hcomma, readMembers_skip (hl.gap (level + 1)), hrest]
      rfl

theorem reads_integer (l : Layout) {i : Int} (h : Number.InRange i) :
    l.Reads (.number (.integer i)) := by
  intro level fuel rest hf hrest
  obtain ⟨fuel, rfl⟩ := Nat.exists_eq_add_one_of_ne_zero (Nat.ne_zero_of_lt hf)
  obtain ⟨hlow, hhigh⟩ := h
  by_cases hi : i < 0
  · have hnat : (-(i.natAbs : Int)) = i := by omega
    have hread := readNumber_negative (n := i.natAbs) (by omega) (by omega) hrest
    have htext : l.text level (.number (.integer i)) = '-' :: Nat.toDigits 10 i.natAbs := by
      simp [text, compactText, Number.text, hi]
    rw [htext, List.cons_append, readValue_negative, hread, hnat]
    rfl
  · have hnat : (i.natAbs : Int) = i := by omega
    have hread := readNumber_natural (n := i.natAbs) (by omega) hrest
    have htext : l.text level (.number (.integer i)) = Nat.toDigits 10 i.natAbs := by
      simp [text, compactText, Number.text, hi]
    obtain ⟨c, tail, hc, hd⟩ := exists_toDigits_eq_cons i.natAbs
    rw [hc] at hread
    rw [htext, hc, List.cons_append, readValue_digit fuel hd, ← List.cons_append, hread, hnat]
    rfl

theorem reads_array {l : Layout} (hl : l.IsBlank) {items : List Json}
    (hfree : ∀ v ∈ items, v.DoubleFree) (hreads : ∀ v ∈ items, l.Reads v) :
    l.Reads (.array items) := by
  intro level fuel rest hf _
  obtain ⟨fuel, rfl⟩ := Nat.exists_eq_add_one_of_ne_zero (Nat.ne_zero_of_lt hf)
  cases items with
  | nil => exact readValue_array_nil fuel rest
  | cons v items =>
      simp only [text, List.length_cons, List.length_append] at hf
      have hfuel : (l.text (level + 1) v).length + (l.itemsText level items).length < fuel := by
        omega
      have hitems := readItems_text hl hreads level rest hfuel
      obtain ⟨c, tail, hc, hspace, hclose⟩ :=
        l.exists_text_eq_cons (level + 1) (hfree v List.mem_cons_self)
      have hskip : skipSpace (l.gap (level + 1) ++
          (l.text (level + 1) v ++ (l.itemsText level items ++ rest))) =
            c :: (tail ++ (l.itemsText level items ++ rest)) := by
        rw [skipSpace_append (hl.gap (level + 1)), hc]
        exact skipSpace_cons hspace _
      rw [hc] at hitems
      simp only [text, List.cons_append, List.append_assoc]
      rw [readValue_array fuel hskip hclose, ← List.cons_append, hitems]
      rfl

theorem reads_object {l : Layout} (hl : l.IsBlank) {members : Members}
    (hreads : ∀ m ∈ members, l.Reads m.2) : l.Reads (.object members) := by
  intro level fuel rest hf _
  obtain ⟨fuel, rfl⟩ := Nat.exists_eq_add_one_of_ne_zero (Nat.ne_zero_of_lt hf)
  cases members with
  | nil => exact readValue_object_nil fuel rest
  | cons m members =>
      simp only [text, List.length_cons, List.length_append] at hf
      have hfuel : (l.text (level + 1) m.2).length + (l.membersText level members).length <
          fuel := by omega
      have hmembers := readMembers_text hl hreads level rest hfuel
      have hskip : ∀ tail, skipSpace (l.gap (level + 1) ++ (stringText m.1 ++ tail)) =
          stringText m.1 ++ tail := by
        intro tail
        rw [skipSpace_append (hl.gap (level + 1))]
        exact skipSpace_cons (by decide) _
      simp only [text, List.cons_append, List.append_assoc]
      rw [readValue_object fuel (hskip _) (by decide)]
      exact congrArg (Option.map _) hmembers

/-- Every value without doubles is read as it was written. -/
theorem reads_of_doubleFree {l : Layout} (hl : l.IsBlank) (v : Json) (hw : v.WellFormed)
    (hf : v.DoubleFree) : l.Reads v := by
  induction v using Json.induct with
  | null =>
      intro level fuel rest hf _
      obtain ⟨fuel, rfl⟩ := Nat.exists_eq_add_one_of_ne_zero (Nat.ne_zero_of_lt hf)
      rfl
  | bool b =>
      intro level fuel rest hf _
      obtain ⟨fuel, rfl⟩ := Nat.exists_eq_add_one_of_ne_zero (Nat.ne_zero_of_lt hf)
      cases b <;> rfl
  | string s =>
      intro level fuel rest hf _
      obtain ⟨fuel, rfl⟩ := Nat.exists_eq_add_one_of_ne_zero (Nat.ne_zero_of_lt hf)
      exact readValue_string fuel s rest
  | number n =>
      cases n with
      | double d => exact hf.elim
      | integer i => exact l.reads_integer hw
  | array items ih =>
      have hw := itemsWellFormed_iff.mp hw
      have hf := itemsDoubleFree_iff.mp hf
      exact reads_array hl hf fun v hv => ih v hv (hw v hv) (hf v hv)
  | object members ih =>
      have hw := membersWellFormed_iff.mp hw.2
      have hf := membersDoubleFree_iff.mp hf
      exact reads_object hl fun m hm => ih m hm (hw m hm) (hf m hm)

theorem readFirst_text {l : Layout} (hl : l.IsBlank) {v : Json} (hw : v.WellFormed)
    (hf : v.DoubleFree) (level : Nat) :
    Document.readFirst (l.text level v) = some (ofJson v, []) := by
  have hread := reads_of_doubleFree hl v hw hf level ((l.text level v).length + 1) []
    (Nat.lt_succ_self _) endsNumber_nil
  rw [List.append_nil] at hread
  exact hread

theorem read_text {l : Layout} (hl : l.IsBlank) {v : Json} (hw : v.WellFormed)
    (hf : v.DoubleFree) (level : Nat) :
    Document.read (String.ofList (l.text level v)) = some (ofJson v) := by
  rw [Document.read, String.toList_ofList, readFirst_text hl hw hf level]
  rfl

end Json.Layout

namespace Document

variable {v : Json}

theorem read_compact (hw : v.WellFormed) (hf : v.DoubleFree) :
    read v.compact = some (ofJson v) := by
  rw [Json.compact, ← Json.Layout.text_compact 0]
  exact Json.Layout.read_text Json.Layout.isBlank_compact hw hf 0

theorem read_pretty (hw : v.WellFormed) (hf : v.DoubleFree) :
    read v.pretty = some (ofJson v) := by
  rw [Json.pretty, ← Json.Layout.text_pretty 0]
  exact Json.Layout.read_text Json.Layout.isBlank_pretty hw hf 0

end Document

end Retrace
