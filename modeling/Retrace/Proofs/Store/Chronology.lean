import Retrace.Proofs.Decimal.Padded
import Retrace.Store.Saving

/-!
Names of days and of event files in the order of the saves. As long as the clock does not go back
and years are written equally wide, the names of days do not go down, and the names of event files
go up with the number that each save takes. Whatever the clock does, files with different numbers
have different names.
-/

namespace Retrace

open Decimal Files Text

namespace Moment

/-- The fields from the year down. -/
def fields (m : Moment) : List Nat :=
  [m.year, m.month, m.day, m.hour, m.minute, m.second, m.nanosecond]

/-- Fields as a clock shows them, a leap second included. -/
structure InRange (m : Moment) : Prop where
  month : m.month ≤ 12
  day : m.day ≤ 31
  hour : m.hour ≤ 23
  minute : m.minute ≤ 59
  second : m.second ≤ 60
  nanosecond : m.nanosecond ≤ 999999999

instance (m : Moment) : Decidable m.InRange :=
  decidable_of_iff (m.month ≤ 12 ∧ m.day ≤ 31 ∧ m.hour ≤ 23 ∧ m.minute ≤ 59 ∧ m.second ≤ 60 ∧
      m.nanosecond ≤ 999999999)
    ⟨fun ⟨month, day, hour, minute, second, nanosecond⟩ =>
      { month, day, hour, minute, second, nanosecond },
    fun h => ⟨h.month, h.day, h.hour, h.minute, h.second, h.nanosecond⟩⟩

/-- The first moment is not after the second, and their years are written equally wide, as years of
four digits are. -/
structure Precedes (m later : Moment) : Prop where
  fields : UpTo m.fields later.fields
  width : m.yearText.length = later.yearText.length

instance (m later : Moment) : Decidable (m.Precedes later) :=
  decidable_of_iff
    (UpTo m.fields later.fields ∧ m.yearText.length = later.yearText.length)
    ⟨fun ⟨fields, width⟩ => { fields, width }, fun h => ⟨h.fields, h.width⟩⟩

variable {m later : Moment}

theorem yearText_lt (hlen : m.yearText.length = later.yearText.length)
    (h : m.year < later.year) : m.yearText < later.yearText := by
  have hwide : ∀ year, 9999 < year → 5 ≤ (padded 4 year).length := by
    intro year hy
    have hdigits := Nat.length_toDigits_le_iff (b := 10) (n := year) (by decide)
      (by decide : 0 < 4)
    rw [length_padded]
    omega
  have hnarrow : ∀ year, year ≤ 9999 → (padded 4 year).length = 4 := fun year hy =>
    length_padded_of_lt (by decide) (Nat.lt_succ_of_le hy)
  unfold yearText at hlen ⊢
  by_cases hm : 9999 < m.year
  · have hl : 9999 < later.year := Nat.lt_trans hm h
    rw [if_pos hm, if_pos hl] at hlen ⊢
    exact List.cons_lt_cons_iff.mpr (.inr ⟨rfl, padded_lt_padded (Nat.succ.inj hlen) h⟩)
  · rw [if_neg hm] at hlen ⊢
    by_cases hl : 9999 < later.year
    · rw [if_pos hl, List.length_cons, hnarrow _ (Nat.le_of_not_lt hm)] at hlen
      have := hwide _ hl
      omega
    · rw [if_neg hl] at hlen ⊢
      exact padded_lt_padded hlen h

theorem yearText_upTo (hlen : m.yearText.length = later.yearText.length)
    {c d : List Char} (h : m.year < later.year ∨ m.year = later.year ∧ UpTo c d) :
    UpTo (m.yearText ++ c) (later.yearText ++ d) := by
  refine append_upTo_append hlen (h.imp (yearText_lt hlen) ?_)
  rintro ⟨heq, hcd⟩
  refine ⟨?_, hcd⟩
  rw [yearText, yearText, heq]

theorem field_upTo {width a b : Nat} {c d : List Char} (hw : 0 < width)
    (ha : a < Nat.pow 10 width) (hb : b < Nat.pow 10 width) (h : a < b ∨ a = b ∧ UpTo c d) :
    UpTo (padded width a ++ c) (padded width b ++ d) := by
  refine padded_upTo ?_ h
  rw [length_padded_of_lt hw ha, length_padded_of_lt hw hb]

theorem millisecond_lt (hm : m.InRange) : m.millisecond < Nat.pow 10 3 := by
  have hnanosecond := hm.nanosecond
  have hle : m.millisecond ≤ 999 := by
    rw [millisecond]
    omega
  exact Nat.lt_of_le_of_lt hle (by decide)

theorem dayChars_append_upTo (hm : m.InRange) (hl : later.InRange)
    (hwidth : m.yearText.length = later.yearText.length) {c d : List Char}
    (h : m.year < later.year ∨ m.year = later.year ∧
      (m.month < later.month ∨ m.month = later.month ∧
        (m.day < later.day ∨ m.day = later.day ∧ UpTo c d))) :
    UpTo (m.dayChars ++ c) (later.dayChars ++ d) := by
  have hmonth : ∀ month, month ≤ 12 → month < Nat.pow 10 2 := fun _ h =>
    Nat.lt_of_le_of_lt h (by decide)
  have hday : ∀ day, day ≤ 31 → day < Nat.pow 10 2 := fun _ h =>
    Nat.lt_of_le_of_lt h (by decide)
  rw [dayChars, dayChars, List.append_assoc, List.append_assoc, List.append_assoc,
    List.append_assoc]
  refine yearText_upTo hwidth (h.imp_right (And.imp_right fun h => ?_))
  refine field_upTo (by decide) (hmonth _ hm.month) (hmonth _ hl.month)
    (h.imp_right (And.imp_right fun h => ?_))
  exact field_upTo (by decide) (hday _ hm.day) (hday _ hl.day) h

theorem dayChars_upTo (hm : m.InRange) (hl : later.InRange) (h : m.Precedes later) :
    UpTo m.dayChars later.dayChars := by
  have hfields := h.fields
  simp only [fields, upTo_cons_iff] at hfields
  rw [← List.append_nil m.dayChars, ← List.append_nil later.dayChars]
  refine dayChars_append_upTo hm hl h.width ?_
  exact hfields.imp_right (And.imp_right fun h => h.imp_right (And.imp_right fun h =>
    h.imp_right (And.imp_right fun _ => UpTo.refl [])))

theorem stampChars_upTo (hm : m.InRange) (hl : later.InRange) (h : m.Precedes later) :
    UpTo m.stampChars later.stampChars := by
  have hfields := h.fields
  simp only [fields, upTo_cons_iff] at hfields
  have htwo : ∀ n, n ≤ 60 → n < Nat.pow 10 2 := fun _ h => Nat.lt_of_le_of_lt h (by decide)
  simp only [stampChars, List.append_assoc, List.cons_append]
  refine dayChars_append_upTo hm hl h.width ?_
  refine hfields.imp_right (And.imp_right fun h => h.imp_right (And.imp_right fun h =>
    h.imp_right (And.imp_right fun hfields => upTo_cons ?_)))
  refine field_upTo (by decide) (htwo _ (Nat.le_trans hm.hour (by decide)))
    (htwo _ (Nat.le_trans hl.hour (by decide)))
    (hfields.imp_right (And.imp_right fun hfields => ?_))
  refine field_upTo (by decide) (htwo _ (Nat.le_trans hm.minute (by decide)))
    (htwo _ (Nat.le_trans hl.minute (by decide)))
    (hfields.imp_right (And.imp_right fun hfields => ?_))
  refine field_upTo (by decide) (htwo _ hm.second) (htwo _ hl.second)
    (hfields.imp_right (And.imp_right fun hfields => upTo_cons ?_))
  rw [← List.append_nil (padded 3 m.millisecond), ← List.append_nil (padded 3 later.millisecond)]
  refine field_upTo (by decide) (millisecond_lt hm) (millisecond_lt hl) ?_
  have hle : m.millisecond ≤ later.millisecond := by
    apply Nat.div_le_div_right
    rcases hfields with hlt | ⟨heq, -⟩
    · exact Nat.le_of_lt hlt
    · exact Nat.le_of_eq heq
  exact (Nat.lt_or_eq_of_le hle).imp_right fun heq => ⟨heq, UpTo.refl []⟩

theorem length_stampChars (hm : m.InRange) :
    m.stampChars.length = m.yearText.length + 15 := by
  have htwo : ∀ n, n ≤ 60 → (padded 2 n).length = 2 := fun n hn =>
    length_padded_of_lt (by decide) (Nat.lt_of_le_of_lt hn (by decide))
  have hthree := length_padded_of_lt (by decide) (millisecond_lt hm)
  simp only [stampChars, dayChars, List.length_append, List.length_cons, hthree,
    htwo _ (Nat.le_trans hm.month (by decide)), htwo _ (Nat.le_trans hm.day (by decide)),
    htwo _ (Nat.le_trans hm.hour (by decide)), htwo _ (Nat.le_trans hm.minute (by decide)),
    htwo _ hm.second]

theorem dayText_le (hm : m.InRange) (hl : later.InRange) (h : m.Precedes later) :
    m.dayText < later.dayText ∨ m.dayText = later.dayText := by
  refine (dayChars_upTo hm hl h).imp ?_ (congrArg String.ofList)
  intro hlt
  rw [String.lt_iff, dayText, dayText, String.toList_ofList, String.toList_ofList]
  exact hlt

end Moment

/-- Readings of a clock that never goes back, in years that are written equally wide. -/
structure Chronological (moments : List Moment) : Prop where
  inRange : ∀ m ∈ moments, m.InRange
  ordered : moments.Pairwise Moment.Precedes

instance (moments : List Moment) : Decidable (Chronological moments) :=
  decidable_of_iff ((∀ m ∈ moments, m.InRange) ∧ moments.Pairwise Moment.Precedes)
    ⟨fun ⟨inRange, ordered⟩ => { inRange, ordered }, fun h => ⟨h.inRange, h.ordered⟩⟩

theorem Chronological.sublist {moments more : List Moment} (h : Chronological more)
    (hsub : moments.Sublist more) : Chronological moments :=
  ⟨fun m hm => h.inRange m (hsub.subset hm), h.ordered.sublist hsub⟩

theorem toList_eventFileName (m : Moment) (number : UInt64) :
    (eventFileName m number).toList = "summary_event_".toList ++ (m.stampChars ++
      '_' :: (padded 6 number.toNat ++ ".json".toList)) := by
  delta eventFileName
  simp only [Moment.stampText, String.toList_append, String.toList_ofList, List.append_assoc]
  rfl

theorem eventFileName_lt {m later : Moment} (hm : m.InRange) (hl : later.InRange)
    (h : m.Precedes later) {first second : UInt64} (hlt : first.toNat < second.toNat)
    (hbound : second.toNat < 1000000) : eventFileName m first < eventFileName later second := by
  have hstamps : m.stampChars.length = later.stampChars.length := by
    rw [Moment.length_stampChars hm, Moment.length_stampChars hl, h.width]
  have hsix : ∀ n, n < 1000000 → (padded 6 n).length = 6 := fun n (hn : n < Nat.pow 10 6) =>
    length_padded_of_lt (by decide) hn
  have hnumbers : (padded 6 first.toNat).length = (padded 6 second.toNat).length := by
    rw [hsix _ (Nat.lt_trans hlt hbound), hsix _ hbound]
  rw [String.lt_iff, toList_eventFileName, toList_eventFileName]
  apply List.append_left_lt
  apply append_lt_append_of_upTo hstamps (Moment.stampChars_upTo hm hl h)
  refine List.cons_lt_cons_iff.mpr (.inr ⟨rfl, ?_⟩)
  exact append_lt_append hnumbers (padded_lt_padded hnumbers hlt) _ _

theorem number_eq_of_ending {front other : List Char} {m n : Nat} (hfront : front ≠ [])
    (hother : other ≠ [])
    (h : front ++ '_' :: (Decimal.padded 6 m ++ ".json".toList) =
      other ++ '_' :: (Decimal.padded 6 n ++ ".json".toList)) : m = n := by
  have hdigits : ∀ number, '_' ∉ Decimal.padded 6 number := by
    intro number hmem
    cases Decimal.isDigit_of_mem_padded hmem
  have hcut : front ++ '_' :: Decimal.padded 6 m = other ++ '_' :: Decimal.padded 6 n := by
    rw [← List.append_left_inj ".json".toList]
    simpa only [List.append_assoc, List.cons_append] using h
  have hsplit := congrArg (Text.cutLast? '_') hcut
  rw [Text.cutLast?_append hfront (hdigits m), Text.cutLast?_append hother (hdigits n)] at hsplit
  exact Decimal.padded_injective (Prod.mk.inj (Option.some.inj hsplit)).2

theorem Files.Path.toList_text_join (path : Path) (name : String) :
    ∃ front, (path.join name).text.toList = front ++ name.toList := by
  rw [text_join, joinText]
  split
  · exact ⟨_, String.toList_append⟩
  · exact ⟨_, String.toList_append⟩

/-- Files of events with different numbers have different paths, as they are spelled. -/
theorem number_eq_of_text_eq {folder other : Path} {m later : Moment} {first second : UInt64}
    (h : (folder.join (eventFileName m first)).text =
      (other.join (eventFileName later second)).text) : first = second := by
  obtain ⟨front, hfront⟩ := folder.toList_text_join (eventFileName m first)
  obtain ⟨ahead, hahead⟩ := other.toList_text_join (eventFileName later second)
  have hlists := hfront.symm.trans ((congrArg String.toList h).trans hahead)
  simp only [toList_eventFileName, ← List.append_assoc] at hlists
  have hnumbers := number_eq_of_ending (by simp) (by simp) hlists
  exact UInt64.toNat_inj.mp hnumbers

theorem number_eq_of_name_eq {m later : Moment} {first second : UInt64}
    (h : eventFileName m first = eventFileName later second) : first = second := by
  have hpaths : (Path.join ⟨"", []⟩ (eventFileName m first)).text =
      (Path.join ⟨"", []⟩ (eventFileName later second)).text := by rw [h]
  exact number_eq_of_text_eq hpaths

end Retrace
