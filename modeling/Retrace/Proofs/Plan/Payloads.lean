import Retrace.Proofs.Decoding.Recognition
import Retrace.Proofs.Plan.Readings
import Retrace.Proofs.Plan.Submissions

/-!
What the payload of an event must be written as for the event to be replayed: the entry that a
history starts with, and the controls of a form. A recorded part may be written as an array of its
fields, and a form none of whose members is a control counts as an empty one.
-/

namespace Retrace

open Decoding

/-- The address is named by an object, or by an array that holds nothing else. -/
def Json.NamesUrl (url : String) : Json → Prop
  | .object members => members.lookup "current_url" = some (.string url)
  | .array items => items = [.string url]
  | _ => False

theorem Decoding.toOption_eq_none_iff {ε α : Type} {x : Except ε α} :
    x.toOption = none ↔ ¬ ∃ a, x = .ok a := by
  cases x <;> simp [Except.toOption]

theorem Decoding.optional_text_eq_some_iff {origin : Origin} {v : Json} {given : Option String}
    (h : optional text origin (Document.ofJson v) = .ok given) {s : String} :
    given = some s ↔ v = .string s := by
  obtain rfl | ⟨written, rfl⟩ := exists_optional_text_iff.mp ⟨given, h⟩
  · cases h
    simp
  · cases h
    simp

namespace NavigationEntry

theorem ofTexts_record : record.OfTexts where
  field f hf := by
    obtain rfl := List.mem_singleton.mp hf
    exact .inl ⟨_, _, by decide, rfl⟩
  other _ _ _ _ := rfl

theorem setOnlyBy_currentUrl : record.SetOnlyBy "current_url" currentUrl where
  fields f hf hne := by
    obtain rfl := List.mem_singleton.mp hf
    exact absurd rfl hne
  other _ _ _ _ _ h := by
    cases h
    rfl

theorem currentUrl_of_object {members : Json.Members} {entry : NavigationEntry} {url : String}
    (h : ofJson decode (.object members) = .ok entry) :
    entry.currentUrl = some url ↔ (Json.object members).NamesUrl url := by
  change record.ofMembers .value (Document.ofMembers members) = .ok entry at h
  obtain ⟨seen, hread⟩ := Record.exists_readMembers h
  rw [Json.NamesUrl]
  cases hlookup : members.lookup "current_url" with
  | none =>
      have hnone : entry.currentUrl = none :=
        setOnlyBy_currentUrl.eq_of_lookup_eq_none hlookup hread
      simp [hnone]
  | some v =>
      have hpart {given : Option String}
          (hgiven : ∀ a, optional text .value (Document.ofJson v) = .ok a → a = given) :
          entry.currentUrl = given := by
        refine setOnlyBy_currentUrl.eq_of_lookup rfl hlookup (fun s s' hs => ?_) hread
        obtain ⟨a, ha, rfl⟩ := RecordField.exists_of_read_optional hs
        exact hgiven a ha
      rw [Option.some.injEq]
      cases ha : optional text .value (Document.ofJson v) with
      | ok a =>
          rw [hpart fun b hb => Except.ok.inj (hb.symm.trans ha)]
          exact optional_text_eq_some_iff ha
      | error fault =>
          have hnone : entry.currentUrl = none := hpart fun a hok => by
            rw [ha] at hok
            cases hok
          rw [hnone]
          refine iff_of_false nofun ?_
          rintro rfl
          cases ha

/-- An entry leads to the address that it names. -/
theorem currentUrl_iff {v : Json} (hv : v.WellFormed) {url : String} :
    (ofJson decode v).toOption.bind currentUrl = some url ↔ v.NamesUrl url := by
  have hreadable : Readable .value v := ⟨hv, trivial⟩
  have hdecode := ofTexts_record.exists_decode_iff hreadable
  simp only [Option.bind_eq_some_iff, toOption_eq_some_iff]
  cases v with
  | null | bool _ | number _ | string _ =>
      refine iff_of_false ?_ id
      rintro ⟨entry, hentry, -⟩
      exact hdecode.mp ⟨entry, hentry⟩
  | object members =>
      constructor
      · rintro ⟨entry, hentry, hurl⟩
        exact (currentUrl_of_object hentry).mp hurl
      · intro hurl
        have hwritten : record.Written (.object members) := by
          intro name hname v hlookup _
          obtain rfl := List.mem_singleton.mp hname
          rw [Json.NamesUrl] at hurl
          exact .inr ⟨url, Option.some.inj (hlookup.symm.trans hurl)⟩
        obtain ⟨entry, hentry⟩ := hdecode.mpr hwritten
        exact ⟨entry, hentry, (currentUrl_of_object hentry).mpr hurl⟩
  | array items =>
      constructor
      · rintro ⟨entry, hentry, hurl⟩
        obtain ⟨hlength, haccepts⟩ := hdecode.mp ⟨entry, hentry⟩
        rcases items with _ | ⟨v, _ | ⟨w, rest⟩⟩
        · cases hentry
          cases hurl
        · obtain rfl | ⟨s, rfl⟩ := haccepts _ List.mem_cons_self (by simp)
          · cases hentry
            cases hurl
          · cases hentry
            cases hurl
            rfl
        · exact absurd hlength (by simp [record])
      · rintro rfl
        exact ⟨⟨some url⟩, rfl, rfl⟩

end NavigationEntry

namespace Control

/-- A control of a form written as a value: an object or an array whose texts are texts. -/
def Shape : Json → Prop
  | .object members =>
      ∀ name ∈ ["selector", "tag", "type"], ∀ v ∈ members.lookup name, v.NullOrText
  | .array items => items.length ≤ 4 ∧ ∀ i ∈ [0, 1, 2], ∀ v ∈ items[i]?, v.NullOrText
  | _ => False

theorem ofTexts_record : record.OfTexts where
  field f hf := by
    simp only [record, List.mem_cons, List.not_mem_nil, or_false] at hf
    rcases hf with rfl | rfl | rfl | rfl
    · exact .inl ⟨_, _, by decide, rfl⟩
    · exact .inl ⟨_, _, by decide, rfl⟩
    · exact .inl ⟨_, _, by decide, rfl⟩
    · exact .inr ⟨_, rfl⟩
  other _ _ _ _ := rfl

theorem shape_iff_written {v : Json} : Shape v ↔ record.Written v := by
  cases v with
  | null | bool _ | number _ | string _ => rfl
  | object members => simp [Shape, Record.Written, record, Record.Accepts]
  | array items =>
      -- One case for each number of items; the fourth item may be any value.
      rcases items with _ | ⟨a, _ | ⟨b, _ | ⟨c, _ | ⟨d, _ | ⟨e, rest⟩⟩⟩⟩⟩ <;>
        simp [Shape, Record.Written, record, Record.Accepts]

theorem exists_ofJson_iff {v : Json} (hv : v.WellFormed) :
    (∃ c, ofJson decode v = .ok c) ↔ Shape v := by
  rw [shape_iff_written]
  exact ofTexts_record.exists_decode_iff ⟨hv, trivial⟩

end Control

theorem EntryGives.eq_nil {name : String} {v : Json} {actions : List Action}
    {lines : List (Note.Level × String)} (h : EntryGives name v actions lines)
    (hquiet : ∀ c, ofJson Control.decode v = .ok c → c.value = none ∨ c.IsPassedOver) :
    actions = [] := by
  cases h with
  | unreadable _ | absent _ _ | passedOver _ _ _ => rfl
  | driven hc hvalue hdriven _ =>
      obtain hnone | hpassed := hquiet _ hc
      · rw [hvalue] at hnone
        cases hnone
      · exact absurd hpassed hdriven

namespace Event

variable {origin : Origin} {v : Json} {e : Event} {members : Json.Members}

/-- A payload that is not nothing is found in the event as it was written. -/
theorem payload_iff_get? (hv : Readable origin v) (he : decode origin (Document.ofJson v) = .ok e)
    {w : Json} (hnull : w ≠ .null) :
    e.payload = some (.ofJson w) ↔ v.get? "allEvents" = some w := by
  rw [payload_eq_some_iff hv he]
  constructor
  · rintro ⟨u, hu, -, hsame⟩
    rw [hu, ← Payload.toJson_ofJson u, hsame, Payload.toJson_ofJson]
  · exact fun hw => ⟨w, hw, hnull, rfl⟩

theorem payload_wellFormed (hv : Readable origin v)
    (he : decode origin (Document.ofJson v) = .ok e) {p : Payload} (hp : e.payload = some p) :
    p.toJson.WellFormed := by
  obtain ⟨w, hw, -, rfl⟩ := (payload_eq_some_iff hv he).mp hp
  rw [Payload.toJson_ofJson]
  cases v with
  | object members => exact Json.membersWellFormed_iff.mp hv.1.2 _ (Entries.mem_of_lookup hw)
  | _ => cases hw

theorem startUrl_iff (hv : Readable origin v) (he : decode origin (Document.ofJson v) = .ok e)
    {url : String} : e.firstNavigation.bind NavigationEntry.currentUrl = some url ↔
      ∃ item rest, v.get? "allEvents" = some (.array (item :: rest)) ∧ item.NamesUrl url := by
  have hfirst {item : Json} {rest : List Json}
      (hpayload : e.payload = some (.history (item :: rest))) :
      e.firstNavigation.bind NavigationEntry.currentUrl = some url ↔ item.NamesUrl url := by
    have hitem : item.WellFormed := (payload_wellFormed hv he hpayload).1
    simp only [firstNavigation, hpayload]
    exact NavigationEntry.currentUrl_iff hitem
  have hget (items : List Json) :
      e.payload = some (.history items) ↔ v.get? "allEvents" = some (.array items) :=
    payload_iff_get? (w := .array items) hv he (by simp)
  simp only [← hget]
  constructor
  · intro h
    cases hpayload : e.payload with
    | none => simp [firstNavigation, hpayload] at h
    | some p =>
        cases p with
        | controls _ | other _ => simp [firstNavigation, hpayload] at h
        | history items =>
            cases items with
            | nil => simp [firstNavigation, hpayload] at h
            | cons item rest => exact ⟨item, rest, rfl, (hfirst hpayload).mp h⟩
  · rintro ⟨item, rest, hpayload, hnames⟩
    exact (hfirst hpayload).mpr hnames

/-- A start opens the address that the first entry of its history names, and cannot be replayed if
that entry names none. What follows the entry is not looked at. -/
theorem opened_iff_namesUrl (hv : Readable origin v)
    (he : decode origin (Document.ofJson v) = .ok e) (hkind : e.kind = .taskStart) :
    (∀ url, e.replay = .ok [.openTab url] ↔
      ∃ item rest, v.get? "allEvents" = some (.array (item :: rest)) ∧ item.NamesUrl url) ∧
    (e.replay = .error .missingStartUrl ↔
      ∀ url item rest, v.get? "allEvents" = some (.array (item :: rest)) →
        ¬ item.NamesUrl url) := by
  have hreplay : e.replay = e.replayTaskStart := by
    simp only [replay, hkind]
  rw [hreplay, replayTaskStart]
  constructor
  · intro url
    rw [← startUrl_iff hv he]
    split
    · next found hfound => simp [hfound]
    · next hnone => simp [hnone]
  · simp only [← not_and, ← not_exists, ← startUrl_iff hv he]
    split
    · next found hfound => simp [hfound]
    · next hnone => simp [hnone]

/-- The second entry names an address too, which is not opened. -/
theorem opened_iff_namesUrl_first :
    let entry (url : String) : Json := .object [("current_url", .string url)]
    let event (items : List Json) : Json :=
      .object [("type", .string "task-start"), ("allEvents", .array items)]
    (∃ e, decode .value (Document.ofJson (event [entry "u", entry "w"])) = .ok e ∧
      e.kind = .taskStart ∧ e.replay = .ok [.openTab "u"]) ∧
    ∃ e, decode .value (Document.ofJson (event [.string "u", entry "w"])) = .ok e ∧
      e.kind = .taskStart ∧ e.replay = .error .missingStartUrl := by
  intro entry event
  have hevent (first : Json) (hfirst : first.WellFormed) :
      Readable .value (event [first, entry "w"]) := by
    refine ⟨?_, trivial⟩
    simp [event, entry, Json.WellFormed, Json.ItemsWellFormed, Json.MembersWellFormed, hfirst]
  have hnamed := hevent (entry "u") (by simp [entry, Json.WellFormed, Json.MembersWellFormed])
  have hgarbage := hevent (.string "u") trivial
  refine ⟨⟨_, rfl, rfl, ?_⟩, ⟨_, rfl, rfl, ?_⟩⟩
  · exact ((opened_iff_namesUrl hnamed rfl rfl).1 "u").mpr ⟨entry "u", [entry "w"], rfl, rfl⟩
  · refine (opened_iff_namesUrl hgarbage rfl rfl).2.mpr ?_
    intro url item rest hget
    cases hget
    exact id

/-- An entry that is no object is followed. -/
theorem opens_url_in_array :
    let v : Json := .object [("type", .string "task-start"),
      ("allEvents", .array [.array [.string "https://seq/"]])]
    ∃ e, decode .value (Document.ofJson v) = .ok e ∧ e.kind = .taskStart ∧
      (¬ ∃ members rest, v.get? "allEvents" = some (.array (.object members :: rest))) ∧
      e.replay = .ok [.openTab "https://seq/"] := by
  refine ⟨_, rfl, rfl, ?_, rfl⟩
  rintro ⟨members, rest, hget⟩
  cases hget

theorem replay_of_submit (hkind : e.kind = .submit) : e.replay = e.replaySubmit := by
  simp only [replay, hkind]

/-- A form is empty exactly if none of its members is a control. -/
theorem emptySubmission_iff (hkind : e.kind = .submit) : e.replay = .error .emptySubmission ↔
    ∀ members, e.payload = some (.controls members) →
      ∀ m ∈ members, ¬ ∃ c, Decoding.ofJson Control.decode m.2 = .ok c := by
  have hempty : e.replay = .error .emptySubmission ↔ e.controls.getD [] = [] := by
    rw [replay_of_submit hkind, replaySubmit]
    split
    · next h => simp [h]
    · next h => simp [h]
    · next controls hne h => simpa [h] using hne
  rw [hempty]
  constructor
  · rintro hnil members hpayload m hm ⟨c, hc⟩
    obtain ⟨first, rest, hcontrols⟩ := exists_controls hpayload hm hc
    rw [hcontrols] at hnil
    cases hnil
  · intro hnone
    cases hpayload : e.payload with
    | none => simp [controls, hpayload]
    | some p =>
        cases p with
        | history _ | other _ => simp [controls, hpayload]
        | controls members =>
            simp only [controls, hpayload, Option.getD_some, List.filterMap_eq_nil_iff,
              Option.map_eq_none_iff, toOption_eq_none_iff]
            exact hnone members hpayload

/-- A form is submitted as if the members that are no controls were not there. -/
theorem replay_filter {keep : String × Json → Bool} (h : e.payload = some (.controls members))
    (hdropped : ∀ m ∈ members, keep m = false →
      ¬ ∃ c, Decoding.ofJson Control.decode m.2 = .ok c) :
    replay { e with payload := some (.controls (members.filter keep)) } = e.replay := by
  have hcontrols :
      controls { e with payload := some (.controls (members.filter keep)) } = e.controls := by
    simp only [controls, h, List.filterMap_filter]
    refine congrArg some (List.filterMap_congr fun m hm => ?_)
    cases hkeep : keep m with
    | true => rfl
    | false =>
        simp [toOption_eq_none_iff.mpr (hdropped m hm hkeep)]
  refine replay_congr ?_
  simp only [reading, hcontrols, firstNavigation, h]

theorem replay_of_control (hkind : e.kind = .submit) (h : e.payload = some (.controls members))
    {m : String × Json} (hm : m ∈ members) {c : Control}
    (hc : Decoding.ofJson Control.decode m.2 = .ok c) :
    ∃ last, SubmittedBy (e.target.bind Target.selector) (members.flatMap fun m => (entryPart m).1)
        last ∧ e.replay = .ok ((members.flatMap fun m => (entryPart m).1) ++ last) := by
  obtain ⟨first, rest, hcontrols⟩ := exists_controls h hm hc
  have hactions := actions_controls h
  have hlast := e.submittedBy_submission ((e.controls.getD []).map fun m => m.2.step)
  rw [hactions] at hlast
  refine ⟨_, hlast, ?_⟩
  rw [← hactions, replay_of_submit hkind, replaySubmit, hcontrols]
  rfl

/-- A form that has a control, but none that is replayed, is submitted by a click on itself. -/
theorem replay_of_passedOver (hkind : e.kind = .submit)
    (h : e.payload = some (.controls members)) {m : String × Json} (hm : m ∈ members) {c : Control}
    (hc : Decoding.ofJson Control.decode m.2 = .ok c)
    (hquiet : ∀ m ∈ members, ∀ c, Decoding.ofJson Control.decode m.2 = .ok c →
      c.value = none ∨ c.IsPassedOver) {form : String}
    (hform : e.target.bind Target.selector = some form) (hne : form ≠ "") :
    e.replay = .ok [.waitForElement form 5000, .clickBySelector form] := by
  have hnothing : (members.flatMap fun m => (entryPart m).1) = [] := by
    rw [List.flatMap_eq_nil_iff]
    exact fun m hm => (entryGives_entryPart m).eq_nil (hquiet m hm)
  obtain ⟨last, hlast, hreplay⟩ := replay_of_control hkind h hm hc
  rw [hnothing] at hlast hreplay
  rw [hreplay, List.nil_append]
  cases hlast with
  | enter htyped =>
      obtain ⟨selector, text, hmem⟩ := htyped
      cases hmem
  | click _ hsome _ =>
      rw [hform] at hsome
      cases hsome
      rfl
  | nothing _ hnone =>
      rw [hform] at hnone
      exact absurd hnone hne

/-- A form is skipped as empty exactly if none of its members is written as a control, be there
members or not. Otherwise those that are no controls change nothing, and a form none of whose
controls is replayed is submitted by a click on itself. -/
theorem submitted_by_shape (hv : Readable origin v)
    (he : decode origin (Document.ofJson v) = .ok e) (hkind : e.kind = .submit) :
    (e.replay = .error .emptySubmission ↔
      ∀ members, v.get? "allEvents" = some (.object members) →
        ∀ m ∈ members, ¬ Control.Shape m.2) ∧
    ∀ members, v.get? "allEvents" = some (.object members) →
      (∀ keep : String × Json → Bool,
        (∀ m ∈ members, keep m = false → ¬ Control.Shape m.2) →
          replay { e with payload := some (.controls (members.filter keep)) } = e.replay) ∧
      ((∃ m ∈ members, Control.Shape m.2) →
        (∀ m ∈ members, ∀ c, Decoding.ofJson Control.decode m.2 = .ok c →
          c.value = none ∨ c.IsPassedOver) →
        ∀ form, e.target.bind Target.selector = some form → form ≠ "" →
          e.replay = .ok [.waitForElement form 5000, .clickBySelector form]) := by
  have hget (members : Json.Members) :
      e.payload = some (.controls members) ↔ v.get? "allEvents" = some (.object members) :=
    payload_iff_get? (w := .object members) hv he (by simp)
  have hshape {members : Json.Members} (hpayload : e.payload = some (.controls members))
      {m : String × Json} (hm : m ∈ members) :
      (∃ c, Decoding.ofJson Control.decode m.2 = .ok c) ↔ Control.Shape m.2 := by
    have hwellFormed := payload_wellFormed hv he hpayload
    exact Control.exists_ofJson_iff (Json.membersWellFormed_iff.mp hwellFormed.2 m hm)
  simp only [← hget]
  refine ⟨?_, fun members hpayload => ⟨?_, ?_⟩⟩
  · rw [emptySubmission_iff hkind]
    refine forall₂_congr fun members hpayload => forall₂_congr fun m hm => ?_
    rw [hshape hpayload hm]
  · intro keep hdropped
    refine replay_filter hpayload fun m hm hkeep => ?_
    rw [hshape hpayload hm]
    exact hdropped m hm hkeep
  · rintro ⟨m, hm, hcontrol⟩ hquiet form hform hne
    obtain ⟨c, hc⟩ := (hshape hpayload hm).mpr hcontrol
    exact replay_of_passedOver hkind hpayload hm hc hquiet hform hne

/-- A member that is no control, one without a selector and one without a value. -/
theorem submitted_by_shape_idle :
    let members : Json.Members := [("junk", .number (.integer 5)),
      ("blank", .object [("selector", .string " "), ("value", .string "x")]),
      ("idle", .array [.string "#c"])]
    let v : Json := .object [("type", .string "submit"),
      ("eventTarget", .object [("selector", .string "form")]), ("allEvents", .object members)]
    ∃ e, decode .value (Document.ofJson v) = .ok e ∧ e.kind = .submit ∧
      e.replay = .ok [.waitForElement "form" 5000, .clickBySelector "form"] ∧
      replay { e with payload := some (.controls (members.drop 1)) } = e.replay := by
  intro members v
  have hv : Readable .value v := by
    refine ⟨?_, trivial⟩
    simp [v, members, Json.WellFormed, Json.ItemsWellFormed, Json.MembersWellFormed,
      Number.InRange]
  have hidle : Control.Shape (.array [.string "#c"]) := by
    simp [Control.Shape, Json.NullOrText]
  have hquiet : ∀ m ∈ members, ∀ c, Decoding.ofJson Control.decode m.2 = .ok c →
      c.value = none ∨ c.IsPassedOver := by
    simp only [members, List.forall_mem_cons]
    refine ⟨?_, ?_, ?_, List.forall_mem_nil _⟩
    · intro c hc
      have hjunk : (Json.number (.integer 5)).WellFormed := by
        simp [Json.WellFormed, Number.InRange]
      exact absurd ((Control.exists_ofJson_iff hjunk).mp ⟨c, hc⟩) id
    · intro c hc
      cases hc
      exact .inr (.inl (by decide))
    · intro c hc
      cases hc
      exact .inl rfl
  obtain ⟨e, he, hkind, hform⟩ : ∃ e, decode .value (Document.ofJson v) = .ok e ∧
      e.kind = .submit ∧ e.target.bind Target.selector = some "form" := ⟨_, rfl, rfl, rfl⟩
  obtain ⟨hfilter, hclick⟩ := (submitted_by_shape hv he hkind).2 members rfl
  refine ⟨e, he, hkind, ?_, ?_⟩
  · exact hclick ⟨("idle", _), by simp [members], hidle⟩ hquiet "form" hform (by decide)
  · refine hfilter (fun m => m.1 ≠ "junk") ?_
    simp [members, Control.Shape]

/-- A form with a member is skipped as if it had none, its own locator being there. -/
theorem skips_form_with_member :
    let v : Json := .object [("type", .string "submit"),
      ("eventTarget", .object [("selector", .string "form#f")]),
      ("allEvents", .object [("a", .number (.integer 5))])]
    ∃ e, decode .value (Document.ofJson v) = .ok e ∧ e.kind = .submit ∧
      (∃ m members, v.get? "allEvents" = some (.object (m :: members))) ∧
      e.target.bind Target.selector = some "form#f" ∧ e.replay = .error .emptySubmission :=
  ⟨_, rfl, rfl, ⟨_, _, rfl⟩, rfl, rfl⟩

end Event

end Retrace
