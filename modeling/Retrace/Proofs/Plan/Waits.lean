import Retrace.Compilation

/-!
No plan touches an element that it has not waited for. `AwaitsAfter` goes through a plan with the
action before it in hand; it holds of what every single rule gives, and appending plans keeps it,
so it holds of the plan of a whole stream.
-/

namespace Retrace

namespace Action

/-- The selector that an action names. -/
def selector? : Action → Option String
  | .waitForElement selector _ | .clickBySelector selector | .inputText selector _
  | .selectOption selector _ => some selector
  | _ => none

/-- The selector of the element that an action touches. An element found by its text has one too,
which asks for the text and for the type, or for any. -/
def touched? : Action → Option String
  | .clickBySelector selector | .inputText selector _ | .selectOption selector _ => some selector
  | .clickByText text elementType _ =>
      some (elementType.getD "*" ++ ":text(\"" ++ text ++ "\")")
  | _ => none

/-- What an action may be, given the action before it. -/
structure MayFollow (previous : Option Action) (a : Action) : Prop where
  selector_ne : ∀ selector, a.selector? = some selector → selector ≠ ""
  awaited : ∀ selector, a.touched? = some selector →
    previous = some (.waitForElement selector 5000)
  first : ∀ text elementType nth, a = .clickByText text elementType nth → nth = 0

theorem MayFollow.of_none {a : Action} (h : MayFollow none a) (previous : Option Action) :
    MayFollow previous a :=
  ⟨h.selector_ne, fun selector hs => (nomatch h.awaited selector hs), h.first⟩

theorem mayFollow_of_selector?_eq_none {a : Action} (hs : a.selector? = none)
    (ht : a.touched? = none) (previous : Option Action) : MayFollow previous a := by
  refine ⟨?_, ?_, ?_⟩
  · intro selector h
    rw [hs] at h
    cases h
  · intro selector h
    rw [ht] at h
    cases h
  · intro text elementType nth h
    subst h
    cases ht

theorem mayFollow_waitForElement {selector : String} (h : selector ≠ "") (timeout : UInt64)
    (previous : Option Action) : MayFollow previous (.waitForElement selector timeout) :=
  ⟨fun _ hs => Option.some.inj hs ▸ h, nofun, nofun⟩

theorem mayFollow_waitFor {selector : String} {a : Action} (h : selector ≠ "")
    (hs : a.selector? = some selector) (ht : a.touched? = some selector) :
    MayFollow (some (.waitFor selector)) a := by
  refine ⟨?_, ?_, ?_⟩
  · intro other ho
    rw [hs, Option.some.injEq] at ho
    exact ho ▸ h
  · intro other ho
    rw [ht, Option.some.injEq] at ho
    rw [ho]
    rfl
  · intro text elementType nth ha
    subst ha
    cases hs

end Action

namespace Plan

open Retrace.Action

/-- Each action of a plan may follow the one before it, and the first one may follow `previous`. -/
def AwaitsAfter : Option Action → Plan → Prop
  | _, [] => True
  | previous, a :: rest => MayFollow previous a ∧ AwaitsAfter (some a) rest

theorem AwaitsAfter.of_none {plan : Plan} (h : AwaitsAfter none plan)
    (previous : Option Action) : AwaitsAfter previous plan := by
  cases plan with
  | nil => trivial
  | cons a rest => exact ⟨h.1.of_none previous, h.2⟩

theorem AwaitsAfter.append {previous : Option Action} {first second : Plan}
    (hf : AwaitsAfter previous first) (hs : AwaitsAfter none second) :
    AwaitsAfter previous (first ++ second) := by
  induction first generalizing previous with
  | nil => exact hs.of_none previous
  | cons a rest ih => exact ⟨hf.1, ih hf.2⟩

theorem AwaitsAfter.flatMap {α : Type} {parts : List α} {plan : α → Plan}
    (h : ∀ part ∈ parts, AwaitsAfter none (plan part)) :
    AwaitsAfter none (parts.flatMap plan) := by
  induction parts with
  | nil => trivial
  | cons part rest ih =>
      rw [List.flatMap_cons]
      apply AwaitsAfter.append
      · exact h part List.mem_cons_self
      · exact ih fun other ho => h other (List.mem_cons_of_mem _ ho)

theorem AwaitsAfter.mayFollow_getElem? {previous : Option Action} {plan : Plan} {i : Nat}
    {a : Action} (h : AwaitsAfter previous plan) (hi : plan[i]? = some a) :
    MayFollow (if i = 0 then previous else plan[i - 1]?) a := by
  induction plan generalizing previous i with
  | nil => simp at hi
  | cons b rest ih =>
      cases i with
      | zero =>
          rw [List.getElem?_cons_zero, Option.some.injEq] at hi
          exact hi ▸ h.1
      | succ i =>
          have hf := ih h.2 hi
          cases i with
          | zero => simpa using hf
          | succ i => simpa using hf

theorem awaitsAfter_waitFor {selector : String} {a : Action} (h : selector ≠ "")
    (hs : a.selector? = some selector) (ht : a.touched? = some selector) :
    AwaitsAfter none [.waitFor selector, a] :=
  ⟨mayFollow_waitForElement h _ _, mayFollow_waitFor h hs ht, trivial⟩

theorem awaitsAfter_waitFor_only {selector : String} (h : selector ≠ "") :
    AwaitsAfter none [.waitFor selector] :=
  ⟨mayFollow_waitForElement h _ _, trivial⟩

end Plan

theorem append_ne_empty_of_right {first second : String} (h : second ≠ "") :
    first ++ second ≠ "" := by
  intro ha
  exact h (String.append_eq_empty_iff.mp ha).2

namespace Locator.Traits

theorem attributeLocator?_css_ne {t : Traits} {name selector : String}
    (h : t.attributeLocator? name = some (.css selector)) : selector ≠ "" := by
  obtain ⟨value, -, hv⟩ := Option.map_eq_some_iff.mp h
  cases hv
  apply append_ne_empty_of_right
  decide

theorem locator?_css_ne {t : Traits} {selector : String}
    (h : t.locator? = some (.css selector)) : selector ≠ "" := by
  simp only [locator?, Option.or_eq_some_iff] at h
  rcases h with hid | ⟨-, hstable | ⟨-, htag | ⟨-, htext⟩⟩⟩
  · obtain ⟨id, hne, hs⟩ := Option.map_eq_some_iff.mp hid
    cases hs
    apply append_ne_empty_of_right
    exact of_decide_eq_true (Option.filter_eq_some_iff.mp hne).2
  · obtain ⟨name, -, hn⟩ := List.exists_of_findSome?_eq_some hstable
    exact attributeLocator?_css_ne hn
  · obtain ⟨row, -, hr⟩ := List.exists_of_findSome?_eq_some htag
    exact attributeLocator?_css_ne hr
  · obtain ⟨text, -, ht⟩ := Option.map_eq_some_iff.mp htext
    cases ht

end Locator.Traits

open Plan Retrace.Action

namespace Event

theorem awaitsAfter_editActions {selector : String} (h : selector ≠ "") (kind : ControlKind)
    (value : Json) : AwaitsAfter none (editActions selector kind value) := by
  cases kind with
  | text => exact awaitsAfter_waitFor h rfl rfl
  | checkable => exact awaitsAfter_waitFor h rfl rfl
  | select => exact awaitsAfter_waitFor h rfl rfl
  | button | other => exact awaitsAfter_waitFor_only h

end Event

/-- A driven control has a selector that is more than blanks. -/
theorem Control.step_driven_ne {c : Control} {kind : ControlKind} {selector : String}
    {value : Json} (h : c.step = .driven kind selector value) : selector ≠ "" := by
  unfold Control.step at h
  split at h
  · cases h
  · dsimp only at h
    split at h
    · cases h
    · next hne =>
        cases h
        exact fun he => hne (.inl he)

theorem ControlStep.awaitsAfter_actions (c : Control) : AwaitsAfter none c.step.actions := by
  cases hstep : c.step with
  | absent | ignored => trivial
  | driven kind selector value =>
      have hne := Control.step_driven_ne hstep
      cases kind with
      | text => exact awaitsAfter_waitFor hne rfl rfl
      | checkable | button => exact awaitsAfter_waitFor hne rfl rfl
      | select => exact awaitsAfter_waitFor hne rfl rfl
      | other => exact awaitsAfter_waitFor_only hne

namespace Event

theorem awaitsAfter_submission (e : Event) (typed : Bool) :
    AwaitsAfter none (e.submission typed) := by
  unfold submission
  split
  · exact ⟨mayFollow_of_selector?_eq_none rfl rfl _, trivial⟩
  · split
    · next selector h =>
        have hne : selector ≠ "" := of_decide_eq_true (Option.filter_eq_some_iff.mp h).2
        exact awaitsAfter_waitFor hne rfl rfl
    · trivial

theorem awaitsAfter_replayClick {e : Event} {actions : List Action}
    (h : e.replayClick = .ok actions) : AwaitsAfter none actions := by
  unfold replayClick at h
  split at h
  · next selector hl =>
      cases h
      obtain ⟨target, -, ht⟩ := Option.bind_eq_some_iff.mp hl
      exact awaitsAfter_waitFor (Locator.Traits.locator?_css_ne ht) rfl rfl
  · next text tag hl =>
      cases h
      have hne : Locator.tagText tag ++ ":text(\"" ++ text ++ "\")" ≠ "" :=
        append_ne_empty_of_right (by decide)
      refine ⟨mayFollow_waitForElement hne _ _, ⟨nofun, ?_, ?_⟩, trivial⟩
      · intro selector hs
        cases hs
        rfl
      · intro text elementType nth ha
        cases ha
        rfl
  · cases h

theorem awaitsAfter_replaySubmit {e : Event} {actions : List Action}
    (h : e.replaySubmit = .ok actions) : AwaitsAfter none actions := by
  unfold replaySubmit at h
  split at h
  · cases h
  · cases h
  · next controls _ =>
      cases h
      apply AwaitsAfter.append
      · rw [List.flatMap_map]
        exact AwaitsAfter.flatMap fun control _ => ControlStep.awaitsAfter_actions control.2
      · exact e.awaitsAfter_submission _

theorem awaitsAfter_replayInputChange {e : Event} {actions : List Action}
    (h : e.replayInputChange = .ok actions) : AwaitsAfter none actions := by
  unfold replayInputChange at h
  split at h
  · next target value _ _ =>
      split at h
      · cases h
      · cases h
      · next selector hl =>
          dsimp only at h
          split at h
          · cases h
            trivial
          · cases h
            exact awaitsAfter_editActions (Locator.Traits.locator?_css_ne hl) _ _
  · cases h
    trivial

theorem awaitsAfter_replay {e : Event} {actions : List Action} (h : e.replay = .ok actions) :
    AwaitsAfter none actions := by
  unfold replay at h
  cases hk : e.kind with
  | taskStart =>
      rw [hk] at h
      simp only [replayTaskStart] at h
      split at h
      · cases h
        exact ⟨mayFollow_of_selector?_eq_none rfl rfl _, trivial⟩
      · cases h
  | click =>
      rw [hk] at h
      exact awaitsAfter_replayClick h
  | goBackOrForward =>
      rw [hk] at h
      simp only [replayNavigation] at h
      split at h
      · cases h
        exact ⟨mayFollow_of_selector?_eq_none rfl rfl _,
          mayFollow_waitForElement (by decide) _ _, trivial⟩
      · cases h
  | submit =>
      rw [hk] at h
      exact awaitsAfter_replaySubmit h
  | inputChange =>
      rw [hk] at h
      exact awaitsAfter_replayInputChange h
  | taskFinish =>
      rw [hk] at h
      cases h
      exact ⟨mayFollow_of_selector?_eq_none rfl rfl _, mayFollow_of_selector?_eq_none rfl rfl _,
        trivial⟩
  | unknown name =>
      rw [hk] at h
      cases h

end Event

namespace Compilation

theorem awaitsAfter_ofEvent (index : Nat) (e : Event) :
    AwaitsAfter none (ofEvent index e).plan := by
  unfold ofEvent
  cases h : e.replay with
  | ok actions => exact e.awaitsAfter_replay h
  | error reason => trivial

theorem awaitsAfter_ofEventsFrom (index : Nat) (events : List Event) :
    AwaitsAfter none (ofEventsFrom index events).plan := by
  induction events generalizing index with
  | nil => trivial
  | cons e rest ih => exact (awaitsAfter_ofEvent index e).append (ih (index + 1))

/-- Wherever a plan touches an element, the action before waits for that very element; of several
elements with a text the first one is touched; and no selector is empty. -/
theorem plan_waits_before_touching {events : List Event} {i : Nat} {a : Action}
    (h : (ofEvents events).plan[i]? = some a) :
    (∀ selector, a.touched? = some selector →
        0 < i ∧ (ofEvents events).plan[i - 1]? = some (.waitForElement selector 5000)) ∧
      (∀ text elementType nth, a = .clickByText text elementType nth → nth = 0) ∧
      ∀ selector, a.selector? = some selector → selector ≠ "" := by
  have hf := (awaitsAfter_ofEventsFrom 0 events).mayFollow_getElem? h
  refine ⟨?_, hf.first, hf.selector_ne⟩
  intro selector hs
  have hp := hf.awaited selector hs
  split at hp
  · cases hp
  · next hi => exact ⟨Nat.pos_of_ne_zero hi, hp⟩

/-- A click on an element that only its text identifies, after another event. -/
theorem plan_waits_before_touching_text :
    let events : List Event :=
      [{ kind := .taskFinish }, { kind := .click, target := some { target := some "<b>x</b>" } }]
    (ofEvents events).plan[3]? = some (.clickByText "x" (some "b") 0) ∧
      0 < 3 ∧ (ofEvents events).plan[2]? = some (.waitForElement "b:text(\"x\")" 5000) := by
  intro events
  have h : (ofEvents events).plan[3]? = some (.clickByText "x" (some "b") 0) := by
    decide +kernel
  exact ⟨h, (plan_waits_before_touching h).1 _ rfl⟩

end Compilation

end Retrace
