import Mathlib.Data.List.Basic
import Retrace.Proofs.Bundles.Bystanders
import Retrace.Proofs.Plan.Submissions

/-!
Landmarks of a plan: the actions that are no steps at an element of the page. Every event gives a
block of actions of one of a few forms, and a plan is made of these blocks, so its landmarks, and
what stands next to them, are known from the events.
-/

namespace Retrace

namespace Action

/-- The action opens, leaves or reads a page, presses a key or ends the replay. -/
def isLandmark : Action → Bool
  | .openTab _ | .goToUrl _ | .extractContent _ _ | .done _ _ | .sendKeys _ => true
  | _ => false

def visited? : Action → Option String
  | .goToUrl url => some url
  | _ => none

def goal? : Action → Option String
  | .extractContent goal _ => some goal
  | _ => none

def outcome? : Action → Option (String × Bool)
  | .done text success => some (text, success)
  | _ => none

def keys? : Action → Option String
  | .sendKeys keys => some keys
  | _ => none

theorem parts_eq_none {a : Action} (ha : a.isLandmark = false) :
    a.visited? = none ∧ a.goal? = none ∧ a.outcome? = none ∧ a.keys? = none := by
  cases a with
  | sendKeys | openTab | goToUrl | extractContent | done => cases ha
  | _ => exact ⟨rfl, rfl, rfl, rfl⟩

/-- A part of the actions that concerns landmarks only is read off the landmarks. -/
theorem filterMap_filter_isLandmark {β : Type} {part : Action → Option β}
    (hpart : ∀ a : Action, a.isLandmark = false → part a = none) (plan : Plan) :
    (plan.filter isLandmark).filterMap part = plan.filterMap part := by
  rw [List.filterMap_filter]
  refine List.filterMap_congr fun a _ => ?_
  cases ha : a.isLandmark with
  | true => rfl
  | false => exact (hpart a ha).symm

end Action

namespace Event

/-- The address that the history of an event starts from. -/
def startUrl? (e : Event) : Option String := e.firstNavigation.bind NavigationEntry.currentUrl

/-- The address that is opened for an event, if it starts the task. -/
def opening? (e : Event) : Option String := if e.kind = .taskStart then e.startUrl? else none

/-- The address that an event led to, if it is a step through the history of the page. -/
def destination? (e : Event) : Option String :=
  if e.kind = .goBackOrForward then e.target.bind Target.target else none

/-- The event submits a form, and one of the controls is typed into. -/
def submitsTyped (e : Event) : Bool :=
  e.kind = .submit && (e.controls.getD []).any fun m => m.2.step.isTyped

def isTaskFinish (e : Event) : Bool := e.kind = .taskFinish

/-- The landmarks that an event gives; of the four parts at most one is not empty. -/
def landmarks (e : Event) : List Action :=
  (e.opening?.map .openTab).toList ++ (e.destination?.map .goToUrl).toList ++
    (if e.submitsTyped then [.sendKeys "Enter"] else []) ++
    if e.isTaskFinish then [.extractContent (e.description.getD "") false,
      .done "task executed successfully" true] else []

theorem landmarks_of_kind {e : Event} {kind : EventKind} (hkind : e.kind = kind) :
    e.landmarks = match kind with
      | .taskStart => (e.startUrl?.map .openTab).toList
      | .goBackOrForward => ((e.target.bind Target.target).map .goToUrl).toList
      | .submit => if e.submitsTyped then [.sendKeys "Enter"] else []
      | .taskFinish => [.extractContent (e.description.getD "") false,
          .done "task executed successfully" true]
      | .click | .inputChange | .unknown _ => [] := by
  cases kind <;> simp [landmarks, opening?, destination?, submitsTyped, isTaskFinish, hkind]

/-- The forms that the actions of an event may have. -/
inductive Block (e : Event) : List Action → Prop
  | steps {steps : List Action} (hnone : e.landmarks = [])
      (h : ∀ a ∈ steps, a.isLandmark = false) : Block e steps
  | started {url : String} (hkind : e.kind = .taskStart) (hurl : e.startUrl? = some url) :
      Block e [.openTab url]
  | visited {url : String} (hkind : e.kind = .goBackOrForward)
      (hurl : e.target.bind Target.target = some url) :
      Block e [.goToUrl url, .waitForElement "body" 8000]
  | entered {steps : List Action} (hkind : e.kind = .submit) (htyped : e.submitsTyped = true)
      (h : ∀ a ∈ steps, a.isLandmark = false) : Block e (steps ++ [.sendKeys "Enter"])
  | finished (hkind : e.kind = .taskFinish) :
      Block e [.extractContent (e.description.getD "") false,
        .done "task executed successfully" true]

theorem isLandmark_actions_click {e : Event} {actions : List Action}
    (h : e.replayClick = .ok actions) : ∀ a ∈ actions, a.isLandmark = false := by
  unfold replayClick at h
  split at h
  · cases h
    simp [Action.isLandmark, Action.waitFor]
  · cases h
    simp [Action.isLandmark, Action.waitFor, Action.clickFirstByText]
  · cases h

theorem isLandmark_editActions (selector : String) (kind : ControlKind) (value : Json) :
    ∀ a ∈ editActions selector kind value, a.isLandmark = false := by
  cases kind <;> simp [editActions, Action.isLandmark, Action.waitFor]

theorem isLandmark_actions_edit {e : Event} {actions : List Action}
    (h : e.replayInputChange = .ok actions) : ∀ a ∈ actions, a.isLandmark = false := by
  unfold replayInputChange at h
  split at h
  · split at h
    · cases h
    · cases h
    · dsimp only at h
      split at h
      · cases h
        exact List.forall_mem_nil _
      · cases h
        exact isLandmark_editActions _ _ _
  · cases h
    exact List.forall_mem_nil _

theorem isLandmark_actions_step (step : ControlStep) :
    ∀ a ∈ step.actions, a.isLandmark = false := by
  cases step with
  | absent | ignored => exact List.forall_mem_nil _
  | driven kind selector value =>
      cases kind <;> simp [ControlStep.actions, Action.isLandmark, Action.waitFor]

theorem isLandmark_submission (e : Event) : ∀ a ∈ e.submission false, a.isLandmark = false := by
  unfold submission
  rw [if_neg Bool.false_ne_true]
  split
  · simp [Action.isLandmark, Action.waitFor]
  · exact List.forall_mem_nil _

/-- The steps of a submission at the controls of the form. -/
def fillingActions (e : Event) : List Action :=
  ((e.controls.getD []).map fun m => m.2.step).flatMap ControlStep.actions

theorem isLandmark_fillingActions (e : Event) : ∀ a ∈ e.fillingActions, a.isLandmark = false := by
  intro a ha
  obtain ⟨step, -, hmem⟩ := List.mem_flatMap.mp ha
  exact isLandmark_actions_step step a hmem

theorem actions_of_submit {e : Event} (hkind : e.kind = .submit) :
    e.actions = [] ∧ e.submitsTyped = false ∨
      e.actions = e.fillingActions ++ e.submission e.submitsTyped := by
  have hreplay : e.replay = e.replaySubmit := by
    rw [replay, hkind]
  have htyped : e.submitsTyped = (e.controls.getD []).any fun m => m.2.step.isTyped := by
    rw [submitsTyped, decide_eq_true hkind, Bool.true_and]
  rw [htyped]
  cases hcontrols : e.controls with
  | none =>
      left
      simp only [actions, hreplay, replaySubmit, hcontrols]
      exact ⟨rfl, rfl⟩
  | some controls =>
      cases controls with
      | nil =>
          left
          simp only [actions, hreplay, replaySubmit, hcontrols]
          exact ⟨rfl, rfl⟩
      | cons first rest =>
          right
          simp only [actions, fillingActions, hreplay, replaySubmit, hcontrols]
          rw [List.any_map]
          rfl

theorem block_of_submit {e : Event} (hkind : e.kind = .submit) : e.Block e.actions := by
  have hlandmarks := landmarks_of_kind hkind
  obtain ⟨hnone, htyped⟩ | hactions := actions_of_submit hkind
  · rw [htyped] at hlandmarks
    rw [hnone]
    exact .steps hlandmarks (List.forall_mem_nil _)
  · rw [hactions]
    cases htyped : e.submitsTyped with
    | true => exact .entered hkind htyped e.isLandmark_fillingActions
    | false =>
        rw [htyped] at hlandmarks
        refine .steps hlandmarks fun a ha => ?_
        obtain hfilling | hlast := List.mem_append.mp ha
        · exact e.isLandmark_fillingActions a hfilling
        · exact e.isLandmark_submission a hlast

theorem isLandmark_of_replay {replay : Replay}
    (h : ∀ actions, replay = .ok actions → ∀ a ∈ actions, a.isLandmark = false) :
    ∀ a ∈ replay.toOption.getD [], a.isLandmark = false := by
  cases replay with
  | ok actions => exact h actions rfl
  | error reason => exact List.forall_mem_nil _

/-- The actions of an event have one of the forms of a block. -/
theorem block_actions (e : Event) : e.Block e.actions := by
  cases hkind : e.kind with
  | taskStart =>
      rw [actions, replay, hkind]
      dsimp only
      cases hurl : e.startUrl? with
      | none =>
          have hnone : e.landmarks = [] := by
            rw [landmarks_of_kind hkind, hurl]
            rfl
          rw [startUrl?] at hurl
          rw [replayTaskStart, hurl]
          exact .steps hnone (List.forall_mem_nil _)
      | some url =>
          have hstarted := Block.started hkind hurl
          rw [startUrl?] at hurl
          rw [replayTaskStart, hurl]
          exact hstarted
  | click =>
      rw [actions, replay, hkind]
      exact .steps (landmarks_of_kind hkind)
        (isLandmark_of_replay fun _ => isLandmark_actions_click)
  | goBackOrForward =>
      rw [actions, replay, hkind]
      dsimp only
      cases hurl : e.target.bind Target.target with
      | none =>
          rw [replayNavigation, hurl]
          refine .steps ?_ (List.forall_mem_nil _)
          rw [landmarks_of_kind hkind, hurl]
          rfl
      | some url =>
          rw [replayNavigation, hurl]
          exact .visited hkind hurl
  | submit => exact block_of_submit hkind
  | inputChange =>
      rw [actions, replay, hkind]
      exact .steps (landmarks_of_kind hkind) (isLandmark_of_replay fun _ => isLandmark_actions_edit)
  | taskFinish =>
      rw [actions, replay, hkind]
      exact .finished hkind
  | unknown name =>
      rw [actions, replay, hkind]
      exact .steps (landmarks_of_kind hkind) (List.forall_mem_nil _)

theorem filter_actions (e : Event) : e.actions.filter Action.isLandmark = e.landmarks := by
  have hnone {steps : List Action} (h : ∀ a ∈ steps, a.isLandmark = false) :
      steps.filter Action.isLandmark = [] := by
    rw [List.filter_eq_nil_iff]
    intro a ha hlandmark
    rw [h a ha] at hlandmark
    cases hlandmark
  have hblock := e.block_actions
  generalize e.actions = actions at hblock
  cases hblock with
  | steps hlandmarks h => rw [hlandmarks, hnone h]
  | started hkind hurl =>
      rw [landmarks_of_kind hkind, hurl]
      rfl
  | visited hkind hurl =>
      rw [landmarks_of_kind hkind, hurl]
      rfl
  | entered hkind htyped h =>
      rw [landmarks_of_kind hkind, htyped, List.filter_append, hnone h]
      rfl
  | finished hkind =>
      rw [landmarks_of_kind hkind]
      rfl

/-- What concerns landmarks only is known of a plan from the landmarks of the events. -/
theorem filterMap_flatMap_actions {β : Type} {part : Action → Option β}
    (hpart : ∀ a : Action, a.isLandmark = false → part a = none) (events : List Event) :
    (events.flatMap actions).filterMap part =
      events.flatMap fun e => e.landmarks.filterMap part := by
  rw [List.filterMap_flatMap]
  refine List.flatMap_congr fun e _ => ?_
  rw [← Action.filterMap_filter_isLandmark hpart, filter_actions]

theorem filterMap_flatMap_actions_of_filter {β : Type} {part : Action → Option β}
    {given : Event → Bool} {value : Event → β}
    (hpart : ∀ a : Action, a.isLandmark = false → part a = none)
    (hgiven : ∀ e : Event, e.landmarks.filterMap part = if given e then [value e] else [])
    (events : List Event) :
    (events.flatMap actions).filterMap part = (events.filter given).map value := by
  rw [filterMap_flatMap_actions hpart, ← List.filterMap_eq_map, List.filterMap_filter,
    List.filterMap_eq_flatMap_toList]
  refine List.flatMap_congr fun e _ => ?_
  rw [hgiven]
  cases given e <;> rfl

theorem filterMap_visited?_landmarks (e : Event) :
    e.landmarks.filterMap Action.visited? = e.destination?.toList := by
  unfold landmarks
  cases e.opening? <;> cases e.destination? <;> cases e.submitsTyped <;>
    cases e.isTaskFinish <;> rfl

theorem filterMap_goal?_landmarks (e : Event) : e.landmarks.filterMap Action.goal? =
    if e.isTaskFinish then [e.description.getD ""] else [] := by
  unfold landmarks
  cases e.opening? <;> cases e.destination? <;> cases e.submitsTyped <;>
    cases e.isTaskFinish <;> rfl

theorem filterMap_outcome?_landmarks (e : Event) : e.landmarks.filterMap Action.outcome? =
    if e.isTaskFinish then [("task executed successfully", true)] else [] := by
  unfold landmarks
  cases e.opening? <;> cases e.destination? <;> cases e.submitsTyped <;>
    cases e.isTaskFinish <;> rfl

theorem filterMap_keys?_landmarks (e : Event) : e.landmarks.filterMap Action.keys? =
    if e.submitsTyped then ["Enter"] else [] := by
  unfold landmarks
  cases e.opening? <;> cases e.destination? <;> cases e.submitsTyped <;>
    cases e.isTaskFinish <;> rfl

namespace Block

variable {e : Event} {block : List Action} {a : Action} {j : Nat}

/-- In a block that ends in its only landmark, that one is the last action. -/
theorem eq_last_of_getElem? {steps : List Action} {last : Action}
    (h : ∀ a ∈ steps, a.isLandmark = false) (ha : a.isLandmark = true)
    (hj : (steps ++ [last])[j]? = some a) : a = last := by
  obtain hmem | hlast := List.mem_append.mp (List.mem_of_getElem? hj)
  · rw [h a hmem] at ha
    cases ha
  · exact List.mem_singleton.mp hlast

theorem openTab_getElem? {url : String} (h : e.Block block)
    (hj : block[j]? = some (.openTab url)) :
    j = 0 ∧ e.kind = .taskStart ∧ e.startUrl? = some url := by
  cases h with
  | steps _ h => cases h _ (List.mem_of_getElem? hj)
  | started hkind hurl =>
      obtain _ | j := j
      · cases hj
        exact ⟨rfl, hkind, hurl⟩
      · cases hj
  | visited | finished => obtain _ | _ | j := j <;> cases hj
  | entered _ _ h => cases eq_last_of_getElem? h rfl hj

theorem goToUrl_getElem? {url : String} (h : e.Block block)
    (hj : block[j]? = some (.goToUrl url)) :
    block[j + 1]? = some (.waitForElement "body" 8000) := by
  cases h with
  | steps _ h => cases h _ (List.mem_of_getElem? hj)
  | started | finished => obtain _ | _ | j := j <;> cases hj
  | visited =>
      obtain _ | _ | j := j
      · rfl
      · cases hj
      · cases hj
  | entered _ _ h => cases eq_last_of_getElem? h rfl hj

theorem extractContent_getElem? {goal : String} {strip : Bool} (h : e.Block block)
    (hj : block[j]? = some (.extractContent goal strip)) :
    block[j + 1]? = some (.done "task executed successfully" true) := by
  cases h with
  | steps _ h => cases h _ (List.mem_of_getElem? hj)
  | started | visited => obtain _ | _ | j := j <;> cases hj
  | finished =>
      obtain _ | _ | j := j
      · rfl
      · cases hj
      · cases hj
  | entered _ _ h => cases eq_last_of_getElem? h rfl hj

theorem done_getElem? {text : String} {success : Bool} (h : e.Block block)
    (hj : block[j]? = some (.done text success)) :
    ∃ k goal strip, j = k + 1 ∧ block[k]? = some (.extractContent goal strip) := by
  cases h with
  | steps _ h => cases h _ (List.mem_of_getElem? hj)
  | started | visited => obtain _ | _ | j := j <;> cases hj
  | finished =>
      obtain _ | _ | j := j
      · cases hj
      · exact ⟨0, _, _, rfl, rfl⟩
      · cases hj
  | entered _ _ h => cases eq_last_of_getElem? h rfl hj

theorem eq_append_sendKeys (h : e.Block block) (htyped : e.submitsTyped = true) :
    ∃ steps, block = steps ++ [.sendKeys "Enter"] ∧ ∀ a ∈ steps, a.isLandmark = false := by
  have hkind : e.kind = .submit := by
    by_contra hkind
    rw [submitsTyped, decide_eq_false hkind] at htyped
    cases htyped
  cases h with
  | steps hnone _ =>
      rw [landmarks_of_kind hkind, htyped] at hnone
      cases hnone
  | started hother | visited hother | finished hother =>
      rw [hkind] at hother
      cases hother
  | entered _ _ h => exact ⟨_, rfl, h⟩

end Block

/-- A submission is typed into exactly if it gives an action that types. -/
theorem submitsTyped_iff {e : Event} : e.submitsTyped ↔
    e.kind = .submit ∧ ∃ selector text, .inputText selector text ∈ e.actions := by
  by_cases hkind : e.kind = .submit
  · have htyped : e.submitsTyped ↔
        ∃ selector text, .inputText selector text ∈ e.fillingActions := by
      rw [fillingActions, ← ControlStep.any_isTyped_iff, List.any_map, submitsTyped,
        decide_eq_true hkind, Bool.true_and]
      rfl
    have hlast : ∀ selector text, .inputText selector text ∉ e.submission e.submitsTyped := by
      intro selector text
      unfold submission
      split
      · simp
      · split <;> simp [Action.waitFor]
    obtain ⟨hnone, hfalse⟩ | hactions := actions_of_submit hkind
    · simp [hnone, hfalse]
    · rw [hactions]
      simp only [hkind, true_and, List.mem_append, hlast, or_false]
      exact htyped
  · simp [submitsTyped, hkind]

end Event

/-- An action of a plan stands in the block of an event. -/
theorem exists_block {events : List Event} {i : Nat} {a : Action}
    (h : (events.flatMap Event.actions)[i]? = some a) :
    ∃ before e after j, events = before ++ e :: after ∧
      i = (before.flatMap Event.actions).length + j ∧ e.actions[j]? = some a := by
  induction events generalizing i with
  | nil => cases h
  | cons e rest ih =>
      rw [List.flatMap_cons] at h
      by_cases hi : i < e.actions.length
      · rw [List.getElem?_append_left hi] at h
        exact ⟨[], e, rest, i, rfl, (Nat.zero_add i).symm, h⟩
      · have hle := Nat.le_of_not_lt hi
        rw [List.getElem?_append_right hle] at h
        obtain ⟨before, f, after, j, hrest, hplace, hj⟩ := ih h
        refine ⟨e :: before, f, after, j, congrArg (e :: ·) hrest, ?_, hj⟩
        rw [List.flatMap_cons, List.length_append]
        omega

theorem getElem?_of_block {before after : List Event} {e : Event} {j : Nat} {a : Action}
    (hj : e.actions[j]? = some a) :
    ((before ++ e :: after).flatMap Event.actions)[(before.flatMap Event.actions).length + j]? =
      some a := by
  rw [List.flatMap_append, List.flatMap_cons, List.getElem?_append_right (Nat.le_add_right _ _),
    Nat.add_sub_cancel_left]
  exact (List.getElem?_append_left (List.getElem?_eq_some_iff.mp hj).1).trans hj

/-- Where the landmarks of a plan stand, and which events they come from. -/
structure LandmarksOf (events : List Event) (plan : Plan) : Prop where
  blocks : plan = events.flatMap Event.actions
  opened (i : Nat) (url : String) : plan[i]? = some (.openTab url) ↔
    i = 0 ∧ ∃ first ∈ events.head?, first.startUrl? = some url
  visited : plan.filterMap Action.visited? = events.filterMap Event.destination?
  settled (i : Nat) (url : String) : plan[i]? = some (.goToUrl url) →
    plan[i + 1]? = some (.waitForElement "body" 8000)
  goals : plan.filterMap Action.goal? =
    (events.filter Event.isTaskFinish).map fun e => e.description.getD ""
  outcomes : plan.filterMap Action.outcome? =
    (events.filter Event.isTaskFinish).map fun _ => ("task executed successfully", true)
  concluded (i : Nat) (goal : String) (strip : Bool) :
    plan[i]? = some (.extractContent goal strip) →
      plan[i + 1]? = some (.done "task executed successfully" true)
  extracted (i : Nat) (text : String) (success : Bool) : plan[i]? = some (.done text success) →
    ∃ k goal strip, i = k + 1 ∧ plan[k]? = some (.extractContent goal strip)
  keys : plan.filterMap Action.keys? = (events.filter Event.submitsTyped).map fun _ => "Enter"
  entered (e : Event) : e ∈ events → e.submitsTyped →
    ∃ steps, e.actions = steps ++ [.sendKeys "Enter"] ∧ ∀ a ∈ steps, a.isLandmark = false
  typed (e : Event) : e ∈ events → (e.submitsTyped ↔
    e.kind = .submit ∧ ∃ selector text, .inputText selector text ∈ e.actions)

/-- Only the first event of a task opens a page, and nothing comes before that. -/
theorem opened_iff {first : Event} {rest : List Event} (hfirst : first.kind = .taskStart)
    (hrest : ∀ e ∈ rest, e.kind ≠ .taskStart) {i : Nat} {url : String} :
    ((first :: rest).flatMap Event.actions)[i]? = some (.openTab url) ↔
      i = 0 ∧ first.startUrl? = some url := by
  constructor
  · intro h
    obtain ⟨before, e, after, j, hevents, hi, hj⟩ := exists_block h
    obtain ⟨hzero, hstart, hurl⟩ := e.block_actions.openTab_getElem? hj
    cases before with
    | nil =>
        obtain ⟨rfl, -⟩ := List.cons.inj hevents
        exact ⟨hi.trans (by rw [List.flatMap_nil, List.length_nil, Nat.zero_add, hzero]), hurl⟩
    | cons f others =>
        obtain ⟨-, hlater⟩ := List.cons.inj hevents
        have hmem : e ∈ rest := hlater ▸ List.mem_append_right others List.mem_cons_self
        exact absurd hstart (hrest e hmem)
  · rintro ⟨rfl, hurl⟩
    have hactions : first.actions = [.openTab url] := by
      rw [Event.startUrl?] at hurl
      rw [Event.actions, Event.replay, hfirst]
      simp only [Event.replayTaskStart, hurl]
      rfl
    rw [List.flatMap_cons, hactions]
    rfl

/-- The plan of an accepted stream has the landmarks that its events call for, each in its place. -/
theorem Bundle.landmarksOf_plan {events : List Event} {b : Bundle}
    (h : Bundle.ofEvents events = .ok b) : LandmarksOf events b.plan := by
  obtain ⟨first, rest, hevents, htask, hplan⟩ := Labelled.bundle_eq_ok_iff.mp h
  rw [Labelled.byIndex, Labelled.map_event_byIndexFrom] at hevents hplan
  have hblock {i : Nat} {a : Action} (hi : b.plan[i]? = some a) :
      ∃ start, ∃ e : Event, ∃ j, i = start + j ∧ e.actions[j]? = some a ∧
        ∀ k c, e.actions[k]? = some c → b.plan[start + k]? = some c := by
    rw [hplan] at hi ⊢
    obtain ⟨before, e, after, j, hsplit, hplace, hj⟩ := exists_block hi
    refine ⟨_, e, j, hplace, hj, fun k c hk => ?_⟩
    rw [hsplit]
    exact getElem?_of_block hk
  refine {
    blocks := hplan
    opened := ?opened
    visited := ?visited
    settled := ?settled
    goals := ?goals
    outcomes := ?outcomes
    concluded := ?concluded
    extracted := ?extracted
    keys := ?keys
    entered := fun e _ htyped => e.block_actions.eq_append_sendKeys htyped
    typed := fun e _ => Event.submitsTyped_iff }
  case opened =>
    intro i url
    rw [hplan, hevents, opened_iff htask.start htask.only]
    simp
  case visited =>
    rw [hplan, Event.filterMap_flatMap_actions, List.filterMap_eq_flatMap_toList]
    · simp only [Event.filterMap_visited?_landmarks]
    · exact fun a ha => (Action.parts_eq_none ha).1
  case settled =>
    intro i url hi
    obtain ⟨start, e, j, rfl, hj, hback⟩ := hblock hi
    exact hback _ _ (e.block_actions.goToUrl_getElem? hj)
  case goals =>
    rw [hplan]
    exact Event.filterMap_flatMap_actions_of_filter (fun a ha => (Action.parts_eq_none ha).2.1)
      Event.filterMap_goal?_landmarks events
  case outcomes =>
    rw [hplan]
    exact Event.filterMap_flatMap_actions_of_filter (fun a ha => (Action.parts_eq_none ha).2.2.1)
      Event.filterMap_outcome?_landmarks events
  case keys =>
    rw [hplan]
    exact Event.filterMap_flatMap_actions_of_filter (fun a ha => (Action.parts_eq_none ha).2.2.2)
      Event.filterMap_keys?_landmarks events
  case concluded =>
    intro i goal strip hi
    obtain ⟨start, e, j, rfl, hj, hback⟩ := hblock hi
    exact hback _ _ (e.block_actions.extractContent_getElem? hj)
  case extracted =>
    intro i text success hi
    obtain ⟨start, e, j, rfl, hj, hback⟩ := hblock hi
    obtain ⟨k, goal, strip, rfl, hk⟩ := e.block_actions.done_getElem? hj
    exact ⟨start + k, goal, strip, rfl, hback _ _ hk⟩

/-- A task with a step back and a search, ended. -/
theorem Bundle.landmarksOf_plan_search :
    let history : Payload := .history [.object [("current_url", .string "http://a")]]
    let form : Payload := .controls [("q", .object [("selector", .string "#q"),
      ("tag", .string "input"), ("value", .string "x")])]
    let events : List Event := [
      { kind := .taskStart, taskId := some "1", description := some "find",
        payload := some history },
      { kind := .goBackOrForward, target := some { target := some "http://b" } },
      { kind := .submit, payload := some form },
      { kind := .taskFinish, description := some "read" }]
    let plan : Plan := [.openTab "http://a", .goToUrl "http://b", .waitForElement "body" 8000,
      .waitForElement "#q" 5000, .inputText "#q" "x", .sendKeys "Enter",
      .extractContent "read" false, .done "task executed successfully" true]
    Bundle.ofEvents events = .ok { goal := "find", taskId := "1", plan := plan } ∧
      LandmarksOf events plan := by
  intro history form events plan
  have h : Bundle.ofEvents events = .ok { goal := "find", taskId := "1", plan := plan } := by
    decide +kernel
  exact ⟨h, Bundle.landmarksOf_plan h⟩

end Retrace
