import Retrace.Proofs.Files.Frames
import Retrace.Proofs.Store.Chronology
import Retrace.Proofs.Store.Recording
import Retrace.Proofs.Store.Steps

/-!
Saves of one store whose steps come in any order. Clocks may show anything, so only the numbers keep
the files apart: no number is handed out twice, and names with different numbers differ. What a save
has written is therefore still there whatever the others do.
-/

namespace Retrace

open Files

/-- The numbers that calls have, given that the next one is to be `next`. -/
structure Numbered (numbers : List (Option UInt64)) (next : UInt64) : Prop where
  counted : next.toNat = numbers.countP Option.isSome
  below : ∀ number, some number ∈ numbers → number.toNat < next.toNat
  distinct : ∀ (i j : Nat) (number : UInt64), numbers[i]? = some (some number) →
    numbers[j]? = some (some number) → i = j

theorem Numbered.take {numbers : List (Option UInt64)} {next : UInt64} (h : Numbered numbers next)
    {i : Nat} (hi : numbers[i]? = some none) (hlength : numbers.length < Nat.pow 2 64) :
    Numbered (numbers.set i (some next)) (next + 1) := by
  obtain ⟨hbound, hnone⟩ := List.getElem?_eq_some_iff.mp hi
  have hcount : (numbers.set i (some next)).countP Option.isSome = next.toNat + 1 := by
    rw [List.countP_set hbound, hnone, h.counted]
    rfl
  have hnext : (next + 1).toNat = next.toNat + 1 := by
    have hle := List.countP_le_length (p := Option.isSome) (l := numbers.set i (some next))
    rw [hcount, List.length_set] at hle
    rw [UInt64.toNat_add, UInt64.toNat_one, Nat.mod_eq_of_lt (Nat.lt_of_le_of_lt hle hlength)]
  constructor
  case counted => rw [hcount, hnext]
  case below =>
    intro number hmem
    rw [hnext]
    rcases List.mem_or_eq_of_mem_set hmem with hold | heq
    · exact Nat.lt_succ_of_lt (h.below number hold)
    · cases heq
      exact Nat.lt_succ_self _
  case distinct =>
    -- The new number is above all others, so no other call can have it.
    have hnew : ∀ j : Nat, numbers[j]? ≠ some (some next) := by
      intro j hj
      exact Nat.lt_irrefl _ (h.below next (List.mem_of_getElem? hj))
    intro j k number hj hk
    by_cases hij : i = j
    · subst hij
      rw [List.getElem?_set_self hbound] at hj
      cases hj
      by_cases hik : i = k
      · exact hik
      · rw [List.getElem?_set_ne hik] at hk
        exact absurd hk (hnew k)
    · rw [List.getElem?_set_ne hij] at hj
      by_cases hik : i = k
      · subst hik
        rw [List.getElem?_set_self hbound] at hk
        cases hk
        exact absurd hj (hnew j)
      · rw [List.getElem?_set_ne hik] at hk
        exact h.distinct j k number hj hk

namespace SaveCall

/-- A save that has its folder is about its event, and the folder is below the root. -/
structure Prepared (root : Path) (event : Json) (pending : PendingSave) : Prop where
  event : pending.event = event
  folder : ∃ route, pending.folder = root.append route

/-- What is known of a call: what it has written is on the disk. -/
def Kept (root : Path) (disk : Disk) (call : SaveCall) : Prop :=
  match call.progress with
  | .waiting | .refused _ => True
  | .prepared pending | .numbered pending _ => Prepared root call.event pending
  | .ended pending number result => Prepared root call.event pending ∧
      ∀ path, result = .ok path → path = pending.path number ∧
        disk.at? path = some (.file call.event.pretty.toUTF8)

theorem Prepared.path {root : Path} {event : Json} {pending : PendingSave}
    (h : Prepared root event pending) (number : UInt64) :
    ∃ route, pending.path number = root.append route := by
  obtain ⟨route, hfolder⟩ := h.folder
  refine ⟨route ++ [eventFileName pending.moment number], ?_⟩
  rw [PendingSave.path, hfolder, Path.join_eq_append, Path.append_append]

theorem Kept.mono {root : Path} {disk later : Disk} {call : SaveCall} (h : call.Kept root disk)
    (hkeep : ∀ route content, call.progress.path? = some (root.append route) →
      disk.at? (root.append route) = some (.file content) →
      later.at? (root.append route) = some (.file content)) : call.Kept root later := by
  obtain ⟨event, progress⟩ := call
  cases progress with
  | waiting => trivial
  | refused e => trivial
  | prepared pending => exact h
  | numbered pending number => exact h
  | ended pending number result =>
      obtain ⟨hprepared, hfile⟩ := h
      refine ⟨hprepared, ?_⟩
      intro path hresult
      obtain ⟨rfl, hat⟩ := hfile path hresult
      obtain ⟨route, hroute⟩ := hprepared.path number
      refine ⟨rfl, ?_⟩
      rw [hroute] at hat ⊢
      exact hkeep route _ (congrArg some hroute) hat

theorem kept_prepare {root : Path} {moment : Moment} {event : Json} {disk later : Disk}
    {outcome : Except StoreError PendingSave}
    (h : Store.prepare root moment event disk = (later, outcome)) :
    (∀ path content, disk.at? path = some (.file content) →
      later.at? path = some (.file content)) ∧
    Kept root later ⟨event, .ofPrepared outcome⟩ := by
  unfold Store.prepare at h
  cases hid : recordedTaskId event with
  | error e =>
      rw [hid] at h
      cases h
      exact ⟨fun _ _ hfile => hfile, trivial⟩
  | ok id =>
      have hkeep := fun path content (hfile : disk.at? path = some (.file content)) =>
        Disk.at?_makeFolders hfile (Store.taskFolder root moment id)
      rw [hid] at h
      dsimp only at h
      cases hmade : disk.makeFolders (Store.taskFolder root moment id) with
      | mk made result =>
          rw [hmade] at h hkeep
          cases result with
          | error failure =>
              cases h
              exact ⟨hkeep, trivial⟩
          | ok _ =>
              cases h
              exact ⟨hkeep, rfl, _, Store.taskFolder_eq root moment id⟩

theorem kept_write {pending : PendingSave} {number : UInt64} {disk later : Disk}
    {result : Except StoreError Path} (h : pending.write number disk = (later, result)) :
    (∀ path, result = .ok path → path = pending.path number ∧
      later.at? path = some (.file pending.event.pretty.toUTF8)) ∧
    ∀ (folder : Path) (moment : Moment) (other : UInt64) (content : ByteArray), other ≠ number →
      disk.at? (folder.join (eventFileName moment other)) = some (.file content) →
      later.at? (folder.join (eventFileName moment other)) = some (.file content) := by
  unfold PendingSave.write at h
  cases hwrite : disk.writeText (pending.path number) pending.event.pretty with
  | mk disk' written =>
      rw [hwrite] at h
      cases written with
      | error failure =>
          cases h
          rw [Recording.disk_of_write_error hwrite]
          exact ⟨nofun, fun _ _ _ _ _ hfile => hfile⟩
      | ok _ =>
          cases h
          constructor
          · intro path hpath
            cases hpath
            exact ⟨rfl, Disk.at?_write hwrite⟩
          · intro folder moment other content hne hfile
            refine Disk.at?_write_of_ne ?_ hwrite hfile
            intro hname
            exact hne (number_eq_of_name_eq hname)

end SaveCall

namespace Saves

def numbers (s : Saves) : List (Option UInt64) := s.calls.map fun call => call.progress.number?

/-- What every step keeps. -/
structure Orderly (root : Path) (events : List Json) (s : Saves) : Prop where
  numbered : Numbered s.numbers s.store.next
  events : s.calls.map SaveCall.event = events
  root : s.store.root = root

/-- What calls have written is on the disk. -/
def Kept (root : Path) (s : Saves) : Prop :=
  ∀ (i : Nat) (call : SaveCall), s.calls[i]? = some call → call.Kept root s.disk

variable {others : Disk → Disk → Prop} {root : Path} {events : List Json} {s later : Saves}

theorem orderly_start (root : Path) (disk : Disk) (events : List Json) :
    Orderly root events (start root disk events) := by
  have hnumbers : (start root disk events).numbers = List.replicate events.length none := by
    rw [numbers, start, List.map_map]
    exact List.map_const'
  constructor
  case numbered =>
    rw [hnumbers]
    constructor
    case counted => simp [start, List.countP_replicate]
    case below => simp [List.mem_replicate]
    case distinct => simp [List.getElem?_replicate]
  case events =>
    rw [start, List.map_map]
    exact List.map_id events
  case root => rfl

theorem kept_start (root : Path) (disk : Disk) (events : List Json) :
    Kept root (start root disk events) := by
  intro i call hcall
  obtain ⟨event, -, rfl⟩ := List.mem_map.mp (List.mem_of_getElem? hcall)
  trivial

theorem getElem?_numbers {i : Nat} {call : SaveCall} (h : s.calls[i]? = some call) :
    s.numbers[i]? = some call.progress.number? := by
  rw [numbers, List.getElem?_map, h]
  rfl

theorem Orderly.length_numbers (h : Orderly root events s) : s.numbers.length = events.length := by
  rw [numbers, List.length_map, ← h.events, List.length_map]

theorem map_event_set {i : Nat} {event : Json} {progress : Progress}
    (hcall : s.calls[i]? = some ⟨event, progress⟩) (next : Progress) :
    (s.calls.set i ⟨event, next⟩).map SaveCall.event = s.calls.map SaveCall.event := by
  have hself : (s.calls.map SaveCall.event)[i]? = some event := by
    rw [List.getElem?_map, hcall]
    rfl
  obtain ⟨hbound, hevent⟩ := List.getElem?_eq_some_iff.mp hself
  rw [List.map_set]
  change (s.calls.map SaveCall.event).set i event = _
  rw [← hevent, List.set_getElem_self]

/-- One call moves on without taking a number. -/
theorem Orderly.move (h : Orderly root events s) {i : Nat} {event : Json}
    {progress next : Progress} (hcall : s.calls[i]? = some ⟨event, progress⟩)
    (hsame : next.number? = progress.number?) (disk : Disk) :
    Orderly root events { s with disk, calls := s.calls.set i ⟨event, next⟩ } := by
  obtain ⟨hbound, hnumber⟩ := List.getElem?_eq_some_iff.mp (getElem?_numbers hcall)
  have hnumbers : numbers { s with disk, calls := s.calls.set i ⟨event, next⟩ } = s.numbers := by
    rw [numbers, List.map_set, hsame, ← hnumber]
    exact List.set_getElem_self hbound
  constructor
  case numbered =>
    rw [hnumbers]
    exact h.numbered
  case events => exact (map_event_set hcall next).trans h.events
  case root => exact h.root

theorem Orderly.takeNumber (h : Orderly root events s) (hlength : events.length < Nat.pow 2 64)
    {i : Nat} {event : Json} {pending : PendingSave}
    (hcall : s.calls[i]? = some ⟨event, .prepared pending⟩) :
    Orderly root events
      { s with
        store := s.store.takeNumber.1
        calls := s.calls.set i ⟨event, .numbered pending s.store.takeNumber.2⟩ } := by
  rw [← h.length_numbers] at hlength
  constructor
  case numbered =>
    rw [numbers, List.map_set]
    exact h.numbered.take (getElem?_numbers hcall) hlength
  case events => exact (map_event_set hcall _).trans h.events
  case root => exact h.root

theorem Orderly.step (h : Orderly root events s) (hlength : events.length < Nat.pow 2 64)
    (hstep : Step others s later) : Orderly root events later := by
  cases hstep with
  | @prepare i event moment disk outcome hcall hprepare =>
      have hnone : (Progress.ofPrepared outcome).number? = none := by
        cases outcome <;> rfl
      exact h.move hcall hnone disk
  | takeNumber hcall htake =>
      cases htake
      exact h.takeNumber hlength hcall
  | @write i event pending number disk result hcall hwrite =>
      have hsame : (Progress.ended pending number result).number? =
          (Progress.numbered pending number).number? := rfl
      exact h.move hcall hsame disk
  | other hother => exact ⟨h.numbered, h.events, h.root⟩

theorem Orderly.reaches (h : Orderly root events s) (hlength : events.length < Nat.pow 2 64)
    (hreaches : s.Reaches others later) : Orderly root events later := by
  induction hreaches with
  | refl => exact h
  | tail _ hstep ih => exact ih.step hlength hstep

/-- One call moves on, and the other calls still have what they had. -/
theorem kept_set {i : Nat} {event : Json} {progress next : Progress}
    (hcall : s.calls[i]? = some ⟨event, progress⟩) {store : Store} {disk : Disk}
    (hmoved : SaveCall.Kept root disk ⟨event, next⟩)
    (hrest : ∀ (j : Nat) (call : SaveCall), i ≠ j → s.calls[j]? = some call →
      call.Kept root disk) :
    Kept root { store, disk, calls := s.calls.set i ⟨event, next⟩ } := by
  obtain ⟨hbound, -⟩ := List.getElem?_eq_some_iff.mp hcall
  intro j call hj
  by_cases hij : i = j
  · subst hij
    rw [List.getElem?_set_self hbound] at hj
    cases hj
    exact hmoved
  · rw [List.getElem?_set_ne hij] at hj
    exact hrest j call hij hj

theorem Kept.write (h : Kept root s) (hnumbered : Numbered s.numbers s.store.next) {i : Nat}
    {event : Json} {pending : PendingSave} {number : UInt64} {disk : Disk}
    {result : Except StoreError Path}
    (hcall : s.calls[i]? = some ⟨event, .numbered pending number⟩)
    (hwrite : pending.write number s.disk = (disk, result)) :
    Kept root { s with disk, calls := s.calls.set i ⟨event, .ended pending number result⟩ } := by
  have hprepared : SaveCall.Prepared root event pending := h i _ hcall
  obtain ⟨hwritten, hrest⟩ := SaveCall.kept_write hwrite
  refine kept_set hcall ⟨hprepared, ?_⟩ ?_
  · intro path hresult
    rw [← hprepared.event]
    exact hwritten path hresult
  · intro j call hij hj
    refine (h j call hj).mono fun route content hpath hfile => ?_
    -- Another call has another number, so the file is another one.
    obtain ⟨folder, moment, other, hroute, hnumber⟩ := Progress.number?_of_path? hpath
    rw [hroute] at hfile ⊢
    refine hrest folder moment other content ?_ hfile
    intro hsame
    refine hij (hnumbered.distinct i j number (getElem?_numbers hcall) ?_)
    rw [getElem?_numbers hj, hnumber, hsame]

theorem Kept.step (h : Kept root s) (horderly : Orderly root events s)
    (hothers : Undisturbed others root) (hstep : Step others s later) : Kept root later := by
  cases hstep with
  | prepare moment hcall hprepare =>
      obtain ⟨hdisk, hmoved⟩ := SaveCall.kept_prepare hprepare
      rw [horderly.root] at hmoved
      refine kept_set hcall hmoved fun j call _ hj => ?_
      exact (h j call hj).mono fun route content _ => hdisk (root.append route) content
  | takeNumber hcall htake =>
      have hprepared : SaveCall.Prepared root _ _ := h _ _ hcall
      exact kept_set hcall hprepared fun j call _ hj => h j call hj
  | write hcall hwrite => exact h.write horderly.numbered hcall hwrite
  | other hother =>
      intro j call hj
      refine (h j call hj).mono fun route content _ hfile => ?_
      rw [hothers _ _ hother]
      exact hfile

theorem kept_of_reaches {disk : Disk} (hlength : events.length < Nat.pow 2 64)
    (hothers : Undisturbed others root) (h : (start root disk events).Reaches others s) :
    Kept root s := by
  induction h with
  | refl => exact kept_start root disk events
  | tail hbefore hstep ih =>
      exact ih.step ((orderly_start root disk events).reaches hlength hbefore) hothers hstep

theorem index_eq_of_text_eq (h : Orderly root events s) {i j : Nat} {path other : Path}
    (hi : s.path? i = some path) (hj : s.path? j = some other) (htext : path.text = other.text) :
    i = j := by
  obtain ⟨call, hcall, hpath⟩ := Option.bind_eq_some_iff.mp hi
  obtain ⟨second, hsecond, hother⟩ := Option.bind_eq_some_iff.mp hj
  obtain ⟨folder, moment, number, rfl, hnumber⟩ := Progress.number?_of_path? hpath
  obtain ⟨_, _, taken, rfl, htaken⟩ := Progress.number?_of_path? hother
  obtain rfl := number_eq_of_text_eq htext
  apply h.numbered.distinct i j number
  · rw [getElem?_numbers hcall, hnumber]
  · rw [getElem?_numbers hsecond, htaken]

theorem Kept.readText? (h : Kept root s) (horderly : Orderly root events s) {i : Nat}
    {path : Path} (hresult : s.result? i = some (.ok path)) :
    s.path? i = some path ∧
      ∃ event, events[i]? = some event ∧ s.disk.readText? path = some event.pretty := by
  obtain ⟨⟨event, progress⟩, hcall, hover⟩ := Option.bind_eq_some_iff.mp hresult
  have hkept := h i _ hcall
  have hevent : events[i]? = some event := by
    rw [← horderly.events, List.getElem?_map, hcall]
    rfl
  cases progress with
  | waiting => cases hover
  | prepared pending => cases hover
  | numbered pending number => cases hover
  | refused e => cases hover
  | ended pending number result =>
      cases hover
      obtain ⟨rfl, hfile⟩ := hkept.2 path rfl
      refine ⟨?_, event, hevent, Disk.readText?_of_at? hfile⟩
      rw [path?, hcall]
      rfl

/-- Whatever others do to the disk, different calls write to different paths; and if others leave
alone what is below the root, a path that a call has returned holds the event of that call. -/
theorem paths_of_reaches {disk : Disk} (hlength : events.length < Nat.pow 2 64)
    (h : (start root disk events).Reaches others s) :
    (∀ i j path other, i ≠ j → s.path? i = some path → s.path? j = some other →
      path.text ≠ other.text) ∧
    (Undisturbed others root → ∀ i path, s.result? i = some (.ok path) → s.path? i = some path ∧
      ∃ event, events[i]? = some event ∧ s.disk.readText? path = some event.pretty) := by
  have horderly := (orderly_start root disk events).reaches hlength h
  constructor
  · intro i j path other hij hi hj htext
    exact hij (index_eq_of_text_eq horderly hi hj htext)
  · intro hothers i path hresult
    exact (kept_of_reaches hlength hothers h).readText? horderly hresult

/-- Two calls at one moment: the second takes its number first, and the first writes first. -/
theorem paths_of_reaches_crossed :
    let root : Path := ⟨"events", []⟩
    let folder : Path := ⟨"events", ["20250131", "t"]⟩
    let first := folder.join "summary_event_20250131_235959_000_000001.json"
    let second := folder.join "summary_event_20250131_235959_000_000000.json"
    let event (kind : String) : Json :=
      .object [("taskId", .string "t"), ("type", .string kind)]
    let events := [event "click", event "input"]
    ∃ s, (start root {} events).Reaches (fun _ _ => False) s ∧
      s.result? 0 = some (.ok first) ∧ s.result? 1 = some (.ok second) ∧
      first.text ≠ second.text ∧ s.disk.readText? first = some (event "click").pretty ∧
      s.disk.readText? second = some (event "input").pretty := by
  intro root folder first second event events
  let moment : Moment := ⟨2025, 1, 31, 23, 59, 59, 0⟩
  let click : PendingSave := ⟨event "click", folder, moment⟩
  let input : PendingSave := ⟨event "input", folder, moment⟩
  let folders : Disk :=
    { tree := .folder [("events", .folder [("20250131", .folder [("t", .folder [])])])] }
  let half := (click.write 1 folders).1
  let whole := (input.write 0 half).1
  -- What is evaluated is closed only once the local definitions are opened.
  have hclick : Store.prepare root moment (event "click") {} = (folders, .ok click) := by
    dsimp only [root, moment, event, folders, click, folder]
    rfl
  have hinput : Store.prepare root moment (event "input") folders = (folders, .ok input) := by
    dsimp only [root, moment, event, folders, input, folder]
    rfl
  have hfirst : click.write 1 folders = (half, .ok first) := by
    dsimp only [moment, event, folders, click, folder, half, first]
    rfl
  have hsecond : input.write 0 half = (whole, .ok second) := by
    dsimp only [moment, event, folders, click, input, folder, half, whole, second]
    rfl
  clear_value whole half folders click input
  let state (next : UInt64) (disk : Disk) (one two : Progress) : Saves :=
    ⟨⟨root, next⟩, disk, [⟨event "click", one⟩, ⟨event "input", two⟩]⟩
  let s := state 2 whole (.ended click 1 (.ok first)) (.ended input 0 (.ok second))
  have h1 : Step (fun _ _ => False) (start root {} events)
      (state 0 folders (.prepared click) .waiting) :=
    @Step.prepare _ (start root {} events) 0 _ moment folders (.ok click) rfl hclick
  have h2 : Step (fun _ _ => False) (state 0 folders (.prepared click) .waiting)
      (state 0 folders (.prepared click) (.prepared input)) :=
    @Step.prepare _ (state 0 folders _ _) 1 _ moment folders (.ok input) rfl hinput
  have h3 : Step (fun _ _ => False) (state 0 folders (.prepared click) (.prepared input))
      (state 1 folders (.prepared click) (.numbered input 0)) :=
    @Step.takeNumber _ (state 0 folders _ _) 1 _ input ⟨root, 1⟩ 0 rfl rfl
  have h4 : Step (fun _ _ => False) (state 1 folders (.prepared click) (.numbered input 0))
      (state 2 folders (.numbered click 1) (.numbered input 0)) :=
    @Step.takeNumber _ (state 1 folders _ _) 0 _ click ⟨root, 2⟩ 1 rfl rfl
  have h5 : Step (fun _ _ => False) (state 2 folders (.numbered click 1) (.numbered input 0))
      (state 2 half (.ended click 1 (.ok first)) (.numbered input 0)) :=
    @Step.write _ (state 2 folders _ _) 0 _ click 1 half (.ok first) rfl hfirst
  have h6 : Step (fun _ _ => False)
      (state 2 half (.ended click 1 (.ok first)) (.numbered input 0)) s :=
    @Step.write _ (state 2 half _ _) 1 _ input 0 whole (.ok second) rfl hsecond
  have hreaches : (start root {} events).Reaches (fun _ _ => False) s :=
    (((((Relation.ReflTransGen.single h1).tail h2).tail h3).tail h4).tail h5).tail h6
  obtain ⟨hpaths, hfiles⟩ := paths_of_reaches (by decide : events.length < Nat.pow 2 64) hreaches
  obtain ⟨hfirst, _, hclick, hread⟩ := hfiles nofun 0 first rfl
  obtain ⟨hsecond, _, hinput, hreadSecond⟩ := hfiles nofun 1 second rfl
  cases hclick
  cases hinput
  exact ⟨s, hreaches, rfl, rfl, hpaths 0 1 _ _ nofun hfirst hsecond, hread, hreadSecond⟩

end Saves

end Retrace
