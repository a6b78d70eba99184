import Mathlib.Logic.Relation
import Retrace.Store.Saving

/-!
Saves of one store that are under way at the same time. Each takes its three steps when it likes,
and in between others may change the disk.
-/

namespace Retrace

open Files

/-- How far a save has come. -/
inductive Progress where
  | waiting
  | prepared (pending : PendingSave)
  | numbered (pending : PendingSave) (number : UInt64)
  | refused (error : StoreError)
  | ended (pending : PendingSave) (number : UInt64) (result : Except StoreError Path)

namespace Progress

def ofPrepared : Except StoreError PendingSave → Progress
  | .ok pending => .prepared pending
  | .error e => .refused e

def number? : Progress → Option UInt64
  | .numbered _ number | .ended _ number _ => some number
  | _ => none

/-- The file that a save with a number writes. -/
def path? : Progress → Option Path
  | .numbered pending number | .ended pending number _ => some (pending.path number)
  | _ => none

theorem number?_of_path? {progress : Progress} {path : Path} (h : progress.path? = some path) :
    ∃ (folder : Path) (moment : Moment) (number : UInt64),
      path = folder.join (eventFileName moment number) ∧ progress.number? = some number := by
  cases progress with
  | waiting => cases h
  | prepared pending => cases h
  | refused e => cases h
  | numbered pending number => exact ⟨_, _, number, (Option.some.inj h).symm, rfl⟩
  | ended pending number result => exact ⟨_, _, number, (Option.some.inj h).symm, rfl⟩

/-- What a save that is over came to. -/
def result? : Progress → Option (Except StoreError Path)
  | .refused e => some (.error e)
  | .ended _ _ result => some result
  | _ => none

end Progress

/-- A call to save an event. -/
structure SaveCall where
  event : Json
  progress : Progress := .waiting

/-- A store and its disk, with all calls to save. -/
structure Saves where
  store : Store
  disk : Disk
  calls : List SaveCall

namespace Saves

def start (root : Path) (disk : Disk) (events : List Json) : Saves :=
  { store := { root }, disk, calls := events.map fun event => { event } }

/-- One step of one call, or of others who may change the disk as it is said. -/
inductive Step (others : Disk → Disk → Prop) : Saves → Saves → Prop
  | prepare {s : Saves} {i : Nat} {event : Json} (moment : Moment) {disk : Disk}
      {outcome : Except StoreError PendingSave}
      (hcall : s.calls[i]? = some ⟨event, .waiting⟩)
      (hprepare : Store.prepare s.store.root moment event s.disk = (disk, outcome)) :
      Step others s { s with disk, calls := s.calls.set i ⟨event, .ofPrepared outcome⟩ }
  | takeNumber {s : Saves} {i : Nat} {event : Json} {pending : PendingSave} {store : Store}
      {number : UInt64}
      (hcall : s.calls[i]? = some ⟨event, .prepared pending⟩)
      (htake : s.store.takeNumber = (store, number)) :
      Step others s { s with store, calls := s.calls.set i ⟨event, .numbered pending number⟩ }
  | write {s : Saves} {i : Nat} {event : Json} {pending : PendingSave} {number : UInt64}
      {disk : Disk} {result : Except StoreError Path}
      (hcall : s.calls[i]? = some ⟨event, .numbered pending number⟩)
      (hwrite : pending.write number s.disk = (disk, result)) :
      Step others s { s with disk, calls := s.calls.set i ⟨event, .ended pending number result⟩ }
  | other {s : Saves} {disk : Disk} (hother : others s.disk disk) :
      Step others s { s with disk }

/-- The file that a call writes, once it has its number. -/
def path? (s : Saves) (i : Nat) : Option Path := s.calls[i]?.bind fun call => call.progress.path?

/-- What a call came to, once it is over. -/
def result? (s : Saves) (i : Nat) : Option (Except StoreError Path) :=
  s.calls[i]?.bind fun call => call.progress.result?

/-- Any number of steps, in any order. -/
def Reaches (others : Disk → Disk → Prop) : Saves → Saves → Prop :=
  Relation.ReflTransGen (Step others)

/-- Nothing that the others do can be seen below the root. -/
def Undisturbed (others : Disk → Disk → Prop) (root : Path) : Prop :=
  ∀ disk later, others disk later → ∀ route, later.at? (root.append route) =
    disk.at? (root.append route)

variable {others : Disk → Disk → Prop}

/-- The three steps of a call in a row are a save. -/
theorem reaches_save {s : Saves} {i : Nat} {event : Json}
    (hcall : s.calls[i]? = some ⟨event, .waiting⟩) (moment : Moment) {store : Store}
    {disk : Disk} {result : Except StoreError Path}
    (hsave : s.store.save moment event s.disk = (store, disk, result)) :
    ∃ progress, progress.result? = some result ∧
      s.Reaches others { store, disk, calls := s.calls.set i ⟨event, progress⟩ } := by
  obtain ⟨hi, -⟩ := List.getElem?_eq_some_iff.mp hcall
  unfold Store.save at hsave
  cases hprepare : Store.prepare s.store.root moment event s.disk with
  | mk folders outcome =>
      have hfirst : Step others s
          ⟨s.store, folders, s.calls.set i ⟨event, .ofPrepared outcome⟩⟩ :=
        .prepare moment hcall hprepare
      rw [hprepare] at hsave
      cases outcome with
      | error e =>
          cases hsave
          exact ⟨.refused e, rfl, .single hfirst⟩
      | ok pending =>
          have hsecond : Step others
              ⟨s.store, folders, s.calls.set i ⟨event, .prepared pending⟩⟩
              ⟨s.store.takeNumber.1, folders, _⟩ :=
            .takeNumber (List.getElem?_set_self hi) rfl
          rw [List.set_set] at hsecond
          cases hwrite : pending.write s.store.takeNumber.2 folders with
          | mk last written =>
              have hthird : Step others
                  ⟨s.store.takeNumber.1, folders,
                    s.calls.set i ⟨event, .numbered pending s.store.takeNumber.2⟩⟩
                  ⟨s.store.takeNumber.1, last, _⟩ :=
                .write (List.getElem?_set_self hi) hwrite
              rw [List.set_set] at hthird
              dsimp only at hsave
              rw [hwrite] at hsave
              cases hsave
              exact ⟨.ended pending s.store.takeNumber.2 _, rfl,
                ((Relation.ReflTransGen.single hfirst).tail hsecond).tail hthird⟩

end Saves

end Retrace
