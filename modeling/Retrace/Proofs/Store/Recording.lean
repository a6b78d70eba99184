import Retrace.Proofs.Decoding.Origins
import Retrace.Proofs.Files.Growth
import Retrace.Proofs.Store.Chronology

/-!
Runs of saves on one store. What lies below the root after a run is the file of each save that went
well, in a folder for its day and task; a save that fails leaves at most empty folders behind.
-/

namespace Retrace

open Files Files.Node

theorem recordedTaskId_eq_ok_iff {event : Json} {id : String} :
    recordedTaskId event = .ok id ↔
      event.get? "taskId" = some (.string id) ∧ ValidTaskId id := by
  unfold recordedTaskId
  split
  · next found hfound =>
      rw [hfound, Option.some.injEq, Json.string.injEq]
      cases hv : requireTaskId found with
      | error e =>
          refine ⟨nofun, ?_⟩
          rintro ⟨rfl, hid⟩
          rw [requireTaskId_eq_ok_iff.mpr hid] at hv
          cases hv
      | ok _ =>
          have hid := requireTaskId_eq_ok_iff.mp hv
          constructor
          · intro h
            cases h
            exact ⟨rfl, hid⟩
          · rintro ⟨rfl, -⟩
            rfl
  · next hne =>
      refine ⟨nofun, ?_⟩
      rintro ⟨hget, -⟩
      exact absurd hget (hne id)

/-- A store and its disk, with what the saves so far have come to. -/
structure Recording where
  store : Store
  disk : Disk
  /-- The saved events and their files, in the order of the saves. -/
  saved : List (Path × Json) := []
  /-- How many saves have taken a number. -/
  taken : Nat := 0

namespace Recording

def start (root : Path) (disk : Disk) : Recording := { store := { root }, disk }

def save (r : Recording) (moment : Moment) (event : Json) : Recording :=
  let result := r.store.save moment event r.disk
  { store := result.1
    disk := result.2.1
    saved := r.saved ++ (result.2.2.toOption.map fun path => (path, event)).toList
    taken := if result.1.next = r.store.next then r.taken else r.taken + 1 }

def saveAll (r : Recording) (calls : List (Moment × Json)) : Recording :=
  calls.foldl (fun r call => r.save call.1 call.2) r

theorem saveAll_append (r : Recording) (calls more : List (Moment × Json)) :
    r.saveAll (calls ++ more) = (r.saveAll calls).saveAll more :=
  List.foldl_append

/-- Saves only add to what is saved. -/
theorem saved_saveAll (r : Recording) (calls : List (Moment × Json)) :
    r.saved <+: (r.saveAll calls).saved := by
  induction calls generalizing r with
  | nil => exact List.prefix_rfl
  | cons call rest ih =>
      have hfirst : r.saved <+: (r.save call.1 call.2).saved := List.prefix_append r.saved _
      exact hfirst.trans (ih (r.save call.1 call.2))

/-- What a save can come to. -/
inductive Outcome (r : Recording) (moment : Moment) (event : Json) : Recording → Prop
  | refused : Outcome r moment event r
  | noFolder {id : String} {disk : Disk}
      (hdisk : disk = (r.disk.makeFolders (Store.taskFolder r.store.root moment id)).1) :
      Outcome r moment event { r with disk }
  | noFile {id : String} {disk : Disk}
      (hdisk : disk = (r.disk.makeFolders (Store.taskFolder r.store.root moment id)).1) :
      Outcome r moment event
        { r with store := ⟨r.store.root, r.store.next + 1⟩, disk, taken := r.taken + 1 }
  | saved {id : String} {disk later : Disk} {path : Path}
      (hid : recordedTaskId event = .ok id)
      (hdisk : disk = (r.disk.makeFolders (Store.taskFolder r.store.root moment id)).1)
      (hpath : path = (Store.taskFolder r.store.root moment id).join
        (eventFileName moment r.store.next))
      (hwrite : disk.writeText path event.pretty = (later, .ok ())) :
      Outcome r moment event
        { store := ⟨r.store.root, r.store.next + 1⟩, disk := later,
          saved := r.saved ++ [(path, event)], taken := r.taken + 1 }

theorem next_takeNumber_ne (store : Store) : store.takeNumber.1.next ≠ store.next := by
  have hne : ∀ n : UInt64, n + 1 ≠ n := by
    intro n h
    have hnat := congrArg UInt64.toNat h
    have hlt := n.toNat_lt
    rw [UInt64.toNat_add, UInt64.toNat_one] at hnat
    omega
  exact hne store.next

theorem disk_of_write_error {disk later : Disk} {path : Path} {content : ByteArray}
    {failure : Failure} (h : disk.write path content = (later, .error failure)) :
    later = disk := by
  unfold Disk.write at h
  split at h
  · cases h
    rfl
  · split at h <;> cases h
    rfl

theorem outcome_save (r : Recording) (moment : Moment) (event : Json) :
    Outcome r moment event (r.save moment event) := by
  unfold save Store.save Store.prepare
  cases hid : recordedTaskId event with
  | error e => simpa [Except.toOption] using Outcome.refused
  | ok id =>
      dsimp only
      cases hmade : r.disk.makeFolders (Store.taskFolder r.store.root moment id) with
      | mk disk made =>
          have hdisk : disk =
              (r.disk.makeFolders (Store.taskFolder r.store.root moment id)).1 := by
            rw [hmade]
          cases made with
          | error failure => simpa [Except.toOption] using Outcome.noFolder hdisk
          | ok _ =>
              have hnext := next_takeNumber_ne r.store
              simp only [PendingSave.write, PendingSave.path, Store.takeNumber] at hnext ⊢
              cases hwrite : disk.writeText ((Store.taskFolder r.store.root moment id).join
                  (eventFileName moment r.store.next)) event.pretty with
              | mk later written =>
                  cases written with
                  | error failure =>
                      obtain rfl := disk_of_write_error hwrite
                      simpa [Except.toOption, hnext] using Outcome.noFile hdisk
                  | ok _ =>
                      simpa [Except.toOption, hnext] using Outcome.saved hid hdisk rfl hwrite

end Recording

end Retrace
