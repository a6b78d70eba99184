import Retrace.Decoding.Basic
import Retrace.Proofs.Entries
import Retrace.Proofs.Json.Reading

/-!
What untyped decoding does with a document that stands for a value: it gives the value back, from
memory always, and from text as long as the value does not nest too deep.
-/

namespace Retrace

namespace Decoding

section Outcomes

variable {ε α β : Type}

theorem toOption_eq_some_iff {x : Except ε α} {a : α} : x.toOption = some a ↔ x = .ok a := by
  cases x <;> simp [Except.toOption]

theorem bind_eq_ok_iff {x : Except ε α} {f : α → Except ε β} {b : β} :
    x >>= f = .ok b ↔ ∃ a, x = .ok a ∧ f a = .ok b := by
  cases x <;> simp [bind, Except.bind]

theorem exists_map_iff {x : Except ε α} {f : α → β} :
    (∃ b, x.map f = .ok b) ↔ ∃ a, x = .ok a := by
  cases x <;> simp [Except.map]

theorem toOption_bind (x : Except ε α) (f : α → Except ε β) :
    (x >>= f).toOption = x.toOption.bind fun a => (f a).toOption := by
  cases x <;> rfl

theorem toOption_map (x : Except ε α) (f : α → β) :
    (x.map f).toOption = x.toOption.map f := by
  cases x <;> rfl

theorem mapM_eq_ok {f : α → Except ε β} {g : α → β} {list : List α}
    (h : ∀ a ∈ list, f a = .ok (g a)) : list.mapM f = .ok (list.map g) := by
  induction list with
  | nil => rfl
  | cons a rest ih =>
      rw [List.mapM_cons, h a List.mem_cons_self, ih fun b hb => h b (List.mem_cons_of_mem _ hb)]
      rfl

theorem exists_of_mem_mapM {f : α → Except ε β} {list : List α} {found : List β}
    (h : list.mapM f = .ok found) {b : β} (hb : b ∈ found) : ∃ a ∈ list, f a = .ok b := by
  induction list generalizing found with
  | nil =>
      cases h
      cases hb
  | cons a rest ih =>
      rw [List.mapM_cons] at h
      cases ha : f a with
      | error e =>
          rw [ha] at h
          cases h
      | ok first =>
          cases hrest : rest.mapM f with
          | error e =>
              rw [ha, hrest] at h
              cases h
          | ok others =>
              rw [ha, hrest] at h
              cases h
              rcases List.mem_cons.mp hb with rfl | hb
              · exact ⟨a, List.mem_cons_self, ha⟩
              · obtain ⟨other, hmem, hother⟩ := ih hrest hb
                exact ⟨other, List.mem_cons_of_mem _ hmem, hother⟩

theorem exists_ok_of_mapM {f : α → Except ε β} {list : List α} {found : List β}
    (h : list.mapM f = .ok found) : ∀ a ∈ list, ∃ b, f a = .ok b := by
  induction list generalizing found with
  | nil => exact fun a ha => absurd ha List.not_mem_nil
  | cons a rest ih =>
      rw [List.mapM_cons] at h
      cases ha : f a with
      | error e =>
          rw [ha] at h
          cases h
      | ok first =>
          cases hrest : rest.mapM f with
          | error e =>
              rw [ha, hrest] at h
              cases h
          | ok others => exact List.forall_mem_cons.mpr ⟨⟨first, ha⟩, ih hrest⟩

theorem exists_error_of_mapM {f : α → Except ε β} {list : List α} {e : ε}
    (h : list.mapM f = .error e) : ∃ a ∈ list, f a = .error e := by
  induction list with
  | nil => cases h
  | cons a rest ih =>
      rw [List.mapM_cons] at h
      cases ha : f a with
      | error other =>
          rw [ha] at h
          cases h
          exact ⟨a, List.mem_cons_self, ha⟩
      | ok first =>
          cases hrest : rest.mapM f with
          | error other =>
              rw [ha, hrest] at h
              cases h
              obtain ⟨b, hb, hother⟩ := ih hrest
              exact ⟨b, List.mem_cons_of_mem _ hb, hother⟩
          | ok others =>
              rw [ha, hrest] at h
              cases h

end Outcomes

/-- Values of the given depth may be decoded. -/
def Origin.Admits : Origin → Nat → Prop
  | .text levels, depth => depth ≤ levels
  | .value, _ => True

theorem Origin.Admits.mono {origin : Origin} {m n : Nat} (h : origin.Admits n) (hmn : m ≤ n) :
    origin.Admits m := by
  cases origin with
  | text levels => exact Nat.le_trans hmn h
  | value => trivial

theorem Origin.Admits.enter {origin : Origin} {depth : Nat} (h : origin.Admits (depth + 1)) :
    ∃ inner, origin.enter = .ok inner ∧ inner.Admits depth := by
  cases origin with
  | text levels =>
      cases levels with
      | zero => exact absurd h (Nat.not_succ_le_zero depth)
      | succ levels => exact ⟨_, rfl, Nat.le_of_succ_le_succ h⟩
  | value => exact ⟨_, rfl, trivial⟩

theorem jsonItems_ofItems {origin : Origin} {items : List Json}
    (h : ∀ v ∈ items, json origin (Document.ofJson v) = .ok v) :
    jsonItems origin (Document.ofItems items) = .ok items := by
  induction items with
  | nil => rfl
  | cons v rest ih =>
      have hv := h v List.mem_cons_self
      have hrest := ih fun w hw => h w (List.mem_cons_of_mem _ hw)
      simp only [Document.ofItems, jsonItems, hv, hrest, bind, Except.bind]
      rfl

theorem jsonMembers_ofMembers {origin : Origin} {done members : Json.Members}
    (hn : ((done ++ members).map Prod.fst).Nodup)
    (h : ∀ m ∈ members, json origin (Document.ofJson m.2) = .ok m.2) :
    jsonMembers origin done (Document.ofMembers members) = .ok (done ++ members) := by
  induction members generalizing done with
  | nil => simp [Document.ofMembers, jsonMembers]
  | cons m rest ih =>
      obtain ⟨key, v⟩ := m
      have hv := h (key, v) List.mem_cons_self
      have hkey : key ∉ done.map Prod.fst := by
        rw [List.map_append, List.map_cons] at hn
        intro hmem
        exact (List.nodup_append.mp hn).2.2 key hmem key List.mem_cons_self rfl
      have hassoc : done ++ (key, v) :: rest = done ++ [(key, v)] ++ rest := by simp
      rw [hassoc] at hn ⊢
      have hrest := ih hn fun w hw => h w (List.mem_cons_of_mem _ hw)
      simp only [Document.ofMembers, jsonMembers, hv, bind, Except.bind,
        Entries.set_of_notMem hkey, hrest]

/-- A well-formed value is decoded as itself. -/
theorem json_ofJson {v : Json} (hw : v.WellFormed) {origin : Origin}
    (ha : origin.Admits v.depth) : json origin (Document.ofJson v) = .ok v := by
  induction v using Json.induct generalizing origin with
  | null | bool _ | number _ | string _ => rfl
  | array items ih =>
      obtain ⟨inner, henter, hinner⟩ := ha.enter
      have hw := Json.itemsWellFormed_iff.mp hw
      have hdepth := Json.itemsDepth_le_iff.mp (Nat.le_refl (Json.itemsDepth items))
      have hitems : jsonItems inner (Document.ofItems items) = .ok items :=
        jsonItems_ofItems fun v hv => ih v hv (hw v hv) (hinner.mono (hdepth v hv))
      simp only [Document.ofJson, json, henter, hitems, bind, Except.bind]
      rfl
  | object members ih =>
      obtain ⟨inner, henter, hinner⟩ := ha.enter
      have hm := Json.membersWellFormed_iff.mp hw.2
      have hdepth := Json.membersDepth_le_iff.mp (Nat.le_refl (Json.membersDepth members))
      have hmembers : jsonMembers inner [] (Document.ofMembers members) = .ok members :=
        jsonMembers_ofMembers hw.1 fun m hmem =>
          ih m hmem (hm m hmem) (hinner.mono (hdepth m hmem))
      simp only [Document.ofJson, json, henter, hmembers, bind, Except.bind]
      rfl

end Decoding

end Retrace
