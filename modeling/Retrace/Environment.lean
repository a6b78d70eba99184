/-!
The variables that a program is started with. A variable is the text `name=value`, and what is asked
for is looked for among these texts: `get?` gives what follows a name and an equals sign. So a name
that holds an equals sign reaches into a value, and without one it means the variable of that name
(`get?_setIfAbsent`).
-/

namespace Retrace

abbrev Environment := List (String × String)

namespace Environment

/-- What follows a name and an equals sign. -/
def valueAfter? : List Char → List Char → Option (List Char)
  | [], '=' :: value => some value
  | c :: name, d :: text => if c = d then valueAfter? name text else none
  | _, _ => none

/-- A variable as the text that is searched. -/
def entryText (entry : String × String) : List Char := entry.1.toList ++ '=' :: entry.2.toList

/-- The value that a name stands for. The first text that starts with the name answers, and nothing
stands under the empty name. -/
def get? (env : Environment) (name : String) : Option String :=
  if name = "" then none
  else (env.findSome? fun entry => valueAfter? name.toList (entryText entry)).map String.ofList

/-- Sets a variable that is not set yet. -/
def setIfAbsent (env : Environment) (name value : String) : Environment :=
  match env.get? name with
  | some _ => env
  | none => env ++ [(name, value)]

/-- A name without an equals sign stands for its own variable only. -/
theorem valueAfter?_append {a b value : List Char} (ha : '=' ∉ a) (hb : '=' ∉ b) :
    valueAfter? a (b ++ '=' :: value) = if a = b then some value else none := by
  induction a generalizing b with
  | nil =>
      cases b with
      | nil => simp [valueAfter?]
      | cons c b =>
          have h : c ≠ '=' := fun h => hb (h ▸ List.mem_cons_self)
          simp [valueAfter?, h]
  | cons d a ih =>
      cases b with
      | nil =>
          have h : d ≠ '=' := fun h => ha (h ▸ List.mem_cons_self)
          simp [valueAfter?, h]
      | cons c b =>
          have h := @ih b (fun h => ha (List.mem_cons_of_mem _ h)) fun h =>
            hb (List.mem_cons_of_mem _ h)
          by_cases hdc : d = c
          · simp [valueAfter?, hdc, h]
          · simp [valueAfter?, hdc]

theorem get?_setIfAbsent {env : Environment} {key name value : String} (hkey : '=' ∉ key.toList)
    (hname : '=' ∉ name.toList) (hne : name ≠ "") :
    (env.setIfAbsent name value).get? key =
      (env.get? key).or (if key = name then some value else none) := by
  unfold setIfAbsent
  split
  · next found h =>
      by_cases hk : key = name
      · simp [hk, h]
      · simp [hk]
  · have hv : valueAfter? key.toList (entryText (name, value)) =
        if key = name then some value.toList else none := by
      simpa [entryText, String.toList_inj] using valueAfter?_append hkey hname
    by_cases hk : key = ""
    · simp [get?, hk, hne.symm]
    · simp only [get?, hk, if_false, List.findSome?_append, List.findSome?_cons, hv]
      by_cases hkn : key = name
      · cases env.findSome? fun entry => valueAfter? key.toList (entryText entry) <;> simp [hkn]
      · simp [hkn]

end Environment

end Retrace
