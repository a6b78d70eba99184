import Retrace.Decimal.Double

/-!
JSON values. An object is the list of its members in the order in which their keys were first
seen. `WellFormed` says what every reader guarantees: keys differ, and integers fit 64 bits.
-/

namespace Retrace

open Decimal

inductive Number where
  | integer (i : Int)
  | double (d : Double)
deriving DecidableEq, Repr

inductive Json where
  | null
  | bool (b : Bool)
  | number (n : Number)
  | string (s : String)
  | array (items : List Json)
  | object (members : List (String × Json))

namespace Number

/-- The integers that stay integers: those of 64 bits, signed or not. -/
def InRange (i : Int) : Prop := -(Nat.pow 2 63 : Nat) ≤ i ∧ i < (Nat.pow 2 64 : Nat)

instance (i : Int) : Decidable (InRange i) := inferInstanceAs (Decidable (_ ∧ _))

end Number

namespace Json

abbrev Members := List (String × Json)

instance : Inhabited Json := ⟨.null⟩

mutual

def beq : Json → Json → Bool
  | .null, .null => true
  | .bool a, .bool b => a == b
  | .number a, .number b => a == b
  | .string a, .string b => a == b
  | .array as, .array bs => beqItems as bs
  | .object as, .object bs => beqMembers as bs
  | _, _ => false

def beqItems : List Json → List Json → Bool
  | [], [] => true
  | a :: as, b :: bs => beq a b && beqItems as bs
  | _, _ => false

def beqMembers : List (String × Json) → List (String × Json) → Bool
  | [], [] => true
  | (k, a) :: as, (l, b) :: bs => k == l && beq a b && beqMembers as bs
  | _, _ => false

end

instance : BEq Json := ⟨beq⟩

mutual

/-- The number of arrays and objects around the innermost value. -/
def depth : Json → Nat
  | .array items => itemsDepth items + 1
  | .object members => membersDepth members + 1
  | _ => 0

def itemsDepth : List Json → Nat
  | [] => 0
  | v :: rest => max (depth v) (itemsDepth rest)

def membersDepth : List (String × Json) → Nat
  | [] => 0
  | (_, v) :: rest => max (depth v) (membersDepth rest)

end

mutual

def WellFormed : Json → Prop
  | .number (.integer i) => Number.InRange i
  | .array items => ItemsWellFormed items
  | .object members => (members.map Prod.fst).Nodup ∧ MembersWellFormed members
  | _ => True

def ItemsWellFormed : List Json → Prop
  | [] => True
  | v :: rest => WellFormed v ∧ ItemsWellFormed rest

def MembersWellFormed : List (String × Json) → Prop
  | [] => True
  | (_, v) :: rest => WellFormed v ∧ MembersWellFormed rest

end

mutual

/-- No number in the value is a double. -/
def DoubleFree : Json → Prop
  | .number (.double _) => False
  | .array items => ItemsDoubleFree items
  | .object members => MembersDoubleFree members
  | _ => True

def ItemsDoubleFree : List Json → Prop
  | [] => True
  | v :: rest => DoubleFree v ∧ ItemsDoubleFree rest

def MembersDoubleFree : List (String × Json) → Prop
  | [] => True
  | (_, v) :: rest => DoubleFree v ∧ MembersDoubleFree rest

end

/-- The member of an object with the given key. -/
def get? (key : String) : Json → Option Json
  | .object members => members.lookup key
  | _ => none

def asString? : Json → Option String
  | .string s => some s
  | _ => none

end Json

end Retrace
