namespace StackLanguage

/-! Types of values. A type is a set of kinds kept as bits: one kind is the type of its
values, and `any` has all four. -/

structure ValueType where
  bits : Nat
deriving DecidableEq, Repr, Inhabited

namespace ValueType

def string : ValueType := ⟨1⟩
def bool : ValueType := ⟨2⟩
def int : ValueType := ⟨4⟩
def float : ValueType := ⟨8⟩
def any : ValueType := ⟨15⟩

def kinds : List (String × ValueType) :=
  [("string", string), ("bool", bool), ("int", int), ("float", float)]

def named : List (String × ValueType) := kinds ++ [("any", any)]

def ofName? (name : String) : Option ValueType :=
  named.lookup name

def accepts (expected actual : ValueType) : Bool :=
  actual.bits &&& expected.bits = actual.bits

/-- The name of a type; a set of kinds without one lists the names of its kinds. -/
def name (type : ValueType) : String :=
  match named.find? (·.2 = type) with
  | some (name, _) => name
  | none =>
      match kinds.filter fun kind => decide (type.bits &&& kind.2.bits ≠ 0) with
      | [] => "none"
      | present => "|".intercalate (present.map (·.1))

def isNumber (type : ValueType) : Bool :=
  type = int || type = float

theorem accepts_refl (type : ValueType) : type.accepts type = true := by
  simp [accepts]

theorem name_of_mem_named : ∀ entry ∈ named, entry.2.name = entry.1 := by
  decide

theorem ofName?_name {name : String} {type : ValueType}
    (found : ofName? name = some type) : type.name = name := by
  obtain ⟨front, back, split, -⟩ := List.lookup_eq_some_iff.mp found
  have isNamed : (name, type) ∈ named :=
    split ▸ List.mem_append_right front List.mem_cons_self
  exact name_of_mem_named (name, type) isNamed

end ValueType

end StackLanguage
