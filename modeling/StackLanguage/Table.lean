namespace StackLanguage

/-! Tables from names to entries, with one entry at most for each name. -/

structure Table (Entry : Type) where
  entries : List (String × Entry)
deriving DecidableEq, Inhabited

namespace Table

variable {Entry : Type}

def empty : Table Entry := ⟨[]⟩

def get? (table : Table Entry) (name : String) : Option Entry :=
  table.entries.lookup name

def contains (table : Table Entry) (name : String) : Bool :=
  (table.get? name).isSome

def set (table : Table Entry) (name : String) (entry : Entry) : Table Entry :=
  ⟨(name, entry) :: table.entries.filter (·.1 ≠ name)⟩

def map {Other : Type} (change : Entry → Other) (table : Table Entry) : Table Other :=
  ⟨table.entries.map fun (name, entry) => (name, change entry)⟩

@[simp] theorem get?_empty (name : String) : (empty : Table Entry).get? name = none := rfl

theorem lookup_filter_ne {name other : String} (different : other ≠ name)
    (entries : List (String × Entry)) :
    (entries.filter (·.1 ≠ name)).lookup other = entries.lookup other := by
  induction entries with
  | nil => rfl
  | cons head rest induction =>
    obtain ⟨key, value⟩ := head
    by_cases equal : key = name
    · subst equal
      rw [List.filter_cons_of_neg (by simp), induction, List.lookup_cons,
        beq_eq_false_iff_ne.2 different]
    · rw [List.filter_cons_of_pos (by simpa using equal), List.lookup_cons,
        List.lookup_cons, induction]

@[simp] theorem get?_set (table : Table Entry) (name other : String) (entry : Entry) :
    (table.set name entry).get? other = if other = name then some entry
    else table.get? other := by
  simp only [get?, set, List.lookup_cons]
  by_cases same : other = name
  · simp [same]
  · rw [beq_eq_false_iff_ne.2 same, lookup_filter_ne same, if_neg same]

@[simp] theorem get?_map {Other : Type} (change : Entry → Other) (table : Table Entry)
    (name : String) : (table.map change).get? name = (table.get? name).map change := by
  simp only [get?, map]
  induction table.entries with
  | nil => rfl
  | cons head rest induction =>
    obtain ⟨key, value⟩ := head
    by_cases same : name = key
    · simp [same]
    · simp [List.lookup_cons, beq_eq_false_iff_ne.2 same, induction]

@[simp] theorem map_set {Other : Type} (change : Entry → Other) (table : Table Entry)
    (name : String) (entry : Entry) :
    (table.set name entry).map change = (table.map change).set name (change entry) := by
  simp [map, set, List.filter_map, Function.comp_def]

end Table

end StackLanguage
