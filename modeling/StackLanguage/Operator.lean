namespace StackLanguage

/-! The twelve operators. -/

inductive Comparison where
  | less
  | greater
  | lessOrEqual
  | greaterOrEqual
deriving DecidableEq, Repr

def Comparison.holds : Comparison → Ordering → Bool
  | less, ordering => ordering.isLT
  | greater, ordering => ordering.isGT
  | lessOrEqual, ordering => ordering.isLE
  | greaterOrEqual, ordering => ordering.isGE

inductive Arithmetic where
  | add
  | subtract
  | multiply
  | divide
  | remainder
  | power
deriving DecidableEq, Repr

inductive Operator where
  | equal
  | notEqual
  | comparison (comparison : Comparison)
  | arithmetic (operation : Arithmetic)
deriving DecidableEq, Repr

namespace Operator

def all : List Operator :=
  [.equal, .notEqual, .comparison .less, .comparison .greater, .comparison .lessOrEqual,
   .comparison .greaterOrEqual, .arithmetic .add, .arithmetic .subtract,
   .arithmetic .multiply, .arithmetic .divide, .arithmetic .remainder, .arithmetic .power]

def symbol : Operator → String
  | equal => "=="
  | notEqual => "!="
  | comparison .less => "<"
  | comparison .greater => ">"
  | comparison .lessOrEqual => "<="
  | comparison .greaterOrEqual => ">="
  | arithmetic .add => "+"
  | arithmetic .subtract => "-"
  | arithmetic .multiply => "*"
  | arithmetic .divide => "/"
  | arithmetic .remainder => "%"
  | arithmetic .power => "**"

def ofSymbol? (symbol : String) : Option Operator :=
  all.find? (·.symbol = symbol)

theorem mem_all (operator : Operator) : operator ∈ all := by
  rcases operator with _ | _ | ⟨⟨⟩⟩ | ⟨⟨⟩⟩ <;> decide

theorem symbol_of_ofSymbol? {symbol : String} {operator : Operator}
    (found : ofSymbol? symbol = some operator) : operator.symbol = symbol := by
  simpa using List.find?_some found

theorem ofSymbol?_symbol (operator : Operator) :
    ofSymbol? operator.symbol = some operator := by
  rcases operator with _ | _ | ⟨⟨⟩⟩ | ⟨⟨⟩⟩ <;> rfl

end Operator

end StackLanguage
