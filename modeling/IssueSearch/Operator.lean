/-!
# Comparison operators

The operators that may stand between the name and the value of a filter.  An
operator has a name, used in messages and records, and one or more symbols.

* `Operator.name`, `Operator.symbol`: the two written forms;
* `Operator.ofSymbol?`: every symbol that stands for an operator;
* `Operator.leadingSymbol`: the longest symbol at the start of a text;
* `ofSymbol?_symbol`: reading the canonical symbol gives the operator back;
* `ofSymbol?_leadingSymbol_isSome`: a leading symbol always denotes one.
-/

namespace IssueSearch

/-- A comparison between the attribute of an issue and a value. -/
inductive Operator where
  | eq
  | gt
  | lt
  | gte
  | lte
  | ne
  deriving Repr, DecidableEq, Inhabited

namespace Operator

/-- All operators, in the order in which tables list them. -/
def all : List Operator :=
  [eq, gt, lt, gte, lte, ne]

/-- The name of an operator in messages and records. -/
def name : Operator → String
  | eq => "eq"
  | gt => "gt"
  | lt => "lt"
  | gte => "gte"
  | lte => "lte"
  | ne => "ne"

/-- The symbol with which an operator is written. -/
def symbol : Operator → String
  | eq => ""
  | gt => ">"
  | lt => "<"
  | gte => ">="
  | lte => "<="
  | ne => "!"

/-- The operator that a symbol stands for. -/
def ofSymbol? : List Char → Option Operator
  | [] => some eq
  | ['='] => some eq
  | ['>'] => some gt
  | ['<'] => some lt
  | ['>', '='] => some gte
  | ['<', '='] => some lte
  | ['!'] => some ne
  | ['!', '='] => some ne
  | _ => none

/-- The operator with a name. -/
def ofName? (text : String) : Option Operator :=
  all.find? (·.name == text)

/-- The longest operator symbol at the start of a text; nothing when there is
none. -/
def leadingSymbol : List Char → List Char
  | '>' :: '=' :: _ => ['>', '=']
  | '<' :: '=' :: _ => ['<', '=']
  | '!' :: '=' :: _ => ['!', '=']
  | '>' :: _ => ['>']
  | '<' :: _ => ['<']
  | '!' :: _ => ['!']
  | '=' :: _ => ['=']
  | _ => []

/-! ## Laws -/

/-- The canonical symbol reads back as its operator. -/
theorem ofSymbol?_symbol (op : Operator) : ofSymbol? op.symbol.toList = some op := by
  cases op <;> decide

/-- The name reads back as its operator. -/
theorem ofName?_name (op : Operator) : ofName? op.name = some op := by
  cases op <;> decide

/-- A leading symbol is one of the eight spellings. -/
theorem leadingSymbol_cases (text : List Char) :
    leadingSymbol text ∈
      [['>', '='], ['<', '='], ['!', '='], ['>'], ['<'], ['!'], ['='], []] := by
  unfold leadingSymbol
  split <;> simp

/-- Every leading symbol denotes an operator. -/
theorem ofSymbol?_leadingSymbol_isSome (text : List Char) :
    (ofSymbol? (leadingSymbol text)).isSome = true := by
  have h := leadingSymbol_cases text
  simp only [List.mem_cons, List.not_mem_nil, or_false] at h
  rcases h with h | h | h | h | h | h | h | h <;> rw [h] <;> rfl

/-- A leading symbol is the start of its text. -/
theorem leadingSymbol_append_drop (text : List Char) :
    leadingSymbol text ++ text.drop (leadingSymbol text).length = text := by
  unfold leadingSymbol
  split <;> rfl

end Operator

end IssueSearch
