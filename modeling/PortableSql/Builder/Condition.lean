import PortableSql.Builder.Attached

/-!
Conditions as they are asked for, and the conditions they become.

A comparison with `in`, `not in`, `between` or `not between` becomes the condition of that name, and
a null compared with `=`, `is` or `is not` becomes a null check. The operators with `not` flip the
negation of the condition.
-/

namespace PortableSql

/-- A where-like or having-like condition as it is asked for. -/
inductive Filter (σ : Type) where
  | compare (column : Column σ) (operator : String) (value : Operand σ)
  | isIn (column : Column σ) (values : Operand σ)
  | null (column : Column σ)
  | between (column : Column σ) (low high : Operand σ)
  | exists (query : Operand σ)
  /-- A comparison for equality for each pair. -/
  | object (row : List (String × Operand σ))
  | raw (fragment : Fragment (Operand σ))
  | literal (value : Bool)

namespace Filter

/-- A comparison for equality. -/
def equal {σ : Type} (column : Column σ) (value : Operand σ) : Filter σ :=
  .compare column "=" value

/-- A column in a list of values; a single value is a list of its own. -/
def membership (column : Column Attached) :
    Operand Attached → Build (Option (Condition Attached))
  | .value (.array items) => return some (.isIn column (.value (.array items)))
  | .value v => return some (.isIn column (.value (.array [v])))
  | .undefined => do
    Build.fail .inOperand
    return none
  | query => return some (.isIn column query)

/-- A column between the two items of an array. -/
def range (column : Column Attached) : Operand Attached → Build (Option (Condition Attached))
  | .value (.array [low, high]) => return some (.between column (.value low) (.value high))
  | _ => do
    Build.fail .betweenBounds
    return none

/-- The condition of a comparison with a permitted operator, and whether the operator flips the
negation. -/
def comparison (column : Column Attached) (operator : Operator) (value : Operand Attached) :
    Build (Option (Bool × Condition Attached)) :=
  let word := operator.normalized
  if word = "in" ∨ word = "not in" then
    return (← membership column value).map fun condition => (word == "not in", condition)
  else if word = "between" ∨ word = "not between" then
    return (← range column value).map fun condition => (word == "not between", condition)
  else if value.isNull ∧ (word = "is" ∨ word = "is not" ∨ word = "=") then
    return some (word == "is not", .null column)
  else
    return some (false, .compare column operator value)

/-- A comparison as it is asked for. An operator that is not permitted leaves the operands alone. -/
def compared (target : Target) (column : Column Attached) (operator : String)
    (value : Operand Attached) : Build (Option (Bool × Condition Attached)) :=
  match Operator.parse operator with
  | .error fault => do
    Build.fail fault
    return none
  | .ok operator => do
    let column ← column.resolve target
    let value ← value.resolve target
    comparison column operator value

/-- The term of a condition, if there is one. -/
def term (connector : Connector) (negated : Bool) :
    Option (Bool × Condition Attached) → List (Term Attached)
  | some (flip, condition) => [⟨connector, negated ^^ flip, condition⟩]
  | none => []

/-- The comparisons of the pairs of a row, joined by `and`. -/
def pairTerms (target : Target) (negated : Bool) :
    List (String × Operand Attached) → Build (List (Term Attached))
  | [] => return []
  | (name, value) :: rest => do
    let condition ← compared target (.name name) "=" value
    return term .and negated condition ++ (← pairTerms target negated rest)

/-- The terms that a condition adds. All have one term at most, except that the pairs of an object
stand side by side unless they are joined by `or`; then they are a group. -/
def terms (target : Target) (connector : Connector) (negated : Bool) :
    Filter Attached → Build (List (Term Attached))
  | .compare column operator value =>
    return term connector negated (← compared target column operator value)
  | .isIn column values => do
    let column ← column.resolve target
    let values ← values.resolve target
    let condition ← membership column values
    return term connector negated (condition.map (false, ·))
  | .null column => return [⟨connector, negated, .null (← column.resolve target)⟩]
  | .between column low high => do
    let column ← column.resolve target
    let low ← low.resolve target
    let high ← high.resolve target
    return [⟨connector, negated, .between column low high⟩]
  | .exists query => do
    let query ← query.resolve target
    if query.isQuery then
      return [⟨connector, negated, .exists query⟩]
    else
      Build.fail .existsOperand
      return []
  | .object row => do
    let pairs ← pairTerms target negated row
    match connector with
    | .and => return pairs
    | .or => return if pairs.isEmpty then [] else [⟨.or, false, .group pairs⟩]
  | .raw fragment => return [⟨connector, negated, .raw (← fragment.resolve target)⟩]
  | .literal value => return [⟨connector, negated, .literal value⟩]

end Filter

end PortableSql
