import PortableSql.Dialect

/-!
What can be wrong with a statement.

A fault names its cause. Its kind and the text that reports it follow from the cause by
`Fault.kind` and `Fault.message`; no other place words a fault.
-/

namespace PortableSql

/-- Why a statement is refused. -/
inductive Fault where
  /-- A comparison operator that is not on the list of permitted ones, as written. -/
  | operator (text : String)
  /-- A template asks for more bindings than there are. -/
  | missingBindings (template : String) (given : Nat)
  /-- A template leaves bindings unused. -/
  | unusedBindings (template : String) (used given : Nat)
  /-- A template names a binding that is not there. -/
  | missingName (name template : String)
  /-- A binding in an identifier position is not text; the value is shown. -/
  | identifierNotText (shown : String)
  /-- An undefined operand where a value is needed. -/
  | undefinedOperand
  /-- An undefined cell of an insert for which there is no marker. -/
  | undefinedCell (column : String)
  /-- `between` without exactly two values. -/
  | betweenBounds
  /-- A name that no dialect has, in the form in which it was looked up. -/
  | unknownDialect (name : String)
  /-- A description that is not an object. -/
  | descriptionNotObject
  /-- A clause of a description with an argument of the wrong shape. -/
  | clauseShape (clause expected : String)
  /-- A clause that descriptions do not have. -/
  | unknownClause (clause : String)
  /-- `in` with an undefined operand. -/
  | inOperand
  /-- `exists` without a statement or fragment. -/
  | existsOperand
  /-- A union without a statement or fragment. -/
  | unionOperand
  /-- An insert from an operand that is neither a statement nor a fragment. -/
  | insertOperand
  /-- A group with conditions of both clauses. -/
  | mixedGroup
  /-- A statement that needs a table and has none. -/
  | noTable
  /-- An update that assigns nothing. -/
  | noAssignments
  /-- Several rows without columns, in a dialect that cannot write them. -/
  | severalEmptyRows (dialect : String)
  /-- A row without columns, in a dialect that needs a returning column to write it. -/
  | emptyRowColumn (dialect : String)
deriving DecidableEq

/-- The kinds of faults. -/
inductive FaultKind where
  /-- An operator that is not permitted. -/
  | operator
  /-- A template whose placeholders do not match its bindings. -/
  | template
  /-- A value of the wrong shape. -/
  | value
  /-- A part of a statement in a place that cannot hold it. -/
  | shape
deriving DecidableEq

namespace Fault

/-- The kind of a fault. -/
def kind : Fault → FaultKind
  | .operator _ => .operator
  | .missingBindings _ _ | .unusedBindings _ _ _ | .missingName _ _ | .identifierNotText _ =>
    .template
  | .undefinedOperand | .undefinedCell _ | .betweenBounds | .unknownDialect _
  | .descriptionNotObject | .clauseShape _ _ => .value
  | .unknownClause _ | .inOperand | .existsOperand | .unionOperand | .insertOperand | .mixedGroup
  | .noTable | .noAssignments | .severalEmptyRows _ | .emptyRowColumn _ => .shape

/-- What a fault says, without its kind. -/
def detail : Fault → String
  | .operator text => "The operator \"" ++ text ++ "\" is not permitted"
  | .missingBindings template given =>
    "\"" ++ template ++ "\" has more placeholders than the " ++ toString given ++ " bindings given"
  | .unusedBindings template used given =>
    "\"" ++ template ++ "\" uses " ++ toString used ++ " of the " ++ toString given
      ++ " bindings given"
  | .missingName name template =>
    "missing named binding \"" ++ name ++ "\" in \"" ++ template ++ "\""
  | .identifierNotText shown => "identifier binding must be text, got " ++ shown
  | .undefinedOperand => "undefined value in a value position"
  | .undefinedCell column => "undefined value for column \"" ++ column ++ "\" in an insert"
  | .betweenBounds => "between requires exactly two bound values"
  | .unknownDialect name => "unknown dialect \"" ++ name ++ "\""
  | .descriptionNotObject => "a statement description must be a JSON object"
  | .clauseShape clause expected => clause ++ " expects " ++ expected
  | .unknownClause clause => "unknown clause \"" ++ clause ++ "\""
  | .inOperand => "in requires a list, a sub-query or a raw fragment"
  | .existsOperand => "exists requires a sub-query or a raw fragment"
  | .unionOperand => "union requires a sub-query or a raw fragment"
  | .insertOperand => "insert requires rows, a sub-query or a raw fragment"
  | .mixedGroup => "a condition group mixes where and having conditions"
  | .noTable => "statement has no table"
  | .noAssignments => "update has no assignments"
  | .severalEmptyRows dialect => dialect ++ " cannot insert several rows without columns"
  | .emptyRowColumn dialect =>
    dialect ++ " needs a returning column to insert a row without columns"

/-- The report of a fault: its kind, unless the detail speaks for itself, and its detail. -/
def message (fault : Fault) : String :=
  match fault.kind with
  | .operator => fault.detail
  | .template => "invalid raw template: " ++ fault.detail
  | .value => "invalid value: " ++ fault.detail
  | .shape => "invalid statement structure: " ++ fault.detail

end Fault

namespace Dialect

/-- The dialect of a name, or the fault that reports the name. -/
def parse (s : String) : Except Fault Dialect :=
  match ofName? s with
  | some dialect => .ok dialect
  | none => .error (.unknownDialect (normalize s))

end Dialect

end PortableSql
