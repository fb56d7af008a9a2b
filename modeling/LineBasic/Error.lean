/-
# Errors

Every way in which a statement, a program or a command can fail, by cause.  The wording of each
stands in one `message` function per type.
-/
import LineBasic.Node
import LineBasic.Number.Display
import LineBasic.Text.Quoted

namespace LineBasic

/-! ## 1. Access to arrays -/

/-- Why an array element cannot be reached. -/
inductive AccessError where
  /-- The index is negative, no whole number, or no number at all. -/
  | invalidIndex (name : String) (index : Float)
  /-- The index is beyond the end of the array. -/
  | outOfBounds (name : String) (index : Float) (size : Nat)

/-- An element as it is written. -/
def elementText (name : String) (index : Float) : String := name ++ "(" ++ Number.text index ++ ")"

/-- The text of an access error. -/
def AccessError.message : AccessError → String
  | .invalidIndex name index => "invalid array index: " ++ elementText name index
  | .outOfBounds name index size =>
    "array index out of bounds: " ++ elementText name index ++ s!", array has {size} elements"

/-! ## 2. Evaluation -/

/-- Why a tree has no value. -/
inductive EvalError where
  /-- There is no tree. -/
  | nothing
  /-- A node that is no value. -/
  | unexpected (kind : Kind) (value : String)
  /-- An expression that has not three parts. -/
  | operandCount (count : Nat)
  /-- The middle of an expression is no symbol. -/
  | noOperator (kind : Kind) (value : String)
  /-- A symbol that is no operator. -/
  | unknownOperator (value : String)
  /-- A token that looks like a number and is none. -/
  | malformedLiteral (literal : String)
  | fault (cause : Fault)

/-- The text of an evaluation error. -/
def EvalError.message : EvalError → String
  | .nothing => "unexpected node in expression: nothing to evaluate"
  | .unexpected (.other code) _ => "unexpected node in expression: " ++ (Kind.other code).name
  | .unexpected kind value =>
    "unexpected node in expression: " ++ kind.name ++ " '" ++ value ++ "'"
  | .operandCount count => s!"unexpected node in expression: expression with {count} operands"
  | .noOperator kind value => "unknown operator: " ++ kind.name ++ " '" ++ value ++ "'"
  | .unknownOperator value => "unknown operator: '" ++ value ++ "'"
  | .malformedLiteral literal => "malformed numeric literal: " ++ Text.quoted literal
  | .fault cause => cause.message

/-! ## 3. Line numbers -/

/-- Why a text is no line number. -/
inductive LineNumberProblem where
  /-- It is empty or has a character that is no ASCII digit. -/
  | malformed
  /-- It is beyond 65535. -/
  | outOfRange
  deriving DecidableEq, Repr

/-! ## 4. Files -/

/-- Why a file cannot be read. -/
inductive FileProblem where
  | missing
  | directory
  /-- A part of the path that should be a directory is a file. -/
  | notDirectory
  | nameTooLong
  | invalidName
  | denied
  deriving DecidableEq, Repr

/-- The text of a file problem.  A directory can be opened, and fails when it is read. -/
def FileProblem.message (name : String) : FileProblem → String
  | .missing => "open " ++ name ++ ": no such file or directory"
  | .directory => "read " ++ name ++ ": is a directory"
  | .notDirectory => "open " ++ name ++ ": not a directory"
  | .nameTooLong => "open " ++ name ++ ": file name too long"
  | .invalidName => "open " ++ name ++ ": invalid argument"
  | .denied => "open " ++ name ++ ": permission denied"

/-! ## 5. Statements, programs and commands -/

/-- The variable an assignment names. -/
inductive Target where
  | scalar (name : String)
  | element (name : String)

/-- A target as messages write it; the index is not repeated. -/
def Target.text : Target → String
  | .scalar name => name
  | .element name => name ++ "(…)"

/-- Why a statement, a line, a program or a command failed. -/
inductive Error where
  | evaluation (cause : EvalError)
  | access (cause : AccessError)
  /-- An assignment without its keyword. -/
  | missingLet
  /-- An assignment without a variable. -/
  | missingVariable
  | missingEquals (target : Target)
  | missingValue (target : Target)
  | unknownStatement (what : String)
  | noProgram
  | lineNumber (text : String) (problem : LineNumberProblem)
  /-- The output could not be written. -/
  | stream (reason : String)
  /-- The encoder of a format could not write its output. -/
  | encoder (reason : String)
  | unknownFormat (name : String)
  | file (name : String) (problem : FileProblem)
  | fault (cause : Fault)
  /-- A line of the program failed while it ran. -/
  | atLine (number : UInt16) (cause : Error)
  /-- A line of a source text could not be taken in. -/
  | inSource (line : Nat) (cause : Error)

/-- The text of an error. -/
def Error.message : Error → String
  | .evaluation cause => cause.message
  | .access cause => cause.message
  | .missingLet => "LET expected"
  | .missingVariable => "variable expected"
  | .missingEquals target => "'=' expected after " ++ target.text
  | .missingValue target => "value expected for " ++ target.text
  | .unknownStatement what => "unknown statement: " ++ what
  | .noProgram => "no program to execute"
  | .lineNumber text _ => "invalid line number: " ++ text
  | .stream reason => reason
  | .encoder reason => "yaml: write error: " ++ reason
  | .unknownFormat name => "unknown output format " ++ Text.quoted name
  | .file name problem => problem.message name
  | .fault cause => cause.message
  | .atLine number cause => s!"line {number}: " ++ cause.message
  | .inSource line cause => s!"source line {line}: " ++ cause.message

end LineBasic
