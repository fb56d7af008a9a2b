/-
# Notices

While it works the interpreter reports what it does: which lexemes were accepted, what was
folded, which cells were set.  A notice belongs to a part of the program and has a severity.
Functions return the notices they give rise to, in order; nothing depends on them.
-/

namespace LineBasic

/-- The part of the program that reports. -/
inductive Topic where
  | grammar
  | variables
  | evaluator
  | console
  deriving DecidableEq, Repr

/-- How important a notice is. -/
inductive Severity where
  | debug
  | info
  | error
  deriving DecidableEq, Repr

/-- The name of a topic in a notice line. -/
def Topic.name : Topic → String
  | .grammar => "lpi.grammar"
  | .variables => "lpi.variables"
  | .evaluator => "lpi.evaluator"
  | .console => "lpi.cli"

/-- The name of a severity in a notice line. -/
def Severity.name : Severity → String
  | .debug => "debug"
  | .info => "info"
  | .error => "error"

/-- A report of what has been done. -/
structure Notice where
  topic : Topic
  severity : Severity
  text : String
  deriving DecidableEq, Repr

/-- A notice as one line: topic, severity, text. -/
def Notice.line (n : Notice) : String := n.topic.name ++ " " ++ n.severity.name ++ " " ++ n.text

end LineBasic
