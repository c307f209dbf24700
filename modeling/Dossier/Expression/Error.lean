import Dossier.Number.Digits
import Dossier.Regex.Reader

/-!
# Errors of expressions

* `ExpressionError` : why an expression cannot be used;
* `ExpressionError.message` : the text that is shown for it.
-/

namespace Dossier

/-- What is wrong with the name of a placeholder. -/
inductive NameFault where
  | empty
  | specialCharacters
  | repeated
deriving DecidableEq, Repr

/-- What is wrong with the arguments of a placeholder. -/
inductive ArgumentFault where
  | takesNone
  | unknownSign (argument : String)
  | tooMany (count : Nat)
deriving DecidableEq, Repr

/-- Why an expression cannot be used. -/
inductive ExpressionError where
  | invalidName (name : String) (fault : NameFault)
  | missingKind (placeholder : String)
  | unknownKind (kind : String)
  | invalidArgument (kind : String) (fault : ArgumentFault)
  | unterminated
  | invalidPattern (pattern : String) (fault : Regex.Fault)
deriving DecidableEq, Repr

def NameFault.message : NameFault → String
  | empty => "name can not be empty"
  | specialCharacters => "name can not contain special characters"
  | repeated => "name is used more than once"

def ArgumentFault.message : ArgumentFault → String
  | takesNone => "takes no arguments"
  | unknownSign argument =>
    "decimal symbol must be \"dot\" or \"comma\", got \"" ++ argument ++ "\""
  | tooMany count => "expected at most one argument, got " ++ natString count

/-- The text that is shown for an error. -/
def ExpressionError.message : ExpressionError → String
  | invalidName name fault =>
    "invalid placeholder name \"" ++ name ++ "\": " ++ fault.message
  | missingKind placeholder =>
    "placeholder \"" ++ placeholder ++ "\" must specify a name and a kind"
  | unknownKind kind => "unknown placeholder kind \"" ++ kind ++ "\""
  | invalidArgument kind fault => "invalid argument for " ++ kind ++ ": " ++ fault.message
  | unterminated => "placeholder not terminated"
  | invalidPattern pattern fault => "invalid regex: " ++ fault.message pattern.toList

end Dossier
