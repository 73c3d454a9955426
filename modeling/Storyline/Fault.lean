import Storyline.Diagnostic.Basic
import Storyline.Literal
import Storyline.Symbol

/-!
# Faults

A finding about a script is a diagnostic and does not stop its compilation. A fault does: the table
of types lacks a builtin type that a literal needs, or a resolved goal breaks a rule of its
structure. Neither is the script author's doing, so a fault is reported as an internal failure.
-/

namespace Storyline

/-- Broken rules of structure. A `rule` is the position of a rule in its goal, and a `symbol` is the
text of one. -/
inductive Violation where
  | foreignRule (rule : Nat) (owner : GoalId)
  | sparseSlots (rule position : Nat) (index : UInt32)
  | unboundVariable (rule : Nat) (index : UInt32) (slots : Nat)
  | arityMismatch (symbol : String) (args : Nat)
  | foreignCompletion (rule : Nat) (target : GoalId)
deriving DecidableEq, Repr

def Violation.message : Violation → String
  | .foreignRule rule owner => "rule " ++ toString rule ++ " belongs to " ++ owner.text
  | .sparseSlots rule position index =>
    "rule " ++ toString rule ++ " has variable slot " ++ toString index.toNat ++ " at position " ++
      toString position
  | .unboundVariable rule index slots =>
    "rule " ++ toString rule ++ " references variable " ++ toString index.toNat ++ " but has " ++
      toString slots ++ " slots"
  | .arityMismatch symbol args =>
    "symbol `" ++ symbol ++ "` is used with " ++ toString args ++ " argument(s)"
  | .foreignCompletion rule target =>
    "goal completion in rule " ++ toString rule ++ " targets " ++ target.text

inductive Fault where
  | missingBuiltin (id : TypeId) (kind : Literal.Kind)
  | malformed (goal : GoalId) (violation : Violation)
deriving DecidableEq, Repr

namespace Fault

def message : Fault → String
  | .missingBuiltin id kind =>
    "builtin type " ++ id.text ++ " for " ++ kind.word ++
      " literals is not registered in the type table"
  | .malformed goal violation => "invalid IR for " ++ goal.text ++ ": " ++ violation.message

def diagnostic (f : Fault) : Diagnostic where
  code := .internalFailure
  severity := .error
  message := f.message
  notes := ["this is a bug in the goal compiler or its type table setup"]

end Fault

end Storyline
