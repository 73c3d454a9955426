import Storyline.Source.Basic
import Storyline.Symbol

/-!
# Goals after lowering

A resolved goal has the shape of its source goal. Names of databases and procedures have become
symbols, a variable is the number of a slot in its rule, and types are identifiers. A constant
remembers whether its type was inferred from its literal. Only the parent edges keep their spans,
because the goals they name are looked up later.
-/

namespace Storyline.Resolved

structure Constant where
  literal : Literal
  type : Option TypeId
  inferred : Bool
deriving DecidableEq, Repr

structure Variable where
  index : UInt32
  type : Option TypeId
deriving DecidableEq, Repr

inductive Value where
  | constant (constant : Constant)
  | reference (target : Variable)
deriving DecidableEq, Repr

def Value.type : Value → Option TypeId
  | .constant c => c.type
  | .reference v => v.type

def Value.literalKind? : Value → Option Literal.Kind
  | .constant c => some c.literal.kind
  | .reference _ => none

structure Fact where
  database : Symbol
  negated : Bool
  elements : List Constant
deriving DecidableEq, Repr

structure Call where
  symbol : Symbol
  negated : Bool
  args : List Value
deriving DecidableEq, Repr

structure Comparison where
  left : Value
  relation : Relation
  right : Value
deriving DecidableEq, Repr

inductive Condition where
  | query (query : Call)
  | comparison (comparison : Comparison)
deriving DecidableEq, Repr

inductive Action where
  | completion (goal : GoalId)
  | call (call : Call)
deriving DecidableEq, Repr

namespace Action

def symbol? : Action → Option Symbol
  | .completion _ => none
  | .call c => some c.symbol

def goal? : Action → Option GoalId
  | .completion g => some g
  | .call _ => none

def args : Action → List Value
  | .completion _ => []
  | .call c => c.args

end Action

/-- A variable of a rule: its number, its name, and the type its first reference gave it. -/
structure Slot where
  index : UInt32
  name : String
  type : Option TypeId
deriving DecidableEq, Repr

structure Rule where
  goal : GoalId
  kind : RuleKind
  conditions : List Condition
  actions : List Action
  slots : List Slot
deriving DecidableEq, Repr

/-- The slot at a position, whatever number it carries. -/
def Rule.slot? (r : Rule) (index : UInt32) : Option Slot := r.slots[index.toNat]?

structure ParentEdge where
  goal : String
  span : Span
deriving DecidableEq, Repr

structure Goal where
  id : GoalId
  name : String
  initFacts : List Fact
  rules : List Rule
  exitFacts : List Fact
  parents : List ParentEdge
deriving DecidableEq, Repr

end Storyline.Resolved
