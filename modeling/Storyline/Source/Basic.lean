import Storyline.Literal
import Storyline.Span

/-!
# Goals as they are written

A goal of a story script holds facts for its start and its end, rules, and the names of the goals it
reports to. A rule has conditions and actions. Their arguments are literals and variables, both of
which may carry the name of a type. Every node knows its span; a node that no text produced has the
dummy span.

The default values make nodes easy to build: no negation, no type name, empty lists, dummy spans.
-/

namespace Storyline

inductive Relation where
  | less
  | lessOrEqual
  | greater
  | greaterOrEqual
  | equal
  | notEqual
deriving DecidableEq, Repr

def Relation.sign : Relation → String
  | .less => "<"
  | .lessOrEqual => "<="
  | .greater => ">"
  | .greaterOrEqual => ">="
  | .equal => "=="
  | .notEqual => "!="

inductive RuleKind where
  | rule
  | proc
  | query
deriving DecidableEq, Repr

def RuleKind.word : RuleKind → String
  | .rule => "Rule"
  | .proc => "Proc"
  | .query => "Query"

namespace Source

structure Constant where
  typeName : Option String := none
  literal : Literal
  span : Span := .dummy
deriving DecidableEq, Repr

structure Variable where
  name : String
  typeName : Option String := none
  span : Span := .dummy
deriving DecidableEq, Repr

inductive Value where
  | constant (constant : Constant)
  | reference (target : Variable)
deriving DecidableEq, Repr

structure Fact where
  database : String
  negated : Bool := false
  elements : List Constant := []
  span : Span := .dummy
deriving DecidableEq, Repr

/-- A symbol applied to arguments: a query when it stands as a condition, a call as an action. -/
structure Call where
  name : String
  negated : Bool := false
  args : List Value := []
  span : Span := .dummy
deriving DecidableEq, Repr

structure Comparison where
  left : Value
  relation : Relation
  right : Value
  span : Span := .dummy
deriving DecidableEq, Repr

inductive Condition where
  | query (query : Call)
  | comparison (comparison : Comparison)
deriving DecidableEq, Repr

inductive Action where
  | completion (span : Span)
  | call (call : Call)
deriving DecidableEq, Repr

structure Rule where
  kind : RuleKind := .rule
  conditions : List Condition := []
  actions : List Action := []
  span : Span := .dummy
deriving DecidableEq, Repr

structure ParentEdge where
  goal : String
  span : Span := .dummy
deriving DecidableEq, Repr

structure Goal where
  name : String := ""
  initFacts : List Fact := []
  rules : List Rule := []
  exitFacts : List Fact := []
  parents : List ParentEdge := []
deriving DecidableEq, Repr

/-- A small complete goal: having an item gives experience for it. -/
def Goal.giveExperience (name : String) : Goal where
  name := name
  initFacts := [{ database := "AtStart" }]
  rules := [{
    conditions := [.query { name := "HasItem", args := [.reference { name := "x" }] }]
    actions := [.call { name := "GiveXP", args := [.reference { name := "x" }] }] }]

end Source

end Storyline
