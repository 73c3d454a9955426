import Storyline.Scope
import Storyline.Resolved.Check

/-!
# Lowering

Lowering turns a source goal into a resolved one, node by node: the facts of the start, the rules,
the facts of the end. In a rule the conditions come before the actions, the left side of a
comparison before its right side, and arguments go from left to right. Each rule has a scope of its
own. The finished goal is checked before it is handed out.
-/

namespace Storyline

variable (ctx : Context)

namespace Source

def Constant.lower (c : Constant) : Run Fault Resolved.Constant := do
  let typing ← ctx.types.typing c.typeName c.literal.kind c.span
  return ⟨c.literal, typing.type, typing.inferred⟩

def Fact.lower (f : Fact) : Run Fault Resolved.Fact := do
  let elements ← Run.forEach (Constant.lower ctx) f.elements
  return ⟨Symbol.ofArgs f.database f.elements.length, f.negated, elements⟩

def Value.lower (s : Scope) : Value → Run Fault (Resolved.Value × Scope)
  | .constant c => do
    let c ← c.lower ctx
    return (.constant c, s)
  | .reference v => do
    let (v, s) ← s.bind ctx v
    return (.reference v, s)

def Call.lower (s : Scope) (c : Call) : Run Fault (Resolved.Call × Scope) := do
  let (args, s) ← Run.thread (Value.lower ctx) s c.args
  return (⟨Symbol.ofArgs c.name c.args.length, c.negated, args⟩, s)

def Condition.lower (s : Scope) : Condition → Run Fault (Resolved.Condition × Scope)
  | .query c => do
    let (c, s) ← c.lower ctx s
    return (.query c, s)
  | .comparison c => do
    let (left, s) ← c.left.lower ctx s
    let (right, s) ← c.right.lower ctx s
    return (.comparison ⟨left, c.relation, right⟩, s)

def Action.lower (id : GoalId) (s : Scope) : Action → Run Fault (Resolved.Action × Scope)
  | .completion _ => pure (.completion id, s)
  | .call c => do
    let (c, s) ← c.lower ctx s
    return (.call c, s)

def Rule.lower (id : GoalId) (position : Nat) (r : Rule) : Run Fault Resolved.Rule := do
  let (conditions, s) ← Run.thread (Condition.lower ctx) .empty r.conditions
  let (actions, s) ← Run.thread (Action.lower ctx id) s r.actions
  Run.note (.ruleLowered position r.kind conditions.length actions.length s.size)
  return ⟨id, r.kind, conditions, actions, s.slots⟩

def ParentEdge.lower (e : ParentEdge) : Resolved.ParentEdge := ⟨e.goal, e.span⟩

namespace Goal

/-- The resolved goal before it is checked. -/
def resolve (id : GoalId) (g : Goal) : Run Fault Resolved.Goal := do
  let initFacts ← Run.forEach (Fact.lower ctx) g.initFacts
  let rules ← Run.forEach (fun (r, position) => Rule.lower ctx id position r) g.rules.zipIdx
  let exitFacts ← Run.forEach (Fact.lower ctx) g.exitFacts
  return ⟨id, g.name, initFacts, rules, exitFacts, g.parents.map ParentEdge.lower⟩

def region (id : GoalId) (g : Goal) : Region :=
  .lowering g.name id g.initFacts.length g.rules.length g.exitFacts.length

def lower (id : GoalId) (g : Goal) : Run Fault Resolved.Goal :=
  Run.within (g.region id) do
    let resolved ← g.resolve ctx id
    Run.ofExcept resolved.check
    Run.note (.goalLowered (resolved.rules.flatMap (·.slots)).length)
    return resolved

end Goal

end Source

end Storyline
