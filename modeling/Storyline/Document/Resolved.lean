import Storyline.Document.Atom
import Storyline.Resolved.Basic

/-!
# Stored form of resolved goals
-/

namespace Storyline.Resolved

instance : Codec Constant where
  encode c :=
    .record [("value", encode c.literal), ("ty", encode c.type),
      ("inferred_type", encode c.inferred)]
  decode? d := do
    let literal ← d.required? "value"
    let type ← d.optional? "ty"
    let inferred ← d.required? "inferred_type"
    return ⟨literal, type, inferred⟩

instance : Codec Variable where
  encode v := .record [("index", encode v.index), ("ty", encode v.type)]
  decode? d := do
    let index ← d.required? "index"
    let type ← d.optional? "ty"
    return ⟨index, type⟩

instance : Codec Value where
  encode
    | .constant c => .tagged "Constant" c
    | .reference v => .tagged "Variable" v
  decode? d := do
    match ← d.tagged? with
    | ("Constant", payload) => (decode? payload).map Value.constant
    | ("Variable", payload) => (decode? payload).map Value.reference
    | _ => none

instance : Codec Fact where
  encode f :=
    .record [("database", encode f.database), ("not", encode f.negated),
      ("elements", encode f.elements)]
  decode? d := do
    let database ← d.required? "database"
    let negated ← d.required? "not"
    let elements ← d.required? "elements"
    return ⟨database, negated, elements⟩

instance : Codec Call where
  encode c :=
    .record [("func", encode c.symbol), ("not", encode c.negated), ("params", encode c.args)]
  decode? d := do
    let symbol ← d.required? "func"
    let negated ← d.required? "not"
    let args ← d.required? "params"
    return ⟨symbol, negated, args⟩

instance : Codec Comparison where
  encode c :=
    .record [("lvalue", encode c.left), ("op", encode c.relation), ("rvalue", encode c.right)]
  decode? d := do
    let left ← d.required? "lvalue"
    let relation ← d.required? "op"
    let right ← d.required? "rvalue"
    return ⟨left, relation, right⟩

instance : Codec Condition where
  encode
    | .query c => .tagged "Func" c
    | .comparison c => .tagged "Binary" c
  decode? d := do
    match ← d.tagged? with
    | ("Func", payload) => (decode? payload).map Condition.query
    | ("Binary", payload) => (decode? payload).map Condition.comparison
    | _ => none

instance : Codec Action where
  encode
    | .completion goal => .record [("GoalCompleted", .record [("goal", encode goal)])]
    | .call c => .tagged "Call" c
  decode? d := do
    match ← d.tagged? with
    | ("GoalCompleted", payload) => (payload.required? "goal").map Action.completion
    | ("Call", payload) => (decode? payload).map Action.call
    | _ => none

instance : Codec Slot where
  encode s :=
    .record [("index", encode s.index), ("name", encode s.name), ("ty", encode s.type)]
  decode? d := do
    let index ← d.required? "index"
    let name ← d.required? "name"
    let type ← d.optional? "ty"
    return ⟨index, name, type⟩

instance : Codec Rule where
  encode r :=
    .record [("goal", encode r.goal), ("rule_type", encode r.kind),
      ("conditions", encode r.conditions), ("actions", encode r.actions),
      ("variables", encode r.slots)]
  decode? d := do
    let goal ← d.required? "goal"
    let kind ← d.required? "rule_type"
    let conditions ← d.required? "conditions"
    let actions ← d.required? "actions"
    let slots ← d.required? "variables"
    return ⟨goal, kind, conditions, actions, slots⟩

instance : Codec ParentEdge where
  encode e := .record [("name", encode e.goal), ("span", encode e.span)]
  decode? d := do
    let goal ← d.required? "name"
    let span ← d.required? "span"
    return ⟨goal, span⟩

instance : Codec Goal where
  encode g :=
    .record [("id", encode g.id), ("name", encode g.name), ("init_section", encode g.initFacts),
      ("kb_section", encode g.rules), ("exit_section", encode g.exitFacts),
      ("parent_target_edges", encode g.parents)]
  decode? d := do
    let id ← d.required? "id"
    let name ← d.required? "name"
    let initFacts ← d.required? "init_section"
    let rules ← d.required? "kb_section"
    let exitFacts ← d.required? "exit_section"
    let parents ← d.required? "parent_target_edges"
    return ⟨id, name, initFacts, rules, exitFacts, parents⟩

end Storyline.Resolved
