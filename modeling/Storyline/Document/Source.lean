import Storyline.Document.Atom

/-!
# Stored form of source goals
-/

namespace Storyline.Source

instance : Codec Constant where
  encode c :=
    .record [("type_name", encode c.typeName), ("value", encode c.literal), ("span", encode c.span)]
  decode? d := do
    let typeName ← d.optional? "type_name"
    let literal ← d.required? "value"
    let span ← d.required? "span"
    return ⟨typeName, literal, span⟩

instance : Codec Variable where
  encode v :=
    .record [("name", encode v.name), ("type_name", encode v.typeName), ("span", encode v.span)]
  decode? d := do
    let name ← d.required? "name"
    let typeName ← d.optional? "type_name"
    let span ← d.required? "span"
    return ⟨name, typeName, span⟩

instance : Codec Value where
  encode
    | .constant c => .tagged "Constant" c
    | .reference v => .tagged "LocalVar" v
  decode? d := do
    match ← d.tagged? with
    | ("Constant", payload) => (decode? payload).map Value.constant
    | ("LocalVar", payload) => (decode? payload).map Value.reference
    | _ => none

instance : Codec Fact where
  encode f :=
    .record [("database", encode f.database), ("not", encode f.negated),
      ("elements", encode f.elements), ("span", encode f.span)]
  decode? d := do
    let database ← d.required? "database"
    let negated ← d.required? "not"
    let elements ← d.required? "elements"
    let span ← d.required? "span"
    return ⟨database, negated, elements, span⟩

instance : Codec Call where
  encode c :=
    .record [("name", encode c.name), ("not", encode c.negated), ("params", encode c.args),
      ("span", encode c.span)]
  decode? d := do
    let name ← d.required? "name"
    let negated ← d.required? "not"
    let args ← d.required? "params"
    let span ← d.required? "span"
    return ⟨name, negated, args, span⟩

instance : Codec Comparison where
  encode c :=
    .record [("lvalue", encode c.left), ("op", encode c.relation), ("rvalue", encode c.right),
      ("span", encode c.span)]
  decode? d := do
    let left ← d.required? "lvalue"
    let relation ← d.required? "op"
    let right ← d.required? "rvalue"
    let span ← d.required? "span"
    return ⟨left, relation, right, span⟩

instance : Codec Condition where
  encode
    | .query c => .tagged "Func" c
    | .comparison c => .tagged "Binary" c
  decode? d := do
    match ← d.tagged? with
    | ("Func", payload) => (decode? payload).map Condition.query
    | ("Binary", payload) => (decode? payload).map Condition.comparison
    | _ => none

instance : Codec Action where
  encode
    | .completion span => .record [("GoalCompleted", .record [("span", encode span)])]
    | .call c => .tagged "Call" c
  decode? d := do
    match ← d.tagged? with
    | ("GoalCompleted", payload) => (payload.required? "span").map Action.completion
    | ("Call", payload) => (decode? payload).map Action.call
    | _ => none

instance : Codec Rule where
  encode r :=
    .record [("rule_type", encode r.kind), ("conditions", encode r.conditions),
      ("actions", encode r.actions), ("span", encode r.span)]
  decode? d := do
    let kind ← d.required? "rule_type"
    let conditions ← d.required? "conditions"
    let actions ← d.required? "actions"
    let span ← d.required? "span"
    return ⟨kind, conditions, actions, span⟩

instance : Codec ParentEdge where
  encode e := .record [("goal", encode e.goal), ("span", encode e.span)]
  decode? d := do
    let goal ← d.required? "goal"
    let span ← d.required? "span"
    return ⟨goal, span⟩

instance : Codec Goal where
  encode g :=
    .record [("name", encode g.name), ("init_section", encode g.initFacts),
      ("kb_section", encode g.rules), ("exit_section", encode g.exitFacts),
      ("parent_target_edges", encode g.parents)]
  decode? d := do
    let name ← d.required? "name"
    let initFacts ← d.required? "init_section"
    let rules ← d.required? "kb_section"
    let exitFacts ← d.required? "exit_section"
    let parents ← d.required? "parent_target_edges"
    return ⟨name, initFacts, rules, exitFacts, parents⟩

end Storyline.Source
