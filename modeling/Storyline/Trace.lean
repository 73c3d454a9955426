import Storyline.Effect

/-!
# Traces

The trace of a compilation lists the regions it entered and the events it noted. Each record has a
level, the number of regions around it, and named fields in a fixed order.
-/

namespace Storyline.Trace

inductive Level where
  | warn
  | debug
  | trace
deriving DecidableEq, Repr

def Level.text : Level → String
  | .warn => "WARN"
  | .debug => "DEBUG"
  | .trace => "TRACE"

abbrev Fields := List (String × String)

/-- What a record says, apart from its place in the trace. -/
structure Entry where
  isRegion : Bool
  name : String
  level : Level
  fields : Fields
deriving DecidableEq, Repr

structure Record where
  entry : Entry
  depth : Nat
deriving DecidableEq, Repr

def optionalType : Option TypeId → String
  | none => "None"
  | some t => "Some(" ++ t.text ++ ")"

def ofRegion : Region → Entry
  | .lowering goal id initFacts rules exitFacts =>
    ⟨true, "lower_goal_with", .debug,
      [("goal", goal), ("id", id.text), ("init", toString initFacts), ("rules", toString rules),
        ("exit", toString exitFacts)]⟩
  | .compiling path id => ⟨true, "compile_goal", .debug, [("path", path), ("id", id.text)]⟩

def ofEvent : Event → Entry
  | .aliasRegistered name base id =>
    ⟨false, "registered type alias", .debug,
      [("alias", name), ("base", base.text), ("id", id.text)]⟩
  | .typeUnresolved typeName span =>
    ⟨false, "unresolved type annotation", .debug, [("type_name", typeName), ("span", span.text)]⟩
  | .variableBound slot =>
    ⟨false, "bound variable", .trace,
      [("variable", slot.name), ("index", toString slot.index.toNat),
        ("ty", optionalType slot.type)]⟩
  | .ruleLowered position kind conditions actions slots =>
    ⟨false, "lowered rule", .trace,
      [("rule", toString position), ("rule_type", kind.word), ("conditions", toString conditions),
        ("actions", toString actions), ("variables", toString slots)]⟩
  | .goalLowered slots => ⟨false, "lowered goal", .debug, [("variables", toString slots)]⟩
  | .parsingFailed => ⟨false, "parse failed, skipping lowering", .debug, []⟩
  | .loweringAborted message => ⟨false, "lowering aborted", .warn, [("error", message)]⟩
  | .batchStarted goals parallel =>
    ⟨false, "compiling batch", .debug,
      [("goals", toString goals), ("parallel", toString parallel)]⟩

/-- Requests and reports leave no record of their own. -/
def ofEffects (depth : Nat) : List Effect → List Record
  | [] => []
  | .enter region :: rest => ⟨ofRegion region, depth⟩ :: ofEffects (depth + 1) rest
  | .leave :: rest => ofEffects (depth - 1) rest
  | .note event :: rest => ⟨ofEvent event, depth⟩ :: ofEffects depth rest
  | .request _ :: rest => ofEffects depth rest
  | .report _ :: rest => ofEffects depth rest

end Storyline.Trace
