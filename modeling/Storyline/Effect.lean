import Storyline.Diagnostic.Basic
import Storyline.Resolved.Basic

/-!
# Effects

What a compilation does besides giving its result: it asks for the source of a goal, reports
diagnostics, notes events, and works inside regions that it enters and leaves. Effects are plain
data in the order in which they happen; the diagnostics, the requests and the events of a
compilation are parts of that one list.
-/

namespace Storyline

inductive Event where
  | aliasRegistered (name : String) (base id : TypeId)
  | typeUnresolved (typeName : String) (span : Span)
  | variableBound (slot : Resolved.Slot)
  | ruleLowered (position : Nat) (kind : RuleKind) (conditions actions slots : Nat)
  | goalLowered (slots : Nat)
  | parsingFailed
  | loweringAborted (message : String)
  | batchStarted (goals : Nat) (parallel : Bool)
deriving DecidableEq, Repr

inductive Region where
  | lowering (goal : String) (id : GoalId) (initFacts rules exitFacts : Nat)
  | compiling (path : String) (id : GoalId)
deriving DecidableEq, Repr

inductive Effect where
  | request (path : String)
  | report (diagnostic : Diagnostic)
  | note (event : Event)
  | enter (region : Region)
  | leave
deriving DecidableEq, Repr

namespace Effect

def request? : Effect → Option String
  | .request path => some path
  | _ => none

def diagnostic? : Effect → Option Diagnostic
  | .report d => some d
  | _ => none

def event? : Effect → Option Event
  | .note e => some e
  | _ => none

end Effect

def requestsOf (effects : List Effect) : List String := effects.filterMap Effect.request?

def diagnosticsOf (effects : List Effect) : List Diagnostic := effects.filterMap Effect.diagnostic?

def eventsOf (effects : List Effect) : List Event := effects.filterMap Effect.event?

@[simp] theorem requestsOf_append (xs ys : List Effect) :
    requestsOf (xs ++ ys) = requestsOf xs ++ requestsOf ys :=
  List.filterMap_append

@[simp] theorem diagnosticsOf_append (xs ys : List Effect) :
    diagnosticsOf (xs ++ ys) = diagnosticsOf xs ++ diagnosticsOf ys :=
  List.filterMap_append

@[simp] theorem eventsOf_append (xs ys : List Effect) :
    eventsOf (xs ++ ys) = eventsOf xs ++ eventsOf ys :=
  List.filterMap_append

end Storyline
