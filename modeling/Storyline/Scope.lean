import Storyline.Typing

/-!
# Scopes

The variables of a rule live in a scope. The first reference to a name opens a slot for it, with the
next free number and the type that this reference gives it. Later references refer to that slot and
its type. A type name on a later reference is still looked up, so that an unknown one is reported;
under the policy `warn` a known one that differs from the slot's type is reported too.

A scope keeps its slots in the order of their first references, beside them the spans of these
references, and an index from a name to the number of its slot, which is the position to look at.
The newest pair of the index comes first and hides older ones for the same name. Numbers have 32
bits, and a scope that has run out of them gives its last one to every further name.
-/

namespace Storyline

inductive ConflictPolicy where
  | ignore
  | warn
deriving DecidableEq, Repr

structure Context where
  types : TypeTable := .builtins
  policy : ConflictPolicy := .ignore
deriving DecidableEq, Repr

namespace Scope

/-- A slot and the span of the reference that opened it. -/
structure Binding where
  slot : Resolved.Slot
  firstSpan : Span
deriving DecidableEq, Repr

def Binding.reference (b : Binding) : Resolved.Variable := ⟨b.slot.index, b.slot.type⟩

end Scope

structure Scope where
  slots : List Resolved.Slot := []
  firstSpans : List Span := []
  positions : List (String × UInt32) := []
deriving DecidableEq, Repr

namespace Scope

def empty : Scope := {}

def size (s : Scope) : Nat := s.slots.length

def isEmpty (s : Scope) : Bool := s.slots.isEmpty

/-- The slot at a position and the span beside it; none if one of the lists ends before it. -/
def binding? (s : Scope) (position : Nat) : Option Binding :=
  s.slots[position]?.bind fun slot => s.firstSpans[position]?.map fun span => ⟨slot, span⟩

def find? (s : Scope) (name : String) : Option Binding :=
  (s.positions.lookup name).bind fun index => s.binding? index.toNat

/-- Numbers past the largest 32-bit one stay at it. -/
def nextIndex (s : Scope) : UInt32 := UInt32.ofNatClamp s.size

/-- Puts a binding at the end, whatever the index says about its name. -/
def insert (s : Scope) (b : Binding) : Scope where
  slots := s.slots ++ [b.slot]
  firstSpans := s.firstSpans ++ [b.firstSpan]
  positions := (b.slot.name, s.nextIndex) :: s.positions

def conflict (types : TypeTable) (b : Binding) (typeName : String) (span : Span) : Diagnostic :=
  let previous :=
    match b.slot.type.bind types.name? with
    | some bound => "type `" ++ bound ++ "`"
    | none => "no type"
  let headed : Diagnostic :=
    { code := .annotationConflict, severity := .warning
      message := "variable `" ++ b.slot.name ++ "` is annotated `" ++ typeName ++
        "` but is already bound with " ++ previous }
  let here := headed.addPrimaryAt span "annotation ignored"
  let there := if b.firstSpan.isDummy then here else here.addSecondary b.firstSpan "first bound here"
  there.addNote "the first annotation of a variable decides its type"

/-- A type name on a reference to a variable that has a slot already. -/
def reviseType (ctx : Context) (b : Binding) (typeName : String) (span : Span) : Run Fault Unit := do
  match ← ctx.types.resolveName typeName span with
  | none => return ()
  | some type =>
    if ctx.policy = .warn ∧ b.slot.type ≠ some type then
      Run.report (conflict ctx.types b typeName span)

def bind (ctx : Context) (s : Scope) (v : Source.Variable) : Run Fault (Resolved.Variable × Scope) :=
  match s.find? v.name with
  | some b => do
    if let some typeName := v.typeName then reviseType ctx b typeName v.span
    return (b.reference, s)
  | none => do
    let type ← ctx.types.resolveName? v.typeName v.span
    let b : Binding := ⟨⟨s.nextIndex, v.name, type⟩, v.span⟩
    Run.note (.variableBound b.slot)
    return (b.reference, s.insert b)

end Scope

end Storyline
