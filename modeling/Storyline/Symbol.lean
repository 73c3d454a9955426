/-!
# Symbols and goal identifiers

A fact, condition or call refers to a symbol by its name and its number of arguments, so two symbols
of one name and different arity are different. An arity is a 32-bit number; a longer argument list
counts as the largest one.
-/

namespace Storyline

structure Symbol where
  name : String
  arity : UInt32
deriving DecidableEq, Repr

namespace Symbol

def ofArgs (name : String) (count : Nat) : Symbol := ⟨name, UInt32.ofNatClamp count⟩

def text (s : Symbol) : String := s.name ++ "/" ++ toString s.arity.toNat

/-- By name, then by arity. -/
instance : Ord Symbol where
  compare s t := (compare s.name t.name).then (compare s.arity t.arity)

end Symbol

structure GoalId where
  raw : UInt32
deriving DecidableEq, Repr, Ord

def GoalId.index (g : GoalId) : Nat := g.raw.toNat

def GoalId.text (g : GoalId) : String := "goal#" ++ toString g.raw.toNat

end Storyline
