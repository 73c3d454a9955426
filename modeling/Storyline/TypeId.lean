/-!
# Type identifiers

A type is known by a number. Zero stands for no type at all, the numbers below 16 are kept for
builtin types, and aliases are numbered from 16 on. Five builtin numbers have names of their own.
-/

namespace Storyline

structure TypeId where
  raw : UInt32
deriving DecidableEq, Repr, Ord

namespace TypeId

def unknown : TypeId := ⟨0⟩
def integer : TypeId := ⟨1⟩
def integer64 : TypeId := ⟨2⟩
def real : TypeId := ⟨3⟩
def string : TypeId := ⟨4⟩
def guidString : TypeId := ⟨5⟩
def firstAlias : TypeId := ⟨16⟩

/-- The range below the aliases, the unknown type included. -/
def inBuiltinRange (t : TypeId) : Bool := t.raw < firstAlias.raw

def label (t : TypeId) : String :=
  if t = unknown then "unknown"
  else if t = integer then "INTEGER"
  else if t = integer64 then "INTEGER64"
  else if t = real then "REAL"
  else if t = string then "STRING"
  else if t = guidString then "GUIDSTRING"
  else toString t.raw.toNat

def text (t : TypeId) : String := "TypeId(" ++ t.label ++ ")"

end TypeId

end Storyline
