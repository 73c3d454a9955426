import Storyline.Fault
import Storyline.Run
import Storyline.TypeTable

/-!
# Types of names and literals

A type name that a script writes is looked up in the table of types. An unknown name is reported and
leaves its node without a type. A literal without a type name gets the builtin type of its kind; it
is a fault if the table lacks that type. An unclassified literal has none.
-/

namespace Storyline

/-- The type of a node, and whether it was inferred rather than written. -/
structure Typing where
  type : Option TypeId
  inferred : Bool
deriving DecidableEq, Repr

namespace Typing

def written (type : Option TypeId) : Typing := ⟨type, false⟩

def deduced (type : Option TypeId) : Typing := ⟨type, true⟩

end Typing

def Diagnostic.typeUnresolved (typeName : String) (span : Span) : Diagnostic :=
  Diagnostic.addPrimaryAt
    { code := .typeUnresolved, severity := .error
      message := "type `" ++ typeName ++ "` does not exist" }
    span "unknown type"

namespace TypeTable

def resolveName (t : TypeTable) (typeName : String) (span : Span) : Run Fault (Option TypeId) :=
  match t.lookup? typeName with
  | some id => pure (some id)
  | none => do
    Run.note (.typeUnresolved typeName span)
    Run.report (.typeUnresolved typeName span)
    return none

/-- A node without a type name has no type of its own. -/
def resolveName? (t : TypeTable) (typeName : Option String) (span : Span) :
    Run Fault (Option TypeId) :=
  match typeName with
  | some n => t.resolveName n span
  | none => pure none

def inferType (t : TypeTable) (kind : Literal.Kind) : Except Fault (Option TypeId) :=
  match kind.builtinType? with
  | none => .ok none
  | some id =>
    match t.builtin? id with
    | some entry => .ok (some entry.id)
    | none => .error (.missingBuiltin id kind)

def typing (t : TypeTable) (typeName : Option String) (kind : Literal.Kind) (span : Span) :
    Run Fault Typing :=
  match typeName with
  | some n => Typing.written <$> t.resolveName n span
  | none => Typing.deduced <$> Run.ofExcept (t.inferType kind)

/-- A declaration, with an event for every new alias. -/
def declareTraced (t : TypeTable) (r : Declaration) : Run Error (TypeId × TypeTable) :=
  match t.declare r with
  | .error e => Run.fail e
  | .ok (id, t') =>
    match r with
    | .builtin _ _ => pure (id, t')
    | .alias name base => do
      Run.note (.aliasRegistered name base id)
      return (id, t')

end TypeTable

end Storyline
