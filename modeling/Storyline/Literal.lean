import Storyline.Binary32.Shortest
import Storyline.Text.Quoted
import Storyline.TypeId

/-!
# Literals

A literal is an integer, a real number, a text or a name. A script may also hold a literal that its
reader could not classify; it has no payload and no type. Every other kind has one builtin type, the
type of its literals when nothing else is said.
-/

namespace Storyline

inductive Literal where
  | unknown
  | integer (value : Int64)
  | real (value : Binary32)
  | text (value : String)
  | name (value : String)
deriving DecidableEq, Repr

namespace Literal

inductive Kind where
  | unknown
  | integer
  | real
  | text
  | name
deriving DecidableEq, Repr

def Kind.word : Kind → String
  | .unknown => "unknown"
  | .integer => "integer"
  | .real => "float"
  | .text => "string"
  | .name => "name"

def Kind.builtinType? : Kind → Option TypeId
  | .unknown => none
  | .integer => some .integer
  | .real => some .real
  | .text => some .string
  | .name => some .guidString

def kind : Literal → Kind
  | .unknown => .unknown
  | .integer _ => .integer
  | .real _ => .real
  | .text _ => .text
  | .name _ => .name

def integer? : Literal → Option Int64
  | .integer n => some n
  | _ => none

def real? : Literal → Option Binary32
  | .real x => some x
  | _ => none

/-- The characters of a text or a name. -/
def string? : Literal → Option String
  | .text s => some s
  | .name s => some s
  | _ => none

/-- A text is quoted, a name is not. -/
def display : Literal → String
  | .unknown => "Unknown"
  | .integer n => "Integer(" ++ toString n.toInt ++ ")"
  | .real x => "Float(" ++ x.text ++ ")"
  | .text s => "String(" ++ Text.quoted s ++ ")"
  | .name s => "Name(" ++ s ++ ")"

end Literal

end Storyline
