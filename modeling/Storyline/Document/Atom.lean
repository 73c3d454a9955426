import Storyline.Document.Basic
import Storyline.Source.Basic
import Storyline.Symbol

/-!
# Stored forms of spans, identifiers and literals

Identifiers are bare numbers. A real literal is stored as the number of its bit pattern, so every
pattern survives.
-/

namespace Storyline

instance : Codec Span where
  encode s := .record [("start", encode s.start), ("end", encode s.stop)]
  decode? d := do
    let start ← d.required? "start"
    let stop ← d.required? "end"
    return ⟨start, stop⟩

instance : Codec TypeId where
  encode t := encode t.raw
  decode? d := (decode? d).map TypeId.mk

instance : Codec GoalId where
  encode g := encode g.raw
  decode? d := (decode? d).map GoalId.mk

instance : Codec Symbol where
  encode s := .record [("name", encode s.name), ("arity", encode s.arity)]
  decode? d := do
    let name ← d.required? "name"
    let arity ← d.required? "arity"
    return ⟨name, arity⟩

instance : Codec Binary32 where
  encode x := encode x.bits
  decode? d := (decode? d).map Binary32.mk

def Relation.tag : Relation → String
  | .less => "Less"
  | .lessOrEqual => "LessOrEqual"
  | .greater => "Greater"
  | .greaterOrEqual => "GreaterOrEqual"
  | .equal => "Equal"
  | .notEqual => "NotEqual"

def Relation.ofTag? : String → Option Relation
  | "Less" => some .less
  | "LessOrEqual" => some .lessOrEqual
  | "Greater" => some .greater
  | "GreaterOrEqual" => some .greaterOrEqual
  | "Equal" => some .equal
  | "NotEqual" => some .notEqual
  | _ => none

instance : Codec Relation where
  encode r := encode r.tag
  decode? d := d.label?.bind Relation.ofTag?

def RuleKind.ofWord? : String → Option RuleKind
  | "Rule" => some .rule
  | "Proc" => some .proc
  | "Query" => some .query
  | _ => none

instance : Codec RuleKind where
  encode k := encode k.word
  decode? d := d.label?.bind RuleKind.ofWord?

def Literal.Kind.tag : Literal.Kind → String
  | .unknown => "Unknown"
  | .integer => "Integer"
  | .real => "Float"
  | .text => "String"
  | .name => "Name"

def Literal.Kind.ofTag? : String → Option Literal.Kind
  | "Unknown" => some .unknown
  | "Integer" => some .integer
  | "Float" => some .real
  | "String" => some .text
  | "Name" => some .name
  | _ => none

instance : Codec Literal.Kind where
  encode k := encode k.tag
  decode? d := d.label?.bind Literal.Kind.ofTag?

instance : Codec Literal where
  encode
    | .unknown => encode Literal.Kind.unknown.tag
    | .integer n => .tagged Literal.Kind.integer.tag n
    | .real x => .tagged Literal.Kind.real.tag x
    | .text s => .tagged Literal.Kind.text.tag s
    | .name s => .tagged Literal.Kind.name.tag s
  decode? d :=
    if d.label? = some Literal.Kind.unknown.tag then some .unknown
    else do
      let (tag, payload) ← d.tagged?
      match ← Literal.Kind.ofTag? tag with
      | .unknown => none
      | .integer => (decode? payload).map Literal.integer
      | .real => (decode? payload).map Literal.real
      | .text => (decode? payload).map Literal.text
      | .name => (decode? payload).map Literal.name

end Storyline
