/-!
# Documents

A document is the form in which goals are stored: texts, whole numbers, truth values, lists, and
records of named fields. A number with decimal places can stand in a document but is the value of
nothing in this library.

A type is stored by a codec. `encode` writes all fields of a record in a fixed order. `decode?`
looks fields up by name and ignores those it does not know; an optional field may be missing or
null. An alternative with a payload is a record of exactly one field, named for the alternative, and
one without is its name.
-/

namespace Storyline

inductive Document where
  | null
  | bool (value : Bool)
  | int (value : Int)
  | fraction (mantissa : Int) (places : Nat)
  | text (value : String)
  | list (items : List Document)
  | record (fields : List (String × Document))
deriving Inhabited

class Codec (α : Type) where
  encode : α → Document
  decode? : Document → Option α

export Codec (encode decode?)

namespace Document

variable {α : Type} [Codec α]

def isRecord : Document → Bool
  | .record _ => true
  | _ => false

def natBelow? (bound : Nat) : Document → Option Nat
  | .int (.ofNat n) => if n < bound then some n else none
  | _ => none

def field? (key : String) : Document → Option Document
  | .record fields => fields.lookup key
  | _ => none

def required? (d : Document) (key : String) : Option α :=
  (d.field? key).bind decode?

def optional? (d : Document) (key : String) : Option (Option α) :=
  match d.field? key with
  | none => some none
  | some .null => some none
  | some value => (decode? value).map some

/-- The name of an alternative without a payload, bare or with a null in its place. -/
def label? : Document → Option String
  | .text name => some name
  | .record [(name, .null)] => some name
  | _ => none

/-- An alternative and its payload. -/
def tagged? : Document → Option (String × Document)
  | .record [(name, payload)] => some (name, payload)
  | _ => none

def tagged (name : String) (payload : α) : Document := .record [(name, encode payload)]

end Document

instance : Codec Document where
  encode d := d
  decode? d := some d

instance : Codec Bool where
  encode b := .bool b
  decode?
    | .bool b => some b
    | _ => none

instance : Codec String where
  encode s := .text s
  decode?
    | .text s => some s
    | _ => none

instance : Codec UInt32 where
  encode n := .int n.toNat
  decode? d := (d.natBelow? UInt32.size).map UInt32.ofNat

instance : Codec UInt64 where
  encode n := .int n.toNat
  decode? d := (d.natBelow? UInt64.size).map UInt64.ofNat

instance : Codec Int64 where
  encode n := .int n.toInt
  decode?
    | .int n => if (Int64.ofInt n).toInt = n then some (Int64.ofInt n) else none
    | _ => none

instance {α : Type} [Codec α] : Codec (List α) where
  encode as := .list (as.map encode)
  decode?
    | .list items => items.mapM decode?
    | _ => none

instance {α : Type} [Codec α] : Codec (Option α) where
  encode
    | none => .null
    | some a => encode a
  decode?
    | .null => some none
    | d => (decode? d).map some

end Storyline
