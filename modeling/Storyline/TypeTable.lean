import Storyline.TypeId

/-!
# The table of types

Types are declared one after another, each under a name and an identifier of its own. A builtin type
takes an identifier of the builtin range, an alias refers to a type declared before it and gets the
next free identifier from 16 on. The table keeps its entries in the order of their registration, and
beside them two indexes: from an identifier to the position of its entry, and from a name to its
identifier. The newest pair of an index comes first and hides older ones for the same key.

A refused declaration leaves the table as it was.
-/

namespace Storyline

namespace TypeTable

inductive Origin where
  | builtin
  | alias (base : TypeId)
deriving DecidableEq, Repr

def Origin.base? : Origin → Option TypeId
  | .builtin => none
  | .alias base => some base

structure Entry where
  id : TypeId
  name : String
  origin : Origin
deriving DecidableEq, Repr

end TypeTable

open TypeTable in
structure TypeTable where
  entries : List Entry := []
  positions : List (TypeId × Nat) := []
  ids : List (String × TypeId) := []
  nextAlias : TypeId := .firstAlias
deriving DecidableEq, Repr

namespace TypeTable

def empty : TypeTable := {}

/-- Puts an entry at the end, whatever the indexes say about its identifier and its name. -/
def insert (t : TypeTable) (e : Entry) : TypeTable :=
  { t with
    entries := t.entries ++ [e]
    positions := (e.id, t.entries.length) :: t.positions
    ids := (e.name, e.id) :: t.ids }

/-- An entry under the next free identifier, which is then taken. -/
def insertAlias (t : TypeTable) (name : String) (base : TypeId) : TypeTable :=
  { t.insert ⟨t.nextAlias, name, .alias base⟩ with nextAlias := ⟨t.nextAlias.raw + 1⟩ }

/-- The builtin types of every script, under the names that scripts use. -/
def builtins : TypeTable :=
  [(.integer, "INTEGER"), (.integer64, "INTEGER64"), (.real, "REAL"), (.string, "STRING"),
    (.guidString, "GUIDSTRING")].foldl (fun t (id, name) => t.insert ⟨id, name, .builtin⟩) empty

def size (t : TypeTable) : Nat := t.entries.length

def isEmpty (t : TypeTable) : Bool := t.entries.isEmpty

def hasId (t : TypeTable) (id : TypeId) : Bool := (t.positions.lookup id).isSome

def hasName (t : TypeTable) (name : String) : Bool := (t.ids.lookup name).isSome

def get? (t : TypeTable) (id : TypeId) : Option Entry :=
  (t.positions.lookup id).bind fun position => t.entries[position]?

def lookup? (t : TypeTable) (name : String) : Option TypeId := t.ids.lookup name

def name? (t : TypeTable) (id : TypeId) : Option String := (t.get? id).map (·.name)

def builtin? (t : TypeTable) (id : TypeId) : Option Entry :=
  (t.get? id).filter (·.origin = .builtin)

/-- Follows at most `fuel` alias links from an entry. -/
def followAliases (t : TypeTable) : Nat → Entry → Option TypeId
  | 0, _ => none
  | fuel + 1, e =>
    match e.origin with
    | .builtin => some e.id
    | .alias base => (t.get? base).bind (t.followAliases fuel)

/-- The builtin type at the end of the alias links. A chain of links is shorter than the table. -/
def base? (t : TypeTable) (id : TypeId) : Option TypeId :=
  (t.get? id).bind (t.followAliases (t.size + 1))

inductive Error where
  | duplicate (name : String)
  | unknownBase (name : String) (base : TypeId)
  | notBuiltin (id : TypeId)
  | full
deriving DecidableEq, Repr

def Error.message : Error → String
  | .duplicate name => "type `" ++ name ++ "` is already declared"
  | .unknownBase name base => "alias `" ++ name ++ "` refers to unknown base type " ++ base.text
  | .notBuiltin id => id.text ++ " is outside the builtin type range"
  | .full => "type table is full"

def addBuiltin (t : TypeTable) (id : TypeId) (name : String) :
    Except Error (TypeId × TypeTable) :=
  if !id.inBuiltinRange || id = .unknown then .error (.notBuiltin id)
  else if t.hasName name || t.hasId id then .error (.duplicate name)
  else .ok (id, t.insert ⟨id, name, .builtin⟩)

/-- The largest identifier is never given out, because no identifier would follow it. -/
def addAlias (t : TypeTable) (name : String) (base : TypeId) :
    Except Error (TypeId × TypeTable) :=
  if t.hasName name then .error (.duplicate name)
  else if !t.hasId base then .error (.unknownBase name base)
  else if t.nextAlias.raw.toNat + 1 = UInt32.size then .error .full
  else .ok (t.nextAlias, t.insertAlias name base)

inductive Declaration where
  | builtin (id : TypeId) (name : String)
  | alias (name : String) (base : TypeId)
deriving DecidableEq, Repr

def declare (t : TypeTable) : Declaration → Except Error (TypeId × TypeTable)
  | .builtin id name => t.addBuiltin id name
  | .alias name base => t.addAlias name base

/-- The table after a declaration, successful or not. -/
def after (t : TypeTable) (r : Declaration) : TypeTable :=
  match t.declare r with
  | .ok (_, t') => t'
  | .error _ => t

end TypeTable

end Storyline
