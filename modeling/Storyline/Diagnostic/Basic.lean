import Storyline.Span
import Storyline.Text.Quoted

/-!
# Diagnostics

A diagnostic tells the author of a script about one finding. It has a code, a severity, a message,
labels that point into the text, and notes. `display` is its form in a log: a headline, then a line
for each label and for each note.
-/

namespace Storyline

namespace Diagnostic

inductive Severity where
  | error
  | warning
deriving DecidableEq, Repr

def Severity.word : Severity → String
  | .error => "error"
  | .warning => "warning"

inductive Code where
  | goalUnparsed
  | typeUnresolved
  | internalFailure
  | annotationConflict
deriving DecidableEq, Repr

namespace Code

def all : List Code := [.goalUnparsed, .typeUnresolved, .internalFailure, .annotationConflict]

def text : Code → String
  | .goalUnparsed => "E1001"
  | .typeUnresolved => "E2001"
  | .internalFailure => "E9001"
  | .annotationConflict => "W2001"

def description : Code → String
  | .goalUnparsed => "goal failed to parse"
  | .typeUnresolved => "unresolved type"
  | .internalFailure => "internal compiler error"
  | .annotationConflict => "conflicting variable type annotation"

/-- What a code is about, as its leading characters tell. -/
inductive Family where
  | parsing
  | typing
  | internal
  | warning
deriving DecidableEq, Repr

def family : Code → Family
  | .goalUnparsed => .parsing
  | .typeUnresolved => .typing
  | .internalFailure => .internal
  | .annotationConflict => .warning

end Code

structure Label where
  span : Span
  text : String
  isPrimary : Bool
deriving DecidableEq, Repr

end Diagnostic

open Diagnostic in
structure Diagnostic where
  code : Code
  severity : Severity
  message : String := ""
  labels : List Label := []
  notes : List String := []
deriving DecidableEq, Repr

namespace Diagnostic

def setMessage (d : Diagnostic) (message : String) : Diagnostic := { d with message }

def addLabel (d : Diagnostic) (label : Label) : Diagnostic :=
  { d with labels := d.labels ++ [label] }

def addPrimary (d : Diagnostic) (span : Span) (text : String) : Diagnostic :=
  d.addLabel ⟨span, text, true⟩

def addSecondary (d : Diagnostic) (span : Span) (text : String) : Diagnostic :=
  d.addLabel ⟨span, text, false⟩

/-- A dummy span has nothing to point at, so it gets no label. -/
def addPrimaryAt (d : Diagnostic) (span : Span) (text : String) : Diagnostic :=
  if span.isDummy then d else d.addPrimary span text

def addNote (d : Diagnostic) (note : String) : Diagnostic :=
  { d with notes := d.notes ++ [note] }

def isError (d : Diagnostic) : Bool := d.severity = .error

def primarySpan? (d : Diagnostic) : Option Span :=
  (d.labels.find? (·.isPrimary)).map (·.span)

def Label.line (l : Label) : String :=
  "\n  " ++ (if l.isPrimary then "-->" else "   ") ++ " " ++ l.span.text ++ ": " ++ l.text

def noteLine (note : String) : String := "\n  = note: " ++ note

def headline (d : Diagnostic) : String :=
  d.severity.word ++ " [" ++ d.code.text ++ "]: " ++ d.message

def display (d : Diagnostic) : String :=
  d.headline ++ String.join (d.labels.map Label.line) ++ String.join (d.notes.map noteLine)

end Diagnostic

end Storyline
