import Storyline.Diagnostic.Basic

/-!
# Diagnostics field by field

`dump` shows every field of a diagnostic by its name, with texts quoted, so that nothing hides in a
line break or an invisible character.
-/

namespace Storyline.Diagnostic

def record (name : String) (fields : List (String × String)) : String :=
  name ++ " \x7b " ++
    ", ".intercalate (fields.map fun (field, value) => field ++ ": " ++ value) ++ " \x7d"

def array (items : List String) : String := "[" ++ ", ".intercalate items ++ "]"

def Severity.title : Severity → String
  | .error => "Error"
  | .warning => "Warning"

def Label.dump (l : Label) : String :=
  record "Label"
    [("span", l.span.text), ("message", Text.quoted l.text), ("is_primary", toString l.isPrimary)]

def dump (d : Diagnostic) : String :=
  record "Diagnostic"
    [("code", d.code.text), ("severity", d.severity.title),
      ("message", Text.quoted d.message), ("labels", array (d.labels.map Label.dump)),
      ("notes", array (d.notes.map Text.quoted))]

end Storyline.Diagnostic
