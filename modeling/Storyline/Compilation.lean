import Storyline.Lowering
import Storyline.Path

/-!
# Compilations

A goal is compiled by its path. A parser gives the source of a path, or nothing if the goal does not
parse; a source is lowered. A goal that does not parse and a lowering that fails are both reported.

In a batch the position of a path is the identifier of its goal. The goals are compiled one by one,
and the failure of one does not touch the others.
-/

namespace Storyline

abbrev Parser := String → Option Source.Goal

/-- Sources by path; of several for one path the last one put in counts. -/
structure Library where
  sources : List (Path × Source.Goal) := []

namespace Library

def insert (l : Library) (path : String) (g : Source.Goal) : Library :=
  ⟨(.ofString path, g) :: l.sources⟩

def parser (l : Library) : Parser := fun path => l.sources.lookup (.ofString path)

end Library

namespace Compilation

inductive Error where
  | unparsed (path : String)
  | lowering (fault : Fault)
  | tooManyGoals (count : Nat)
deriving DecidableEq, Repr

def Error.message : Error → String
  | .unparsed path => "goal `" ++ path ++ "` failed to parse"
  | .lowering fault => fault.message
  | .tooManyGoals count => "batch of " ++ toString count ++ " goals exceeds the goal id range"

def unparsed (path : String) : Diagnostic where
  code := .goalUnparsed
  severity := .error
  message := (Error.unparsed path).message
  notes := ["no IR is produced for a goal that does not parse"]

abbrev Result := Except Error Resolved.Goal

variable (parse : Parser) (ctx : Context)

def run (path : String) (id : GoalId) : Run Error Resolved.Goal :=
  Run.within (.compiling path id) do
    Run.request path
    match parse path with
    | none =>
      Run.note .parsingFailed
      Run.report (unparsed path)
      Run.fail (.unparsed path)
    | some source =>
      (source.lower ctx id).rescue fun fault => do
        Run.note (.loweringAborted fault.message)
        Run.report fault.diagnostic
        Run.fail (.lowering fault)

def runBatch (parallel : Bool) (paths : List String) : Run Error (List Result) :=
  if UInt32.size ≤ paths.length then Run.fail (.tooManyGoals paths.length)
  else do
    Run.note (.batchStarted paths.length parallel)
    Run.forEach (fun (path, i) => (run parse ctx path ⟨UInt32.ofNatClamp i⟩).attempt) paths.zipIdx

end Compilation

end Storyline
