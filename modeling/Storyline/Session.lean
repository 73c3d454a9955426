import Storyline.Compilation
import Storyline.Diagnostic.Log

/-!
# Sessions

A session compiles goals with one parser and one context. It keeps everything its compilations did,
and a log of their diagnostics that can be taken.
-/

namespace Storyline

structure Session where
  parse : Parser
  context : Context := {}
  parallel : Bool := true
  history : List Effect := []
  log : DiagnosticLog := .empty

namespace Session

def record {ε α : Type} (s : Session) (r : Run ε α) : Except ε α × Session :=
  (r.outcome,
    { s with history := s.history ++ r.effects, log := s.log.reportAll r.diagnostics })

def compile (s : Session) (path : String) (id : GoalId) : Compilation.Result × Session :=
  s.record (Compilation.run s.parse s.context path id)

def compileBatch (s : Session) (paths : List String) :
    Except Compilation.Error (List Compilation.Result) × Session :=
  s.record (Compilation.runBatch s.parse s.context s.parallel paths)

def requests (s : Session) : List String := requestsOf s.history

def takeDiagnostics (s : Session) : List Diagnostic × Session :=
  (s.log.entries, { s with log := .empty })

end Session

end Storyline
