import Storyline.Diagnostic.Dump

/-!
# The log of diagnostics

Diagnostics are collected in the order of their reports. Reading the log leaves it as it is, taking
empties it. `Request` names the operations on a log, `perform` answers one: whoever shares a log
sends requests, and the log serves them one at a time.
-/

namespace Storyline

structure DiagnosticLog where
  entries : List Diagnostic := []
deriving DecidableEq, Repr

namespace DiagnosticLog

def empty : DiagnosticLog := {}

def report (log : DiagnosticLog) (d : Diagnostic) : DiagnosticLog := ⟨log.entries ++ [d]⟩

def reportAll (log : DiagnosticLog) (ds : List Diagnostic) : DiagnosticLog := ⟨log.entries ++ ds⟩

def size (log : DiagnosticLog) : Nat := log.entries.length

def isEmpty (log : DiagnosticLog) : Bool := log.entries.isEmpty

def errorCount (log : DiagnosticLog) : Nat := log.entries.countP (·.severity = .error)

def warningCount (log : DiagnosticLog) : Nat := log.entries.countP (·.severity = .warning)

def hasErrors (log : DiagnosticLog) : Bool := log.entries.any (·.isError)

def countOf (log : DiagnosticLog) (code : Diagnostic.Code) : Nat :=
  log.entries.countP (·.code = code)

def dump (log : DiagnosticLog) : String :=
  Diagnostic.record "DiagnosticSink"
    [("diagnostics", Diagnostic.array (log.entries.map Diagnostic.dump))]

inductive Request where
  | report (diagnostic : Diagnostic)
  | size
  | isEmpty
  | errorCount
  | warningCount
  | hasErrors
  | countOf (code : Diagnostic.Code)
  | snapshot
  | take
  | dump
deriving DecidableEq, Repr

inductive Answer where
  | done
  | count (n : Nat)
  | truth (b : Bool)
  | entries (ds : List Diagnostic)
  | text (s : String)
deriving DecidableEq, Repr

def perform (log : DiagnosticLog) : Request → Answer × DiagnosticLog
  | .report d => (.done, log.report d)
  | .size => (.count log.size, log)
  | .isEmpty => (.truth log.isEmpty, log)
  | .errorCount => (.count log.errorCount, log)
  | .warningCount => (.count log.warningCount, log)
  | .hasErrors => (.truth log.hasErrors, log)
  | .countOf code => (.count (log.countOf code), log)
  | .snapshot => (.entries log.entries, log)
  | .take => (.entries log.entries, empty)
  | .dump => (.text log.dump, log)

def performAll (log : DiagnosticLog) : List Request → List Answer × DiagnosticLog
  | [] => ([], log)
  | r :: rs =>
    let (answer, log) := log.perform r
    let (answers, log) := log.performAll rs
    (answer :: answers, log)

end DiagnosticLog

end Storyline
