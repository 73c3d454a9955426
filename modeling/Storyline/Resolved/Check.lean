import Storyline.Fault
import Storyline.Resolved.Basic

/-!
# Checking resolved goals

The check walks through a resolved goal and stops at the first broken rule: the arity of the facts,
then each rule in turn with its owner, the numbers of its slots, its conditions and its actions.
-/

namespace Storyline.Resolved

abbrev Check := Except Violation Unit

def checkAll {α : Type} (check : α → Check) : List α → Check
  | [] => .ok ()
  | a :: as => do
    check a
    checkAll check as

def checkArity (s : Symbol) (args : Nat) : Check :=
  if s.arity.toNat = args then .ok () else .error (.arityMismatch s.text args)

def Fact.check (f : Fact) : Check := checkArity f.database f.elements.length

namespace Rule

variable (rule : Nat) (r : Rule)

/-- Slots carry their own positions as numbers; `position` is that of the first one listed. -/
def checkSlots (position : Nat) : List Slot → Check
  | [] => .ok ()
  | s :: rest =>
    if s.index.toNat = position then checkSlots (position + 1) rest
    else .error (.sparseSlots rule position s.index)

def checkValue : Value → Check
  | .constant _ => .ok ()
  | .reference v =>
    match r.slot? v.index with
    | some _ => .ok ()
    | none => .error (.unboundVariable rule v.index r.slots.length)

def checkCall (c : Call) : Check := do
  checkArity c.symbol c.args.length
  checkAll (r.checkValue rule) c.args

def checkCondition : Condition → Check
  | .query c => r.checkCall rule c
  | .comparison c => do
    r.checkValue rule c.left
    r.checkValue rule c.right

def checkAction (goal : GoalId) : Action → Check
  | .completion target =>
    if target = goal then .ok () else .error (.foreignCompletion rule target)
  | .call c => r.checkCall rule c

def check (goal : GoalId) : Check := do
  if r.goal ≠ goal then
    throw (.foreignRule rule r.goal)
  checkSlots rule 0 r.slots
  checkAll (r.checkCondition rule) r.conditions
  checkAll (r.checkAction rule goal) r.actions

end Rule

namespace Goal

def firstViolation (g : Goal) : Check := do
  checkAll Fact.check g.initFacts
  checkAll Fact.check g.exitFacts
  checkAll (fun (r, rule) => r.check rule g.id) g.rules.zipIdx

def check (g : Goal) : Except Fault Unit :=
  g.firstViolation.mapError (.malformed g.id)

end Goal

end Storyline.Resolved
