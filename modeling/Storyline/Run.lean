import Storyline.Effect

/-!
# Runs

A run is the list of effects of a computation together with its outcome, a value or a fatal error.
Runs follow one another: the effects are appended, and after an error nothing more happens, but what
happened before stays. A run never looks at earlier effects, so what it does depends on its
arguments alone.
-/

namespace Storyline

structure Run (ε α : Type) where
  effects : List Effect
  outcome : Except ε α

namespace Run

variable {ε δ α β : Type}

def succeed (a : α) : Run ε α := ⟨[], .ok a⟩

def fail (e : ε) : Run ε α := ⟨[], .error e⟩

def followedBy (r : Run ε α) (next : α → Run ε β) : Run ε β :=
  match r.outcome with
  | .ok a => ⟨r.effects ++ (next a).effects, (next a).outcome⟩
  | .error e => ⟨r.effects, .error e⟩

instance : Monad (Run ε) where
  pure := succeed
  bind := followedBy

theorem bind_of_ok {r : Run ε α} {a : α} (h : r.outcome = .ok a) (next : α → Run ε β) :
    r >>= next = ⟨r.effects ++ (next a).effects, (next a).outcome⟩ := by
  simp only [bind, followedBy, h]

theorem bind_of_error {r : Run ε α} {e : ε} (h : r.outcome = .error e) (next : α → Run ε β) :
    r >>= next = ⟨r.effects, .error e⟩ := by
  simp only [bind, followedBy, h]

instance : LawfulMonad (Run ε) := LawfulMonad.mk' (Run ε)
  (by
    intro α r
    obtain ⟨effects, outcome⟩ := r
    cases outcome <;> simp [Functor.map, followedBy, succeed])
  (by
    intro α β a next
    simp [bind, pure, followedBy, succeed])
  (by
    intro α β γ r f g
    cases h : r.outcome with
    | error e => rw [bind_of_error h, bind_of_error h, bind_of_error rfl]
    | ok a =>
      rw [bind_of_ok h, bind_of_ok h]
      cases h' : (f a).outcome with
      | error e => rw [bind_of_error rfl, bind_of_error h']
      | ok b => rw [bind_of_ok rfl, bind_of_ok h', List.append_assoc])

def perform (x : Effect) : Run ε Unit := ⟨[x], .ok ()⟩

def request (path : String) : Run ε Unit := perform (.request path)

def report (d : Diagnostic) : Run ε Unit := perform (.report d)

def note (e : Event) : Run ε Unit := perform (.note e)

/-- A region is left also when the run inside it fails. -/
def within (region : Region) (r : Run ε α) : Run ε α :=
  ⟨.enter region :: (r.effects ++ [.leave]), r.outcome⟩

/-- The outcome as a value: the run goes on whether or not this part failed. -/
def attempt (r : Run ε α) : Run δ (Except ε α) := ⟨r.effects, .ok r.outcome⟩

def rescue (r : Run ε α) (handler : ε → Run δ α) : Run δ α :=
  match r.outcome with
  | .ok a => ⟨r.effects, .ok a⟩
  | .error e => ⟨r.effects ++ (handler e).effects, (handler e).outcome⟩

def ofExcept : Except ε α → Run ε α
  | .ok a => succeed a
  | .error e => fail e

/-- One run for each element, from left to right. -/
def forEach (f : α → Run ε β) : List α → Run ε (List β)
  | [] => succeed []
  | a :: as => do
    let b ← f a
    let bs ← forEach f as
    return b :: bs

/-- One run for each element, each from the state that the one before it left. -/
def thread {σ : Type} (f : σ → α → Run ε (β × σ)) : σ → List α → Run ε (List β × σ)
  | s, [] => succeed ([], s)
  | s, a :: as => do
    let (b, s) ← f s a
    let (bs, s) ← thread f s as
    return (b :: bs, s)

def diagnostics (r : Run ε α) : List Diagnostic := diagnosticsOf r.effects

def events (r : Run ε α) : List Event := eventsOf r.effects

def requests (r : Run ε α) : List String := requestsOf r.effects

end Run

end Storyline
