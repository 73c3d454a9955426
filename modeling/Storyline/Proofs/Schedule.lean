/-!
# Threads that share a state

A thread is a list of moves, and each move changes a state that all the threads share. A schedule says
whose turn it is, step by step; nothing is assumed about it, and a thread that has no move left lets
its turn pass. The trace remembers which thread made which move.

What holds whatever the schedule: the shared state is the trace played back, what a thread has done
followed by what it has left is the whole thread, and the trace together with all that is left is a
permutation of all the threads. A schedule finishes exactly if it gives every thread as many turns as
the thread has moves. Running the threads one after another is one such schedule.
-/

namespace Storyline

structure Pool (σ α : Type) where
  shared : σ
  threads : List (List α)
  trace : List (Nat × α) := []

namespace Pool

variable {σ α β : Type}

/-- The moves of one thread, out of a trace of all. -/
def movesOf (trace : List (Nat × α)) (i : Nat) : List α := (trace.filter (·.1 = i)).map (·.2)

def done (p : Pool σ α) : Bool := p.threads.all (·.isEmpty)

section Traces

@[simp] theorem movesOf_nil (i : Nat) : movesOf ([] : List (Nat × α)) i = [] := rfl

theorem movesOf_append (xs ys : List (Nat × α)) (i : Nat) :
    movesOf (xs ++ ys) i = movesOf xs i ++ movesOf ys i := by
  simp only [movesOf, List.filter_append, List.map_append]

theorem movesOf_cons_self (i : Nat) (a : α) (trace : List (Nat × α)) :
    movesOf ((i, a) :: trace) i = a :: movesOf trace i := by
  simp [movesOf]

theorem movesOf_cons_of_ne {i j : Nat} (h : j ≠ i) (a : α) (trace : List (Nat × α)) :
    movesOf ((j, a) :: trace) i = movesOf trace i := by
  simp [movesOf, h]

/-- Looking at some of the moves only, under another form. -/
theorem movesOf_filterMap (f : α → Option β) (trace : List (Nat × α)) (i : Nat) :
    movesOf (trace.filterMap fun m => (f m.2).map fun b => (m.1, b)) i =
      (movesOf trace i).filterMap f := by
  induction trace with
  | nil => rfl
  | cons m trace ih =>
    obtain ⟨j, a⟩ := m
    by_cases hj : j = i
    · subst hj
      cases hf : f a with
      | none => simp only [List.filterMap_cons, hf, Option.map_none, movesOf_cons_self, ih]
      | some b => simp only [List.filterMap_cons, hf, Option.map_some, movesOf_cons_self, ih]
    · cases hf : f a with
      | none => simp only [List.filterMap_cons, hf, Option.map_none, movesOf_cons_of_ne hj, ih]
      | some b => simp only [List.filterMap_cons, hf, Option.map_some, movesOf_cons_of_ne hj, ih]

theorem flatten_perm_set {threads : List (List α)} {i : Nat} {a : α} {rest : List α}
    (h : threads[i]? = some (a :: rest)) :
    threads.flatten.Perm (a :: (threads.set i rest).flatten) := by
  induction threads generalizing i with
  | nil => simp at h
  | cons thread threads ih =>
    cases i with
    | zero =>
      obtain rfl : thread = a :: rest := by simpa using h
      exact List.Perm.refl _
    | succ i =>
      have htail := ih (i := i) (by simpa using h)
      exact (htail.append_left thread).trans List.perm_middle

end Traces

variable (act : σ → Nat → α → σ)

def turn (p : Pool σ α) (i : Nat) : Pool σ α :=
  match p.threads[i]? with
  | some (a :: rest) => ⟨act p.shared i a, p.threads.set i rest, p.trace ++ [(i, a)]⟩
  | _ => p

def run (p : Pool σ α) (schedule : List Nat) : Pool σ α := schedule.foldl (turn act) p

/-- A turn passes, or it is used for a move. -/
theorem turn_cases (p : Pool σ α) (i : Nat) :
    (p.turn act i = p ∧ ∀ moves, p.threads[i]? = some moves → moves = []) ∨
      ∃ a rest, p.threads[i]? = some (a :: rest) ∧
        p.turn act i = ⟨act p.shared i a, p.threads.set i rest, p.trace ++ [(i, a)]⟩ := by
  cases hi : p.threads[i]? with
  | none => exact Or.inl ⟨by simp only [turn, hi], by simp⟩
  | some moves =>
    cases moves with
    | nil => exact Or.inl ⟨by simp only [turn, hi], by simp⟩
    | cons a rest => exact Or.inr ⟨a, rest, rfl, by simp only [turn, hi]⟩

/-- What can be said of a pool that came from `start`, whoever had the turns. -/
structure Follows (start p : Pool σ α) : Prop where
  shared : p.shared = p.trace.foldl (fun s m => act s m.1 m.2) start.shared
  threads : ∀ i, start.threads[i]? = p.threads[i]?.map (movesOf p.trace i ++ ·)
  perm : (p.trace.map (·.2) ++ p.threads.flatten).Perm start.threads.flatten
  placed : ∀ m ∈ p.trace, m.1 < start.threads.length

namespace Follows

variable {act} {start p : Pool σ α}

theorem refl (h : start.trace = []) : Follows act start start where
  shared := by rw [h]; rfl
  threads i := by simp [h]
  perm := by rw [h]; exact List.Perm.refl _
  placed := by simp [h]

theorem turn (h : Follows act start p) (i : Nat) : Follows act start (p.turn act i) := by
  rcases p.turn_cases act i with ⟨hsame, _⟩ | ⟨a, rest, hi, hturn⟩
  · rwa [hsame]
  · rw [hturn]
    exact {
      shared := by rw [List.foldl_append, ← h.shared]; rfl
      threads := by
        intro j
        rw [h.threads j, movesOf_append]
        by_cases hj : i = j
        · subst hj
          have hlt : i < p.threads.length := (List.getElem?_eq_some_iff.mp hi).1
          rw [hi, List.getElem?_set_self hlt, movesOf_cons_self]
          simp
        · rw [List.getElem?_set_ne hj, movesOf_cons_of_ne hj]
          simp
      perm := by
        have hmove := (flatten_perm_set hi).append_left (p.trace.map (·.2))
        rw [List.map_append, List.append_assoc]
        exact hmove.symm.trans h.perm
      placed := by
        intro m hm
        rcases List.mem_append.mp hm with hold | hnew
        · exact h.placed m hold
        · rw [List.mem_singleton.mp hnew]
          have hstart := h.threads i
          rw [hi, Option.map_some] at hstart
          exact (List.getElem?_eq_some_iff.mp hstart).1 }

theorem run (h : Follows act start p) (schedule : List Nat) :
    Follows act start (p.run act schedule) := by
  induction schedule generalizing p with
  | nil => exact h
  | cons i schedule ih => exact ih (h.turn i)

theorem movesOf_of_done (h : Follows act start p) (hdone : p.done = true) {i : Nat}
    {moves : List α} (hi : start.threads[i]? = some moves) : movesOf p.trace i = moves := by
  rw [h.threads i] at hi
  obtain ⟨left, hleft, rfl⟩ := Option.map_eq_some_iff.mp hi
  have hnil : left = [] := by
    simpa using List.all_eq_true.mp hdone left (List.mem_of_getElem? hleft)
  rw [hnil, List.append_nil]

theorem perm_of_done (h : Follows act start p) (hdone : p.done = true) :
    (p.trace.map (·.2)).Perm start.threads.flatten := by
  have hnil : p.threads.flatten = [] := by
    rw [List.flatten_eq_nil_iff]
    intro left hleft
    simpa using List.all_eq_true.mp hdone left hleft
  have hperm := h.perm
  rwa [hnil, List.append_nil] at hperm

end Follows

section Turns

theorem turn_threads (p : Pool σ α) (i j : Nat) :
    (p.turn act i).threads[j]? = p.threads[j]?.map (·.drop (if i = j then 1 else 0)) := by
  rcases p.turn_cases act i with ⟨hsame, hpass⟩ | ⟨a, rest, hi, hturn⟩
  · rw [hsame]
    by_cases hj : i = j
    · subst hj
      cases hi : p.threads[i]? with
      | none => rfl
      | some moves => simp [hpass moves hi]
    · simp [hj]
  · rw [hturn]
    by_cases hj : i = j
    · subst hj
      have hlt : i < p.threads.length := (List.getElem?_eq_some_iff.mp hi).1
      simp [hi, List.getElem?_set_self hlt]
    · simp [hj, List.getElem?_set_ne hj]

/-- However its turns are spread, a thread makes one move at each of them. -/
theorem run_threads (p : Pool σ α) (schedule : List Nat) (j : Nat) :
    (p.run act schedule).threads[j]? = p.threads[j]?.map (·.drop (schedule.count j)) := by
  induction schedule generalizing p with
  | nil => simp [run]
  | cons i schedule ih =>
    have hstep : p.run act (i :: schedule) = (p.turn act i).run act schedule := rfl
    rw [hstep, ih, turn_threads, Option.map_map, List.count_cons]
    congr 1
    funext moves
    by_cases hj : i = j <;> simp [hj]

theorem done_run_iff (p : Pool σ α) (schedule : List Nat) :
    (p.run act schedule).done = true ↔
      ∀ i moves, p.threads[i]? = some moves → moves.length ≤ schedule.count i := by
  rw [done, List.all_eq_true]
  constructor
  · intro hdone i moves hi
    have hleft := p.run_threads act schedule i
    rw [hi, Option.map_some] at hleft
    have hnil := hdone _ (List.mem_of_getElem? hleft)
    rwa [List.isEmpty_iff, List.drop_eq_nil_iff] at hnil
  · intro hturns left hleft
    obtain ⟨i, hi⟩ := List.mem_iff_getElem?.mp hleft
    rw [run_threads] at hi
    obtain ⟨moves, hmoves, rfl⟩ := Option.map_eq_some_iff.mp hi
    rw [List.isEmpty_iff, List.drop_eq_nil_iff]
    exact hturns i moves hmoves

end Turns

section InOrder

/-- One thread after another, from the position `first` on. -/
def inOrder (first : Nat) (threads : List (List α)) : List Nat :=
  (threads.zipIdx first).flatMap fun p => List.replicate p.1.length p.2

def traceInOrder (first : Nat) (threads : List (List α)) : List (Nat × α) :=
  (threads.zipIdx first).flatMap fun p => p.1.map fun a => (p.2, a)

theorem run_append (p : Pool σ α) (schedule more : List Nat) :
    p.run act (schedule ++ more) = (p.run act schedule).run act more :=
  List.foldl_append

theorem run_replicate (p : Pool σ α) {i : Nat} {moves : List α}
    (hi : p.threads[i]? = some moves) :
    (p.run act (List.replicate moves.length i)).threads = p.threads.set i [] ∧
      (p.run act (List.replicate moves.length i)).trace =
        p.trace ++ moves.map fun a => (i, a) := by
  induction moves generalizing p with
  | nil =>
    obtain ⟨hlt, hget⟩ := List.getElem?_eq_some_iff.mp hi
    have hset : p.threads.set i p.threads[i] = p.threads := List.set_getElem_self hlt
    rw [hget] at hset
    exact ⟨hset.symm, (List.append_nil _).symm⟩
  | cons a rest ih =>
    have hlt : i < p.threads.length := (List.getElem?_eq_some_iff.mp hi).1
    have hturn : p.turn act i = ⟨act p.shared i a, p.threads.set i rest, p.trace ++ [(i, a)]⟩ := by
      simp only [turn, hi]
    have hstep : p.run act (List.replicate (a :: rest).length i) =
        (p.turn act i).run act (List.replicate rest.length i) := rfl
    obtain ⟨hthreads, htrace⟩ := ih (p.turn act i) (by rw [hturn, List.getElem?_set_self hlt])
    rw [hstep, hthreads, htrace, hturn]
    refine ⟨List.set_set .., ?_⟩
    rw [List.append_assoc, List.map_cons]
    rfl

theorem run_inOrder (p : Pool σ α) {before threads : List (List α)}
    (h : p.threads = before ++ threads) :
    (p.run act (inOrder before.length threads)).threads = before ++ threads.map (fun _ => []) ∧
      (p.run act (inOrder before.length threads)).trace =
        p.trace ++ traceInOrder before.length threads := by
  induction threads generalizing p before with
  | nil => exact ⟨h, (List.append_nil _).symm⟩
  | cons moves threads ih =>
    have hi : p.threads[before.length]? = some moves := by simp [h]
    obtain ⟨hthreads, htrace⟩ := p.run_replicate act hi
    have hnext : (p.run act (List.replicate moves.length before.length)).threads =
        (before ++ [[]]) ++ threads := by
      rw [hthreads, h, List.set_append_right _ _ (Nat.le_refl _)]
      simp
    obtain ⟨hempty, hrest⟩ := ih _ hnext
    rw [List.length_append, List.length_singleton] at hempty hrest
    simp only [inOrder, traceInOrder, List.zipIdx_cons, List.flatMap_cons] at hempty hrest ⊢
    rw [run_append, hempty, hrest, htrace]
    simp

theorem traceInOrder_map_snd (first : Nat) (threads : List (List α)) :
    (traceInOrder first threads).map (·.2) = threads.flatten := by
  induction threads generalizing first with
  | nil => rfl
  | cons moves threads ih =>
    have hmoves : (moves.map fun a => (first, a)).map (·.2) = moves := by
      rw [List.map_map]
      exact List.map_id moves
    have hrest := ih (first + 1)
    simp only [traceInOrder, List.zipIdx_cons, List.flatMap_cons, List.map_append] at hrest ⊢
    rw [hmoves, hrest, List.flatten_cons]

theorem done_run_inOrder (p : Pool σ α) (h : p.trace = []) :
    (p.run act (inOrder 0 p.threads)).done = true ∧
      (p.run act (inOrder 0 p.threads)).trace.map (·.2) = p.threads.flatten := by
  have hrun := p.run_inOrder act (List.nil_append p.threads).symm
  rw [List.length_nil, h] at hrun
  constructor
  · rw [done, hrun.1]
    simp
  · rw [hrun.2]
    exact traceInOrder_map_snd 0 p.threads

end InOrder

end Pool

end Storyline
