import Storyline.Proofs.Decimal
import Storyline.Resolved.Check

/-!
# A fault is known by its message

The message of a fault puts numbers, a type's label, a word for a kind of literals and the text of a
symbol between fixed words, and escapes none of them. It still tells the fault. The words at its
start tell which rule of structure was broken: no two rules open with the same words once digits are
left out. The rest is then read from the right end, where numbers stand, so that the text of a
symbol may hold anything, the message's own words included. Only the goal of a broken rule is read
from the left, for after it comes a message of any form.

Two symbols have different texts even if their names hold slashes and digits, so the text that an
arity fault keeps stands for one symbol only.
-/

namespace Storyline

open Text

theorem Symbol.text_injective : Function.Injective Symbol.text := by
  intro s t h
  obtain ⟨hname, harity⟩ := cut_before_number (by decide) h
  cases s
  cases t
  simp_all [UInt32.toNat_inj]

namespace GoalId

theorem cut_before_text {s t : String} {g k : GoalId} (h : s ++ g.text = t ++ k.text) :
    s = t ∧ g = k := by
  unfold text at h
  rw [← String.append_assoc, ← String.append_assoc] at h
  obtain ⟨hrest, hraw⟩ := cut_before_number (by decide) h
  exact ⟨hrest, congrArg mk (UInt32.toNat_inj.1 hraw)⟩

theorem cut_after_text {sep s t : String} {g k : GoalId} (hsep : startsOutside Char.isDigit sep)
    (h : g.text ++ (sep ++ s) = k.text ++ (sep ++ t)) : g = k ∧ s = t := by
  unfold text at h
  rw [String.append_assoc, String.append_assoc, String.append_right_inj] at h
  obtain ⟨hraw, hrest⟩ := cut_after_number hsep h
  exact ⟨congrArg mk (UInt32.toNat_inj.1 hraw), hrest⟩

end GoalId

namespace TypeId

def named : List TypeId := [unknown, integer, integer64, real, string, guidString]

theorem label_of_notMem {t : TypeId} (h : t ∉ named) : t.label = toString t.raw.toNat := by
  simp [named] at h
  simp [label, h]

theorem named_label_injective : ∀ t ∈ named, ∀ u ∈ named, t.label = u.label → t = u := by
  decide

theorem named_label_not_all_isDigit : ∀ t ∈ named, ¬ t.label.toList.all Char.isDigit := by
  decide

theorem label_ne_toString {t : TypeId} (ht : t ∈ named) (n : Nat) : t.label ≠ toString n := by
  intro h
  have hdigits := toString_all_isDigit n
  rw [← h] at hdigits
  exact named_label_not_all_isDigit t ht hdigits

theorem label_injective : Function.Injective label := by
  intro t u h
  by_cases ht : t ∈ named
  · by_cases hu : u ∈ named
    · exact named_label_injective t ht u hu h
    · rw [label_of_notMem hu] at h
      exact absurd h (label_ne_toString ht _)
  · rw [label_of_notMem ht] at h
    by_cases hu : u ∈ named
    · exact absurd h.symm (label_ne_toString hu _)
    · rw [label_of_notMem hu] at h
      exact congrArg mk (UInt32.toNat_inj.1 (toString_injective h))

theorem text_injective : Function.Injective text := by
  intro t u h
  exact label_injective ((String.append_right_inj _).1 ((String.append_left_inj _).1 h))

end TypeId

namespace Literal.Kind

theorem word_injective : Function.Injective word := by
  intro k l h
  cases k <;> cases l <;> simp [word] at h <;> rfl

theorem word_all_isAlpha (k : Kind) : k.word.toList.all Char.isAlpha := by
  cases k <;> decide

end Literal.Kind

namespace Violation

/-- The words that a message opens with, with two blanks where a number stands. -/
def opening : Violation → String
  | .foreignRule .. => "rule  belongs to "
  | .sparseSlots .. => "rule  has variable slot "
  | .unboundVariable .. => "rule  references variable "
  | .arityMismatch .. => "symbol `"
  | .foreignCompletion .. => "goal completion in rule "

theorem opening_prefix (v : Violation) : v.opening.toList <+: words v.message := by
  unfold message opening
  cases v with
  | foreignRule rule owner =>
    have hopening : "rule  belongs to ".toList = words "rule " ++ words " belongs to " := by decide
    simp only [words_append, words_toString, List.append_nil, ← hopening]
    exact List.prefix_append ..
  | sparseSlots rule position index =>
    have hopening : "rule  has variable slot ".toList =
        words "rule " ++ words " has variable slot " := by decide
    simp only [words_append, words_toString, List.append_nil, ← hopening]
    exact List.prefix_append ..
  | unboundVariable rule index slots =>
    have hopening : "rule  references variable ".toList =
        words "rule " ++ words " references variable " := by decide
    simp only [words_append, words_toString, List.append_nil, List.append_assoc, ← hopening]
    exact List.prefix_append ..
  | arityMismatch symbol args =>
    have hopening : "symbol `".toList = words "symbol `" := by decide
    simp only [words_append, List.append_assoc, ← hopening]
    exact List.prefix_append ..
  | foreignCompletion rule target =>
    have hopening : "goal completion in rule ".toList = words "goal completion in rule " := by decide
    simp only [words_append, List.append_assoc, ← hopening]
    exact List.prefix_append ..

def openings : List String :=
  ["rule  belongs to ", "rule  has variable slot ", "rule  references variable ", "symbol `",
    "goal completion in rule "]

theorem opening_mem (v : Violation) : v.opening ∈ openings := by
  cases v <;> simp [opening, openings]

theorem openings_prefix_free : ∀ a ∈ openings, ∀ b ∈ openings, a.toList <+: b.toList → a = b := by
  decide

theorem opening_eq_of_message_eq {v w : Violation} (h : v.message = w.message) :
    v.opening = w.opening := by
  have hv := v.opening_prefix
  rw [h] at hv
  rcases List.prefix_or_prefix_of_prefix hv w.opening_prefix with hvw | hwv
  · exact openings_prefix_free _ v.opening_mem _ w.opening_mem hvw
  · exact (openings_prefix_free _ w.opening_mem _ v.opening_mem hwv).symm

theorem rule_index_inj {lead sep : String} (hsep : endsOutside Char.isDigit sep) {m n : Nat}
    {i j : UInt32}
    (h : lead ++ toString m ++ sep ++ toString i.toNat =
      lead ++ toString n ++ sep ++ toString j.toNat) :
    m = n ∧ i = j := by
  obtain ⟨hrule, hindex⟩ := cut_before_number hsep h
  rw [String.append_right_inj] at hrule
  exact ⟨toString_injective hrule, UInt32.toNat_inj.1 hindex⟩

theorem rule_goal_inj {lead sep : String} {m n : Nat} {g k : GoalId}
    (h : lead ++ toString m ++ sep ++ g.text = lead ++ toString n ++ sep ++ k.text) :
    m = n ∧ g = k := by
  obtain ⟨hrule, hgoal⟩ := GoalId.cut_before_text h
  rw [String.append_left_inj, String.append_right_inj] at hrule
  exact ⟨toString_injective hrule, hgoal⟩

theorem message_injective : Function.Injective message := by
  intro v w h
  have hopening := opening_eq_of_message_eq h
  cases v with
  | foreignRule rule owner =>
    cases w with
    | foreignRule rule' owner' =>
      obtain ⟨rfl, rfl⟩ := rule_goal_inj h
      rfl
    | _ => simp [opening] at hopening
  | sparseSlots rule position index =>
    cases w with
    | sparseSlots rule' position' index' =>
      obtain ⟨hslot, rfl⟩ := cut_before_number (by decide) h
      obtain ⟨rfl, rfl⟩ := rule_index_inj (by decide) hslot
      rfl
    | _ => simp [opening] at hopening
  | unboundVariable rule index slots =>
    cases w with
    | unboundVariable rule' index' slots' =>
      obtain ⟨hvariable, rfl⟩ := cut_before_number (by decide) ((String.append_left_inj _).1 h)
      obtain ⟨rfl, rfl⟩ := rule_index_inj (by decide) hvariable
      rfl
    | _ => simp [opening] at hopening
  | arityMismatch symbol args =>
    cases w with
    | arityMismatch symbol' args' =>
      -- The symbol may hold these very words, so the count is cut off the end.
      obtain ⟨hsymbol, rfl⟩ := cut_before_number (by decide) ((String.append_left_inj _).1 h)
      rw [String.append_right_inj] at hsymbol
      rw [hsymbol]
    | _ => simp [opening] at hopening
  | foreignCompletion rule target =>
    cases w with
    | foreignCompletion rule' target' =>
      obtain ⟨rfl, rfl⟩ := rule_goal_inj h
      rfl
    | _ => simp [opening] at hopening

end Violation

namespace Fault

theorem missingBuiltin_message (id : TypeId) (kind : Literal.Kind) :
    (missingBuiltin id kind).message = "builtin type " ++ (id.text ++ (" for " ++ (kind.word ++
      " literals is not registered in the type table"))) := by
  unfold message
  simp only [String.append_assoc]

theorem malformed_message (goal : GoalId) (violation : Violation) :
    (malformed goal violation).message =
      "invalid IR for " ++ (goal.text ++ (": " ++ violation.message)) := by
  unfold message
  simp only [String.append_assoc]

theorem missingBuiltin_message_ne (id : TypeId) (kind : Literal.Kind) (goal : GoalId)
    (violation : Violation) :
    (missingBuiltin id kind).message ≠ (malformed goal violation).message := by
  rw [missingBuiltin_message, malformed_message]
  exact append_ne_append (by decide) (by decide) _ _

theorem message_injective : Function.Injective message := by
  intro e f h
  cases e with
  | missingBuiltin id kind =>
    cases f with
    | missingBuiltin id' kind' =>
      have hwords := (String.append_left_inj _).1 h
      obtain ⟨htype, hkind⟩ :=
        cut_right (by decide) kind.word_all_isAlpha kind'.word_all_isAlpha hwords
      rw [String.append_right_inj] at htype
      rw [TypeId.text_injective htype, Literal.Kind.word_injective hkind]
    | malformed goal violation =>
      exact absurd h (missingBuiltin_message_ne id kind goal violation)
  | malformed goal violation =>
    cases f with
    | missingBuiltin id kind =>
      exact absurd h.symm (missingBuiltin_message_ne id kind goal violation)
    | malformed goal' violation' =>
      rw [malformed_message, malformed_message, String.append_right_inj] at h
      obtain ⟨rfl, hviolation⟩ := GoalId.cut_after_text (by decide) h
      rw [Violation.message_injective hviolation]

theorem diagnostic_injective : Function.Injective diagnostic := by
  intro e f h
  exact message_injective (congrArg Diagnostic.message h)

end Fault

theorem Resolved.checkArity_eq_error {s : Symbol} {args : Nat} {v : Violation}
    (h : checkArity s args = .error v) : v = .arityMismatch s.text args := by
  unfold checkArity at h
  split at h
  · cases h
  · exact (Except.error.inj h).symm

theorem Fault.known_by_text :
    Function.Injective Fault.message ∧ Function.Injective Fault.diagnostic ∧
      Function.Injective Symbol.text ∧
      ∀ (s t : Symbol) (m n : Nat) (v : Violation), Resolved.checkArity s m = .error v →
        Resolved.checkArity t n = .error v → s = t ∧ m = n := by
  refine ⟨message_injective, diagnostic_injective, Symbol.text_injective, ?_⟩
  intro s t m n v hs ht
  have htext : Violation.arityMismatch s.text m = .arityMismatch t.text n :=
    (Resolved.checkArity_eq_error hs).symm.trans (Resolved.checkArity_eq_error ht)
  obtain ⟨hsymbol, hargs⟩ := Violation.arityMismatch.inj htext
  exact ⟨Symbol.text_injective hsymbol, hargs⟩

end Storyline
