import Mathlib.Data.List.Basic

/-!
# Numbers inside texts

A message puts numbers and names between fixed words, and none of them is escaped. What stands at a
place can be told from the message if all its characters are of one class and the words beside it
begin or end outside that class: the text can then be cut in one way only. Decimal numbers are made
of digits, and a number is known by its decimal text.
-/

namespace Storyline.Text

def startsOutside (p : Char → Bool) (s : String) : Bool := s.toList.head?.any fun c => !p c

def endsOutside (p : Char → Bool) (s : String) : Bool := s.toList.getLast?.any fun c => !p c

section Cut

variable {p : Char → Bool}

theorem takeWhile_append_cons {w rest : List Char} {c : Char} (hw : w.all p) (hc : p c = false) :
    (w ++ c :: rest).takeWhile p = w := by
  simp [List.takeWhile_append_of_pos (List.all_eq_true.1 hw), hc]

/-- Two words of one class before the same words are equal, and so is what follows. -/
theorem cut_left {sep v w s t : String} (hsep : startsOutside p sep) (hv : v.toList.all p)
    (hw : w.toList.all p) (h : v ++ (sep ++ s) = w ++ (sep ++ t)) : v = w ∧ s = t := by
  obtain ⟨c, rest, hrest⟩ : ∃ c rest, sep.toList = c :: rest := by
    cases hlist : sep.toList with
    | nil => simp [startsOutside, hlist] at hsep
    | cons c rest => exact ⟨c, rest, rfl⟩
  have hc : p c = false := by simpa [startsOutside, hrest] using hsep
  have hlist : v.toList ++ c :: (rest ++ s.toList) = w.toList ++ c :: (rest ++ t.toList) := by
    simpa [hrest] using congrArg String.toList h
  have hword : v = w := by
    rw [← String.toList_inj, ← takeWhile_append_cons hv hc, hlist, takeWhile_append_cons hw hc]
  subst hword
  exact ⟨rfl, (String.append_right_inj sep).1 ((String.append_right_inj v).1 h)⟩

/-- Two words of one class after the same words are equal, and so is what comes before. -/
theorem cut_right {sep s t v w : String} (hsep : endsOutside p sep) (hv : v.toList.all p)
    (hw : w.toList.all p) (h : s ++ sep ++ v = t ++ sep ++ w) : s = t ∧ v = w := by
  obtain ⟨c, rest, hrest⟩ : ∃ c rest, sep.toList.reverse = c :: rest := by
    cases hlist : sep.toList.reverse with
    | nil => simp_all [endsOutside]
    | cons c rest => exact ⟨c, rest, rfl⟩
  have hc : p c = false := by
    simpa [endsOutside, List.getLast?_eq_head?_reverse, hrest] using hsep
  -- Read backwards, the word comes first and the separator ends it.
  have hlist : v.toList.reverse ++ c :: (rest ++ s.toList.reverse) =
      w.toList.reverse ++ c :: (rest ++ t.toList.reverse) := by
    simpa [hrest] using congrArg (fun u => u.toList.reverse) h
  have hword : v = w := by
    rw [← List.all_reverse] at hv hw
    rw [← String.toList_inj, ← List.reverse_inj, ← takeWhile_append_cons hv hc, hlist,
      takeWhile_append_cons hw hc]
  subst hword
  exact ⟨(String.append_left_inj sep).1 ((String.append_left_inj v).1 h), rfl⟩

end Cut

/-- Texts that open with words of which neither continues the other are different. -/
theorem append_ne_append {a b : String} (hab : ¬ a.toList <+: b.toList)
    (hba : ¬ b.toList <+: a.toList) (s t : String) : a ++ s ≠ b ++ t := by
  intro h
  have ha : a.toList <+: (b ++ t).toList := by
    rw [← h, String.toList_append]
    exact List.prefix_append ..
  have hb : b.toList <+: (b ++ t).toList := by
    rw [String.toList_append]
    exact List.prefix_append ..
  exact (List.prefix_or_prefix_of_prefix ha hb).elim hab hba

/-! ## Decimal numbers -/

theorem toList_toString (n : Nat) : (toString n).toList = Nat.toDigits 10 n := by
  rw [Nat.toString_eq_repr, Nat.toList_repr]

theorem toString_all_isDigit (n : Nat) : (toString n).toList.all Char.isDigit := by
  rw [toList_toString, List.all_eq_true]
  intro c hc
  exact Nat.isDigit_of_mem_toDigits (by decide) (by decide) hc

theorem toString_injective : Function.Injective (toString : Nat → String) := by
  intro m n h
  have hdigits : Nat.toDigits 10 m = Nat.toDigits 10 n := by
    rw [← toList_toString, h, toList_toString]
  calc m = Nat.ofDigitChars 10 (Nat.toDigits 10 m) 0 := Nat.ofDigitChars_ten_toDigits.symm
    _ = Nat.ofDigitChars 10 (Nat.toDigits 10 n) 0 := by rw [hdigits]
    _ = n := Nat.ofDigitChars_ten_toDigits

theorem cut_after_number {sep s t : String} {m n : Nat} (hsep : startsOutside Char.isDigit sep)
    (h : toString m ++ (sep ++ s) = toString n ++ (sep ++ t)) : m = n ∧ s = t := by
  obtain ⟨hnumber, hrest⟩ := cut_left hsep (toString_all_isDigit m) (toString_all_isDigit n) h
  exact ⟨toString_injective hnumber, hrest⟩

theorem cut_before_number {sep s t : String} {m n : Nat} (hsep : endsOutside Char.isDigit sep)
    (h : s ++ sep ++ toString m = t ++ sep ++ toString n) : s = t ∧ m = n := by
  obtain ⟨hrest, hnumber⟩ := cut_right hsep (toString_all_isDigit m) (toString_all_isDigit n) h
  exact ⟨hrest, toString_injective hnumber⟩

/-! ## The words of a text -/

/-- The characters of a text that are no digits. -/
def words (s : String) : List Char := s.toList.filter fun c => !c.isDigit

theorem words_append (s t : String) : words (s ++ t) = words s ++ words t := by
  simp [words]

theorem words_toString (n : Nat) : words (toString n) = [] := by
  have hdigits := List.all_eq_true.1 (toString_all_isDigit n)
  simpa [words] using hdigits

end Storyline.Text
