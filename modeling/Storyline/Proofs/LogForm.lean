import Storyline.Diagnostic.Basic
import Storyline.Proofs.Decimal

/-!
# A diagnostic is known by its log form

The log form of a diagnostic is a headline and below it a row for each label and each note. Nothing
in it is escaped, so a message, a label's text or a note may hold whatever else the form is made of.
Only a line break could lead astray: without one in these texts, the lines of the log form are the
rows that were written.

A row tells what it shows by its third character, and the marker of a label is of one length, so the
span comes at a fixed place and its numbers end where the digits end. What follows is the free text,
up to the end of the row.
-/

namespace Storyline

open Text

theorem Span.cut_after_text {sep a b : String} {s t : Span} (hsep : startsOutside Char.isDigit sep)
    (h : s.text ++ (sep ++ a) = t.text ++ (sep ++ b)) : s = t ∧ a = b := by
  unfold Span.text at h
  simp only [String.append_assoc] at h
  obtain ⟨hstart, hrest⟩ := cut_after_number (by decide) h
  obtain ⟨hstop, hafter⟩ := cut_after_number hsep hrest
  cases s
  cases t
  rw [Span.mk.injEq]
  exact ⟨⟨UInt32.toNat_inj.1 hstart, UInt32.toNat_inj.1 hstop⟩, hafter⟩

namespace Diagnostic

/-! ## Rows -/

def Label.marker (isPrimary : Bool) : String := if isPrimary then "  --> " else "      "

def Label.row (l : Label) : String := Label.marker l.isPrimary ++ (l.span.text ++ (": " ++ l.text))

def noteRow (note : String) : String := "  = note: " ++ note

def rows (d : Diagnostic) : List String := d.labels.map Label.row ++ d.notes.map noteRow

theorem Label.line_eq (l : Label) : l.line = "\n" ++ l.row := by
  unfold line row marker
  cases l.isPrimary <;> simp only [← String.append_assoc] <;> rfl

theorem noteLine_eq (note : String) : noteLine note = "\n" ++ noteRow note := by
  rw [noteLine, noteRow, ← String.append_assoc]
  rfl

theorem append_join_eq_intercalate (first : String) (rest : List String) :
    first ++ String.join (rest.map ("\n" ++ ·)) = "\n".intercalate (first :: rest) := by
  induction rest generalizing first with
  | nil => simp
  | cons next rest ih =>
    rw [String.intercalate_cons_cons, ← ih, List.map_cons, String.join_cons]
    simp only [String.append_assoc]

theorem display_eq_intercalate (d : Diagnostic) :
    d.display = "\n".intercalate (d.headline :: d.rows) := by
  have hlabels : d.labels.map Label.line = (d.labels.map Label.row).map ("\n" ++ ·) := by
    rw [List.map_map]
    exact List.map_congr_left fun l _ => l.line_eq
  have hnotes : d.notes.map noteLine = (d.notes.map noteRow).map ("\n" ++ ·) := by
    rw [List.map_map]
    exact List.map_congr_left fun note _ => noteLine_eq note
  rw [display, hlabels, hnotes, ← append_join_eq_intercalate, rows, List.map_append,
    String.join_append, String.append_assoc]

/-! ## Lines -/

/-- No text of the diagnostic breaks the line. -/
structure SingleLined (d : Diagnostic) : Prop where
  message : '\n' ∉ d.message.toList
  labels : ∀ l ∈ d.labels, '\n' ∉ l.text.toList
  notes : ∀ note ∈ d.notes, '\n' ∉ note.toList

instance (d : Diagnostic) : Decidable d.SingleLined :=
  decidable_of_iff ('\n' ∉ d.message.toList ∧ (∀ l ∈ d.labels, '\n' ∉ l.text.toList) ∧
      ∀ note ∈ d.notes, '\n' ∉ note.toList)
    ⟨fun ⟨hmessage, hlabels, hnotes⟩ => ⟨hmessage, hlabels, hnotes⟩,
      fun h => ⟨h.message, h.labels, h.notes⟩⟩

theorem newline_notMem_toString (n : Nat) : '\n' ∉ (toString n).toList := by
  intro h
  have hdigit := List.all_eq_true.1 (toString_all_isDigit n) _ h
  exact absurd hdigit (by decide)

theorem newline_notMem_span (s : Span) : '\n' ∉ s.text.toList := by
  simp only [Span.text, String.toList_append, List.mem_append, newline_notMem_toString]
  decide

variable {d e : Diagnostic}

theorem SingleLined.headline (h : d.SingleLined) : '\n' ∉ d.headline.toList := by
  have hword : '\n' ∉ d.severity.word.toList := by cases d.severity <;> decide
  have hcode : '\n' ∉ d.code.text.toList := by cases d.code <;> decide
  simp [Diagnostic.headline, hword, hcode, h.message]

theorem SingleLined.rows (h : d.SingleLined) : ∀ row ∈ d.rows, '\n' ∉ row.toList := by
  intro row hrow
  rcases List.mem_append.1 hrow with hlabel | hnote
  · obtain ⟨l, hl, rfl⟩ := List.mem_map.1 hlabel
    have hmarker : '\n' ∉ (Label.marker l.isPrimary).toList := by cases l.isPrimary <;> decide
    simp [Label.row, hmarker, newline_notMem_span, h.labels l hl]
  · obtain ⟨note, hmem, rfl⟩ := List.mem_map.1 hnote
    simp [noteRow, h.notes note hmem]

/-- Cutting the log form at its line breaks gives the headline and the rows. -/
theorem SingleLined.splitOn_display (h : d.SingleLined) :
    d.display.toList.splitOn '\n' = (d.headline :: d.rows).map String.toList := by
  rw [display_eq_intercalate, String.toList_intercalate]
  apply List.splitOn_intercalate
  · intro line hline
    obtain ⟨row, hrow, rfl⟩ := List.mem_map.1 hline
    rcases List.mem_cons.1 hrow with rfl | hrow
    · exact h.headline
    · exact h.rows row hrow
  · exact List.cons_ne_nil _ _

theorem lines_eq_of_display_eq (hd : d.SingleLined) (he : e.SingleLined)
    (h : d.display = e.display) : d.headline = e.headline ∧ d.rows = e.rows := by
  have hlines : (d.headline :: d.rows).map String.toList =
      (e.headline :: e.rows).map String.toList := by
    rw [← hd.splitOn_display, h, he.splitOn_display]
  have hrows := List.map_injective_iff.2 (fun s t => String.toList_inj.1) hlines
  exact List.cons.inj hrows

/-! ## What a line tells -/

theorem Severity.word_injective : Function.Injective Severity.word := by
  intro s t h
  cases s <;> cases t <;> simp [word] at h <;> rfl

theorem Severity.word_all_isAlpha (s : Severity) : s.word.toList.all Char.isAlpha := by
  cases s <;> decide

theorem Code.text_injective : Function.Injective Code.text := by
  intro c k h
  cases c <;> cases k <;> simp [text] at h <;> rfl

theorem Code.text_all_isAlphanum (c : Code) : c.text.toList.all Char.isAlphanum := by
  cases c <;> decide

theorem headline_inj (h : d.headline = e.headline) :
    d.severity = e.severity ∧ d.code = e.code ∧ d.message = e.message := by
  unfold headline at h
  simp only [String.append_assoc] at h
  obtain ⟨hseverity, hcode⟩ :=
    cut_left (by decide) d.severity.word_all_isAlpha e.severity.word_all_isAlpha h
  obtain ⟨hcode, hmessage⟩ :=
    cut_left (by decide) d.code.text_all_isAlphanum e.code.text_all_isAlphanum hcode
  exact ⟨Severity.word_injective hseverity, Code.text_injective hcode, hmessage⟩

theorem Label.marker_prefix_free :
    ∀ p q : Bool, (marker p).toList <+: (marker q).toList → p = q := by
  decide

theorem Label.row_injective : Function.Injective Label.row := by
  intro l k h
  have hprimary : l.isPrimary = k.isPrimary := by
    by_contra hne
    exact append_ne_append (mt (marker_prefix_free _ _) hne)
      (mt (marker_prefix_free _ _) (Ne.symm hne)) _ _ h
  unfold row at h
  rw [hprimary, String.append_right_inj] at h
  obtain ⟨hspan, htext⟩ := Span.cut_after_text (by decide) h
  cases l
  cases k
  rw [Label.mk.injEq]
  exact ⟨hspan, htext, hprimary⟩

theorem noteRow_injective : Function.Injective noteRow := by
  intro note note' h
  exact (String.append_right_inj _).1 h

def isNoteRow (row : String) : Bool := row.toList[2]? = some '='

theorem isNoteRow_noteRow (note : String) : isNoteRow (noteRow note) = true := by
  simp [isNoteRow, noteRow]

theorem isNoteRow_row (l : Label) : isNoteRow l.row = false := by
  unfold isNoteRow Label.row Label.marker
  cases l.isPrimary <;> simp

theorem rows_filter_isNoteRow (d : Diagnostic) :
    d.rows.filter isNoteRow = d.notes.map noteRow := by
  simp [rows, List.filter_append, List.filter_map, Function.comp_def, isNoteRow_row,
    isNoteRow_noteRow]

theorem rows_filter_not_isNoteRow (d : Diagnostic) :
    (d.rows.filter fun row => !isNoteRow row) = d.labels.map Label.row := by
  simp [rows, List.filter_append, List.filter_map, Function.comp_def, isNoteRow_row,
    isNoteRow_noteRow]

theorem rows_inj (h : d.rows = e.rows) : d.labels = e.labels ∧ d.notes = e.notes := by
  constructor
  · apply List.map_injective_iff.2 Label.row_injective
    rw [← rows_filter_not_isNoteRow, h, rows_filter_not_isNoteRow]
  · apply List.map_injective_iff.2 noteRow_injective
    rw [← rows_filter_isNoteRow, h, rows_filter_isNoteRow]

theorem known_by_display (hd : d.SingleLined) (he : e.SingleLined) (h : d.display = e.display) :
    d = e := by
  obtain ⟨hheadline, hrows⟩ := lines_eq_of_display_eq hd he h
  obtain ⟨hseverity, hcode, hmessage⟩ := headline_inj hheadline
  obtain ⟨hlabels, hnotes⟩ := rows_inj hrows
  cases d
  cases e
  rw [Diagnostic.mk.injEq]
  exact ⟨hcode, hseverity, hmessage, hlabels, hnotes⟩

/-- Every text holds words of the log form itself. -/
def forged : Diagnostic where
  code := .annotationConflict
  severity := .warning
  message := "error [E9001]: = note: 1..2"
  labels := [⟨⟨20, 26⟩, "  --> 3..4: a", true⟩, ⟨⟨2, 11⟩, "", false⟩, ⟨⟨9, 3⟩, "..5: ", true⟩]
  notes := ["", "  = note: b"]

def forgedInSteps : Diagnostic :=
  let headed : Diagnostic := { code := .annotationConflict, severity := .warning }
  let told := headed.setMessage "error [E9001]: = note: 1..2"
  let labelled := ((told.addPrimaryAt ⟨20, 26⟩ "  --> 3..4: a").addSecondary ⟨2, 11⟩ "").addPrimary
    ⟨9, 3⟩ "..5: "
  (labelled.addNote "").addNote "  = note: b"

theorem forged_known_by_display :
    forged.rows = ["  --> 20..26:   --> 3..4: a", "      2..11: ", "  --> 9..3: ..5: ", "  = note: ",
        "  = note:   = note: b"] ∧
      forged.SingleLined ∧ forgedInSteps.SingleLined ∧ forged.display = forgedInSteps.display ∧
      forged = forgedInSteps := by
  have hforged : forged.SingleLined := by decide
  have hsteps : forgedInSteps.SingleLined := by decide
  have h : forged.display = forgedInSteps.display := rfl
  exact ⟨by decide, hforged, hsteps, h, known_by_display hforged hsteps h⟩

-- With a line break in its message, a diagnostic can pass for one with a note.
example :
    display { code := .typeUnresolved, severity := .error, message := "a\n  = note: b" } =
      display { code := .typeUnresolved, severity := .error, message := "a", notes := ["b"] } := by
  decide

end Diagnostic

end Storyline
