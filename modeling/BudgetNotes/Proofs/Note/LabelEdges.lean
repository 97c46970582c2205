import BudgetNotes.Draft.Compile
import BudgetNotes.Note.WriteBack
import BudgetNotes.Proofs.Text.Endings
import Mathlib.Data.List.ModifyLast

/-!
# The edges of a label

A label that was found above a directive has text in each of its lines. It is
trimmed in two ways, once to look for a blank line that would split it and once
to be written. Neither can take a line away, for either stops within the first
line and within the last: what is written differs from what was found by white
space at the end of the last line and by carriage returns at the start of the
first (`tidyLabel`).

Main statements: `trimLabel_joinLines`, `labelLines_trimLabel_joinLines` and
`labelHasGap_joinLines`.
-/

namespace BudgetNotes

namespace Text

/-! ## Dropping at the start -/

/-- Text in a line is not dropped with the white space at its start. -/
theorem isBlank_dropWhile {p : Char → Bool} (hp : ∀ c, p c = true → isSpace c = true) (s : String) :
    isBlank (String.ofList (s.toList.dropWhile p)) = isBlank s := by
  unfold isBlank
  rw [String.toList_ofList]
  conv_rhs => rw [← List.takeWhile_append_dropWhile (p := p) (l := s.toList), List.all_append]
  have hspaces : (s.toList.takeWhile p).all isSpace = true := by
    rw [List.all_eq_true]
    intro c hc
    exact hp c (List.all_eq_true.mp List.all_takeWhile c hc)
  rw [hspaces, Bool.true_and]

/-- Dropping at the start of joined lines stops within a first line that has text. -/
theorem dropWhile_joinLines {p : Char → Bool} (hp : ∀ c, p c = true → isSpace c = true)
    {first : String} (h : isBlank first = false) (rest : List String) :
    (joinLines (first :: rest)).toList.dropWhile p =
      (joinLines (String.ofList (first.toList.dropWhile p) :: rest)).toList := by
  have hstays : ¬((first.toList.dropWhile p).isEmpty = true) := by
    intro hempty
    have hblank := isBlank_dropWhile hp first
    rw [List.isEmpty_iff.mp hempty, h] at hblank
    cases hblank
  cases rest with
  | nil =>
    show first.toList.dropWhile p = (String.ofList (first.toList.dropWhile p)).toList
    rw [String.toList_ofList]
  | cons next rest =>
    show (first ++ "\n" ++ joinLines (next :: rest)).toList.dropWhile p =
      (String.ofList (first.toList.dropWhile p) ++ "\n" ++ joinLines (next :: rest)).toList
    simp only [String.append_assoc, String.toList_append, String.toList_ofList]
    rw [List.dropWhile_append, if_neg hstays]

/-! ## Lines with text -/

/-- Of lines with text, trimming the end of all trims the end of the last. -/
theorem trimEnd_joinLines_of_text {lines : List String} (h : ∀ l ∈ lines, isBlank l = false) :
    trimEnd (joinLines lines) = joinLines (lines.modifyLast trimEnd) := by
  cases lines using List.reverseRecOn with
  | nil => decide
  | append_singleton front last =>
    rw [trimEnd_joinLines_concat front (h last (by simp)), List.modifyLast_concat]

/-- What the last line has after it is changed, all lines have. -/
theorem forall_mem_modifyLast {P : String → Prop} {f : String → String}
    (hf : ∀ s, P s → P (f s)) {lines : List String} (h : ∀ l ∈ lines, P l) :
    ∀ l ∈ lines.modifyLast f, P l := by
  cases lines using List.reverseRecOn with
  | nil => exact h
  | append_singleton front last =>
    rw [List.modifyLast_concat]
    intro l hl
    rcases List.mem_append.mp hl with hl | hl
    · exact h l (List.mem_append_left _ hl)
    · rw [List.mem_singleton.mp hl]
      exact hf last (h last (by simp))

/-- Changing the last line keeps the number of lines. -/
theorem modifyLast_ne_nil (f : String → String) {lines : List String} (h : lines ≠ []) :
    lines.modifyLast f ≠ [] := by
  cases lines using List.reverseRecOn with
  | nil => exact absurd rfl h
  | append_singleton front last =>
    rw [List.modifyLast_concat]
    exact List.append_ne_nil_of_right_ne_nil _ (List.cons_ne_nil _ _)

theorem forall_mem_modifyHead {P : String → Prop} {f : String → String}
    (hf : ∀ s, P s → P (f s)) {lines : List String} (h : ∀ l ∈ lines, P l) :
    ∀ l ∈ lines.modifyHead f, P l := by
  cases lines with
  | nil => exact h
  | cons first rest =>
    rw [List.modifyHead_cons]
    intro l hl
    rcases List.mem_cons.mp hl with rfl | hl
    · exact hf first (h first (List.mem_cons_self ..))
    · exact h l (List.mem_cons_of_mem _ hl)

/-- Trimming the end of a line brings no character into it. -/
theorem not_mem_trimEnd {c : Char} (s : String) (h : c ∉ s.toList) : c ∉ (trimEnd s).toList :=
  fun hmem => h (mem_of_mem_trimEnd hmem)

/-- Nor does dropping its start. -/
theorem not_mem_dropWhile {c : Char} (p : Char → Bool) (s : String) (h : c ∉ s.toList) :
    c ∉ (String.ofList (s.toList.dropWhile p)).toList := by
  rw [String.toList_ofList]
  exact fun hmem => h ((List.dropWhile_sublist p).subset hmem)

end Text

/-! ## The label that is written -/

/-- A line without the carriage returns at its start. -/
def dropReturns (line : String) : String := String.ofList (line.toList.dropWhile (· = '\r'))

/-- The lines of a label without the white space at the end of the last and the carriage returns at
the start of the first. -/
def tidyLabel (label : List String) : List String :=
  (label.modifyLast Text.trimEnd).modifyHead dropReturns

/-- In a single line, carriage returns are the only line ends. -/
theorem dropWhile_lineEnd {cs : List Char} (h : '\n' ∉ cs) :
    cs.dropWhile (fun c => c = '\n' || c = '\r') = cs.dropWhile (· = '\r') := by
  induction cs with
  | nil => rfl
  | cons c cs ih =>
    rw [List.mem_cons, not_or] at h
    have hc : ¬c = '\n' := fun e => h.1 e.symm
    rw [List.dropWhile_cons, List.dropWhile_cons, ih h.2, decide_eq_false hc, Bool.false_or]

theorem isSpace_of_lineEnd {c : Char} (h : (decide (c = '\n') || decide (c = '\r')) = true) :
    Text.isSpace c = true := by
  rw [Bool.or_eq_true, decide_eq_true_eq, decide_eq_true_eq] at h
  rcases h with rfl | rfl
  · decide
  · decide

section

variable {label : List String} (h : ∀ l ∈ label, Text.isBlank l = false)
  (hfeeds : ∀ l ∈ label, '\n' ∉ l.toList)
include h

theorem not_isBlank_of_mem_modifyLast_trimEnd :
    ∀ l ∈ label.modifyLast Text.trimEnd, Text.isBlank l = false :=
  Text.forall_mem_modifyLast (fun s hs => (Text.isBlank_trimEnd s).trans hs) h

/-- The lines of a tidy label have text, like those it was made of. -/
theorem not_isBlank_of_mem_tidyLabel : ∀ l ∈ tidyLabel label, Text.isBlank l = false := by
  refine Text.forall_mem_modifyHead (fun s hs => ?_) (not_isBlank_of_mem_modifyLast_trimEnd h)
  refine (Text.isBlank_dropWhile (fun c hc => ?_) s).trans hs
  rw [of_decide_eq_true hc]
  decide

include hfeeds

omit h in
theorem not_mem_lineFeed_of_mem_tidyLabel : ∀ l ∈ tidyLabel label, '\n' ∉ l.toList :=
  Text.forall_mem_modifyHead (fun s hs => Text.not_mem_dropWhile _ s hs)
    (Text.forall_mem_modifyLast (fun s hs => Text.not_mem_trimEnd s hs) hfeeds)

/-- What is written of a label whose lines have text. -/
theorem trimLabel_joinLines :
    trimLabel (Text.joinLines label) = Text.joinLines (tidyLabel label) := by
  have hend : trimLabel (Text.joinLines label) =
      String.ofList ((Text.joinLines (label.modifyLast Text.trimEnd)).toList.dropWhile
        fun c => c = '\n' || c = '\r') := by
    rw [← Text.trimEnd_joinLines_of_text h]
    unfold trimLabel Text.trimEnd
    rw [String.toList_ofList]
  have htext := not_isBlank_of_mem_modifyLast_trimEnd h
  have hsingle := Text.forall_mem_modifyLast (fun s hs => Text.not_mem_trimEnd s hs) hfeeds
  rw [hend]
  unfold tidyLabel
  cases hlines : label.modifyLast Text.trimEnd with
  | nil => decide
  | cons first rest =>
    rw [hlines] at htext hsingle
    rw [Text.dropWhile_joinLines (fun c hc => isSpace_of_lineEnd hc)
      (htext first (List.mem_cons_self ..)), String.ofList_toList,
      dropWhile_lineEnd (hsingle first (List.mem_cons_self ..))]
    rfl

/-- A label whose lines have text is written line by line. -/
theorem labelLines_joinLines : labelLines (Text.joinLines label) = label := by
  unfold labelLines
  cases label with
  | nil => rfl
  | cons first rest =>
    have hcut := Text.splitLines_joinLines (List.cons_ne_nil first rest) hfeeds
    rw [hcut, if_neg]
    -- there is text in the first line
    intro hempty
    have hfirst := h first (List.mem_cons_self ..)
    rw [String.isEmpty_iff.mp hempty] at hcut
    have hnil : Text.splitLines "" = [""] := by decide
    rw [hnil] at hcut
    rw [← (List.cons.inj hcut).1] at hfirst
    exact absurd hfirst (by decide)

/-- Splitting what is written of a label gives its tidy lines. -/
theorem labelLines_trimLabel_joinLines :
    labelLines (trimLabel (Text.joinLines label)) = tidyLabel label := by
  rw [trimLabel_joinLines h hfeeds, labelLines_joinLines (not_isBlank_of_mem_tidyLabel h)
    (not_mem_lineFeed_of_mem_tidyLabel hfeeds)]

/-- No blank line splits it. -/
theorem labelHasGap_joinLines : Draft.labelHasGap (Text.joinLines label) = false := by
  unfold Draft.labelHasGap
  cases label with
  | nil => decide
  | cons first rest =>
    have hfirst := h first (List.mem_cons_self ..)
    have htext : ∀ l ∈ (first :: rest).modifyHead Text.trimStart, Text.isBlank l = false :=
      Text.forall_mem_modifyHead
        (fun s hs => (Text.isBlank_dropWhile (fun _ hc => hc) s).trans hs) h
    have hsingle : ∀ l ∈ (first :: rest).modifyHead Text.trimStart, '\n' ∉ l.toList :=
      Text.forall_mem_modifyHead (fun s hs => Text.not_mem_dropWhile _ s hs) hfeeds
    have htrim : Text.trim (Text.joinLines (first :: rest)) =
        Text.joinLines (((first :: rest).modifyHead Text.trimStart).modifyLast Text.trimEnd) := by
      rw [← Text.trimEnd_joinLines_of_text htext]
      unfold Text.trim Text.trimChars Text.trimEnd
      rw [Text.dropWhile_joinLines (fun _ hc => hc) hfirst]
      rfl
    have hcut : Text.splitLines (Text.trim (Text.joinLines (first :: rest))) =
        ((first :: rest).modifyHead Text.trimStart).modifyLast Text.trimEnd := by
      rw [htrim]
      exact Text.splitLines_joinLines (Text.modifyLast_ne_nil _ (List.cons_ne_nil _ _))
        (Text.forall_mem_modifyLast (fun s hs => Text.not_mem_trimEnd s hs) hsingle)
    have hnone : (Text.splitLines (Text.trim (Text.joinLines (first :: rest)))).any Text.isBlank =
        false := by
      rw [hcut, List.any_eq_false]
      intro l hl
      rw [not_isBlank_of_mem_modifyLast_trimEnd htext l hl]
      exact Bool.false_ne_true
    rw [hnone, Bool.and_false]

end

end BudgetNotes
