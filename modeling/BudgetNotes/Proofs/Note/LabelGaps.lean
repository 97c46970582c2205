import BudgetNotes.Proofs.Draft.Problems
import BudgetNotes.Proofs.Note.LabelEdges

/-!
# Blank lines in written labels

A label is checked and written with different trims. The check drops all white
space around it and looks at the lines that are left; what is written keeps the
white space before its first text, but for line ends at the very start. So the
two see the same lines from the first text on, and a written label may have
blank lines above that which the check never saw:

> `exists_cutLines_append`: white space before a text puts a blank line above
> it for every line feed, and an indent before its first line.

Such lines are above all text of the label, so they do not split it from its
directive; but they are part of what is written.

Main statement: `Draft.text_of_writtenLabel_iff`.
-/

namespace BudgetNotes

namespace Text

/-! ## White space above a text -/

/-- White space before a text: blank lines above its lines, and an indent. -/
theorem exists_cutLines_append {lead cs first : List Char} {rest : List (List Char)}
    (hlead : ∀ c ∈ lead, isSpace c = true) (hcut : cutLines cs = first :: rest) :
    ∃ above indent, cutLines (lead ++ cs) = above ++ (indent ++ first) :: rest ∧
      (∀ line ∈ above, line.all isSpace = true) ∧ (above = [] ↔ '\n' ∉ lead) := by
  induction lead with
  | nil => exact ⟨[], [], hcut, fun line h => (nomatch h), iff_of_true rfl List.not_mem_nil⟩
  | cons c lead ih =>
    obtain ⟨above, indent, hlines, habove, hfeed⟩ :=
      ih fun d hd => hlead d (List.mem_cons_of_mem _ hd)
    have hc := hlead c (List.mem_cons_self ..)
    rw [List.cons_append, cutLines]
    split
    next hcfeed =>
      refine ⟨[] :: above, indent, by rw [hlines]; rfl, ?_, ?_⟩
      · intro line hline
        rcases List.mem_cons.mp hline with rfl | hline
        · rfl
        · exact habove line hline
      · exact iff_of_false (List.cons_ne_nil _ _) fun h => h (hcfeed ▸ List.mem_cons_self ..)
    next hcfeed =>
      -- the character joins the line that comes first, a blank one or the text's
      have hmem : '\n' ∉ c :: lead ↔ '\n' ∉ lead := by
        rw [List.mem_cons, not_or, and_iff_right (Ne.symm hcfeed)]
      cases above with
      | nil => exact ⟨[], c :: indent, by rw [hlines]; rfl, habove, hfeed.trans hmem.symm⟩
      | cons line above =>
        refine ⟨(c :: line) :: above, indent, by rw [hlines]; rfl, ?_, ?_⟩
        · intro other hother
          rcases List.mem_cons.mp hother with rfl | hother
          · rw [List.all_cons, hc, habove line (List.mem_cons_self ..), Bool.and_self]
          · exact habove other (List.mem_cons_of_mem _ hother)
        · rw [hmem, ← hfeed]
          exact iff_of_false (List.cons_ne_nil _ _) (List.cons_ne_nil _ _)

/-- A text with text in it, without the white space around it. -/
theorem exists_trimChars_eq {s : String} (h : isBlank s = false) :
    ∃ c cs, trimChars s.toList = c :: cs ∧ isSpace c = false := by
  have hne : trimChars s.toList ≠ [] := by
    intro hnil
    have hblank := (isBlank_iff_trim_eq_empty s).mpr (by unfold trim; rw [hnil])
    rw [h] at hblank
    cases hblank
  obtain ⟨c, cs, hcs⟩ := List.exists_cons_of_ne_nil hne
  have hhead := List.head?_dropWhile_not isSpace (s.toList.rdropWhile isSpace)
  rw [dropWhile_rdropWhile] at hhead
  unfold trimChars at hcs
  rw [← trimEndChars_eq, hcs, List.head?_cons] at hhead
  exact ⟨c, cs, hcs, hhead⟩

/-- A text that starts with text has it in its first line. -/
theorem exists_cutLines_cons {c : Char} (h : isSpace c = false) (cs : List Char) :
    ∃ line rest, cutLines (c :: cs) = (c :: line) :: rest := by
  have hc : ¬c = '\n' := by
    rintro rfl
    cases h
  obtain ⟨line, rest, hcut⟩ := List.exists_cons_of_ne_nil (cutLines_ne_nil cs)
  rw [cutLines, if_neg hc, hcut]
  exact ⟨line, rest, rfl⟩

end Text

/-! ## Checked and written lines -/

/-- The white space that is written before the text of a label. -/
def labelIndent (label : String) : List Char :=
  (label.toList.takeWhile Text.isSpace).dropWhile fun c => c = '\n' || c = '\r'

/-- Whether a label is written with blank lines above its text. -/
def opensBlank (label : String) : Bool :=
  !Text.isBlank label && (labelIndent label).contains '\n'

/-- What is written is what is checked, below the indent. -/
theorem toList_trimLabel {label : String} (h : Text.isBlank label = false) :
    (trimLabel label).toList = labelIndent label ++ Text.trimChars label.toList := by
  obtain ⟨c, cs, hbody, hc⟩ := Text.exists_trimChars_eq h
  have hend : Text.trimEndChars label.toList =
      label.toList.takeWhile Text.isSpace ++ Text.trimChars label.toList := by
    conv_lhs => rw [← List.takeWhile_append_dropWhile (p := Text.isSpace) (l := label.toList)]
    refine Text.rdropWhile_append_of_ne_nil _ ?_
    show Text.trimChars label.toList ≠ []
    rw [hbody]
    exact List.cons_ne_nil _ _
  -- the first text is no line end, so dropping line ends stops there
  have hstop : (c :: cs).dropWhile (fun c => c = '\n' || c = '\r') = c :: cs := by
    refine List.dropWhile_cons_of_neg fun hline => ?_
    rw [isSpace_of_lineEnd hline] at hc
    cases hc
  unfold trimLabel labelIndent
  rw [String.toList_ofList, hend, List.dropWhile_append, hbody, hstop]
  split
  next hnil => rw [List.isEmpty_iff.mp hnil, List.nil_append]
  next => rfl

theorem isSpace_of_mem_labelIndent (label : String) :
    ∀ c ∈ labelIndent label, Text.isSpace c = true := fun c hc =>
  List.all_eq_true.mp List.all_takeWhile c ((List.dropWhile_sublist _).subset hc)

/-- The written lines of a label with text: blank lines, the line where the text starts, and lines
that the check has seen. -/
theorem splitLines_trimLabel {label : String} (h : Text.isBlank label = false) :
    ∃ above first rest, Text.splitLines (trimLabel label) = above ++ first :: rest ∧
      (∀ l ∈ above, Text.isBlank l = true) ∧ Text.isBlank first = false ∧
      (above = [] ↔ opensBlank label = false) ∧
      (Draft.labelHasGap label = true ↔ ∃ l ∈ rest, Text.isBlank l = true) := by
  obtain ⟨c, cs, hbody, hc⟩ := Text.exists_trimChars_eq h
  obtain ⟨line, rest, hcut⟩ := Text.exists_cutLines_cons hc cs
  obtain ⟨above, indent, hlines, habove, hfeed⟩ :=
    Text.exists_cutLines_append (isSpace_of_mem_labelIndent label) hcut
  have hchecked : Text.splitLines (Text.trim label) =
      String.ofList (c :: line) :: rest.map String.ofList := by
    unfold Text.splitLines Text.trim
    rw [String.toList_ofList, hbody, hcut, List.map_cons]
  have htext : ∀ before, Text.isBlank (String.ofList (before ++ c :: line)) = false := by
    intro before
    unfold Text.isBlank
    rw [String.toList_ofList, List.all_append, List.all_cons, hc, Bool.false_and, Bool.and_false]
  refine ⟨above.map String.ofList, String.ofList (indent ++ c :: line), rest.map String.ofList,
    ?_, ?_, htext indent, ?_, ?_⟩
  · unfold Text.splitLines
    rw [toList_trimLabel h, hbody, hlines, List.map_append, List.map_cons]
  · intro l hl
    obtain ⟨chars, hchars, rfl⟩ := List.mem_map.mp hl
    unfold Text.isBlank
    rw [String.toList_ofList, habove chars hchars]
  · unfold opensBlank
    rw [List.map_eq_nil_iff, hfeed, h, Bool.not_false, Bool.true_and, Bool.eq_false_iff, Ne,
      List.contains_iff_mem]
  · have hfirst : Text.isBlank (String.ofList (c :: line)) = false := htext []
    unfold Draft.labelHasGap
    rw [h, hchecked, Bool.not_false, Bool.true_and, List.any_cons, hfirst, Bool.false_or,
      List.any_eq_true]

theorem trimLabel_of_isBlank {label : String} (h : Text.isBlank label = true) :
    trimLabel label = "" := by
  unfold trimLabel
  rw [Text.trimEndChars_eq, List.rdropWhile_eq_nil_iff.mpr (List.all_eq_true.mp h)]
  rfl

namespace Draft

/-- The check finds a blank line exactly if one is written below text. -/
theorem labelHasGap_iff (label : String) :
    labelHasGap label = true ↔
      ∃ l ∈ (Text.splitLines (trimLabel label)).dropWhile Text.isBlank, Text.isBlank l = true := by
  cases h : Text.isBlank label with
  | true =>
    have hnone : (Text.splitLines "").dropWhile Text.isBlank = [] := rfl
    unfold labelHasGap
    rw [h, trimLabel_of_isBlank h, hnone]
    exact iff_of_false Bool.false_ne_true fun ⟨l, hl, _⟩ => nomatch hl
  | false =>
    obtain ⟨above, first, rest, hlines, habove, hfirst, _, hgap⟩ := splitLines_trimLabel h
    have hdrop : (above ++ first :: rest).dropWhile Text.isBlank = first :: rest := by
      rw [List.dropWhile_append_of_pos habove, List.dropWhile_cons_of_neg]
      rw [hfirst]
      exact Bool.false_ne_true
    rw [hlines, hdrop, hgap, List.exists_mem_cons_iff, hfirst]
    simp

/-- **A label that is accepted is not split from its directive.** No blank line is written below the
first text of it. It is written without any blank line exactly if no blank line above its text has
white space before it. -/
theorem text_of_writtenLabel_iff {draft : Draft} {d : Directive} (h : draft.compile = .ok d) :
    (∀ label, labelHasGap label = true ↔
      ∃ l ∈ (Text.splitLines (trimLabel label)).dropWhile Text.isBlank, Text.isBlank l = true) ∧
    (∀ l ∈ (Text.splitLines (trimLabel draft.label)).dropWhile Text.isBlank,
      Text.isBlank l = false) ∧
    ((trimLabel draft.label = "" ∨
        ∀ l ∈ Text.splitLines (trimLabel draft.label), Text.isBlank l = false) ↔
      opensBlank draft.label = false) := by
  have hgap : labelHasGap draft.label = false := by
    rw [Bool.eq_false_iff, Ne, ← blankLineInLabel_mem_iff, h]
    exact List.not_mem_nil
  have hbelow : ∀ l ∈ (Text.splitLines (trimLabel draft.label)).dropWhile Text.isBlank,
      Text.isBlank l = false := by
    intro l hl
    rw [Bool.eq_false_iff]
    intro hblank
    rw [(labelHasGap_iff draft.label).mpr ⟨l, hl, hblank⟩] at hgap
    cases hgap
  refine ⟨labelHasGap_iff, hbelow, ?_⟩
  cases hlabel : Text.isBlank draft.label with
  | true =>
    refine iff_of_true (Or.inl (trimLabel_of_isBlank hlabel)) ?_
    unfold opensBlank
    rw [hlabel, Bool.not_true, Bool.false_and]
  | false =>
    obtain ⟨above, first, rest, hlines, habove, hfirst, hopens, hrest⟩ :=
      splitLines_trimLabel hlabel
    have hne : trimLabel draft.label ≠ "" := by
      obtain ⟨c, cs, hbody, _⟩ := Text.exists_trimChars_eq hlabel
      intro hempty
      have hchars := toList_trimLabel hlabel
      rw [hempty, hbody, String.toList_empty] at hchars
      exact List.append_ne_nil_of_right_ne_nil _ (List.cons_ne_nil c cs) hchars.symm
    rw [or_iff_right hne, ← hopens, hlines]
    constructor
    · intro hall
      cases above with
      | nil => rfl
      | cons line above =>
        have htext := hall line (List.mem_cons_self ..)
        rw [habove line (List.mem_cons_self ..)] at htext
        cases htext
    · rintro rfl l hl
      refine hbelow l ?_
      rw [hlines, List.nil_append, List.dropWhile_cons_of_neg]
      · exact hl
      · rw [hfirst]
        exact Bool.false_ne_true

/-- Line ends at both edges, an indent, and a carriage return that ends a line. -/
theorem text_of_writtenLabel_indented :
    let draft : Draft := ⟨"a", none, "\n\r\n\tSaving up\r\nfor a bike \n", "", .goal "1"⟩
    draft.compile = .ok (.ofTemplate (.goal ⟨.one⟩) none) ∧
    trimLabel draft.label = "\tSaving up\r\nfor a bike" ∧
    ∀ l ∈ Text.splitLines (trimLabel draft.label), Text.isBlank l = false := by
  intro draft
  have hcompile : draft.compile = .ok (.ofTemplate (.goal ⟨.one⟩) none) := by decide +kernel
  have hopens : opensBlank draft.label = false := by decide +kernel
  have hwritten : trimLabel draft.label = "\tSaving up\r\nfor a bike" := by decide +kernel
  refine ⟨hcompile, hwritten, ?_⟩
  rcases (text_of_writtenLabel_iff hcompile).2.2.mpr hopens with hempty | htext
  · rw [hwritten] at hempty
    exact absurd hempty (by decide)
  · exact htext

/-- A space before the first line end keeps the line that it is in: the label is accepted, and is
written below a blank line of its own. -/
theorem writtenLabel_below_blank :
    let draft : Draft := ⟨"a", none, " \nSaving up", "", .goal "1"⟩
    draft.compile = .ok (.ofTemplate (.goal ⟨.one⟩) none) ∧
    ¬(trimLabel draft.label = "" ∨
      ∀ l ∈ Text.splitLines (trimLabel draft.label), Text.isBlank l = false) := by
  decide +kernel

end Draft

end BudgetNotes
