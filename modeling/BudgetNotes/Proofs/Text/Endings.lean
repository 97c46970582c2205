import BudgetNotes.Proofs.Text.Lines

/-!
# How trimmed lines end

Lines that are joined, trimmed at the end and cut again are the lines down to
the last one with text, and that one without the white space at its end:

> `splitLines_trimEnd_joinLines`: the lines are blank and nothing is left, or
> they are cut off below the last text.

So trimming takes no text away but white space at the end of one line, and
none at all from a text that ends in text (`EndsInText`).

Main statements: `splitLines_trimEnd_joinLines` and
`filter_text_splitLines_trimEnd`.
-/

namespace BudgetNotes.Text

/-- Lines are blank, or they have a last line with text. -/
theorem exists_last_text (lines : List String) :
    (∀ l ∈ lines, isBlank l = true) ∨
      ∃ front last below, lines = front ++ last :: below ∧ isBlank last = false ∧
        ∀ l ∈ below, isBlank l = true := by
  induction lines using List.reverseRecOn with
  | nil => exact Or.inl fun l hl => (List.not_mem_nil hl).elim
  | append_singleton front last ih =>
    cases hlast : isBlank last with
    | false =>
      exact Or.inr ⟨front, last, [], rfl, hlast, fun l hl => (List.not_mem_nil hl).elim⟩
    | true =>
      rcases ih with hblank | ⟨above, text, below, rfl, htext, hbelow⟩
      · left
        intro l hl
        rcases List.mem_append.mp hl with hl | hl
        · exact hblank l hl
        · rw [List.mem_singleton.mp hl, hlast]
      · refine Or.inr ⟨above, text, below ++ [last], by simp, htext, ?_⟩
        intro l hl
        rcases List.mem_append.mp hl with hl | hl
        · exact hbelow l hl
        · rw [List.mem_singleton.mp hl, hlast]

/-- Blank lines at the end do not count. -/
theorem trimEnd_joinLines_append_blank (front : List String) {below : List String}
    (h : ∀ l ∈ below, isBlank l = true) :
    trimEnd (joinLines (front ++ below)) = trimEnd (joinLines front) := by
  induction below using List.reverseRecOn with
  | nil => rw [List.append_nil]
  | append_singleton below last ih =>
    rw [← List.append_assoc, trimEnd_joinLines_concat_blank _ (h last (by simp)),
      ih fun l hl => h l (List.mem_append_left _ hl)]

theorem trimEnd_joinLines_of_blank {lines : List String} (h : ∀ l ∈ lines, isBlank l = true) :
    trimEnd (joinLines lines) = "" := by
  have hnil := trimEnd_joinLines_append_blank [] h
  rw [List.nil_append] at hnil
  rw [hnil]
  decide

/-- Trimming cuts the lines off below the last text. -/
theorem trimEnd_joinLines_last_text (front : List String) {last : String} {below : List String}
    (hlast : isBlank last = false) (hbelow : ∀ l ∈ below, isBlank l = true) :
    trimEnd (joinLines (front ++ last :: below)) = joinLines (front ++ [trimEnd last]) := by
  have hlines : front ++ last :: below = front ++ [last] ++ below := by simp
  rw [hlines, trimEnd_joinLines_append_blank _ hbelow, trimEnd_joinLines_concat front hlast]

theorem not_mem_lineFeed_concat_trimEnd {front below : List String} {last : String}
    (h : ∀ l ∈ front ++ last :: below, '\n' ∉ l.toList) :
    ∀ l ∈ front ++ [trimEnd last], '\n' ∉ l.toList := by
  intro l hl
  rcases List.mem_append.mp hl with hl | hl
  · exact h l (List.mem_append_left _ hl)
  · rw [List.mem_singleton.mp hl]
    exact fun hmem => h last (by simp) (mem_of_mem_trimEnd hmem)

/-- **What is left of trimmed lines.** Either there was no text at all, or the lines end with the
last text, trimmed. -/
theorem splitLines_trimEnd_joinLines {lines : List String} (h : ∀ l ∈ lines, '\n' ∉ l.toList) :
    ((∀ l ∈ lines, isBlank l = true) ∧ splitLines (trimEnd (joinLines lines)) = [""]) ∨
      ∃ front last below, lines = front ++ last :: below ∧ isBlank last = false ∧
        (∀ l ∈ below, isBlank l = true) ∧
        splitLines (trimEnd (joinLines lines)) = front ++ [trimEnd last] := by
  rcases exists_last_text lines with hblank | ⟨front, last, below, rfl, hlast, hbelow⟩
  · left
    refine ⟨hblank, ?_⟩
    rw [trimEnd_joinLines_of_blank hblank]
    decide
  · right
    refine ⟨front, last, below, rfl, hlast, hbelow, ?_⟩
    rw [trimEnd_joinLines_last_text front hlast hbelow,
      splitLines_joinLines (by simp) (not_mem_lineFeed_concat_trimEnd h)]

theorem isBlank_trimEnd (s : String) : isBlank (trimEnd s) = isBlank s := by
  rw [Bool.eq_iff_iff, ← trimEnd_eq_empty_iff, ← trimEnd_eq_empty_iff, trimEnd_idem]

/-- The lines with text, each without the white space at its end, are the same before and after
trimming. -/
theorem filter_text_splitLines_trimEnd {lines : List String} (h : ∀ l ∈ lines, '\n' ∉ l.toList) :
    ((splitLines (trimEnd (joinLines lines))).filter (!isBlank ·)).map trimEnd =
      (lines.filter (!isBlank ·)).map trimEnd := by
  have hnone : ∀ {ls : List String}, (∀ l ∈ ls, isBlank l = true) →
      ls.filter (!isBlank ·) = [] := by
    intro ls hls
    rw [List.filter_eq_nil_iff]
    intro l hl
    rw [hls l hl]
    exact Bool.false_ne_true
  rcases splitLines_trimEnd_joinLines h with
    ⟨hblank, hcut⟩ | ⟨front, last, below, rfl, hlast, hbelow, hcut⟩
  · rw [hcut, hnone hblank]
    decide
  · have htext : isBlank (trimEnd last) = false := by rw [isBlank_trimEnd, hlast]
    rw [hcut, List.filter_append, List.filter_append, List.filter_cons, List.filter_cons,
      hnone hbelow, htext, hlast]
    simp [trimEnd_idem]

/-! ## Texts that end in text -/

/-- The last character of a text is not white space. -/
def EndsInText (s : String) : Prop :=
  ∃ c, s.toList.getLast? = some c ∧ isSpace c = false

namespace EndsInText

theorem ne_empty {s : String} (h : EndsInText s) : s ≠ "" := by
  intro hs
  obtain ⟨c, hc, _⟩ := h
  rw [hs] at hc
  cases hc

theorem ne_nil {lines : List String} (h : EndsInText (joinLines lines)) : lines ≠ [] := by
  intro hnil
  subst hnil
  exact h.ne_empty rfl

/-- Nothing of it is trimmed. -/
theorem trimEnd_eq {s : String} (h : EndsInText s) : trimEnd s = s := by
  obtain ⟨c, hc, htext⟩ := h
  obtain ⟨front, hfront⟩ := List.getLast?_eq_some_iff.mp hc
  unfold trimEnd
  rw [trimEndChars_eq, hfront, List.rdropWhile_concat_neg isSpace front c (by simp [htext]),
    ← hfront, String.ofList_toList]

/-- What stands above does not count. -/
theorem joinLines_below {lines : List String} (h : EndsInText (joinLines lines))
    (above : List String) : EndsInText (joinLines (above ++ lines)) := by
  by_cases ha : above = []
  · subst ha
    exact h
  · have hne := h.ne_nil
    obtain ⟨c, hc, htext⟩ := h
    refine ⟨c, ?_, htext⟩
    rw [joinLines_append ha hne, String.toList_append, List.getLast?_append, hc]
    rfl

/-- What it ends with is not white space alone. -/
theorem exists_mem_of_append {s : String} (h : EndsInText s) {front back : List Char}
    (hs : s.toList = front ++ back) (hback : back ≠ []) : ∃ c ∈ back, isSpace c = false := by
  obtain ⟨c, hc, htext⟩ := h
  rw [hs, List.getLast?_append_of_ne_nil front hback] at hc
  exact ⟨c, List.mem_of_getLast? hc, htext⟩

/-- Its last line has text. -/
theorem isBlank_of_getLast?_splitLines {s : String} (h : EndsInText s) {last : String}
    (hlast : (splitLines s).getLast? = some last) : isBlank last = false := by
  obtain ⟨front, hlines⟩ := List.getLast?_eq_some_iff.mp hlast
  have hs : s = joinLines (front ++ [last]) := by rw [← hlines, joinLines_splitLines]
  rw [Bool.eq_false_iff]
  intro hblank
  have hspace : ∀ c ∈ last.toList, isSpace c = true := List.all_eq_true.mp hblank
  by_cases hfront : front = []
  · subst hfront
    have hself : s = last := hs
    have hne : last.toList ≠ [] := by
      intro hnil
      exact h.ne_empty (hself.trans (String.toList_eq_nil_iff.mp hnil))
    have hlist : s.toList = [] ++ last.toList := by rw [hself, List.nil_append]
    obtain ⟨c, hc, htext⟩ := h.exists_mem_of_append hlist hne
    rw [hspace c hc] at htext
    cases htext
  · -- the line feed above a blank line is white space, too
    have hlist : s.toList = (joinLines front).toList ++ '\n' :: last.toList := by
      rw [hs, joinLines_concat hfront]
      simp
    obtain ⟨c, hc, htext⟩ := h.exists_mem_of_append hlist (List.cons_ne_nil _ _)
    rcases List.mem_cons.mp hc with rfl | hc
    · exact absurd isSpace_lineFeed (Bool.eq_false_iff.mp htext)
    · exact absurd (hspace c hc) (Bool.eq_false_iff.mp htext)

end EndsInText

end BudgetNotes.Text
