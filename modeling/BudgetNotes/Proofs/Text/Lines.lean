import BudgetNotes.Text.Lines
import Mathlib.Data.List.DropRight

/-!
# Joined lines, and trimming their end

Cutting a text into lines and joining lines are inverse to each other as long
as no line holds a line feed. A line feed is white space, so trimming the end
of joined lines drops the blank lines at the end and trims the last line that
has text, and touches nothing else:

> `trimEnd_joinLines_concat`: with text in the last line, trimming the whole
> is trimming that line.

Main statements: `splitLines_joinLines`, `trimEnd_joinLines_concat` and
`trimEnd_joinLines_concat_blank`.
-/

namespace BudgetNotes.Text

/-! ## Dropping a suffix -/

/-- A suffix whose elements all satisfy `p` does not count. -/
theorem rdropWhile_append_of_all {α : Type} {p : α → Bool} (xs : List α) {ys : List α}
    (h : ∀ y ∈ ys, p y = true) : (xs ++ ys).rdropWhile p = xs.rdropWhile p := by
  unfold List.rdropWhile
  rw [List.reverse_append, List.dropWhile_append_of_pos]
  intro y hy
  exact h y (List.mem_reverse.mp hy)

/-- What stands before an element that stays, stays. -/
theorem rdropWhile_append_of_ne_nil {α : Type} {p : α → Bool} (xs : List α) {ys : List α}
    (h : ys.rdropWhile p ≠ []) : (xs ++ ys).rdropWhile p = xs ++ ys.rdropWhile p := by
  unfold List.rdropWhile at h ⊢
  have hne : (ys.reverse.dropWhile p).isEmpty = false := by
    rw [Bool.eq_false_iff, ne_eq, List.isEmpty_iff]
    intro hnil
    exact h (by rw [hnil, List.reverse_nil])
  rw [List.reverse_append, List.dropWhile_append, hne]
  simp

/-- Dropping at both ends, in either order. -/
theorem dropWhile_rdropWhile {α : Type} (p : α → Bool) (xs : List α) :
    (xs.rdropWhile p).dropWhile p = (xs.dropWhile p).rdropWhile p := by
  have hsplit : xs.takeWhile p ++ xs.dropWhile p = xs := List.takeWhile_append_dropWhile
  have htake : ∀ x ∈ xs.takeWhile p, p x = true := fun x hx => List.mem_takeWhile_imp hx
  cases hdrop : xs.dropWhile p with
  | nil =>
    -- all elements go, from whichever end
    rw [List.rdropWhile_eq_nil_iff.mpr (List.dropWhile_eq_nil_iff.mp hdrop)]
    rfl
  | cons y ys =>
    -- the first element that stays, stays when the end is dropped
    have hy : ¬p y = true := by
      have := List.head?_dropWhile_not p xs
      rw [hdrop, List.head?_cons] at this
      exact Bool.eq_false_iff.mp this
    have hne : (y :: ys).rdropWhile p ≠ [] := by
      intro hnil
      exact hy (List.rdropWhile_eq_nil_iff.mp hnil y (List.mem_cons_self ..))
    obtain ⟨z, zs, hz⟩ := List.exists_cons_of_ne_nil hne
    have hhead : z = y := by
      have hprefix := List.rdropWhile_prefix p (y :: ys)
      rw [hz] at hprefix
      exact (List.cons_prefix_cons.mp hprefix).1
    rw [hdrop] at hsplit
    rw [← hsplit, rdropWhile_append_of_ne_nil _ hne, List.dropWhile_append_of_pos htake, hz,
      hhead, List.dropWhile_cons_of_neg hy]

/-! ## Trimmed text -/

theorem trimEndChars_eq (cs : List Char) : trimEndChars cs = cs.rdropWhile isSpace := rfl

/-- What was trimmed has no white space around it. -/
theorem trimChars_idem (cs : List Char) : trimChars (trimChars cs) = trimChars cs := by
  unfold trimChars
  rw [trimEndChars_eq, trimEndChars_eq, dropWhile_rdropWhile, List.rdropWhile_idempotent,
    List.dropWhile_idempotent]

/-- What was trimmed has nothing more to lose. -/
theorem trim_idem (s : String) : trim (trim s) = trim s := by
  unfold trim
  rw [String.toList_ofList, trimChars_idem]

/-! ## Blank text -/

/-- A blank text is one that trims to nothing. -/
theorem isBlank_iff_trim_eq_empty (s : String) : isBlank s = true ↔ trim s = "" := by
  rw [isBlank, List.all_eq_true, trim, ← String.toList_inj, String.toList_ofList, trimChars,
    String.toList_empty, trimEndChars_eq, ← dropWhile_rdropWhile, List.dropWhile_eq_nil_iff]
  constructor
  · intro h a ha
    exact h a ((List.rdropWhile_prefix isSpace s.toList).subset ha)
  · intro h a ha
    have hsplit : s.toList.rdropWhile isSpace ++ s.toList.rtakeWhile isSpace = s.toList :=
      List.rdropWhile_append_rtakeWhile
    rw [← hsplit, List.mem_append] at ha
    rcases ha with ha | ha
    · exact h a ha
    · exact List.mem_rtakeWhile_imp ha

/-- The white space around a text does not decide whether it is blank. -/
theorem isBlank_trim (s : String) : isBlank (trim s) = isBlank s := by
  rw [Bool.eq_iff_iff, isBlank_iff_trim_eq_empty, isBlank_iff_trim_eq_empty, trim_idem]

theorem isSpace_lineFeed : isSpace '\n' = true := by decide

theorem isBlank_of_mem_takeWhile {lines : List String} :
    ∀ l ∈ lines.takeWhile isBlank, isBlank l = true :=
  fun _ hl => List.mem_takeWhile_imp hl

/-- A text is blank when trimming its end leaves nothing. -/
theorem trimEnd_eq_empty_iff (s : String) : trimEnd s = "" ↔ isBlank s = true := by
  unfold trimEnd isBlank
  rw [← String.toList_inj, String.toList_ofList, String.toList_empty, trimEndChars_eq,
    List.rdropWhile_eq_nil_iff, List.all_eq_true]

/-- A text whose end was trimmed has nothing more to lose there. -/
theorem trimEnd_idem (s : String) : trimEnd (trimEnd s) = trimEnd s := by
  unfold trimEnd
  rw [String.toList_ofList, trimEndChars_eq, trimEndChars_eq, List.rdropWhile_idempotent]

/-- Trimming the end of a text adds no character. -/
theorem mem_of_mem_trimEnd {s : String} {c : Char} (h : c ∈ (trimEnd s).toList) :
    c ∈ s.toList := by
  unfold trimEnd at h
  rw [String.toList_ofList] at h
  exact (List.rdropWhile_prefix isSpace (l := s.toList)).subset h

/-! ## Joining -/

theorem joinLines_cons (line : String) {rest : List String} (h : rest ≠ []) :
    joinLines (line :: rest) = line ++ "\n" ++ joinLines rest := by
  cases rest with
  | nil => exact absurd rfl h
  | cons next rest => rfl

/-- Two groups of lines are joined like two lines. -/
theorem joinLines_append {above below : List String} (ha : above ≠ []) (hb : below ≠ []) :
    joinLines (above ++ below) = joinLines above ++ "\n" ++ joinLines below := by
  induction above with
  | nil => exact absurd rfl ha
  | cons line above ih =>
    by_cases habove : above = []
    · subst habove
      exact joinLines_cons line hb
    · have hne : above ++ below ≠ [] := List.append_ne_nil_of_left_ne_nil habove below
      rw [List.cons_append, joinLines_cons line hne, ih habove, joinLines_cons line habove]
      simp only [String.append_assoc]

/-- The last line is joined with one line feed. -/
theorem joinLines_concat {front : List String} (h : front ≠ []) (last : String) :
    joinLines (front ++ [last]) = joinLines front ++ "\n" ++ last :=
  joinLines_append h (List.cons_ne_nil last [])

/-- A line that ends the lines ends the text, too. -/
theorem exists_joinLines_concat (front : List String) :
    ∃ above : List Char, ∀ last : String,
      (joinLines (front ++ [last])).toList = above ++ last.toList := by
  by_cases hf : front = []
  · subst hf
    exact ⟨[], fun last => rfl⟩
  · refine ⟨(joinLines front).toList ++ ['\n'], fun last => ?_⟩
    rw [joinLines_concat hf]
    simp

/-! ## Cutting what was joined -/

/-- Every text has a line, be it empty. -/
theorem splitLines_ne_nil (s : String) : splitLines s ≠ [] := by
  intro hnil
  exact cutLines_ne_nil s.toList (List.map_eq_nil_iff.mp hnil)

/-- A run without line feeds is part of the first line. -/
theorem cutLines_append_lineFeed {cs : List Char} (h : '\n' ∉ cs) (rest : List Char) :
    cutLines (cs ++ '\n' :: rest) = cs :: cutLines rest := by
  induction cs with
  | nil => simp [cutLines]
  | cons c cs ih =>
    rw [List.mem_cons, not_or] at h
    have hc : ¬c = '\n' := fun e => h.1 e.symm
    rw [List.cons_append, cutLines, if_neg hc, ih h.2]

/-- Without a line feed there is one line. -/
theorem cutLines_of_not_mem {cs : List Char} (h : '\n' ∉ cs) : cutLines cs = [cs] := by
  induction cs with
  | nil => rfl
  | cons c cs ih =>
    rw [List.mem_cons, not_or] at h
    have hc : ¬c = '\n' := fun e => h.1 e.symm
    rw [cutLines, if_neg hc, ih h.2]

/-- Cutting joined lines gives them back when no line holds a line feed. -/
theorem splitLines_joinLines {lines : List String} (hne : lines ≠ [])
    (h : ∀ l ∈ lines, '\n' ∉ l.toList) : splitLines (joinLines lines) = lines := by
  induction lines with
  | nil => exact absurd rfl hne
  | cons line rest ih =>
    have hline := h line (List.mem_cons_self ..)
    by_cases hrest : rest = []
    · subst hrest
      show (cutLines line.toList).map String.ofList = [line]
      rw [cutLines_of_not_mem hline]
      simp
    · have hcut := ih hrest fun l hl => h l (List.mem_cons_of_mem _ hl)
      unfold splitLines at hcut ⊢
      have hlist : (line ++ "\n" ++ joinLines rest).toList =
          line.toList ++ '\n' :: (joinLines rest).toList := by
        simp
      rw [joinLines_cons line hrest, hlist, cutLines_append_lineFeed hline, List.map_cons, hcut]
      simp

/-! ## Trimming joined lines -/

/-- Text in the last line: only that line is trimmed. -/
theorem trimEnd_joinLines_concat (front : List String) {last : String}
    (h : isBlank last = false) :
    trimEnd (joinLines (front ++ [last])) = joinLines (front ++ [trimEnd last]) := by
  obtain ⟨above, habove⟩ := exists_joinLines_concat front
  have hlast : last.toList.rdropWhile isSpace ≠ [] := by
    intro hnil
    have := (trimEnd_eq_empty_iff last).mp (by unfold trimEnd; rw [trimEndChars_eq, hnil])
    rw [h] at this
    cases this
  apply String.toList_inj.mp
  rw [habove]
  unfold trimEnd
  rw [habove, String.toList_ofList, String.toList_ofList, trimEndChars_eq, trimEndChars_eq,
    rdropWhile_append_of_ne_nil _ hlast]

/-- A blank line at the end is dropped with the line feed before it. -/
theorem trimEnd_joinLines_concat_blank (front : List String) {last : String}
    (h : isBlank last = true) :
    trimEnd (joinLines (front ++ [last])) = trimEnd (joinLines front) := by
  have hlast : ∀ c ∈ last.toList, isSpace c = true := List.all_eq_true.mp h
  unfold trimEnd
  congr 1
  by_cases hf : front = []
  · subst hf
    show last.toList.rdropWhile isSpace = "".toList.rdropWhile isSpace
    rw [List.rdropWhile_eq_nil_iff.mpr hlast]
    decide
  · -- the line feed before the line is white space, too
    have hlist : (joinLines front ++ "\n" ++ last).toList =
        (joinLines front).toList ++ ('\n' :: last.toList) := by
      simp
    rw [joinLines_concat hf, hlist, trimEndChars_eq, trimEndChars_eq, rdropWhile_append_of_all]
    intro c hc
    rcases List.mem_cons.mp hc with rfl | hc
    · exact isSpace_lineFeed
    · exact hlast c hc

end BudgetNotes.Text
