import BudgetNotes.Proofs.Note.Positions
import BudgetNotes.Proofs.Text.Lines

/-!
# Reading the directives of a note

The directives of a note are found by position, and the label of each by a
scan back from there. One pass from the top finds the same (`readDirectives`):
it carries the run of label lines that ends at the current line, and hands it
to the directive that comes next. The pass can be cut anywhere, which is what
the positions cannot: the part below depends on the part above through that
run alone.

> `readDirectives_append`: reading two parts, the second with the run that the
> first leaves behind.

A part that leaves no run behind is closed (`Closed`). What is written below a
closed part keeps its labels.

Main statements: `labelledDirectives_eq_readDirectives`,
`readDirectives_append_of_closed` and `readDirectives_trimEnd_joinLines` (the
trimming of a note's end changes no label, and no line but by white space at
its end).
-/

namespace BudgetNotes

/-- The directive lines of a note, in order, each with the label above it. -/
def labelledDirectives (note : String) : List (String × String) :=
  let lines := Text.splitLines note
  (directivePositions lines).map fun p => (labelAbove lines p, lines[p]?.getD "")

/-- The run of label lines that ends at a line, where `run` ends at the line above. -/
def runAfter (run : List String) (line : String) : List String :=
  if isLabelLine line then run ++ [line] else []

/-- The directives among lines, each with the run of label lines above it; `run` is the run above
the first line. -/
def readDirectives (run : List String) : List String → List (List String × String)
  | [] => []
  | line :: rest =>
    (if isDirective line then [(run, line)] else []) ++ readDirectives (runAfter run line) rest

/-- Lines that leave no run of label lines to what comes below them. -/
def Closed (lines : List String) : Prop := lines.foldl runAfter [] = []

/-! ## Reading in parts -/

theorem readDirectives_append (run xs ys : List String) :
    readDirectives run (xs ++ ys) =
      readDirectives run xs ++ readDirectives (xs.foldl runAfter run) ys := by
  induction xs generalizing run with
  | nil => rfl
  | cons x xs ih =>
    rw [List.cons_append, readDirectives, readDirectives, ih, List.foldl_cons, List.append_assoc]

/-- What stands below closed lines is read by itself. -/
theorem readDirectives_append_of_closed {xs : List String} (h : Closed xs) (ys : List String) :
    readDirectives [] (xs ++ ys) = readDirectives [] xs ++ readDirectives [] ys := by
  rw [readDirectives_append, h]

theorem closed_nil : Closed [] := rfl

/-- A line that belongs to no label closes all lines above it. -/
theorem closed_concat (xs : List String) {line : String} (h : isLabelLine line = false) :
    Closed (xs ++ [line]) := by
  unfold Closed
  rw [List.foldl_append, List.foldl_cons, List.foldl_nil, runAfter, h]
  rfl

/-- Lines are closed when the last of them belongs to no label. -/
theorem closed_of_getLast? {xs : List String} (h : ∀ l ∈ xs.getLast?, isLabelLine l = false) :
    Closed xs := by
  cases hl : xs.getLast? with
  | none =>
    rw [List.getLast?_eq_none_iff.mp hl]
    exact closed_nil
  | some l =>
    obtain ⟨front, rfl⟩ := List.getLast?_eq_some_iff.mp hl
    exact closed_concat front (h l hl)

/-- Where no line is a directive, none is read. -/
theorem readDirectives_eq_nil (run : List String) {xs : List String}
    (h : ∀ x ∈ xs, isDirective x = false) : readDirectives run xs = [] := by
  induction xs generalizing run with
  | nil => rfl
  | cons x xs ih =>
    rw [readDirectives, h x (List.mem_cons_self ..),
      ih _ fun y hy => h y (List.mem_cons_of_mem _ hy)]
    rfl

/-- Label lines make the run longer. -/
theorem foldl_runAfter_of_isLabelLine (run : List String) {xs : List String}
    (h : ∀ x ∈ xs, isLabelLine x = true) : xs.foldl runAfter run = run ++ xs := by
  induction xs generalizing run with
  | nil => rw [List.foldl_nil, List.append_nil]
  | cons x xs ih =>
    rw [List.foldl_cons, runAfter, if_pos (h x (List.mem_cons_self ..)),
      ih _ fun y hy => h y (List.mem_cons_of_mem _ hy), List.append_assoc, List.singleton_append]

/-- A label and its directive are read as just that. -/
theorem readDirectives_label_directive {label : List String} {directive : String}
    (hl : ∀ l ∈ label, isLabelLine l = true) (hd : isDirective directive = true) :
    readDirectives [] (label ++ [directive]) = [(label, directive)] := by
  rw [readDirectives_append, foldl_runAfter_of_isLabelLine [] hl,
    readDirectives_eq_nil [] fun l h => not_isDirective_of_isLabelLine (hl l h), List.nil_append,
    List.nil_append, readDirectives, if_pos hd]
  rfl

/-- Blank lines at the top do not matter. -/
theorem readDirectives_dropWhile_isBlank (lines : List String) :
    readDirectives [] (lines.dropWhile Text.isBlank) = readDirectives [] lines := by
  induction lines with
  | nil => rfl
  | cons line lines ih =>
    by_cases hb : Text.isBlank line = true
    · rw [List.dropWhile_cons_of_pos hb, ih, readDirectives, not_isDirective_of_isBlank hb,
        runAfter, not_isLabelLine_of_isBlank hb]
      rfl
    · rw [List.dropWhile_cons_of_neg hb]

/-! ## Reading and positions -/

theorem labelStart_le (lines : List String) (floor line : Nat) :
    labelStart lines floor line ≤ line := by
  induction line with
  | zero => exact Nat.le_refl 0
  | succ line ih =>
    rw [labelStart_step]
    split
    · omega
    · exact Nat.le_refl _

/-- The scan back from a line and the pass down to it find the same run. -/
theorem slice_labelStart_eq_foldl (above below : List String) :
    slice (above ++ below) (labelStart (above ++ below) 0 above.length) above.length =
      above.foldl runAfter [] := by
  induction above using List.reverseRecOn generalizing below with
  | nil => rfl
  | append_singleton above line ih =>
    -- the scan looks at the last line first, where the pass looks at it last
    have hlines : above ++ [line] ++ below = above ++ line :: below := by simp
    have hget : (above ++ line :: below)[above.length]? = some line := by simp
    rw [hlines, List.length_append, List.length_singleton, labelStart_step, hget, List.foldl_append,
      List.foldl_cons, List.foldl_nil, runAfter]
    by_cases hl : isLabelLine line = true
    · rw [if_pos ⟨Nat.zero_le _, hl⟩, if_pos hl, slice_succ (labelStart_le ..) hget,
        ih (line :: below)]
    · rw [if_neg fun h => hl h.2, if_neg hl, slice_self]

/-- Reading from any line on finds the directives at the positions from there on. -/
theorem map_directivePositionsFrom (above below : List String) :
    (directivePositionsFrom above.length below).map (fun p =>
        (slice (above ++ below) (labelStart (above ++ below) 0 p) p,
          (above ++ below)[p]?.getD "")) =
      readDirectives (above.foldl runAfter []) below := by
  induction below generalizing above with
  | nil => rfl
  | cons line below ih =>
    have hlines : above ++ line :: below = above ++ [line] ++ below := by simp
    have hrest := ih (above ++ [line])
    rw [List.length_append, List.length_singleton, List.foldl_append, List.foldl_cons,
      List.foldl_nil, ← hlines] at hrest
    rw [directivePositionsFrom, readDirectives]
    split
    next =>
      rw [List.map_cons, hrest, slice_labelStart_eq_foldl]
      simp
    next => rw [hrest, List.nil_append]

/-- The directives of a note, found by position or by one pass. -/
theorem labelledDirectives_eq_readDirectives (note : String) :
    labelledDirectives note =
      (readDirectives [] (Text.splitLines note)).map (Prod.map Text.joinLines id) := by
  have h := map_directivePositionsFrom [] (Text.splitLines note)
  rw [List.nil_append, List.foldl_nil] at h
  rw [← h, List.map_map]
  rfl

/-! ## Reading a trimmed note -/

/-- Directives with the white space at the end of their lines dropped. -/
def trimDirectives {α : Type} (directives : List (α × String)) : List (α × String) :=
  directives.map (Prod.map id Text.trimEnd)

theorem trimDirectives_append {α : Type} (xs ys : List (α × String)) :
    trimDirectives (xs ++ ys) = trimDirectives xs ++ trimDirectives ys :=
  List.map_append

/-- Labels are not touched. -/
theorem trimDirectives_map {α β : Type} (f : α → β) (xs : List (α × String)) :
    trimDirectives (xs.map (Prod.map f id)) = (trimDirectives xs).map (Prod.map f id) := by
  unfold trimDirectives
  rw [List.map_map, List.map_map]
  rfl

/-- No white space character has another as its lower case. -/
theorem toLower_of_isSpace {c : Char} (h : Text.isSpace c = true) : c.toLower = c := by
  unfold Char.toLower
  split
  next hupper =>
    have h1 : 65 ≤ c.toNat := UInt32.le_iff_toNat_le.mp hupper.1
    have h2 : c.toNat ≤ 90 := UInt32.le_iff_toNat_le.mp hupper.2
    unfold Text.isSpace at h
    simp only [Bool.or_eq_true, Bool.and_eq_true, decide_eq_true_eq, beq_iff_eq] at h
    omega
  next => rfl

/-- White space at the end does not help a text to start with a word. -/
theorem startsWithWord_append_spaces {word : List Char} (cs : List Char) {spaces : List Char}
    (hword : ∀ c ∈ word, Text.isSpace c = false) (hspaces : ∀ c ∈ spaces, Text.isSpace c = true) :
    startsWithWord word (cs ++ spaces) = startsWithWord word cs := by
  induction word generalizing cs with
  | nil => rfl
  | cons w word ih =>
    have hw := hword w (List.mem_cons_self ..)
    cases cs with
    | cons c cs =>
      rw [List.cons_append, startsWithWord, startsWithWord,
        ih cs fun c hc => hword c (List.mem_cons_of_mem _ hc)]
    | nil =>
      cases spaces with
      | nil => rfl
      | cons s spaces =>
        have hs := hspaces s (List.mem_cons_self ..)
        rw [List.nil_append, startsWithWord, startsWithWord, toLower_of_isSpace hs]
        have hne : s ≠ w := fun e => by rw [e, hw] at hs; cases hs
        rw [decide_eq_false hne, Bool.false_and]

/-- A directive is still one without the white space at its end. -/
theorem isDirective_trimEnd (line : String) :
    isDirective (Text.trimEnd line) = isDirective line := by
  have hwords : ∀ word ∈ directiveWords, ∀ c ∈ word, Text.isSpace c = false := by
    have hall : directiveWords.all (·.all (!Text.isSpace ·)) = true := rfl
    intro word hword c hc
    have hc := List.all_eq_true.mp (List.all_eq_true.mp hall word hword) c hc
    rwa [Bool.not_eq_true'] at hc
  unfold isDirective Text.trimEnd
  rw [String.toList_ofList, Text.trimEndChars_eq, Text.dropWhile_rdropWhile]
  have hsplit : (line.toList.dropWhile Text.isSpace).rdropWhile Text.isSpace ++
      (line.toList.dropWhile Text.isSpace).rtakeWhile Text.isSpace =
        line.toList.dropWhile Text.isSpace := List.rdropWhile_append_rtakeWhile
  have hspaces : ∀ c ∈ (line.toList.dropWhile Text.isSpace).rtakeWhile Text.isSpace,
      Text.isSpace c = true := fun c hc => List.mem_rtakeWhile_imp hc
  generalize (line.toList.dropWhile Text.isSpace).rdropWhile Text.isSpace = kept at hsplit ⊢
  generalize (line.toList.dropWhile Text.isSpace).rtakeWhile Text.isSpace = spaces at hsplit hspaces
  rw [← hsplit]
  cases kept with
  | nil =>
    -- white space alone has no mark
    cases spaces with
    | nil => rfl
    | cons s spaces =>
      have hs : s ≠ '#' := fun e => by
        have := hspaces s (List.mem_cons_self ..)
        rw [e] at this
        revert this
        decide
      simp [hs]
  | cons c kept =>
    by_cases hc : c = '#'
    · -- a word of the list has no white space, so it ends before the white space at the end
      subst hc
      show directiveWords.any (startsWithWord · kept) =
        directiveWords.any (startsWithWord · (kept ++ spaces))
      rw [Bool.eq_iff_iff, List.any_eq_true, List.any_eq_true]
      constructor
      · rintro ⟨word, hmem, h⟩
        rw [← startsWithWord_append_spaces kept (hwords word hmem) hspaces] at h
        exact ⟨word, hmem, h⟩
      · rintro ⟨word, hmem, h⟩
        rw [startsWithWord_append_spaces kept (hwords word hmem) hspaces] at h
        exact ⟨word, hmem, h⟩
    · simp [hc]

/-- A line and its trimmed form are read alike. -/
theorem trimDirectives_trimEnd (run : List String) (line : String) :
    trimDirectives (readDirectives run [Text.trimEnd line]) =
      trimDirectives (readDirectives run [line]) := by
  unfold trimDirectives
  simp only [readDirectives, isDirective_trimEnd, List.append_nil]
  cases isDirective line with
  | true =>
    show [(run, Text.trimEnd (Text.trimEnd line))] = [(run, Text.trimEnd line)]
    rw [Text.trimEnd_idem]
  | false => rfl

/-- Trimming the end of joined lines changes what is read by white space at the end of a line at
most. -/
theorem readDirectives_trimEnd_joinLines {lines : List String}
    (h : ∀ l ∈ lines, '\n' ∉ l.toList) :
    trimDirectives (readDirectives [] (Text.splitLines (Text.trimEnd (Text.joinLines lines)))) =
      trimDirectives (readDirectives [] lines) := by
  induction lines using List.reverseRecOn with
  | nil => decide
  | append_singleton front last ih =>
    have hfront : ∀ l ∈ front, '\n' ∉ l.toList := fun l hl => h l (List.mem_append_left _ hl)
    have hlast : '\n' ∉ last.toList := h last (by simp)
    cases hb : Text.isBlank last with
    | true =>
      -- a blank line is dropped, and no directive was in it
      rw [Text.trimEnd_joinLines_concat_blank front hb, ih hfront, readDirectives_append,
        readDirectives, not_isDirective_of_isBlank hb]
      simp [readDirectives]
    | false =>
      -- text stops the trimming: what is above this line stays as it is
      have hlines : ∀ l ∈ front ++ [Text.trimEnd last], '\n' ∉ l.toList := by
        intro l hl
        rcases List.mem_append.mp hl with hl | hl
        · exact hfront l hl
        · rw [List.mem_singleton.mp hl]
          exact fun hmem => hlast (Text.mem_of_mem_trimEnd hmem)
      have hone := trimDirectives_trimEnd (front.foldl runAfter []) last
      rw [Text.trimEnd_joinLines_concat front hb, Text.splitLines_joinLines (by simp) hlines,
        readDirectives_append, readDirectives_append]
      rw [trimDirectives_append, trimDirectives_append, hone]

end BudgetNotes
