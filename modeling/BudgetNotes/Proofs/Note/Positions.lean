import BudgetNotes.Note.Labels
import BudgetNotes.Proofs.Note.Layout

/-!
# Where blocks lie

Positions and labels are found by counting lines; a layout has the blocks
themselves. This file says where a well-formed block lies among the lines
around it: its directive is at the position that counting gives, and the scan
for its label, from any floor above the block, stops where the label starts.

> `labelStart_block`: the floor of the scan does not matter as long as it does
> not cut into the label.

Main statements: `directivePositionsFrom_block`, `labelStart_block` and
`labelStart_step` (one step of the scan from the line above).
-/

namespace BudgetNotes

/-! ## Positions -/

/-- Positions below other lines are counted on from them. -/
theorem directivePositionsFrom_append (start : Nat) (xs ys : List String) :
    directivePositionsFrom start (xs ++ ys) =
      directivePositionsFrom start xs ++ directivePositionsFrom (start + xs.length) ys := by
  induction xs generalizing start with
  | nil => rfl
  | cons x xs ih =>
    have hlen : start + 1 + xs.length = start + (x :: xs).length := by
      rw [List.length_cons]
      omega
    rw [List.cons_append, directivePositionsFrom, directivePositionsFrom, ih, hlen]
    split <;> rfl

/-- Without a directive line there is no position. -/
theorem directivePositionsFrom_eq_nil (start : Nat) {xs : List String}
    (h : ∀ x ∈ xs, isDirective x = false) : directivePositionsFrom start xs = [] := by
  induction xs generalizing start with
  | nil => rfl
  | cons x xs ih =>
    rw [directivePositionsFrom, h x (List.mem_cons_self ..)]
    exact ih (start + 1) fun y hy => h y (List.mem_cons_of_mem _ hy)

/-- A position is one of the lines that were counted. -/
theorem mem_directivePositionsFrom_bounds {start p : Nat} {xs : List String}
    (h : p ∈ directivePositionsFrom start xs) : start ≤ p ∧ p < start + xs.length := by
  induction xs generalizing start with
  | nil => cases h
  | cons x xs ih =>
    rw [List.length_cons]
    rw [directivePositionsFrom] at h
    split at h
    next =>
      rcases List.mem_cons.mp h with rfl | h
      · omega
      · have := ih h
        omega
    next =>
      have := ih h
      omega

/-! ## Slices -/

/-- A slice between what stands before and after it. -/
theorem slice_append (xs ys zs : List String) :
    slice (xs ++ ys ++ zs) xs.length (xs.length + ys.length) = ys := by
  unfold slice
  rw [← List.length_append, List.take_left, List.drop_left]

/-- From a line to itself there is nothing. -/
theorem slice_self (lines : List String) (i : Nat) : slice lines i i = [] := by
  unfold slice
  rw [List.drop_eq_nil_iff, List.length_take]
  omega

/-- A slice grows by the line at its end. -/
theorem slice_succ {lines : List String} {start stop : Nat} {line : String} (hle : start ≤ stop)
    (h : lines[stop]? = some line) :
    slice lines start (stop + 1) = slice lines start stop ++ [line] := by
  obtain ⟨hlt, -⟩ := List.getElem?_eq_some_iff.mp h
  unfold slice
  rw [List.take_add_one, h, Option.toList_some, List.drop_append_of_le_length]
  rw [List.length_take]
  omega

/-! ## The scan for a label -/

/-- No directive line is part of a label. -/
theorem not_isLabelLine_of_isDirective {line : String} (h : isDirective line = true) :
    isLabelLine line = false := by
  unfold isLabelLine
  rw [h]
  rfl

/-- No blank line is part of a label. -/
theorem not_isLabelLine_of_isBlank {line : String} (h : Text.isBlank line = true) :
    isLabelLine line = false := by
  unfold isLabelLine
  rw [h, Bool.not_true, Bool.and_false]

/-- A label line is no directive line. -/
theorem not_isDirective_of_isLabelLine {line : String} (h : isLabelLine line = true) :
    isDirective line = false := by
  unfold isLabelLine at h
  rw [Bool.and_eq_true, Bool.not_eq_true'] at h
  exact h.1

/-- A label line is not blank. -/
theorem not_isBlank_of_isLabelLine {line : String} (h : isLabelLine line = true) :
    Text.isBlank line = false := by
  unfold isLabelLine at h
  rw [Bool.and_eq_true, Bool.not_eq_true', Bool.not_eq_true'] at h
  exact h.2

/-- A blank line has no sign of a directive. -/
theorem not_isDirective_of_isBlank {line : String} (h : Text.isBlank line = true) :
    isDirective line = false := by
  rw [Bool.eq_false_iff]
  intro hd
  rw [not_isBlank_of_isDirective hd] at h
  cases h

/-- The scan takes the line above if it belongs to a label and is not above the floor. -/
theorem labelStart_step (lines : List String) (floor line : Nat) :
    labelStart lines floor (line + 1) =
      if floor ≤ line ∧ lines[line]?.any isLabelLine = true then labelStart lines floor line
      else line + 1 := by
  rw [labelStart]
  simp only [Bool.and_eq_true, decide_eq_true_eq]

/-- The scan stops at the floor or at a line that belongs to no label, once only lines of labels
are left behind. -/
theorem labelStart_eq {lines : List String} {floor start count : Nat} (hfloor : floor ≤ start)
    (hlabel : ∀ i, start ≤ i → i < start + count → lines[i]?.any isLabelLine = true)
    (habove : floor < start → lines[start - 1]?.any isLabelLine = false) :
    labelStart lines floor (start + count) = start := by
  induction count with
  | zero =>
    -- nothing of the label is left, so the scan has to stop here
    cases start with
    | zero => rfl
    | succ i =>
      rw [Nat.add_zero, labelStart_step]
      apply if_neg
      rintro ⟨hi, hany⟩
      have hnot := habove (by omega)
      rw [Nat.add_sub_cancel, hany] at hnot
      cases hnot
  | succ count ih =>
    rw [← Nat.add_assoc, labelStart_step]
    rw [if_pos ⟨by omega, hlabel (start + count) (by omega) (by omega)⟩]
    exact ih fun i h1 h2 => hlabel i h1 (by omega)

/-! ## Blocks among lines -/

/-- A block has the lines above its label, those of the label and its directive. -/
theorem Block.length_toLines (block : Block) :
    block.toLines.length = block.before.length + block.label.length + 1 := by
  unfold Block.toLines
  rw [List.length_append, List.length_append, List.length_singleton]

/-- The first directive of a block and what follows is the block's own. -/
theorem directivePositionsFrom_block {block : Block} (hw : block.WellFormed) (start : Nat)
    (below : List String) :
    directivePositionsFrom start (block.toLines ++ below) =
      (start + block.before.length + block.label.length) ::
        directivePositionsFrom (start + block.toLines.length) below := by
  have hnone : ∀ l ∈ block.before ++ block.label, isDirective l = false := by
    intro l hl
    rcases List.mem_append.mp hl with hl | hl
    · exact hw.not_isDirective_of_mem l hl
    · exact not_isDirective_of_isLabelLine (hw.isLabelLine_of_mem l hl)
  have hown : directivePositionsFrom start block.toLines =
      [start + block.before.length + block.label.length] := by
    unfold Block.toLines
    rw [directivePositionsFrom_append, directivePositionsFrom_eq_nil start hnone,
      directivePositionsFrom, hw.isDirective_directive, List.length_append]
    simp only [if_true, List.nil_append, Nat.add_assoc, directivePositionsFrom]
  rw [directivePositionsFrom_append, hown, List.singleton_append]

/-- The scan from a block's directive stops where its label starts, whatever the floor above. Text
directly above the block does not occur: a block starts the lines, or follows another's
directive, or its own blank line. -/
theorem labelStart_block {block : Block} (hw : block.WellFormed) (above below : List String)
    {floor : Nat} (hfloor : floor ≤ above.length)
    (habove : floor < above.length → ∀ l ∈ above.getLast?, isLabelLine l = false) :
    labelStart (above ++ block.toLines ++ below) floor
        (above.length + block.before.length + block.label.length) =
      above.length + block.before.length := by
  have hlines : above ++ block.toLines ++ below =
      (above ++ block.before) ++ (block.label ++ (block.directive :: below)) := by
    unfold Block.toLines
    simp
  rw [hlines, ← List.length_append]
  apply labelStart_eq (by rw [List.length_append]; omega)
  · -- on the way up there are only the lines of the label
    intro i h1 h2
    rw [List.getElem?_append_right h1, List.getElem?_append_left (by omega),
      List.getElem?_eq_getElem (by omega), Option.any_some]
    exact hw.isLabelLine_of_mem _ (List.getElem_mem _)
  · -- and above it the last line before the block's label, or the last of those above the block
    intro hlt
    have hne : above ++ block.before ≠ [] := by
      intro hnil
      rw [hnil, List.length_nil] at hlt
      omega
    rw [List.getElem?_append_left (by have := List.length_pos_iff.mpr hne; omega),
      ← List.getLast?_eq_getElem?]
    cases hl : block.before.getLast? with
    | some l =>
      rw [List.getLast?_append, hl]
      exact not_isLabelLine_of_isBlank (hw.isBlank_getLast l hl)
    | none =>
      have hb : block.before = [] := List.getLast?_eq_none_iff.mp hl
      rw [hb, List.append_nil] at hlt ⊢
      cases hl : above.getLast? with
      | none => rfl
      | some l => exact habove hlt l hl

/-- The block's lines without those before its label. -/
theorem slice_block (block : Block) (above below : List String) :
    slice (above ++ block.toLines ++ below) (above.length + block.before.length)
        (above.length + block.before.length + block.label.length + 1) =
      block.label ++ [block.directive] := by
  have hlines : above ++ block.toLines ++ below =
      (above ++ block.before) ++ (block.label ++ [block.directive]) ++ below := by
    unfold Block.toLines
    simp
  have hlen : above.length + block.before.length + block.label.length + 1 =
      (above ++ block.before).length + (block.label ++ [block.directive]).length := by
    simp only [List.length_append, List.length_singleton]
    omega
  rw [hlines, hlen, ← List.length_append, slice_append]

/-- The lines before a block's label. -/
theorem slice_before (block : Block) (above below : List String) :
    slice (above ++ block.toLines ++ below) above.length (above.length + block.before.length) =
      block.before := by
  have hlines : above ++ block.toLines ++ below =
      above ++ block.before ++ (block.label ++ [block.directive] ++ below) := by
    unfold Block.toLines
    simp
  rw [hlines, slice_append]

end BudgetNotes
