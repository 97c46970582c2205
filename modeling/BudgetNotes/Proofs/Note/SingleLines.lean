import BudgetNotes.Proofs.Note.Rewriting
import BudgetNotes.Proofs.Text.Lines

/-!
# A merge writes single lines

What a merge writes is joined to a text and cut again when the note is read.
That finds the same lines as long as none of them holds a line feed. Labels
are cut before they are written, so it takes no more than new directive lines
that are single lines (`SingleLines`); the texts of the labels do not matter.

Main statement: `SingleLines.not_mem_written`.
-/

namespace BudgetNotes

/-! ## Members of what is written -/

theorem mem_spaceOut {groups : List (List String)} {line : String} (h : line ∈ spaceOut groups) :
    line = "" ∨ ∃ group ∈ groups, line ∈ group := by
  induction groups with
  | nil => cases h
  | cons group groups ih =>
    cases groups with
    | nil => exact Or.inr ⟨group, List.mem_cons_self .., h⟩
    | cons next groups =>
      rw [spaceOut, List.mem_append, List.mem_cons] at h
      · rcases h with h | h | h
        · exact Or.inr ⟨group, List.mem_cons_self .., h⟩
        · exact Or.inl h
        · rcases ih h with h | ⟨g, hg, h⟩
          · exact Or.inl h
          · exact Or.inr ⟨g, List.mem_cons_of_mem _ hg, h⟩
      · simp

theorem mem_rewriteBlocks {new : Nat → Option (List String)} {i : Nat} {blocks : List Block}
    {line : String} (h : line ∈ rewriteBlocks new i blocks) :
    (∃ block ∈ blocks, line ∈ block.toLines) ∨ ∃ k lines, new k = some lines ∧ line ∈ lines := by
  induction blocks generalizing i with
  | nil => cases h
  | cons block blocks ih =>
    rw [rewriteBlocks, List.mem_append, List.mem_append] at h
    rcases h with (h | h) | h
    · left
      refine ⟨block, List.mem_cons_self .., ?_⟩
      unfold Block.toLines
      simp [h]
    · cases hi : new i with
      | none =>
        rw [hi, Option.getD_none] at h
        left
        refine ⟨block, List.mem_cons_self .., ?_⟩
        unfold Block.toLines
        rw [List.append_assoc]
        exact List.mem_append_right _ h
      | some lines =>
        rw [hi, Option.getD_some] at h
        exact Or.inr ⟨i, lines, hi, h⟩
    · rcases ih h with ⟨b, hb, h⟩ | h
      · exact Or.inl ⟨b, List.mem_cons_of_mem _ hb, h⟩
      · exact Or.inr h

/-- Lines stay single lines when blocks become single lines. -/
theorem not_mem_rewriteBlocks {new : Nat → Option (List String)}
    (hnew : ∀ k lines, new k = some lines → ∀ l ∈ lines, '\n' ∉ l.toList) {lines : List String}
    (hlines : ∀ l ∈ lines, '\n' ∉ l.toList) (i : Nat) :
    ∀ l ∈ rewriteBlocks new i (Layout.ofLines lines).blocks ++ (Layout.ofLines lines).rest,
      '\n' ∉ l.toList := by
  rw [← Layout.blocks_append_rest lines] at hlines
  intro l hl
  rcases List.mem_append.mp hl with hl | hl
  · rcases mem_rewriteBlocks hl with ⟨block, hblock, hl⟩ | ⟨k, new, hk, hl⟩
    · exact hlines l (List.mem_append_left _ (List.mem_flatMap.mpr ⟨block, hblock, hl⟩))
    · exact hnew k new hk l hl
  · exact hlines l (List.mem_append_right _ hl)

theorem not_mem_labelLines {label line : String} (h : line ∈ labelLines label) :
    '\n' ∉ line.toList := by
  unfold labelLines at h
  split at h
  · cases h
  · exact Text.not_mem_of_mem_splitLines h

theorem mem_lineIfAny {line l : String} (h : l ∈ lineIfAny line) : l = line := by
  unfold lineIfAny at h
  split at h
  next => cases h
  next => exact List.mem_singleton.mp h

theorem lineIfAny_of_not_isBlank {line : String} (h : Text.isBlank line = false) :
    lineIfAny line = [line] := by
  unfold lineIfAny
  rw [if_neg]
  intro he
  rw [String.isEmpty_iff.mp he] at h
  exact absurd h (by decide)

/-- A missing label and an empty one have the same lines. -/
theorem labelLines_getD (label : Option String) :
    (label.map labelLines).getD [] = labelLines (label.getD "") := by
  cases label <;> rfl

/-- A label and a single line have no line feed in a line. -/
theorem not_mem_label_line {label line : String} (hline : '\n' ∉ line.toList) :
    ∀ l ∈ labelLines label ++ lineIfAny line, '\n' ∉ l.toList := by
  intro l hl
  rcases List.mem_append.mp hl with hl | hl
  · exact not_mem_labelLines hl
  · rw [mem_lineIfAny hl]
    exact hline

/-! ## The lines of a merge -/

namespace Merge

/-- Every directive line that the merge writes anew is one line. -/
structure SingleLines (merge : Merge) : Prop where
  replaced : ∀ (i : Nat) (directive : Directive) (line : String),
    merge.entries[i]? = some (.managed directive) →
    merge.replacements[i]? = some (.replace line) → '\n' ∉ line.toList
  added : ∀ addition ∈ merge.additions, '\n' ∉ addition.line.toList

namespace SingleLines

variable {merge : Merge}

/-- No new line of a block holds a line feed. -/
theorem not_mem_newBlock (h : merge.SingleLines) {k : Nat} {lines : List String}
    (hk : merge.newBlock? k = some lines) : ∀ l ∈ lines, '\n' ∉ l.toList := by
  intro l hl
  unfold newBlock? at hk
  split at hk
  next => cases hk; cases hl
  next directive line he hr =>
    rw [Option.some_inj, labelLines_getD] at hk
    rw [← hk] at hl
    exact not_mem_label_line (h.replaced k directive line he hr) l hl
  next => cases hk

/-- The lines that additions are written after hold no line feed. -/
theorem not_mem_bodyLines (h : merge.SingleLines) (note : String) :
    ∀ l ∈ merge.bodyLines note, '\n' ∉ l.toList := by
  intro l hl
  by_cases he : merge.entries = []
  · rw [bodyLines_of_no_entries he] at hl
    exact not_mem_labelLines hl
  · rw [bodyLines_of_entries he] at hl
    exact not_mem_rewriteBlocks (fun _ _ hk => h.not_mem_newBlock hk)
      (fun l hl => Text.not_mem_of_mem_splitLines hl) 0 l ((trimTop_sublist _ _).subset hl)

/-- Nor do they with the additions. -/
theorem not_mem_appendAdditions (h : merge.SingleLines) {lines : List String}
    (hlines : ∀ l ∈ lines, '\n' ∉ l.toList) :
    ∀ l ∈ appendAdditions lines merge.additions, '\n' ∉ l.toList := by
  intro l hl
  unfold appendAdditions at hl
  split at hl
  next => exact hlines l hl
  next =>
    rw [List.mem_append, List.mem_append] at hl
    rcases hl with (hl | hl) | hl
    · exact hlines l hl
    · split at hl
      next => rw [List.mem_singleton.mp hl]; decide
      next => cases hl
    · rcases mem_spaceOut hl with rfl | ⟨group, hgroup, hl⟩
      · decide
      · obtain ⟨addition, hmem, rfl⟩ := List.mem_map.mp (List.mem_filter.mp hgroup).1
        exact not_mem_label_line (h.added addition hmem) l hl

/-- No line that the merge joins holds a line feed. -/
theorem not_mem_written (h : merge.SingleLines) (note : String) :
    ∀ l ∈ appendAdditions (merge.bodyLines note) merge.additions, '\n' ∉ l.toList :=
  h.not_mem_appendAdditions (h.not_mem_bodyLines note)

end SingleLines

end Merge

end BudgetNotes
