import BudgetNotes.Proofs.Note.Rewriting
import BudgetNotes.Proofs.Text.Lines
import Mathlib.Data.List.Basic

/-!
# A merge changes its blocks and nothing else

What a merge may touch is said line by line, without a cursor: line j belongs
to the block of the first directive at or below it that only lines of a label
separate it from (`blockAt?`). A line whose block does not change is written as
it stands; of a block that changes, the new lines stand in the place of the
directive (`linesFor`). Blank lines at the top go only if the note started with
text, and white space at the very end always goes.

> `rewritten_eq_rewriteBlocks`: line by line and block by block is the same.

Main statement: `into_eq_rewrittenBody`, for every note and every merge whose
replacements are as many as its entries, whatever their texts.
-/

namespace BudgetNotes

/-! ## Line by line -/

/-- The number of the block that holds line j. -/
def blockAt? (lines : List String) (j : Nat) : Option Nat :=
  (directivePositions lines).findIdx? fun p => j ≤ p && (slice lines j p).all isLabelLine

namespace Merge

/-- What is written for line j. -/
def linesFor (merge : Merge) (lines : List String) (line : String) (j : Nat) : List String :=
  match (blockAt? lines j).bind merge.newBlock? with
  | none => [line]
  | some new => if isDirective line then new else []

/-- The lines of a note with the blocks changed that the merge changes. -/
def rewritten (merge : Merge) (lines : List String) : List String :=
  lines.zipIdx.flatMap fun (line, j) => merge.linesFor lines line j

/-- The same, but a note that starts with text does not start with blank lines. -/
def rewrittenBody (merge : Merge) (note : String) : List String :=
  let rewritten := merge.rewritten (Text.splitLines note)
  if (Text.splitLines note).head?.any (!Text.isBlank ·) then rewritten.dropWhile Text.isBlank
  else rewritten

/-- The lines that additions are written after. -/
def base (merge : Merge) (note : String) : List String :=
  if merge.entries = [] then labelLines (Text.trimEnd note) else merge.rewrittenBody note

/-- The added templates that have a label or a line. -/
def addedGroups (merge : Merge) : List (List String) :=
  (merge.additions.map Addition.toLines).filter (!·.isEmpty)

end Merge

/-! ## Flattening over positions -/

/-- Elements that stand for themselves make up their list. -/
theorem flatMap_zipIdx_eq_self {α : Type} {xs : List α} {n : Nat} {g : α → Nat → List α}
    (h : ∀ x j, x ∈ xs → n ≤ j → j < n + xs.length → g x j = [x]) :
    (xs.zipIdx n).flatMap (fun (x, j) => g x j) = xs := by
  induction xs generalizing n with
  | nil => rfl
  | cons x xs ih =>
    have hx : g x n = [x] :=
      h x n (List.mem_cons_self ..) (Nat.le_refl n) (by rw [List.length_cons]; omega)
    have hxs : (xs.zipIdx (n + 1)).flatMap (fun (x, j) => g x j) = xs := ih fun y j hy h1 h2 =>
      h y j (List.mem_cons_of_mem _ hy) (by omega) (by rw [List.length_cons]; omega)
    rw [List.zipIdx_cons, List.flatMap_cons, hxs]
    show g x n ++ xs = x :: xs
    rw [hx]
    rfl

/-- Elements that stand for nothing make up nothing. -/
theorem flatMap_zipIdx_eq_nil {α : Type} {xs : List α} {n : Nat} {g : α → Nat → List α}
    (h : ∀ x j, x ∈ xs → n ≤ j → j < n + xs.length → g x j = []) :
    (xs.zipIdx n).flatMap (fun (x, j) => g x j) = [] := by
  rw [List.flatMap_eq_nil_iff]
  rintro ⟨x, j⟩ hmem
  obtain ⟨h1, h2, hx⟩ := List.mem_zipIdx hmem
  exact h x j (hx ▸ List.getElem_mem _) h1 (by omega)

/-! ## The block of a line -/

/-- A line of a slice is a line between its ends. -/
theorem mem_slice_iff {lines : List String} {start stop : Nat} {x : String} :
    x ∈ slice lines start stop ↔ ∃ i, start ≤ i ∧ i < stop ∧ lines[i]? = some x := by
  unfold slice
  rw [List.mem_iff_getElem?]
  constructor
  · rintro ⟨k, hk⟩
    rw [List.getElem?_drop, List.getElem?_take] at hk
    split at hk
    next hlt => exact ⟨start + k, by omega, hlt, hk⟩
    next => cases hk
  · rintro ⟨i, h1, h2, hi⟩
    refine ⟨i - start, ?_⟩
    have hadd : start + (i - start) = i := by omega
    rw [List.getElem?_drop, List.getElem?_take, hadd, if_pos h2, hi]

/-- A line that belongs to no label separates all lines above from the directives below. -/
theorem not_all_isLabelLine_slice {lines : List String} {start i stop : Nat} {line : String}
    (h1 : start ≤ i) (h2 : i < stop) (hi : lines[i]? = some line)
    (hline : isLabelLine line = false) : (slice lines start stop).all isLabelLine = false := by
  rw [List.all_eq_false]
  exact ⟨line, mem_slice_iff.mpr ⟨i, h1, h2, hi⟩, by rw [hline]; exact Bool.false_ne_true⟩

section

variable {block : Block} {above below : List String}

/-- The directives of lines with a block among them. -/
theorem directivePositions_block (hw : block.WellFormed) (above below : List String) :
    directivePositions (above ++ block.toLines ++ below) =
      directivePositions above ++
        (above.length + block.before.length + block.label.length) ::
          directivePositionsFrom (above.length + block.toLines.length) below := by
  unfold directivePositions
  rw [List.append_assoc, directivePositionsFrom_append, Nat.zero_add,
    directivePositionsFrom_block hw]

/-- No directive above lies at or below a later line. -/
theorem findIdx?_directivePositions_above (p : Nat → Bool) (above : List String) {j : Nat}
    (hj : above.length ≤ j) :
    (directivePositions above).findIdx? (fun i => j ≤ i && p i) = none := by
  rw [List.findIdx?_eq_none_iff]
  intro i hi
  have := mem_directivePositionsFrom_bounds hi
  rw [decide_eq_false (by omega), Bool.false_and]

/-- A line before a label belongs to no block: the blank line above the label is in between. -/
theorem blockAt?_before (hw : block.WellFormed) {j : Nat} (h1 : above.length ≤ j)
    (h2 : j < above.length + block.before.length) :
    blockAt? (above ++ block.toLines ++ below) j = none := by
  obtain ⟨last, hlast⟩ : ∃ last, block.before.getLast? = some last := by
    cases hb : block.before.getLast? with
    | some last => exact ⟨last, rfl⟩
    | none =>
      rw [List.getLast?_eq_none_iff.mp hb, List.length_nil] at h2
      omega
  have hget : (above ++ block.toLines ++ below)[above.length + (block.before.length - 1)]? =
      some last := by
    unfold Block.toLines
    rw [List.append_assoc, List.getElem?_append_right (by omega), Nat.add_sub_cancel_left,
      List.append_assoc, List.append_assoc, List.getElem?_append_left (by omega),
      ← List.getLast?_eq_getElem?, hlast]
  -- this line is blank and not above line j, so no directive below it is reached from line j
  have hblank := not_isLabelLine_of_isBlank (hw.isBlank_getLast last hlast)
  unfold blockAt?
  rw [directivePositions_block hw, List.findIdx?_append,
    findIdx?_directivePositions_above _ _ h1, Option.none_or, Option.map_eq_none_iff,
    List.findIdx?_eq_none_iff]
  intro p hp
  have hle : above.length + block.before.length ≤ p := by
    rcases List.mem_cons.mp hp with rfl | hp
    · omega
    · have := (mem_directivePositionsFrom_bounds hp).1
      rw [block.length_toLines] at this
      omega
  rw [not_all_isLabelLine_slice (by omega) (by omega) hget hblank, Bool.and_false]

/-- A line of the label, and the directive itself, belong to the block. -/
theorem blockAt?_block (hw : block.WellFormed) {j : Nat}
    (h1 : above.length + block.before.length ≤ j)
    (h2 : j ≤ above.length + block.before.length + block.label.length) :
    blockAt? (above ++ block.toLines ++ below) j = some (directivePositions above).length := by
  -- down to the directive there are only lines of the label
  have hall : (slice (above ++ block.toLines ++ below) j
      (above.length + block.before.length + block.label.length)).all isLabelLine = true := by
    rw [List.all_eq_true]
    intro x hx
    obtain ⟨i, hi1, hi2, hget⟩ := mem_slice_iff.mp hx
    unfold Block.toLines at hget
    rw [List.append_assoc, List.getElem?_append_right (by omega), List.append_assoc,
      List.append_assoc, List.getElem?_append_right (by omega),
      List.getElem?_append_left (by omega)] at hget
    exact hw.isLabelLine_of_mem x (List.mem_of_getElem? hget)
  unfold blockAt?
  rw [directivePositions_block hw, List.findIdx?_append,
    findIdx?_directivePositions_above _ _ (by omega), Option.none_or, List.findIdx?_cons, hall,
    decide_eq_true h2]
  simp

end

/-- Below the last directive no line belongs to a block. -/
theorem blockAt?_rest {above rest : List String} (hrest : ∀ l ∈ rest, isDirective l = false)
    {j : Nat} (hj : above.length ≤ j) : blockAt? (above ++ rest) j = none := by
  unfold blockAt? directivePositions
  rw [directivePositionsFrom_append, directivePositionsFrom_eq_nil _ hrest, List.append_nil]
  exact findIdx?_directivePositions_above _ above hj

/-! ## Block by block -/

namespace Merge

/-- A line of no block stands for itself. -/
theorem linesFor_of_none (merge : Merge) {lines : List String} {j : Nat} (line : String)
    (h : blockAt? lines j = none) : merge.linesFor lines line j = [line] := by
  unfold linesFor
  rw [h, Option.bind_none]

/-- A line of a block stands for itself as long as the block stays; of a new block, the directive
stands for all of it. -/
theorem linesFor_of_some (merge : Merge) {lines : List String} {i j : Nat} (line : String)
    (h : blockAt? lines j = some i) :
    merge.linesFor lines line j =
      match merge.newBlock? i with
      | none => [line]
      | some new => if isDirective line then new else [] := by
  unfold linesFor
  rw [h, Option.bind_some]

/-- The lines of one block become its own lines before the label, and the block or what replaces
it. -/
theorem flatMap_linesFor_block (merge : Merge) {block : Block} (hw : block.WellFormed)
    (above below : List String) :
    (block.toLines.zipIdx above.length).flatMap
        (fun (line, j) => merge.linesFor (above ++ block.toLines ++ below) line j) =
      block.before ++ (merge.newBlock? (directivePositions above).length).getD
        (block.label ++ [block.directive]) := by
  have hbefore : (block.before.zipIdx above.length).flatMap
      (fun (line, j) => merge.linesFor (above ++ block.toLines ++ below) line j) =
        block.before :=
    flatMap_zipIdx_eq_self fun line j _ h1 h2 =>
      merge.linesFor_of_none line (blockAt?_before hw h1 h2)
  have hsplit : block.toLines.zipIdx above.length =
      block.before.zipIdx above.length ++
        (block.label ++ [block.directive]).zipIdx (above.length + block.before.length) := by
    unfold Block.toLines
    rw [List.append_assoc, List.zipIdx_append]
  rw [hsplit, List.flatMap_append, hbefore]
  congr 1
  have hblock : ∀ line j, above.length + block.before.length ≤ j →
      j ≤ above.length + block.before.length + block.label.length →
      merge.linesFor (above ++ block.toLines ++ below) line j =
        match merge.newBlock? (directivePositions above).length with
        | none => [line]
        | some new => if isDirective line then new else [] :=
    fun line j h1 h2 => merge.linesFor_of_some line (blockAt?_block hw h1 h2)
  cases hnew : merge.newBlock? (directivePositions above).length with
  | none =>
    rw [Option.getD_none]
    apply flatMap_zipIdx_eq_self
    intro line j _ h1 h2
    rw [List.length_append, List.length_singleton] at h2
    rw [hblock line j h1 (by omega), hnew]
  | some new =>
    -- the label stands for nothing, so all new lines come from the directive
    rw [Option.getD_some, List.zipIdx_append, List.flatMap_append, flatMap_zipIdx_eq_nil,
      List.nil_append]
    · show merge.linesFor (above ++ block.toLines ++ below) block.directive
        (above.length + block.before.length + block.label.length) ++ [] = new
      rw [hblock _ _ (by omega) (Nat.le_refl _), hnew]
      simp only [hw.isDirective_directive, if_true, List.append_nil]
    · intro line j hline h1 h2
      have hnot : isDirective line = false :=
        not_isDirective_of_isLabelLine (hw.isLabelLine_of_mem line hline)
      rw [hblock line j h1 (by omega), hnew]
      simp only [hnot, Bool.false_eq_true, if_false]

/-- From any block on, the lines become what the blocks become. -/
theorem flatMap_linesFor (merge : Merge) (blocks : List Block)
    (hw : ∀ block ∈ blocks, block.WellFormed) {rest : List String}
    (hrest : ∀ l ∈ rest, isDirective l = false) (above : List String) :
    ((blocks.flatMap Block.toLines ++ rest).zipIdx above.length).flatMap
        (fun (line, j) =>
          merge.linesFor (above ++ (blocks.flatMap Block.toLines ++ rest)) line j) =
      rewriteBlocks merge.newBlock? (directivePositions above).length blocks ++ rest := by
  induction blocks generalizing above with
  | nil =>
    rw [List.flatMap_nil, List.nil_append]
    exact flatMap_zipIdx_eq_self fun line j _ h1 _ =>
      merge.linesFor_of_none line (blockAt?_rest hrest h1)
  | cons block blocks ih =>
    have hblock := hw block (List.mem_cons_self ..)
    have hstep := ih (fun b hb => hw b (List.mem_cons_of_mem _ hb)) (above ++ block.toLines)
    -- the block has one directive, so its number goes up by one
    have hcount : (directivePositions (above ++ block.toLines)).length =
        (directivePositions above).length + 1 := by
      have := directivePositions_block hblock above []
      rw [List.append_nil] at this
      rw [this, List.length_append]
      rfl
    rw [hcount, List.length_append] at hstep
    rw [List.flatMap_cons, List.append_assoc, List.zipIdx_append, List.flatMap_append,
      ← List.append_assoc above, merge.flatMap_linesFor_block hblock, hstep, rewriteBlocks]
    simp only [List.append_assoc]

/-- Line by line and block by block a merge writes the same. -/
theorem rewritten_eq_rewriteBlocks (merge : Merge) (lines : List String) :
    merge.rewritten lines =
      rewriteBlocks merge.newBlock? 0 (Layout.ofLines lines).blocks ++
        (Layout.ofLines lines).rest := by
  have hall := merge.flatMap_linesFor (Layout.ofLines lines).blocks
    (Layout.ofLines_wellFormed lines) (Layout.not_isDirective_of_mem_rest lines) []
  rw [Layout.blocks_append_rest] at hall
  exact hall

/-- The walk with two cursors writes every line as `linesFor` says. -/
theorem mergeLines_eq_rewrittenBody (merge : Merge) (note : String) :
    mergeLines (Text.splitLines note) (merge.entries.zip merge.replacements) merge.labels =
      merge.rewrittenBody note := by
  unfold mergeLines rewrittenBody startsWithText
  rw [merge.mergeFrom_directivePositions, ← merge.rewritten_eq_rewriteBlocks]

/-! ## Without entries -/

/-- Without entries no line changes. -/
theorem rewrittenBody_of_no_entries {merge : Merge} (h : merge.entries = []) (note : String) :
    merge.rewrittenBody note = Text.splitLines note := by
  have hall : merge.rewritten (Text.splitLines note) = Text.splitLines note := by
    unfold rewritten
    apply flatMap_zipIdx_eq_self
    intro line j _ _ _
    unfold linesFor
    cases blockAt? (Text.splitLines note) j with
    | none => rfl
    | some i => rw [Option.bind_some, newBlock?_of_no_entries h i]
  have hbody : merge.rewrittenBody note =
      trimTop (Text.splitLines note) (merge.rewritten (Text.splitLines note)) := rfl
  rw [hbody, hall, trimTop_self]

end Merge

/-- Spacing out is putting a single empty line between groups. -/
theorem spaceOut_eq_intercalate (groups : List (List String)) :
    spaceOut groups = [""].intercalate groups := by
  induction groups with
  | nil => rfl
  | cons group groups ih =>
    cases groups with
    | nil => simp [spaceOut, List.intercalate]
    | cons next groups =>
      rw [spaceOut, ih]
      · simp [List.intercalate]
      · simp

/-! ## The whole merge -/

namespace Merge

/-- **A merge is lossless.** Without additions the result is the note's lines, every one of them
as `linesFor` says, trimmed at the end; additions with text come after that, one empty line between
them, and one before the first unless nothing or a blank line is above it. -/
theorem into_eq_rewrittenBody (merge : Merge) (note : String)
    (h : merge.replacements.length = merge.entries.length) :
    (merge.addedGroups = [] →
      merge.into note = .ok (Text.trimEnd (Text.joinLines (merge.rewrittenBody note)))) ∧
    (merge.addedGroups ≠ [] →
      merge.into note = .ok (Text.trimEnd (Text.joinLines (merge.base note ++
        (if (merge.base note).getLast?.any (!Text.isBlank ·) then [""] else []) ++
        [""].intercalate merge.addedGroups)))) := by
  have hbody : merge.bodyLines note = merge.base note := by
    unfold bodyLines base plainLines
    simp only [List.isEmpty_iff]
    rw [merge.mergeLines_eq_rewrittenBody]
  have hinto : merge.into note =
      .ok (Text.trimEnd (Text.joinLines (appendAdditions (merge.base note) merge.additions))) := by
    unfold into
    rw [if_pos h, hbody]
  constructor
  · intro hnone
    rw [hinto]
    unfold appendAdditions
    rw [show (merge.additions.map Addition.toLines).filter (!·.isEmpty) = [] from hnone]
    show Except.ok (Text.trimEnd (Text.joinLines (merge.base note))) = _
    unfold base
    split
    next he =>
      -- the note was trimmed before, which is no different from trimming it once
      rw [rewrittenBody_of_no_entries he, joinLines_labelLines, Text.joinLines_splitLines,
        Text.trimEnd_idem]
    next => rfl
  · intro hsome
    obtain ⟨group, groups, hgroups⟩ := List.exists_cons_of_ne_nil hsome
    rw [hinto]
    unfold appendAdditions
    rw [show (merge.additions.map Addition.toLines).filter (!·.isEmpty) = group :: groups
      from hgroups, hgroups, ← spaceOut_eq_intercalate]

/-- A block that changes, one that goes and one that could not be read, with a template added. -/
theorem into_mixed :
    let entry := Entry.managed (.ofTemplate (.goal ⟨.one⟩) none)
    let merge : Merge :=
      { entries := [.unparsed "#template x" "", entry, entry]
        labels := ["Food\nand drink", "Fun"]
        replacements := [.delete, .replace "#template 450", .delete]
        additions := [⟨"", "#goal 2000"⟩] }
    merge.replacements.length = merge.entries.length ∧
    merge.into "\nRent\n#template x\nGroceries\n#template 400\n\nFun\n#template 50\n\nFooter" =
      .ok "\nRent\n#template x\nFood\nand drink\n#template 450\n\n\nFooter\n\n#goal 2000" := by
  intro entry merge
  have hadded : merge.addedGroups ≠ [] := by decide
  refine ⟨rfl, ?_⟩
  rw [(into_eq_rewrittenBody merge _ rfl).2 hadded]
  decide +kernel

end Merge

end BudgetNotes
