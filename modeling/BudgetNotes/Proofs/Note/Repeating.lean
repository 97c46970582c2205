import BudgetNotes.Proofs.Note.Reloading
import BudgetNotes.Proofs.Note.Stepwise

/-!
# Merges that change nothing

A merge that writes for every block what stands there leaves the note as it is,
but for white space at its end. It does so when it writes a block with the label
that was found above it and with its own line, or does not write it:

> `getElem?_entryLabels`: the label that was found for an entry is that of its
> block, whatever entries there are above it.

A merge that deletes nothing is of that kind if it is made once more. Its blocks
come out as blocks, as many as before and each with what the merge writes:

> `exists_rewritten`: rewritten blocks are blocks that rewriting leaves alone.

That takes a label and a line that are read as a directive with that label
(`WritesDirective`), and no more than for the entries that have a directive line.

Main statements: `Merge.into_own` and `Merge.into_into`.
-/

namespace BudgetNotes

/-! ## Blocks that come out as they were -/

/-- Blocks that become what they are keep their lines. -/
theorem rewriteBlocks_self {new : Nat → Option (List String)} {i : Nat} (blocks : List Block)
    (h : ∀ j block, blocks[j]? = some block →
      (new (i + j)).getD (block.label ++ [block.directive]) = block.label ++ [block.directive]) :
    rewriteBlocks new i blocks = blocks.flatMap Block.toLines := by
  induction blocks generalizing i with
  | nil => rfl
  | cons block blocks ih =>
    have hrest : ∀ j b, blocks[j]? = some b →
        (new (i + 1 + j)).getD (b.label ++ [b.directive]) = b.label ++ [b.directive] := by
      intro j b hb
      rw [Nat.add_right_comm]
      exact h (j + 1) b hb
    have hfirst : (new i).getD (block.label ++ [block.directive]) =
        block.label ++ [block.directive] := h 0 block rfl
    rw [rewriteBlocks, hfirst, ih hrest, List.flatMap_cons, Block.toLines]
    simp only [List.append_assoc]

/-- A note whose blocks become what they are is only trimmed at its end. -/
theorem rewriteNote_self {new : Nat → Option (List String)} {note : String}
    (h : ∀ i block, (Layout.ofLines (Text.splitLines note)).blocks[i]? = some block →
      (new i).getD (block.label ++ [block.directive]) = block.label ++ [block.directive]) :
    rewriteNote new note = Text.trimEnd note := by
  have hblocks : rewriteLines new 0 (Text.splitLines note) = Text.splitLines note := by
    unfold rewriteLines
    rw [rewriteBlocks_self _ fun j block hblock => ?_, Layout.blocks_append_rest]
    rw [Nat.zero_add]
    exact h j block hblock
  unfold rewriteNote
  rw [hblocks, trimTop_self, Text.joinLines_splitLines]

/-- Blocks come out of a rewriting as blocks, which the same rewriting leaves alone. -/
theorem exists_rewritten {new : Nat → Option (List String)} {i : Nat} (blocks : List Block)
    (hw : ∀ block ∈ blocks, block.WellFormed)
    (h : ∀ j < blocks.length, ∀ {lines}, new (i + j) = some lines → IsLabelledDirective lines) :
    ∃ written : List Block, (∀ block ∈ written, block.WellFormed) ∧
      rewriteBlocks new i blocks = written.flatMap Block.toLines ∧
      rewriteBlocks new i written = written.flatMap Block.toLines := by
  induction blocks generalizing i with
  | nil => exact ⟨[], hw, rfl, rfl⟩
  | cons block blocks ih =>
    obtain ⟨hblock, hblocks⟩ := List.forall_mem_cons.mp hw
    have hrest : ∀ j < blocks.length, ∀ {lines}, new (i + 1 + j) = some lines →
        IsLabelledDirective lines := by
      intro j hj
      rw [Nat.add_right_comm]
      exact h (j + 1) (Nat.succ_lt_succ hj)
    obtain ⟨written, hwritten, hbefore, hnew⟩ := hblock.exists_written (h 0 (Nat.succ_pos _))
    obtain ⟨below, hbelow, honce, htwice⟩ := ih hblocks hrest
    rw [Nat.add_zero] at hnew
    -- what is written there does not depend on what stood there, or it is what stood there
    have hagain : (new i).getD (written.label ++ [written.directive]) =
        written.label ++ [written.directive] := by
      rw [hnew]
      cases new i <;> rfl
    refine ⟨written :: below, List.forall_mem_cons.mpr ⟨hwritten, hbelow⟩, ?_, ?_⟩
    · rw [rewriteBlocks, honce, ← hnew, ← hbefore, List.flatMap_cons, Block.toLines]
      simp only [List.append_assoc]
    · rw [rewriteBlocks, htwice, hagain, List.flatMap_cons, Block.toLines]
      simp only [List.append_assoc]

/-- Lines can be rewritten again, where every block stays a block. -/
theorem rewriteLines_rewriteLines_self {new : Nat → Option (List String)} {lines : List String}
    (h : ∀ i < (Layout.ofLines lines).blocks.length, ∀ {written}, new i = some written →
      IsLabelledDirective written) :
    rewriteLines new 0 (rewriteLines new 0 lines) = rewriteLines new 0 lines := by
  have hfrom : ∀ j < (Layout.ofLines lines).blocks.length, ∀ {written},
      new (0 + j) = some written → IsLabelledDirective written := by
    intro j hj
    rw [Nat.zero_add]
    exact h j hj
  obtain ⟨written, hwritten, honce, htwice⟩ :=
    exists_rewritten _ (Layout.ofLines_wellFormed lines) hfrom
  have hlines : rewriteLines new 0 lines =
      written.flatMap Block.toLines ++ (Layout.ofLines lines).rest := by
    rw [← honce]
    rfl
  rw [hlines, rewriteLines_flatMap_append _ _ hwritten, htwice,
    rewriteLines_of_not_isDirective _ _ (Layout.not_isDirective_of_mem_rest lines)]

/-! ## Labels that were found -/

/-- Of pairs in which the second counts, the one that as many of these precede. -/
theorem getElem?_filter_zip {α β : Type} {p : β → Bool} {xs : List α} {ys : List β} {i : Nat}
    {x : α} {y : β} (hx : xs[i]? = some x) (hy : ys[i]? = some y) (hp : p y = true) :
    ((xs.zip ys).filter fun a => p a.2)[(ys.take i).countP p]? = some (x, y) := by
  induction xs generalizing ys i with
  | nil => cases hx
  | cons a xs ih =>
    cases ys with
    | nil => cases hy
    | cons b ys =>
      cases i with
      | zero =>
        rw [List.getElem?_cons_zero, Option.some_inj] at hx hy
        simp [hx, hy, hp]
      | succ i =>
        have hrest := ih hx hy
        cases hb : p b <;> simpa [hb] using hrest

/-- The label that was found for a managed entry is the label of its block. -/
theorem getElem?_entryLabels {note : String} {entries : List Entry} {i : Nat} {entry : Entry}
    {block : Block} (hentry : entries[i]? = some entry) (hmanaged : entry.isManaged = true)
    (hblock : (Layout.ofLines (Text.splitLines note)).blocks[i]? = some block) :
    (entryLabels note entries)[managedBefore entries i]? = some (Text.joinLines block.label) := by
  -- the directive of the block is the one at the entry's position
  have hlabelled : (labelledDirectives note)[i]? = some block.labelled := by
    rw [labelledDirectives_eq_map_labelled, List.getElem?_map, hblock, Option.map_some]
  unfold labelledDirectives at hlabelled
  rw [List.getElem?_map] at hlabelled
  obtain ⟨p, hp, hfound⟩ := Option.map_eq_some_iff.mp hlabelled
  unfold entryLabels managedBefore
  rw [List.getElem?_map, getElem?_filter_zip hp hentry hmanaged, Option.map_some]
  exact congrArg some (congrArg Prod.fst hfound)

namespace Merge

/-! ## Writing what is there -/

/-- **To write what is there changes nothing.** If every managed entry with a directive line has
its block kept, or has that line written again with the labels that were found in the note, then
only the white space at the end of the note goes. What the lists say for other entries does not
matter, nor do the labels if all blocks are kept. -/
theorem into_own (merge : Merge) (note : String)
    (hcount : merge.replacements.length = merge.entries.length)
    (hadditions : merge.additions = [])
    (h : ∀ (i : Nat) (directive : Directive) (line : String),
      merge.entries[i]? = some (.managed directive) →
      (directiveLines note)[i]? = some line →
      merge.replacements[i]? = some .keep ∨
        (merge.replacements[i]? = some (.replace line) ∧
          merge.labels = entryLabels note merge.entries)) :
    merge.into note = .ok (Text.trimEnd note) := by
  rw [into_eq_rewriteNote hcount hadditions, rewriteNote_self fun i block hblock => ?_]
  have hw := Layout.ofLines_wellFormed _ block (List.mem_of_getElem? hblock)
  obtain ⟨htext, hfeeds⟩ := label_spec (List.mem_of_getElem? hblock)
  have hown : (directiveLines note)[i]? = some block.directive := by
    rw [directiveLines_eq_map_directive, List.getElem?_map, hblock, Option.map_some]
  cases hnew : merge.newBlock? i with
  | none => rfl
  | some lines =>
    rcases newBlock?_cases hnew with ⟨hdeletes, _⟩ | ⟨directive, line, hentry, hreplace, rfl⟩
    · -- no block is deleted
      obtain ⟨hmanaged, hdelete⟩ := (Bool.and_eq_true _ _).mp hdeletes
      obtain ⟨directive, hentry⟩ := exists_managed_of_any hmanaged
      rcases h i directive block.directive hentry hown with hkeep | ⟨hreplace, _⟩
      · cases hkeep.symm.trans (of_decide_eq_true hdelete)
      · cases hreplace.symm.trans (of_decide_eq_true hdelete)
    · rcases h i directive block.directive hentry hown with hkeep | ⟨hline, hlabels⟩
      · cases hkeep.symm.trans hreplace
      · cases hline.symm.trans hreplace
        have hlabel : merge.newLabel i = Text.joinLines block.label := by
          unfold newLabel
          rw [hlabels, getElem?_entryLabels hentry rfl hblock, Option.getD_some]
        rw [Option.getD_some, hlabel, labelLines_joinLines htext hfeeds,
          lineIfAny_of_not_isBlank (not_isBlank_of_isDirective hw.isDirective_directive)]

/-- A label at the top of a note, one of two lines below a line that could not be read, and a block
that is kept, with an entry too many. -/
theorem into_own_mixed :
    let entry := Entry.managed (.ofTemplate (.goal ⟨.one⟩) none)
    let note := "\nFood\n#template 400\nRent\n#template x\nOur\ntrip\n#goal 2\n#goal 3\nend \n"
    let entries := [entry, .unparsed "#template x" "", entry, entry, entry]
    let merge : Merge :=
      { entries := entries
        labels := entryLabels note entries
        replacements :=
          [.replace "#template 400", .delete, .replace "#goal 2", .keep, .replace "#goal 9"]
        additions := [] }
    merge.replacements.length = merge.entries.length ∧ merge.additions = [] ∧
    (∀ (i : Nat) (directive : Directive) (line : String),
      merge.entries[i]? = some (.managed directive) →
      (directiveLines note)[i]? = some line →
      merge.replacements[i]? = some .keep ∨
        (merge.replacements[i]? = some (.replace line) ∧
          merge.labels = entryLabels note merge.entries)) ∧
    merge.into note =
      .ok "\nFood\n#template 400\nRent\n#template x\nOur\ntrip\n#goal 2\n#goal 3\nend" := by
  intro entry note entries merge
  have hdirectives :
      directiveLines note = ["#template 400", "#template x", "#goal 2", "#goal 3"] := by
    decide +kernel
  have hown : ∀ (i : Nat) (directive : Directive) (line : String),
      merge.entries[i]? = some (.managed directive) →
      (directiveLines note)[i]? = some line →
      merge.replacements[i]? = some .keep ∨
        (merge.replacements[i]? = some (.replace line) ∧
          merge.labels = entryLabels note merge.entries) := by
    rw [hdirectives]
    intro i directive line hentry hline
    rcases i with _ | _ | _ | _ | i
    · cases hline
      exact Or.inr ⟨rfl, rfl⟩
    · cases hentry
    · cases hline
      exact Or.inr ⟨rfl, rfl⟩
    · exact Or.inl rfl
    · cases hline
  refine ⟨rfl, rfl, hown, ?_⟩
  rw [into_own merge note rfl rfl hown]
  decide +kernel

/-! ## Merging again -/

/-- **A merge that is made again changes nothing.** This holds of a merge that adds nothing, if
among the entries with a directive line none is deleted, and each that is replaced is written as one
directive line with a label that is empty or of label lines only. -/
theorem into_into (merge : Merge) (note : String)
    (hcount : merge.replacements.length = merge.entries.length)
    (hadditions : merge.additions = [])
    (hkept : ∀ i < (directiveLines note).length, merge.deletes i = false)
    (h : ∀ i < (directiveLines note).length, ∀ (directive : Directive) (line : String),
      merge.entries[i]? = some (.managed directive) →
      merge.replacements[i]? = some (.replace line) → WritesDirective (merge.newLabel i) line) :
    ∃ out, merge.into note = .ok out ∧ merge.into out = .ok out := by
  rw [directiveLines_eq_map_directive, List.length_map] at hkept h
  have hwrites : ∀ i < (Layout.ofLines (Text.splitLines note)).blocks.length, ∀ {lines},
      merge.newBlock? i = some lines →
      ∃ line, WritesDirective (merge.newLabel i) line ∧
        lines = labelLines (merge.newLabel i) ++ lineIfAny line := by
    intro i hi lines hnew
    rcases newBlock?_cases hnew with ⟨hdeletes, _⟩ | ⟨directive, line, hentry, hreplace, hlines⟩
    · rw [hkept i hi] at hdeletes
      cases hdeletes
    · exact ⟨line, h i hi directive line hentry hreplace, hlines⟩
  have hagain : rewriteLines merge.newBlock? 0
      (rewriteLines merge.newBlock? 0 (Text.splitLines note)) =
        rewriteLines merge.newBlock? 0 (Text.splitLines note) := by
    refine rewriteLines_rewriteLines_self fun i hi lines hnew => ?_
    obtain ⟨line, hline, rfl⟩ := hwrites i hi hnew
    exact hline.isLabelledDirective
  -- only the blocks that there are count, and what is written for them are single lines
  have hfeeds : ∀ l ∈ rewriteLines merge.newBlock? 0 (Text.splitLines note), '\n' ∉ l.toList := by
    have hsame : rewriteLines merge.newBlock? 0 (Text.splitLines note) =
        rewriteLines (fun i => if i < (Layout.ofLines (Text.splitLines note)).blocks.length then
          merge.newBlock? i else none) 0 (Text.splitLines note) :=
      rewriteLines_congr fun i hi => (if_pos hi).symm
    rw [hsame]
    refine not_mem_rewriteBlocks (fun i lines hnew => ?_)
      (fun _ hl => Text.not_mem_of_mem_splitLines hl) 0
    split at hnew
    next hi =>
      obtain ⟨line, hline, rfl⟩ := hwrites i hi hnew
      exact not_mem_label_line hline.not_mem_lineFeed
    next => cases hnew
  have htwice := into_eq_rewriteNote hcount hadditions (rewriteNote merge.newBlock? note)
  rw [rewriteNote_rewriteNote_of_lines hfeeds hagain] at htwice
  exact ⟨_, into_eq_rewriteNote hcount hadditions note, htwice⟩

/-- A label that grows above a line that could not be read, one that goes, and a block that is
kept, with an entry too many. -/
theorem into_into_mixed :
    let entry := Entry.managed (.ofTemplate (.goal ⟨.one⟩) none)
    let merge : Merge :=
      { entries := [entry, .unparsed "#template x" "", entry, entry, entry]
        labels := ["Food\nand more", "", "Trip", "\n"]
        replacements :=
          [.replace "#template 450", .delete, .replace "#goal 2 ", .keep, .replace "none"]
        additions := [] }
    let note := "\n#template 400\n\n\nRent\n#template x\nFun\n#goal 1\n#goal 3\n\nend\n"
    merge.replacements.length = merge.entries.length ∧ merge.additions = [] ∧
    (∀ i < (directiveLines note).length, merge.deletes i = false) ∧
    (∀ i < (directiveLines note).length, ∀ (directive : Directive) (line : String),
      merge.entries[i]? = some (.managed directive) →
      merge.replacements[i]? = some (.replace line) → WritesDirective (merge.newLabel i) line) ∧
    ∃ out, merge.into note = .ok out ∧ merge.into out = .ok out ∧
      out = "\nFood\nand more\n#template 450\n\n\nRent\n#template x\n#goal 2 \n#goal 3\n\nend" := by
  intro entry merge note
  have hcount : (directiveLines note).length = 4 := by decide +kernel
  have hkept : ∀ i < (directiveLines note).length, merge.deletes i = false := by
    rw [hcount]
    decide
  have hwrites : ∀ i < (directiveLines note).length, ∀ (directive : Directive) (line : String),
      merge.entries[i]? = some (.managed directive) →
      merge.replacements[i]? = some (.replace line) → WritesDirective (merge.newLabel i) line := by
    rw [hcount]
    intro i hi directive line hentry hreplace
    match i with
    | 0 =>
      cases hreplace
      exact ⟨by decide, by decide, by decide⟩
    | 1 => cases hentry
    | 2 =>
      cases hreplace
      exact ⟨by decide, by decide, by decide⟩
    | 3 => cases hreplace
    | i + 4 => exact absurd hi (by omega)
  obtain ⟨out, honce, htwice⟩ := into_into merge note rfl rfl hkept hwrites
  refine ⟨rfl, rfl, hkept, hwrites, out, honce, htwice, ?_⟩
  have hout : merge.into note =
      .ok "\nFood\nand more\n#template 450\n\n\nRent\n#template x\n#goal 2 \n#goal 3\n\nend" := by
    decide +kernel
  exact Except.ok.inj (honce.symm.trans hout)

end Merge

end BudgetNotes
