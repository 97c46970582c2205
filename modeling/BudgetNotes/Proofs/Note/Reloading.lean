import BudgetNotes.Proofs.Note.Loading
import BudgetNotes.Proofs.Note.Outline

/-!
# Applying drafts that were not changed

Drafts that are loaded from a note and written back as they are, with the
note's own directive lines for the rendered ones, leave the note as it was but
for the edges of its labels: the label above the directive line of a managed
entry is trimmed when it is written (`Layout.tidied`).

A note that starts with text still does, so no line is dropped at the top; and
as nothing else is dropped at the end than would be without the drafts, the
rest is the note.

Main statement: `WriteBack.finish_draftsOf`.
-/

namespace BudgetNotes

/-! ## Tidy labels -/

/-- A block with its label as it is written. -/
def Block.tidied (block : Block) : Block := { block with label := tidyLabel block.label }

/-- The layout with the labels of managed entries as they are written, and all else as it is. -/
def Layout.tidied (stored : List Entry) (layout : Layout) : Layout :=
  { layout with
    blocks := layout.blocks.zipIdx.map fun (block, i) =>
      if stored[i]?.any Entry.isManaged then block.tidied else block }

/-- The lines of blocks with some of them changed, position by position. -/
theorem rewriteBlocks_eq_flatMap_zipIdx (new : Nat → Option (List String)) (i : Nat)
    (blocks : List Block) :
    rewriteBlocks new i blocks =
      (blocks.zipIdx i).flatMap fun (block, k) =>
        block.before ++ (new k).getD (block.label ++ [block.directive]) := by
  induction blocks generalizing i with
  | nil => rfl
  | cons block blocks ih => rw [rewriteBlocks, ih, List.zipIdx_cons, List.flatMap_cons]

/-! ## Text at the top -/

theorem startsWithText_append {lines : List String} (h : lines ≠ []) (below : List String) :
    startsWithText (lines ++ below) = startsWithText lines := by
  obtain ⟨line, rest, rfl⟩ := List.exists_cons_of_ne_nil h
  rfl

theorem startsWithText_of_text {lines : List String} (hne : lines ≠ [])
    (h : ∀ l ∈ lines, Text.isBlank l = false) : startsWithText lines = true := by
  obtain ⟨line, rest, rfl⟩ := List.exists_cons_of_ne_nil hne
  unfold startsWithText
  rw [List.head?_cons, Option.any_some, h line (List.mem_cons_self ..)]
  rfl

theorem Block.toLines_ne_nil (block : Block) : block.toLines ≠ [] :=
  List.append_ne_nil_of_right_ne_nil _ (List.cons_ne_nil _ _)

/-- A block that starts with text still does with its label tidied. -/
theorem Block.startsWithText_tidied {block : Block} (hw : block.WellFormed)
    (h : startsWithText block.toLines = true) : startsWithText block.tidied.toLines = true := by
  obtain ⟨before, label, directive⟩ := block
  cases before with
  | cons line before => exact h
  | nil =>
    -- then a line of the label or the directive is at the top, and has text
    have htext : ∀ l ∈ tidyLabel label, Text.isBlank l = false :=
      not_isBlank_of_mem_tidyLabel fun l hl =>
        not_isBlank_of_isLabelLine (hw.isLabelLine_of_mem l hl)
    refine startsWithText_of_text (toLines_ne_nil _) fun l hl => ?_
    rcases List.mem_append.mp hl with hl | hl
    · exact htext l hl
    · rw [List.mem_singleton.mp hl]
      exact not_isBlank_of_isDirective hw.isDirective_directive

/-- A note that starts with text still does. -/
theorem Layout.startsWithText_tidied {lines : List String} (stored : List Entry)
    (h : startsWithText lines = true) :
    startsWithText ((ofLines lines).tidied stored).toLines = true := by
  have hlines := blocks_append_rest lines
  unfold toLines tidied
  cases hblocks : (ofLines lines).blocks with
  | nil =>
    rw [hblocks, List.flatMap_nil, List.nil_append] at hlines
    show startsWithText (ofLines lines).rest = true
    rw [hlines]
    exact h
  | cons block blocks =>
    have hw := ofLines_wellFormed lines block (by rw [hblocks]; exact List.mem_cons_self ..)
    rw [hblocks, List.flatMap_cons, List.append_assoc] at hlines
    rw [← hlines, startsWithText_append block.toLines_ne_nil] at h
    rw [List.zipIdx_cons, List.map_cons, List.flatMap_cons, List.append_assoc,
      startsWithText_append (Block.toLines_ne_nil _)]
    simp only
    split
    next => exact Block.startsWithText_tidied hw h
    next => exact h

theorem trimTop_tidied (lines : List String) (stored : List Entry) :
    trimTop lines ((Layout.ofLines lines).tidied stored).toLines =
      ((Layout.ofLines lines).tidied stored).toLines := by
  cases hlines : startsWithText lines with
  | false =>
    unfold trimTop
    rw [hlines, if_neg Bool.false_ne_true]
  | true =>
    have hself := trimTop_self ((Layout.ofLines lines).tidied stored).toLines
    unfold trimTop at hself ⊢
    rw [Layout.startsWithText_tidied stored hlines] at hself
    rw [hlines]
    exact hself

/-! ## The plan of loaded drafts -/

/-- Without entries all labels stay. -/
theorem Layout.tidied_nil (layout : Layout) : layout.tidied [] = layout := by
  obtain ⟨blocks, rest⟩ := layout
  unfold tidied
  congr 1
  exact List.zipIdx_map_fst 0 blocks

section

variable {newId : Nat → String} {note : String} {stored : List Entry} {plan : WriteBack}
  (h : WriteBack.plan (draftsOf newId note stored) stored = .ok plan) {rendered : String}
  (hlines : ∀ i line, stored[i]?.any Entry.isManaged = true →
    (directiveLines note)[i]? = some line →
    (Text.splitLines rendered)[managedBefore stored i]? = some line)
include h hlines

/-- A block is written as it was, or with its label tidied. -/
theorem getD_writtenBlock?_draftsOf {i : Nat} {block : Block}
    (hblock : (Layout.ofLines (Text.splitLines note)).blocks[i]? = some block) :
    block.before ++ (writtenBlock? (draftsOf newId note stored) stored rendered i).getD
        (block.label ++ [block.directive]) =
      (if stored[i]?.any Entry.isManaged then block.tidied else block).toLines := by
  have hmem := List.mem_of_getElem? hblock
  have hw := Layout.ofLines_wellFormed (Text.splitLines note) block hmem
  obtain ⟨htext, hfeeds⟩ := label_spec hmem
  have hown : (directiveLines note)[i]? = some block.directive := by
    rw [directiveLines_eq_map_directive, List.getElem?_map, hblock, Option.map_some]
  cases hmanaged : stored[i]?.any Entry.isManaged with
  | false =>
    rw [writtenBlock?_of_unmanaged hmanaged, if_neg Bool.false_ne_true, Option.getD_none,
      Block.toLines, List.append_assoc]
  | true =>
    obtain ⟨d, hentry⟩ := exists_managed_of_any hmanaged
    rw [writtenBlock?_draftsOf h hentry, hlines i block.directive hmanaged hown, Option.getD_some,
      Option.getD_some,
      lineIfAny_of_not_isBlank (not_isBlank_of_isDirective hw.isDirective_directive),
      foundLabel_eq, hblock, Option.map_some, Option.getD_some,
      labelLines_trimLabel_joinLines htext hfeeds, if_pos rfl, Block.toLines, List.append_assoc]
    rfl

/-- All lines are written as they were, but for the edges of labels. -/
theorem bodyLines_draftsOf (hstored : stored ≠ []) :
    (addressedMerge (draftsOf newId note stored) stored rendered).bodyLines note =
      ((Layout.ofLines (Text.splitLines note)).tidied stored).toLines := by
  have hnew : (addressedMerge (draftsOf newId note stored) stored rendered).newBlock? =
      writtenBlock? (draftsOf newId note stored) stored rendered :=
    funext fun i => newBlock?_addressedMerge _ stored rendered i
  have hblocks :
      rewriteBlocks (writtenBlock? (draftsOf newId note stored) stored rendered) 0
        (Layout.ofLines (Text.splitLines note)).blocks ++
        (Layout.ofLines (Text.splitLines note)).rest =
      ((Layout.ofLines (Text.splitLines note)).tidied stored).toLines := by
    unfold Layout.toLines Layout.tidied
    rw [rewriteBlocks_eq_flatMap_zipIdx, List.flatMap_map]
    congr 1
    refine List.flatMap_congr fun a ha => ?_
    exact getD_writtenBlock?_draftsOf h hlines (List.mem_zipIdx_iff_getElem?.mp ha)
  rw [Merge.bodyLines_of_entries hstored, hnew, hblocks, trimTop_tidied]

end

/-- **Drafts that were not changed change label edges alone.** Drafts that were loaded from a note
are refused for a field of theirs or not at all, never for where they point to or for a blank line
in a label. If they are not, and the note's own directive lines come back for the managed entries,
the note is written as it was, with the labels of these entries tidied: that is what trimming a
label comes to. Lines for entries that the note has no directive line for may be any. -/
theorem WriteBack.finish_draftsOf (newId : Nat → String) (note : String) (stored : List Entry) :
    (∀ e, WriteBack.plan (draftsOf newId note stored) stored = .error e →
      ∃ problems, e = .invalid problems ∧ ∀ p ∈ problems, p.problem ≠ .blankLineInLabel) ∧
    (∀ block ∈ (Layout.ofLines (Text.splitLines note)).blocks,
      trimLabel (Text.joinLines block.label) = Text.joinLines (tidyLabel block.label)) ∧
    ∀ plan, WriteBack.plan (draftsOf newId note stored) stored = .ok plan → ∀ rendered,
      (∀ i line, stored[i]?.any Entry.isManaged = true → (directiveLines note)[i]? = some line →
        (Text.splitLines rendered)[managedBefore stored i]? = some line) →
      plan.finish note rendered = .ok (Text.trimEnd (Text.joinLines
        ((Layout.ofLines (Text.splitLines note)).tidied stored).toLines)) := by
  refine ⟨fun e he => exists_invalid_of_draftsOf he, fun block hblock => ?_,
    fun plan h rendered hlines => ?_⟩
  · obtain ⟨htext, hfeeds⟩ := label_spec hblock
    exact trimLabel_joinLines htext hfeeds
  · have hadded : (addressedMerge (draftsOf newId note stored) stored rendered).additions = [] := by
      show (unclaimed (draftsOf newId note stored)).map _ = []
      rw [unclaimed_draftsOf, List.map_nil]
    rw [finish_eq_ok h, hadded]
    show Except.ok (Text.trimEnd (Text.joinLines
      ((addressedMerge (draftsOf newId note stored) stored rendered).bodyLines note))) = _
    by_cases hstored : stored = []
    · have hentries : (addressedMerge (draftsOf newId note stored) stored rendered).entries = [] :=
        hstored
      rw [Merge.bodyLines_of_no_entries hentries, plainLines, joinLines_labelLines,
        Text.trimEnd_idem, hstored, Layout.tidied_nil, Layout.toLines_ofLines,
        Text.joinLines_splitLines]
    · rw [bodyLines_draftsOf h hlines hstored]

/-- A label with white space at both edges, above the line of a managed entry; an entry that could
not be read, and one without a directive line. -/
theorem WriteBack.finish_draftsOf_mixed :
    let entry := Entry.managed (.ofTemplate (.goal ⟨.one⟩) none)
    let stored := [entry, .unparsed "#template x" "", entry]
    let note := "\rFood \n#goal 1\nRent \n#template x\n"
    let drafts := draftsOf (fun _ => "") note stored
    let rendered := "#goal 1\nsurplus"
    ∃ plan, WriteBack.plan drafts stored = .ok plan ∧
      (∀ i line, stored[i]?.any Entry.isManaged = true → (directiveLines note)[i]? = some line →
        (Text.splitLines rendered)[managedBefore stored i]? = some line) ∧
      plan.finish note rendered = .ok "Food\n#goal 1\nRent \n#template x" := by
  intro entry stored note drafts rendered
  have hok : (WriteBack.plan drafts stored).isOk = true := by decide +kernel
  obtain ⟨plan, hplan⟩ := exists_of_isOk hok
  have hdirectives : directiveLines note = ["#goal 1", "#template x"] := by decide +kernel
  have hlines : ∀ i line, stored[i]?.any Entry.isManaged = true →
      (directiveLines note)[i]? = some line →
      (Text.splitLines rendered)[managedBefore stored i]? = some line := by
    rw [hdirectives]
    intro i line hmanaged hline
    match i with
    | 0 =>
      cases hline
      decide +kernel
    | 1 => cases hmanaged
    | i + 2 => cases hline
  refine ⟨plan, hplan, hlines, ?_⟩
  rw [(finish_draftsOf (fun _ => "") note stored).2.2 plan hplan rendered hlines]
  decide +kernel

end BudgetNotes
