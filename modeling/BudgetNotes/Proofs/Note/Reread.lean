import BudgetNotes.Proofs.Note.Reading
import BudgetNotes.Proofs.Note.SingleLines

/-!
# What a merge writes is read back

A merged note has exactly the directives that the merge was to leave there,
each with its own label: those of blocks that stay, the new line and label of
those that are written anew, and the added ones after them. No label reaches
into a neighbour, because everything that is written between two directives
ends closed (`Proofs/Note/Reading`):

* the lines before a label end with a blank line or not at all,
* a block that stays or is written anew ends with its directive,
* a deleted block writes nothing, so the lines above it are as closed as they
  were,
* an addition starts below a blank line, or at the top.

For this the new texts must be what they are written as: one line that is a
directive, and a label of label lines only (`WritesDirective`).

Main statement: `labelledDirectives_into`.
-/

namespace BudgetNotes

/-! ## What is to be found -/

/-- A label and a line that are read as a directive with that label. -/
structure WritesDirective (label line : String) : Prop where
  not_mem_lineFeed : '\n' ∉ line.toList
  isDirective_line : isDirective line = true
  isLabelLine_of_mem : ∀ l ∈ labelLines label, isLabelLine l = true

namespace Merge

/-- The new label of the i-th entry; empty if there is none. -/
def newLabel (merge : Merge) (i : Nat) : String :=
  merge.labels[managedBefore merge.entries i]?.getD ""

/-- All that the merge writes anew are directives. -/
structure Readable (merge : Merge) : Prop where
  replaced : ∀ i directive line, merge.entries[i]? = some (.managed directive) →
    merge.replacements[i]? = some (.replace line) → WritesDirective (merge.newLabel i) line
  added : ∀ addition ∈ merge.additions, WritesDirective addition.label addition.line

/-- What becomes of the i-th directive and its label. -/
def newDirective? (merge : Merge) (i : Nat) (old : String × String) : Option (String × String) :=
  match merge.entries[i]?, merge.replacements[i]? with
  | some (.managed _), some .delete => none
  | some (.managed _), some (.replace line) => some (merge.newLabel i, line)
  | _, _ => some old

/-- The directives to be found in the merged note. -/
def expectedDirectives (merge : Merge) (note : String) : List (String × String) :=
  (labelledDirectives note).zipIdx.filterMap (fun (old, i) => merge.newDirective? i old) ++
    merge.additions.map fun addition => (addition.label, addition.line)

end Merge

/-! ## Blocks -/

/-- The directive of a block with its label. -/
def Block.labelled (block : Block) : String × String :=
  (Text.joinLines block.label, block.directive)

/-- The lines before a label have no directive and leave no run, so a block is read by itself. -/
theorem readDirectives_block {block : Block} (hw : block.WellFormed) {body : List String}
    (hbody : Closed body) (below : List String) :
    readDirectives [] (block.before ++ body ++ below) =
      readDirectives [] body ++ readDirectives [] below := by
  have hbefore : Closed block.before :=
    closed_of_getLast? fun l hl => not_isLabelLine_of_isBlank (hw.isBlank_getLast l hl)
  rw [List.append_assoc, readDirectives_append_of_closed hbefore,
    readDirectives_eq_nil [] hw.not_isDirective_of_mem, List.nil_append,
    readDirectives_append_of_closed hbody]

theorem closed_label_directive {block : Block} (hw : block.WellFormed) :
    Closed (block.label ++ [block.directive]) :=
  closed_concat block.label (not_isLabelLine_of_isDirective hw.isDirective_directive)

theorem readDirectives_toLines (blocks : List Block) (hw : ∀ block ∈ blocks, block.WellFormed)
    {rest : List String} (hrest : ∀ l ∈ rest, isDirective l = false) :
    readDirectives [] (blocks.flatMap Block.toLines ++ rest) =
      blocks.map fun block => (block.label, block.directive) := by
  induction blocks with
  | nil => exact readDirectives_eq_nil [] hrest
  | cons block blocks ih =>
    have hblock := hw block (List.mem_cons_self ..)
    have hlines : (block :: blocks).flatMap Block.toLines ++ rest =
        block.before ++ (block.label ++ [block.directive]) ++
          (blocks.flatMap Block.toLines ++ rest) := by
      simp [Block.toLines]
    rw [hlines, readDirectives_block hblock (closed_label_directive hblock),
      readDirectives_label_directive hblock.isLabelLine_of_mem hblock.isDirective_directive,
      ih fun b hb => hw b (List.mem_cons_of_mem _ hb)]
    rfl

/-- A note's directives are those of its blocks. -/
theorem labelledDirectives_eq_map_labelled (note : String) :
    labelledDirectives note =
      (Layout.ofLines (Text.splitLines note)).blocks.map Block.labelled := by
  have hread := readDirectives_toLines (Layout.ofLines (Text.splitLines note)).blocks
    (Layout.ofLines_wellFormed (Text.splitLines note))
    (Layout.not_isDirective_of_mem_rest (Text.splitLines note))
  rw [Layout.blocks_append_rest] at hread
  rw [labelledDirectives_eq_readDirectives, hread, List.map_map]
  rfl

/-! ## What is written anew -/

theorem WritesDirective.lineIfAny_eq {label line : String} (h : WritesDirective label line) :
    lineIfAny line = [line] :=
  lineIfAny_of_not_isBlank (not_isBlank_of_isDirective h.isDirective_line)

/-- A label and a directive that are written below closed lines are read as such. -/
theorem WritesDirective.readDirectives_eq {label line : String} (h : WritesDirective label line) :
    readDirectives [] (labelLines label ++ lineIfAny line) = [(labelLines label, line)] := by
  rw [h.lineIfAny_eq]
  exact readDirectives_label_directive h.isLabelLine_of_mem h.isDirective_line

theorem WritesDirective.closed {label line : String} (h : WritesDirective label line) :
    Closed (labelLines label ++ lineIfAny line) := by
  rw [h.lineIfAny_eq]
  exact closed_concat _ (not_isLabelLine_of_isDirective h.isDirective_line)

namespace Merge

/-- One block: its new lines are closed, and what is read in them is what the merge makes of its
directive. -/
theorem Readable.block {merge : Merge} (h : merge.Readable) {block : Block} (hw : block.WellFormed)
    (i : Nat) :
    Closed ((merge.newBlock? i).getD (block.label ++ [block.directive])) ∧
      (readDirectives [] ((merge.newBlock? i).getD (block.label ++ [block.directive]))).map
          (Prod.map Text.joinLines id) =
        (merge.newDirective? i block.labelled).toList := by
  have kept : Closed (block.label ++ [block.directive]) ∧
      (readDirectives [] (block.label ++ [block.directive])).map (Prod.map Text.joinLines id) =
        [block.labelled] := by
    refine ⟨closed_label_directive hw, ?_⟩
    rw [readDirectives_label_directive hw.isLabelLine_of_mem hw.isDirective_directive]
    rfl
  unfold newBlock? newDirective?
  cases he : merge.entries[i]? with
  | none => exact kept
  | some entry =>
    cases entry with
    | unparsed line error => exact kept
    | managed directive =>
      cases hr : merge.replacements[i]? with
      | none => exact kept
      | some replacement =>
        cases replacement with
        | keep => exact kept
        -- the lines that are left are those before the label, which are closed
        | delete => exact ⟨closed_nil, rfl⟩
        | replace line =>
          have hwrites := h.replaced i directive line he hr
          show Closed (Option.getD (some _) _) ∧ _
          rw [Option.getD_some, labelLines_getD]
          refine ⟨hwrites.closed, ?_⟩
          rw [show merge.labels[managedBefore merge.entries i]?.getD "" = merge.newLabel i from rfl,
            hwrites.readDirectives_eq, List.map_singleton, Prod.map_apply, joinLines_labelLines]
          rfl

/-- All blocks from number `i` on. -/
theorem Readable.rewriteBlocks {merge : Merge} (h : merge.Readable) (blocks : List Block)
    (hw : ∀ block ∈ blocks, block.WellFormed) {rest : List String}
    (hrest : ∀ l ∈ rest, isDirective l = false) (i : Nat) :
    (readDirectives [] (rewriteBlocks merge.newBlock? i blocks ++ rest)).map
        (Prod.map Text.joinLines id) =
      ((blocks.map Block.labelled).zipIdx i).filterMap
        (fun (old, k) => merge.newDirective? k old) := by
  induction blocks generalizing i with
  | nil =>
    rw [BudgetNotes.rewriteBlocks, List.nil_append, readDirectives_eq_nil [] hrest]
    rfl
  | cons block blocks ih =>
    have hblock := hw block (List.mem_cons_self ..)
    obtain ⟨hclosed, hread⟩ := h.block hblock i
    rw [BudgetNotes.rewriteBlocks, List.append_assoc, readDirectives_block hblock hclosed,
      List.map_append, hread, ih (fun b hb => hw b (List.mem_cons_of_mem _ hb)), List.map_cons,
      List.zipIdx_cons]
    cases hnew : merge.newDirective? i block.labelled with
    | none => simp [hnew]
    | some directive => simp [hnew]

end Merge

/-! ## Additions -/

theorem readDirectives_spaceOut {groups : List (List String)} (h : ∀ group ∈ groups, Closed group) :
    readDirectives [] (spaceOut groups) = groups.flatMap (readDirectives []) := by
  induction groups with
  | nil => rfl
  | cons group groups ih =>
    have hgroup := h group (List.mem_cons_self ..)
    cases groups with
    | nil => simp [spaceOut]
    | cons next groups =>
      have hrest := ih fun g hg => h g (List.mem_cons_of_mem _ hg)
      have hempty : readDirectives [] ("" :: spaceOut (next :: groups)) =
          readDirectives [] (spaceOut (next :: groups)) :=
        readDirectives_append_of_closed (closed_concat [] (by decide)) _
      rw [spaceOut, readDirectives_append_of_closed hgroup, hempty, hrest]
      · rfl
      · simp

/-- Every added template is found below what the lines have, with its own label: what it is written
below is nothing, a blank line, or the empty line that is put there. -/
theorem readDirectives_appendAdditions (lines : List String) {additions : List Addition}
    (h : ∀ addition ∈ additions, WritesDirective addition.label addition.line) :
    readDirectives [] (appendAdditions lines additions) =
      readDirectives [] lines ++ additions.map fun a => (labelLines a.label, a.line) := by
  have hgroups : (additions.map Addition.toLines).filter (!·.isEmpty) =
      additions.map Addition.toLines := by
    rw [List.filter_eq_self]
    intro group hgroup
    obtain ⟨addition, hmem, rfl⟩ := List.mem_map.mp hgroup
    unfold Addition.toLines
    rw [(h addition hmem).lineIfAny_eq]
    simp
  -- each group ends with its directive, so the next is read by itself
  have hclosed : ∀ group ∈ additions.map Addition.toLines, Closed group := by
    intro group hgroup
    obtain ⟨addition, hmem, rfl⟩ := List.mem_map.mp hgroup
    exact (h addition hmem).closed
  have hread : (additions.map Addition.toLines).flatMap (readDirectives []) =
      additions.map fun a => (labelLines a.label, a.line) := by
    rw [List.flatMap_map, List.map_eq_flatMap]
    exact List.flatMap_congr fun addition hmem => (h addition hmem).readDirectives_eq
  unfold appendAdditions
  rw [hgroups]
  cases additions with
  | nil => simp
  | cons addition additions =>
    show readDirectives []
      (lines ++ _ ++ spaceOut ((addition :: additions).map Addition.toLines)) = _
    -- the lines may end with text of no directive; the gap keeps it off the first label
    have hgap : Closed (lines ++ if lines.getLast?.any (!Text.isBlank ·) then [""] else []) ∧
        readDirectives [] (lines ++ if lines.getLast?.any (!Text.isBlank ·) then [""] else []) =
          readDirectives [] lines := by
      split
      next =>
        refine ⟨closed_concat lines (by decide), ?_⟩
        have hempty : ∀ run, readDirectives run [""] = [] :=
          fun run => readDirectives_eq_nil run (by decide)
        rw [readDirectives_append, hempty, List.append_nil]
      next hlast =>
        rw [List.append_nil]
        refine ⟨closed_of_getLast? fun l hl => ?_, rfl⟩
        rw [hl, Option.any_some, Bool.not_eq_true, Bool.not_eq_false'] at hlast
        exact not_isLabelLine_of_isBlank hlast
    rw [readDirectives_append_of_closed hgap.1, hgap.2, readDirectives_spaceOut hclosed, hread]

namespace Merge

/-- What is read back is written as single lines. -/
theorem Readable.singleLines {merge : Merge} (h : merge.Readable) : merge.SingleLines :=
  ⟨fun i directive line he hr => (h.replaced i directive line he hr).not_mem_lineFeed,
    fun addition hmem => (h.added addition hmem).not_mem_lineFeed⟩

/-! ## The whole merge -/

/-- Without entries the merge makes nothing of a directive. -/
theorem filterMap_newDirective?_of_no_entries {merge : Merge} (h : merge.entries = [])
    (olds : List (String × String)) :
    olds.zipIdx.filterMap (fun (old, i) => merge.newDirective? i old) = olds := by
  have hkept : (fun pair : (String × String) × Nat => merge.newDirective? pair.2 pair.1) =
      some ∘ Prod.fst := by
    funext pair
    unfold newDirective?
    rw [h]
    rfl
  show olds.zipIdx.filterMap (fun pair => merge.newDirective? pair.2 pair.1) = olds
  rw [hkept, List.filterMap_eq_map, List.zipIdx_map_fst]

/-- What is read in those lines is what the merge makes of the note's directives. -/
theorem Readable.readDirectives_bodyLines {merge : Merge} (h : merge.Readable) (note : String) :
    trimDirectives ((readDirectives [] (merge.bodyLines note)).map (Prod.map Text.joinLines id)) =
      trimDirectives ((labelledDirectives note).zipIdx.filterMap
        fun (old, i) => merge.newDirective? i old) := by
  unfold Merge.bodyLines
  split
  next he =>
    have hplain : readDirectives [] (plainLines note) =
        readDirectives [] (Text.splitLines (Text.trimEnd note)) := by
      unfold plainLines labelLines
      split
      next hempty =>
        rw [String.isEmpty_iff.mp hempty]
        decide
      next => rfl
    have hnofeed : ∀ l ∈ Text.splitLines note, '\n' ∉ l.toList :=
      fun l hl => Text.not_mem_of_mem_splitLines hl
    have hread := readDirectives_trimEnd_joinLines hnofeed
    rw [Text.joinLines_splitLines] at hread
    rw [filterMap_newDirective?_of_no_entries (List.isEmpty_iff.mp he), hplain,
      labelledDirectives_eq_readDirectives, trimDirectives_map, hread, trimDirectives_map]
  next =>
    have hread := h.rewriteBlocks (Layout.ofLines (Text.splitLines note)).blocks
      (Layout.ofLines_wellFormed (Text.splitLines note))
      (Layout.not_isDirective_of_mem_rest (Text.splitLines note)) 0
    rw [← merge.mergeFrom_directivePositions] at hread
    rw [labelledDirectives_eq_map_labelled, ← hread]
    unfold mergeLines
    split
    next => rw [readDirectives_dropWhile_isBlank]
    next => rfl

/-- **What a merge writes is read back.** In the merged note are the directives that the merge was
to leave there, in order and each with its own label; at most white space at the end of a line is
gone. -/
theorem labelledDirectives_into (merge : Merge) (note : String)
    (hcount : merge.replacements.length = merge.entries.length) (h : merge.Readable) :
    ∃ out, merge.into note = .ok out ∧
      trimDirectives (labelledDirectives out) = trimDirectives (merge.expectedDirectives note) := by
  refine ⟨_, by rw [into, if_pos hcount], ?_⟩
  -- without line feeds in them, the lines that were joined are the lines that are read
  have hnofeed := h.singleLines.not_mem_written note
  have hadded : trimDirectives ((merge.additions.map fun a => (labelLines a.label, a.line)).map
      (Prod.map Text.joinLines id)) =
        trimDirectives (merge.additions.map fun a => (a.label, a.line)) := by
    rw [List.map_map]
    congr 2
    funext a
    show (Text.joinLines (labelLines a.label), a.line) = (a.label, a.line)
    rw [joinLines_labelLines]
  rw [labelledDirectives_eq_readDirectives, trimDirectives_map,
    readDirectives_trimEnd_joinLines hnofeed, readDirectives_appendAdditions _ h.added,
    ← trimDirectives_map, List.map_append, trimDirectives_append, h.readDirectives_bodyLines,
    hadded, ← trimDirectives_append]
  rfl

/-- A block that changes, one that goes and one that stays, with a template added. -/
theorem labelledDirectives_into_mixed :
    let entry := Entry.managed (.ofTemplate (.goal ⟨.one⟩) none)
    let merge : Merge :=
      { entries := [entry, entry]
        labels := ["Food", "Fun"]
        replacements := [.replace "#template 450", .delete]
        additions := [⟨"Trip", "#goal 2000"⟩] }
    let note := "Groceries\n#template 400\n\nFun\n#template 50\nRent\n#template 900"
    merge.replacements.length = merge.entries.length ∧ merge.Readable ∧
    ∃ out, merge.into note = .ok out ∧ trimDirectives (labelledDirectives out) =
      [("Food", "#template 450"), ("Rent", "#template 900"), ("Trip", "#goal 2000")] := by
  intro entry merge note
  have hreadable : merge.Readable := by
    constructor
    · intro i directive line _ hr
      match i with
      | 0 =>
        cases hr
        exact ⟨by decide, by decide, by decide⟩
      | 1 => cases hr
      | i + 2 => cases hr
    · intro addition hmem
      rw [List.mem_singleton.mp hmem]
      exact ⟨by decide, by decide, by decide⟩
  refine ⟨rfl, hreadable, ?_⟩
  have hexpected : trimDirectives (merge.expectedDirectives note) =
      [("Food", "#template 450"), ("Rent", "#template 900"), ("Trip", "#goal 2000")] := by
    decide +kernel
  rw [← hexpected]
  exact labelledDirectives_into merge note rfl hreadable

end Merge

end BudgetNotes
