import BudgetNotes.Note.Merge
import BudgetNotes.Proofs.Note.Positions

/-!
# A merge, block by block

The merge walks over line positions with a cursor. Seen from the layout it
does something simpler: it goes through the blocks, and the block with number
i keeps its lines or gets `newBlock? i` in the place of label and directive.
What stands between blocks, and below the last, is not looked at.

> `mergeFrom_eq_rewriteBlocks`: the walk from any block on writes what the
> blocks from there on become.

The invariant of the walk: the cursor stands at the first line of a block, the
number of that block is the number of entries used up, and the labels used up
are those of the managed entries among them.

Main statements: `mergeFrom_eq_rewriteBlocks`, `mergeFrom_directivePositions`
and `bodyLines_of_entries`.
-/

namespace BudgetNotes

/-! ## What a merge does to one block -/

/-- The lines of a label join to the label. -/
theorem joinLines_labelLines (label : String) : Text.joinLines (labelLines label) = label := by
  unfold labelLines
  split
  next h =>
    rw [String.isEmpty_iff] at h
    rw [h]
    rfl
  next => exact Text.joinLines_splitLines label

/-- The number of managed entries before the i-th, which is the number of its label. -/
def managedBefore (entries : List Entry) (i : Nat) : Nat :=
  (entries.take i).countP Entry.isManaged

theorem exists_managed_of_any {entry : Option Entry} (h : entry.any Entry.isManaged = true) :
    ∃ directive, entry = some (.managed directive) := by
  obtain ⟨entry, rfl, hmanaged⟩ := (Option.any_eq_true ..).mp h
  cases entry with
  | unparsed line error => cases hmanaged
  | managed directive => exact ⟨directive, rfl⟩

/-- What is written in the place of the i-th label and directive; nothing if they stay. -/
def Merge.newBlock? (merge : Merge) (i : Nat) : Option (List String) :=
  match merge.entries[i]?, merge.replacements[i]? with
  | some (.managed _), some .delete => some []
  | some (.managed _), some (.replace line) =>
    some ((merge.labels[managedBefore merge.entries i]?.map labelLines).getD [] ++ lineIfAny line)
  | _, _ => none

/-- An entry past the i-th counts the i-th if it is managed. -/
theorem managedBefore_succ {entries : List Entry} {i : Nat} {entry : Entry}
    (h : entries[i]? = some entry) :
    managedBefore entries (i + 1) =
      if entry.isManaged then managedBefore entries i + 1 else managedBefore entries i := by
  unfold managedBefore
  rw [List.take_add_one, h, List.countP_append, Option.toList_some, List.countP_singleton]
  split <;> rfl

/-- No block without an entry changes. -/
theorem Merge.newBlock?_eq_none (merge : Merge) {i : Nat}
    (h : (merge.entries.zip merge.replacements)[i]? = none) : merge.newBlock? i = none := by
  have hlen := List.getElem?_eq_none_iff.mp h
  rw [List.length_zip] at hlen
  unfold newBlock?
  rcases Nat.le_total merge.entries.length merge.replacements.length with hle | hle
  · rw [List.getElem?_eq_none_iff.mpr (by omega : merge.entries.length ≤ i)]
  · rw [List.getElem?_eq_none_iff.mpr (by omega : merge.replacements.length ≤ i)]
    split
    next hr => cases hr
    next hr => cases hr
    next => rfl

theorem Merge.newBlock?_of_no_entries {merge : Merge} (h : merge.entries = []) (i : Nat) :
    merge.newBlock? i = none :=
  merge.newBlock?_eq_none (by rw [h, List.zip_nil_left, List.getElem?_nil])

/-- Replacing a block writes its new lines, or keeps it. -/
theorem Merge.replaceBlock_eq (merge : Merge) {i : Nat} {entry : Entry} {replacement : Replacement}
    (h : (merge.entries.zip merge.replacements)[i]? = some (entry, replacement))
    (kept : List String) :
    replaceBlock kept entry merge.labels[managedBefore merge.entries i]? replacement =
      (merge.newBlock? i).getD kept := by
  obtain ⟨he, hr⟩ := List.getElem?_zip_eq_some.mp h
  unfold newBlock?
  rw [he, hr]
  cases entry <;> cases replacement <;> rfl

/-! ## What it does to all of them -/

/-- The lines of blocks, the first with number `i`, where `new` says what becomes of each. -/
def rewriteBlocks (new : Nat → Option (List String)) (i : Nat) : List Block → List String
  | [] => []
  | block :: blocks =>
    block.before ++ (new i).getD (block.label ++ [block.directive]) ++
      rewriteBlocks new (i + 1) blocks

/-- Blocks that do not change keep their lines. -/
theorem rewriteBlocks_eq_toLines {new : Nat → Option (List String)} {i : Nat} (blocks : List Block)
    (h : ∀ k, i ≤ k → k < i + blocks.length → new k = none) :
    rewriteBlocks new i blocks = blocks.flatMap Block.toLines := by
  induction blocks generalizing i with
  | nil => rfl
  | cons block blocks ih =>
    rw [List.length_cons] at h
    rw [rewriteBlocks, h i (Nat.le_refl i) (by omega), ih fun k h1 h2 => h k (by omega) (by omega),
      List.flatMap_cons]
    simp [Block.toLines]

/-- Only what becomes of the blocks that there are matters, by whatever numbers. -/
theorem rewriteBlocks_congr {new new' : Nat → Option (List String)} {i i' : Nat}
    (blocks : List Block) (h : ∀ j < blocks.length, new (i + j) = new' (i' + j)) :
    rewriteBlocks new i blocks = rewriteBlocks new' i' blocks := by
  induction blocks generalizing i i' with
  | nil => rfl
  | cons block blocks ih =>
    rw [List.length_cons] at h
    have hfirst : new i = new' i' := h 0 (Nat.succ_pos _)
    have hrest : ∀ j < blocks.length, new (i + 1 + j) = new' (i' + 1 + j) := by
      intro j hj
      have hnext := h (j + 1) (by omega)
      rwa [← Nat.add_assoc, ← Nat.add_assoc, Nat.add_right_comm, Nat.add_right_comm i'] at hnext
    rw [rewriteBlocks, rewriteBlocks, hfirst, ih hrest]

theorem rewriteBlocks_append (new : Nat → Option (List String)) (i : Nat)
    (above below : List Block) :
    rewriteBlocks new i (above ++ below) =
      rewriteBlocks new i above ++ rewriteBlocks new (i + above.length) below := by
  induction above generalizing i with
  | nil => rfl
  | cons block above ih =>
    have hlen : i + 1 + above.length = i + (block :: above).length := by
      rw [List.length_cons]
      omega
    rw [List.cons_append, rewriteBlocks, rewriteBlocks, ih, hlen]
    simp only [List.append_assoc]

/-- The walk over the blocks from number `i` on, with `above` already written or passed over. -/
theorem Merge.mergeFrom_eq_rewriteBlocks (merge : Merge) (blocks : List Block)
    (hw : ∀ block ∈ blocks, block.WellFormed) {rest : List String}
    (hrest : ∀ l ∈ rest, isDirective l = false) (above : List String) (i : Nat) :
    mergeFrom (above ++ (blocks.flatMap Block.toLines ++ rest)) merge.labels above.length
        (managedBefore merge.entries i)
        ((directivePositionsFrom above.length (blocks.flatMap Block.toLines ++ rest)).zip
          ((merge.entries.zip merge.replacements).drop i)) =
      rewriteBlocks merge.newBlock? i blocks ++ rest := by
  induction blocks generalizing above i with
  | nil =>
    rw [List.flatMap_nil, List.nil_append, directivePositionsFrom_eq_nil _ hrest, List.zip_nil_left,
      mergeFrom, List.drop_left]
    rfl
  | cons block blocks ih =>
    have hblock := hw block (List.mem_cons_self ..)
    have hblocks : ∀ b ∈ blocks, b.WellFormed := fun b hb => hw b (List.mem_cons_of_mem _ hb)
    cases hi : (merge.entries.zip merge.replacements)[i]? with
    | none =>
      -- the entries are used up: this block and all below it are copied
      have hlen := List.getElem?_eq_none_iff.mp hi
      rw [List.drop_eq_nil_of_le hlen, List.zip_nil_right, mergeFrom, List.drop_left,
        rewriteBlocks_eq_toLines]
      intro k hk _
      exact merge.newBlock?_eq_none (List.getElem?_eq_none_iff.mpr (by omega))
    | some pair =>
      obtain ⟨entry, replacement⟩ := pair
      have hentry := (List.getElem?_zip_eq_some.mp hi).1
      have hdrop : (merge.entries.zip merge.replacements).drop i =
          (entry, replacement) :: (merge.entries.zip merge.replacements).drop (i + 1) := by
        obtain ⟨hlt, hget⟩ := List.getElem?_eq_some_iff.mp hi
        rw [List.drop_eq_getElem_cons hlt, hget]
      have hnext : above.length + block.before.length + block.label.length + 1 =
          (above ++ block.toLines).length := by
        rw [List.length_append, block.length_toLines]
        omega
      -- one step writes this block, and leaves the cursor at the next
      have hstep := ih hblocks (above ++ block.toLines) (i + 1)
      rw [managedBefore_succ hentry] at hstep
      rw [List.flatMap_cons, List.append_assoc, directivePositionsFrom_block hblock, hdrop,
        List.zip_cons_cons, mergeFrom, ← List.append_assoc above]
      rw [labelStart_block hblock above _ (Nat.le_refl _) (by omega), slice_before, slice_block,
        merge.replaceBlock_eq hi, hnext, ← List.length_append, hstep, rewriteBlocks]
      simp only [List.append_assoc]

/-- The walk over all lines writes what all blocks become, and the lines below them. -/
theorem Merge.mergeFrom_directivePositions (merge : Merge) (lines : List String) :
    mergeFrom lines merge.labels 0 0
        ((directivePositions lines).zip (merge.entries.zip merge.replacements)) =
      rewriteBlocks merge.newBlock? 0 (Layout.ofLines lines).blocks ++
        (Layout.ofLines lines).rest := by
  have hwalk := merge.mergeFrom_eq_rewriteBlocks (Layout.ofLines lines).blocks
    (Layout.ofLines_wellFormed lines) (Layout.not_isDirective_of_mem_rest lines) [] 0
  rw [Layout.blocks_append_rest] at hwalk
  exact hwalk

/-- What is written for a note that starts with text does not start with blank lines. -/
def trimTop (lines written : List String) : List String :=
  if startsWithText lines then written.dropWhile Text.isBlank else written

theorem trimTop_sublist (lines written : List String) :
    (trimTop lines written).Sublist written := by
  unfold trimTop
  split
  next => exact List.dropWhile_sublist _
  next => exact List.Sublist.refl _

/-- A note that starts with text does not start with blank lines. -/
theorem trimTop_self (lines : List String) : trimTop lines lines = lines := by
  unfold trimTop startsWithText
  cases lines with
  | nil => rfl
  | cons line lines =>
    rw [List.head?_cons, Option.any_some]
    split
    next hline =>
      rw [Bool.not_eq_true'] at hline
      rw [List.dropWhile_cons_of_neg (by rw [hline]; exact Bool.false_ne_true)]
    next => rfl

theorem Merge.bodyLines_of_no_entries {merge : Merge} (h : merge.entries = []) (note : String) :
    merge.bodyLines note = plainLines note := by
  unfold bodyLines
  rw [if_pos (List.isEmpty_iff.mpr h)]

/-- The lines of a note after the replacements of a merge. -/
theorem Merge.bodyLines_of_entries {merge : Merge} (h : merge.entries ≠ []) (note : String) :
    merge.bodyLines note =
      trimTop (Text.splitLines note)
        (rewriteBlocks merge.newBlock? 0 (Layout.ofLines (Text.splitLines note)).blocks ++
          (Layout.ofLines (Text.splitLines note)).rest) := by
  unfold bodyLines mergeLines trimTop
  rw [if_neg (by rwa [List.isEmpty_iff]), merge.mergeFrom_directivePositions]

end BudgetNotes
