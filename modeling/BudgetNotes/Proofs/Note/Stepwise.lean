import BudgetNotes.Proofs.Note.Reread
import BudgetNotes.Proofs.Note.Trimming
import Mathlib.Data.List.InsertIdx

/-!
# Edits one at a time

A merge can be made in two: first the change to one block (`Merge.only`), then
all others in the note that comes out (`Merge.others`). The blocks of that note
are found anew. A block that was written as a label and a directive is found as
just that, in its place; one that was deleted leaves what stood before it to the
block below, and the blocks below move up by one:

> `rewriteLines_exceptAt`, `rewriteLines_withoutAt`: the two cases, for lines.

For the second case the deleted entry goes from the lists, with its label
(`newBlock?_others_of_deletes`).

Main statement: `Merge.into_stepwise`.
-/

namespace BudgetNotes

/-! ## One block and the others -/

/-- What becomes of block k, the others staying. -/
def onlyAt (k : Nat) (new : Nat → Option (List String)) (i : Nat) : Option (List String) :=
  if i = k then new i else none

/-- What becomes of the blocks when block k stays. -/
def exceptAt (k : Nat) (new : Nat → Option (List String)) (i : Nat) : Option (List String) :=
  if i = k then none else new i

/-- What becomes of the blocks when block k is no longer there. -/
def withoutAt (k : Nat) (new : Nat → Option (List String)) (i : Nat) : Option (List String) :=
  if i < k then new i else new (i + 1)

section

variable {new : Nat → Option (List String)} {k : Nat} {lines : List String}

/-- Block k, with what is above and below it. -/
theorem exists_blocks_eq_append (h : k < (Layout.ofLines lines).blocks.length) :
    ∃ above block below, (Layout.ofLines lines).blocks = above ++ block :: below ∧
      above.length = k ∧ (∀ b ∈ above, b.WellFormed) ∧ block.WellFormed ∧
      ∀ b ∈ below, b.WellFormed := by
  have hblocks : (Layout.ofLines lines).blocks = (Layout.ofLines lines).blocks.take k ++
      (Layout.ofLines lines).blocks[k] :: (Layout.ofLines lines).blocks.drop (k + 1) := by
    rw [← List.drop_eq_getElem_cons h, List.take_append_drop]
  have hw := Layout.ofLines_wellFormed lines
  rw [hblocks, List.forall_mem_append, List.forall_mem_cons] at hw
  exact ⟨_, _, _, hblocks, List.length_take_of_le (Nat.le_of_lt h), hw⟩

theorem rewriteLines_eq_append {above below : List Block} {block : Block}
    (hblocks : (Layout.ofLines lines).blocks = above ++ block :: below) :
    rewriteLines new 0 lines =
      rewriteBlocks new 0 above ++ (block.before ++
        ((new above.length).getD (block.label ++ [block.directive]) ++
          (rewriteBlocks new (above.length + 1) below ++ (Layout.ofLines lines).rest))) := by
  unfold rewriteLines
  rw [hblocks, rewriteBlocks_append, Nat.zero_add, rewriteBlocks]
  simp only [List.append_assoc]

/-- Where the change is to block k alone, what is above and below stays. -/
theorem rewriteLines_onlyAt {above below : List Block} {block : Block}
    (hblocks : (Layout.ofLines lines).blocks = above ++ block :: below)
    (hlen : above.length = k) :
    rewriteLines (onlyAt k new) 0 lines =
      above.flatMap Block.toLines ++ (block.before ++
        ((new k).getD (block.label ++ [block.directive]) ++
          (below.flatMap Block.toLines ++ (Layout.ofLines lines).rest))) := by
  have habove : rewriteBlocks (onlyAt k new) 0 above = above.flatMap Block.toLines :=
    rewriteBlocks_eq_toLines above fun j _ hj => if_neg (by omega)
  have hbelow : rewriteBlocks (onlyAt k new) (k + 1) below = below.flatMap Block.toLines :=
    rewriteBlocks_eq_toLines below fun j hj _ => if_neg (by omega)
  have hat : onlyAt k new k = new k := if_pos rfl
  rw [rewriteLines_eq_append hblocks, hlen, habove, hbelow, hat]

/-- Without block k there is nothing to change first. -/
theorem rewriteLines_onlyAt_of_le (h : (Layout.ofLines lines).blocks.length ≤ k) :
    rewriteLines (onlyAt k new) 0 lines = lines := by
  have hnone : ∀ j, 0 ≤ j → j < 0 + (Layout.ofLines lines).blocks.length →
      onlyAt k new j = none := fun j _ hj => if_neg (by omega)
  unfold rewriteLines
  rw [rewriteBlocks_eq_toLines _ hnone, Layout.blocks_append_rest]

/-- Changes that agree on all blocks make the same of the lines. -/
theorem rewriteLines_congr {new' : Nat → Option (List String)}
    (h : ∀ j < (Layout.ofLines lines).blocks.length, new j = new' j) :
    rewriteLines new 0 lines = rewriteLines new' 0 lines := by
  unfold rewriteLines
  rw [rewriteBlocks_congr _ fun j hj => ?_]
  rw [Nat.zero_add]
  exact h j hj

/-- A label with its directive. -/
def IsLabelledDirective (lines : List String) : Prop :=
  ∃ label directive, lines = label ++ [directive] ∧ (∀ l ∈ label, isLabelLine l = true) ∧
    isDirective directive = true

/-- A block that stays or becomes a label with its directive is a block again. -/
theorem Block.WellFormed.exists_written {block : Block} (hw : block.WellFormed)
    {lines? : Option (List String)}
    (h : ∀ {lines}, lines? = some lines → IsLabelledDirective lines) :
    ∃ written : Block, written.WellFormed ∧ written.before = block.before ∧
      written.label ++ [written.directive] = lines?.getD (block.label ++ [block.directive]) := by
  cases hlines : lines? with
  | none => exact ⟨block, hw, rfl, rfl⟩
  | some lines =>
    obtain ⟨label, directive, rfl, hl, hd⟩ := h hlines
    exact ⟨⟨block.before, label, directive⟩,
      ⟨hd, hl, hw.not_isDirective_of_mem, hw.isBlank_getLast⟩, rfl, rfl⟩

/-- A block that stays or becomes a label with its directive can be changed first. -/
theorem rewriteLines_exceptAt (h : ∀ {lines}, new k = some lines → IsLabelledDirective lines)
    (lines : List String) :
    rewriteLines (exceptAt k new) 0 (rewriteLines (onlyAt k new) 0 lines) =
      rewriteLines new 0 lines := by
  rcases Nat.lt_or_ge k (Layout.ofLines lines).blocks.length with hk | hk
  · obtain ⟨above, block, below, hblocks, hlen, habove, hblock, hbelow⟩ :=
      exists_blocks_eq_append hk
    obtain ⟨written, hwritten, hbefore, hnew⟩ := hblock.exists_written h
    have hall : ∀ b ∈ above ++ written :: below, b.WellFormed :=
      List.forall_mem_append.mpr ⟨habove, List.forall_mem_cons.mpr ⟨hwritten, hbelow⟩⟩
    have honce : rewriteLines (onlyAt k new) 0 lines =
        (above ++ written :: below).flatMap Block.toLines ++ (Layout.ofLines lines).rest := by
      rw [rewriteLines_onlyAt hblocks hlen, ← hnew, ← hbefore]
      simp [Block.toLines]
    have hexcept : ∀ i blocks, (∀ j < blocks.length, i + j ≠ k) →
        rewriteBlocks (exceptAt k new) i blocks = rewriteBlocks new i blocks :=
      fun i blocks hne => rewriteBlocks_congr blocks fun j hj => if_neg (hne j hj)
    have hat : exceptAt k new k = none := if_pos rfl
    rw [honce, rewriteLines_flatMap_append _ _ hall, rewriteLines_of_not_isDirective _ _
      (Layout.not_isDirective_of_mem_rest lines), rewriteBlocks_append, Nat.zero_add, hlen,
      rewriteBlocks, hat, Option.getD_none, rewriteLines_eq_append hblocks, hlen, hnew, hbefore,
      hexcept 0 above fun j hj => by omega, hexcept (k + 1) below fun j hj => by omega]
    simp only [List.append_assoc]
  · rw [rewriteLines_onlyAt_of_le hk]
    exact rewriteLines_congr fun j hj => if_neg (by omega)

/-- A block that goes can go first. -/
theorem rewriteLines_withoutAt (h : new k = some []) (lines : List String) :
    rewriteLines (withoutAt k new) 0 (rewriteLines (onlyAt k new) 0 lines) =
      rewriteLines new 0 lines := by
  rcases Nat.lt_or_ge k (Layout.ofLines lines).blocks.length with hk | hk
  · obtain ⟨above, block, below, hblocks, hlen, habove, hblock, hbelow⟩ :=
      exists_blocks_eq_append hk
    have hsame : rewriteBlocks (withoutAt k new) 0 above = rewriteBlocks new 0 above :=
      rewriteBlocks_congr above fun j hj => if_pos (by omega)
    -- the blocks below are one further up than they were
    have hmoved : rewriteBlocks (withoutAt k new) k below = rewriteBlocks new (k + 1) below := by
      refine rewriteBlocks_congr below fun j hj => ?_
      rw [Nat.add_right_comm]
      exact if_neg (by omega)
    rw [rewriteLines_onlyAt hblocks hlen, h, Option.getD_some, List.nil_append,
      rewriteLines_flatMap_append _ _ habove,
      rewriteLines_before_append _ _ hblock.not_isDirective_of_mem hblock.isBlank_getLast,
      rewriteLines_flatMap_append _ _ hbelow,
      rewriteLines_of_not_isDirective _ _ (Layout.not_isDirective_of_mem_rest lines), Nat.zero_add,
      hlen, hsame, hmoved, rewriteLines_eq_append hblocks, hlen, h, Option.getD_some,
      List.nil_append]
  · rw [rewriteLines_onlyAt_of_le hk]
    exact rewriteLines_congr fun j hj => if_pos (by omega)

end

theorem WritesDirective.isLabelledDirective {label line : String} (h : WritesDirective label line) :
    IsLabelledDirective (labelLines label ++ lineIfAny line) := by
  rw [h.lineIfAny_eq]
  exact ⟨_, line, rfl, h.isLabelLine_of_mem, h.isDirective_line⟩

/-! ## Merges -/

theorem managedBefore_eraseIdx_of_le {entries : List Entry} {i k : Nat} (h : i ≤ k) :
    managedBefore (entries.eraseIdx k) i = managedBefore entries i := by
  unfold managedBefore
  rw [List.take_eraseIdx_eq_take_of_le _ _ _ h]

/-- Below a managed entry that is gone, one is missing. -/
theorem managedBefore_eraseIdx_add_one {entries : List Entry} {i k : Nat}
    (h : entries[k]?.any Entry.isManaged = true) (hle : k ≤ i) :
    managedBefore (entries.eraseIdx k) i + 1 = managedBefore entries (i + 1) := by
  unfold managedBefore
  induction entries generalizing i k with
  | nil => cases h
  | cons entry entries ih =>
    rw [List.take_succ_cons]
    cases k with
    | zero =>
      have hmanaged : entry.isManaged = true := h
      rw [List.eraseIdx_zero, List.tail_cons, List.countP_cons_of_pos hmanaged]
    | succ k =>
      obtain ⟨i, rfl⟩ := Nat.exists_eq_add_of_le' (Nat.le_trans (Nat.succ_pos k) hle)
      rw [List.eraseIdx_cons_succ, List.take_succ_cons, List.countP_cons, List.countP_cons,
        ← ih h (by omega : k ≤ i)]
      omega

/-- A managed entry has its label before those of the entries below. -/
theorem managedBefore_lt {entries : List Entry} {i k : Nat} {entry : Entry}
    (h : entries[i]? = some entry) (hmanaged : entry.isManaged = true) (hlt : i < k) :
    managedBefore entries i < managedBefore entries k := by
  have hnext := managedBefore_succ h
  rw [hmanaged, if_pos rfl] at hnext
  have hle : managedBefore entries (i + 1) ≤ managedBefore entries k :=
    (List.take_sublist_take_left hlt).countP_le
  omega

namespace Merge

/-- The merge with the change to entry k alone. -/
def only (merge : Merge) (k : Nat) : Merge :=
  { merge with
    replacements := merge.replacements.mapIdx fun i replacement =>
      if i = k then replacement else .keep }

/-- Whether the block of entry k is deleted. -/
def deletes (merge : Merge) (k : Nat) : Bool :=
  merge.entries[k]?.any Entry.isManaged && merge.replacements[k]? = some .delete

/-- The merge with all other changes, when entry k has had its own: an entry that was deleted is
no longer there, nor are its label and its replacement; any other is kept. -/
def others (merge : Merge) (k : Nat) : Merge :=
  if merge.deletes k then
    { merge with
      entries := merge.entries.eraseIdx k
      labels := merge.labels.eraseIdx (managedBefore merge.entries k)
      replacements := merge.replacements.eraseIdx k }
  else { merge with replacements := merge.replacements.set k .keep }

/-- A block depends on its entry, its replacement and its label. -/
theorem newBlock?_congr {merge merge' : Merge} {i j : Nat}
    (hentry : merge.entries[i]? = merge'.entries[j]?)
    (hreplacement : merge.replacements[i]? = merge'.replacements[j]?)
    (hlabel : ∀ directive, merge'.entries[j]? = some (.managed directive) →
      merge.labels[managedBefore merge.entries i]? =
        merge'.labels[managedBefore merge'.entries j]?) :
    merge.newBlock? i = merge'.newBlock? j := by
  unfold newBlock?
  rw [hentry, hreplacement]
  cases hj : merge'.entries[j]? with
  | none => rfl
  | some entry =>
    cases entry with
    | unparsed line error => rfl
    | managed directive => rw [hlabel directive hj]

/-- A block that is kept stays. -/
theorem newBlock?_of_keep {merge : Merge} {i : Nat}
    (h : ∀ replacement ∈ merge.replacements[i]?, replacement = .keep) :
    merge.newBlock? i = none := by
  unfold newBlock?
  split
  next hr => cases h _ hr
  next hr => cases h _ hr
  next => rfl

theorem newBlock?_only (merge : Merge) (k : Nat) :
    (merge.only k).newBlock? = onlyAt k merge.newBlock? := by
  funext i
  have hreplacements : (merge.only k).replacements[i]? =
      merge.replacements[i]?.map fun replacement => if i = k then replacement else .keep :=
    List.getElem?_mapIdx
  unfold onlyAt
  split
  next hik =>
    refine newBlock?_congr rfl ?_ fun _ _ => rfl
    rw [hreplacements]
    simp [hik]
  next hik =>
    refine newBlock?_of_keep fun replacement hmem => ?_
    rw [hreplacements] at hmem
    obtain ⟨_, _, rfl⟩ := Option.map_eq_some_iff.mp hmem
    exact if_neg hik

theorem newBlock?_others {merge : Merge} {k : Nat} (h : merge.deletes k = false) :
    (merge.others k).newBlock? = exceptAt k merge.newBlock? := by
  funext i
  have hothers : merge.others k =
      { merge with replacements := merge.replacements.set k .keep } := by
    unfold others
    rw [h, if_neg Bool.false_ne_true]
  rw [hothers]
  unfold exceptAt
  split
  next hik =>
    refine newBlock?_of_keep fun replacement hmem => ?_
    rw [hik, List.getElem?_set_self'] at hmem
    obtain ⟨_, _, rfl⟩ := Option.map_eq_some_iff.mp hmem
    rfl
  next hik =>
    exact newBlock?_congr rfl (List.getElem?_set_ne (fun hki => hik hki.symm)) fun _ _ => rfl

theorem newBlock?_others_of_deletes {merge : Merge} {k : Nat} (h : merge.deletes k = true) :
    (merge.others k).newBlock? = withoutAt k merge.newBlock? := by
  funext i
  have hothers : merge.others k =
      { merge with
        entries := merge.entries.eraseIdx k
        labels := merge.labels.eraseIdx (managedBefore merge.entries k)
        replacements := merge.replacements.eraseIdx k } := by
    unfold others
    rw [h, if_pos rfl]
  have hmanaged : merge.entries[k]?.any Entry.isManaged = true := ((Bool.and_eq_true _ _).mp h).1
  rw [hothers]
  unfold withoutAt
  split
  next hik =>
    -- above the deleted entry the labels are counted as before
    refine newBlock?_congr ?_ ?_ fun directive hentry => ?_
    · rw [List.getElem?_eraseIdx, if_pos hik]
    · rw [List.getElem?_eraseIdx, if_pos hik]
    · rw [managedBefore_eraseIdx_of_le (Nat.le_of_lt hik), List.getElem?_eraseIdx,
        if_pos (managedBefore_lt hentry rfl hik)]
  next hik =>
    -- below it one label is missing, and one entry
    have hle : k ≤ i := Nat.le_of_not_lt hik
    have hcount := managedBefore_eraseIdx_add_one hmanaged hle
    have hleast : managedBefore merge.entries k ≤ managedBefore (merge.entries.eraseIdx k) i := by
      rw [← managedBefore_eraseIdx_of_le (Nat.le_refl k)]
      exact (List.take_sublist_take_left hle).countP_le
    refine newBlock?_congr ?_ ?_ fun directive _ => ?_
    · rw [List.getElem?_eraseIdx, if_neg hik]
    · rw [List.getElem?_eraseIdx, if_neg hik]
    · show (merge.labels.eraseIdx (managedBefore merge.entries k))[
          managedBefore (merge.entries.eraseIdx k) i]? = _
      rw [List.getElem?_eraseIdx, if_neg (Nat.not_lt.mpr hleast), hcount]

theorem newBlock?_of_deletes {merge : Merge} {k : Nat} (h : merge.deletes k = true) :
    merge.newBlock? k = some [] := by
  obtain ⟨hmanaged, hreplacement⟩ := (Bool.and_eq_true _ _).mp h
  obtain ⟨directive, hentry⟩ := exists_managed_of_any hmanaged
  unfold newBlock?
  rw [hentry, of_decide_eq_true hreplacement]

/-- What is written anew: nothing, or the new label with the new line. -/
theorem newBlock?_cases {merge : Merge} {k : Nat} {lines : List String}
    (h : merge.newBlock? k = some lines) :
    (merge.deletes k = true ∧ lines = []) ∨
      ∃ directive line, merge.entries[k]? = some (.managed directive) ∧
        merge.replacements[k]? = some (.replace line) ∧
        lines = labelLines (merge.newLabel k) ++ lineIfAny line := by
  unfold newBlock? at h
  split at h
  next directive he hr =>
    left
    unfold deletes
    rw [he, hr]
    exact ⟨rfl, (Option.some.inj h).symm⟩
  next directive line he hr =>
    rw [Option.some_inj, labelLines_getD] at h
    exact Or.inr ⟨directive, line, he, hr, h.symm⟩
  next => cases h

/-- What else is written anew is a label with its directive. -/
theorem Readable.isLabelledDirective_newBlock {merge : Merge} (h : merge.Readable) {k : Nat}
    (hk : merge.deletes k = false) {lines : List String} (hlines : merge.newBlock? k = some lines) :
    IsLabelledDirective lines := by
  rcases newBlock?_cases hlines with ⟨hdeletes, _⟩ | ⟨directive, line, he, hr, rfl⟩
  · rw [hk] at hdeletes
    cases hdeletes
  · exact (h.replaced k directive line he hr).isLabelledDirective

/-- A merge without additions rewrites the note. -/
theorem into_eq_rewriteNote {merge : Merge}
    (hcount : merge.replacements.length = merge.entries.length) (h : merge.additions = [])
    (note : String) : merge.into note = .ok (rewriteNote merge.newBlock? note) := by
  rw [into, if_pos hcount, h]
  show Except.ok (Text.trimEnd (Text.joinLines (merge.bodyLines note))) = _
  unfold rewriteNote rewriteLines
  by_cases he : merge.entries = []
  · -- no block changes, so a note that starts with text still does
    rw [bodyLines_of_no_entries he, plainLines, joinLines_labelLines, Text.trimEnd_idem,
      rewriteBlocks_eq_toLines _ fun i _ _ => newBlock?_of_no_entries he i,
      Layout.blocks_append_rest, trimTop_self, Text.joinLines_splitLines]
  · rw [bodyLines_of_entries he]

/-- The lists of the others still fit each other. -/
theorem length_replacements_others {merge : Merge}
    (hcount : merge.replacements.length = merge.entries.length) (k : Nat) :
    (merge.others k).replacements.length = (merge.others k).entries.length := by
  unfold others
  split
  next =>
    show (merge.replacements.eraseIdx k).length = (merge.entries.eraseIdx k).length
    rw [List.length_eraseIdx, List.length_eraseIdx, hcount]
  next =>
    show (merge.replacements.set k .keep).length = merge.entries.length
    rw [List.length_set, hcount]

/-- **Edits can be made one at a time.** The change to any one entry first, and then all others in
the note that comes out of it, give the same note as all changes at once. -/
theorem into_stepwise (merge : Merge) (note : String)
    (hcount : merge.replacements.length = merge.entries.length)
    (hadditions : merge.additions = []) (h : merge.Readable) (k : Nat) :
    ∃ once out, (merge.only k).into note = .ok once ∧ (merge.others k).into once = .ok out ∧
      merge.into note = .ok out := by
  have honly : (merge.only k).replacements.length = (merge.only k).entries.length := by
    show (merge.replacements.mapIdx _).length = merge.entries.length
    rw [List.length_mapIdx, hcount]
  have hothers : (merge.others k).additions = [] := by
    unfold others
    split <;> exact hadditions
  have hfeeds : ∀ j lines, onlyAt k merge.newBlock? j = some lines →
      ∀ l ∈ lines, '\n' ∉ l.toList := by
    intro j lines hj
    unfold onlyAt at hj
    split at hj
    next => exact h.singleLines.not_mem_newBlock hj
    next => cases hj
  have honce := into_eq_rewriteNote honly hadditions note
  have hafter := into_eq_rewriteNote (length_replacements_others hcount k) hothers
    (rewriteNote (merge.only k).newBlock? note)
  have hall : rewriteNote (merge.others k).newBlock? (rewriteNote (merge.only k).newBlock? note) =
      rewriteNote merge.newBlock? note := by
    rw [newBlock?_only]
    cases hdeletes : merge.deletes k with
    | true =>
      rw [newBlock?_others_of_deletes hdeletes]
      exact rewriteNote_rewriteNote hfeeds (rewriteLines_withoutAt (newBlock?_of_deletes hdeletes))
        note
    | false =>
      rw [newBlock?_others hdeletes]
      exact rewriteNote_rewriteNote hfeeds
        (rewriteLines_exceptAt (h.isLabelledDirective_newBlock hdeletes)) note
  rw [hall] at hafter
  exact ⟨_, _, honce, hafter, into_eq_rewriteNote hcount hadditions note⟩

/-- A block goes first, from above one that could not be read; the block at the top is changed
after that. -/
theorem into_stepwise_mixed :
    let entry := Entry.managed (.ofTemplate (.goal ⟨.one⟩) none)
    let merge : Merge :=
      { entries := [entry, entry, .unparsed "#template x" ""]
        labels := ["Food", ""]
        replacements := [.replace "#template 450", .delete, .keep]
        additions := [] }
    let note := "Groceries\n#template 400\n\nFun\n#template 50\nRent\n#template x\n"
    merge.replacements.length = merge.entries.length ∧ merge.additions = [] ∧ merge.Readable ∧
    ∃ once, (merge.only 1).into note = .ok once ∧
      once = "Groceries\n#template 400\n\nRent\n#template x" ∧
      (merge.others 1).into once = .ok "Food\n#template 450\n\nRent\n#template x" ∧
      merge.into note = .ok "Food\n#template 450\n\nRent\n#template x" := by
  intro entry merge note
  have hreadable : merge.Readable := by
    constructor
    · intro i directive line _ hr
      match i with
      | 0 =>
        cases hr
        exact ⟨by decide, by decide, by decide⟩
      | 1 => cases hr
      | 2 => cases hr
      | i + 3 => cases hr
    · intro addition hmem
      cases hmem
  obtain ⟨once, out, honce, hout, hmerge⟩ := into_stepwise merge note rfl rfl hreadable 1
  have hfirst : (merge.only 1).into note = .ok "Groceries\n#template 400\n\nRent\n#template x" := by
    decide +kernel
  have hall : merge.into note = .ok "Food\n#template 450\n\nRent\n#template x" := by
    decide +kernel
  have honce' : once = "Groceries\n#template 400\n\nRent\n#template x" :=
    Except.ok.inj (honce.symm.trans hfirst)
  exact ⟨rfl, rfl, hreadable, once, honce, honce', hout.trans (hmerge.symm.trans hall), hall⟩

end Merge

end BudgetNotes
