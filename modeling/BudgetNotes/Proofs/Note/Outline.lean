import BudgetNotes.Proofs.Note.Finishing
import BudgetNotes.Proofs.Note.Reread
import BudgetNotes.Proofs.Text.Endings

/-!
# The outline of a finished note

The outline of a note is its directive lines, in order. A merge keeps the
directive of a block that stays, and of what it writes anew it adds whatever is
a directive, be it in the place of the line or of the label:

> `filter_isDirective_bodyLines`, `filter_isDirective_appendAdditions`: the
> outline before the note is trimmed.

So a finished plan leaves the outline that it was asked for, one directive line
for each entry that is not removed and one for each new draft, only as long as
no label says one of its own. Drafts compile with such labels; the check of a
label looks for blank lines alone.

Main statement: `WriteBack.outline_finish_iff`.
-/

namespace BudgetNotes

/-! ## Outlines -/

/-- The directive lines of a note, in order. -/
def directiveLines (note : String) : List String :=
  (directivesIn note).map fun p => (Text.splitLines note)[p]?.getD ""

/-- The same lines, but the last may be without the white space at its end. -/
def SameButEnd (xs ys : List String) : Prop :=
  xs = ys ∨ ∃ front last, ys = front ++ [last] ∧ xs = front ++ [Text.trimEnd last]

/-- Lists that differ at the end only are of one length. -/
theorem SameButEnd.length_eq {xs ys : List String} (h : SameButEnd xs ys) :
    xs.length = ys.length := by
  rcases h with rfl | ⟨front, last, rfl, rfl⟩
  · rfl
  · rw [List.length_append, List.length_append, List.length_singleton, List.length_singleton]

theorem directiveLines_eq_map (note : String) :
    directiveLines note = (labelledDirectives note).map Prod.snd := by
  unfold labelledDirectives
  rw [List.map_map]
  rfl

theorem map_snd_readDirectives (run lines : List String) :
    (readDirectives run lines).map Prod.snd = lines.filter isDirective := by
  induction lines generalizing run with
  | nil => rfl
  | cons line lines ih =>
    rw [readDirectives, List.map_append, ih, List.filter_cons]
    split <;> rfl

/-- The directive lines of a note are those of its lines that are directives. -/
theorem directiveLines_eq_filter (note : String) :
    directiveLines note = (Text.splitLines note).filter isDirective := by
  rw [directiveLines_eq_map, labelledDirectives_eq_readDirectives, List.map_map,
    ← map_snd_readDirectives []]
  rfl

/-- Every block has one of the directive lines. -/
theorem directiveLines_eq_map_directive (note : String) :
    directiveLines note = (Layout.ofLines (Text.splitLines note)).blocks.map Block.directive := by
  rw [directiveLines_eq_map, labelledDirectives_eq_map_labelled, List.map_map]
  rfl

theorem filter_isDirective_eq_nil {lines : List String} (h : ∀ l ∈ lines, isDirective l = false) :
    lines.filter isDirective = [] := by
  rw [List.filter_eq_nil_iff]
  intro l hl
  rw [h l hl]
  exact Bool.false_ne_true

theorem filter_isDirective_of_blank {lines : List String}
    (h : ∀ l ∈ lines, Text.isBlank l = true) : lines.filter isDirective = [] :=
  filter_isDirective_eq_nil fun l hl => not_isDirective_of_isBlank (h l hl)

/-- Trimming leaves the outline as it is, up to white space at its end. -/
theorem sameButEnd_trimEnd_joinLines {lines : List String} (h : ∀ l ∈ lines, '\n' ∉ l.toList) :
    SameButEnd (directiveLines (Text.trimEnd (Text.joinLines lines)))
      (lines.filter isDirective) := by
  rw [directiveLines_eq_filter]
  rcases Text.splitLines_trimEnd_joinLines h with
    ⟨hblank, hcut⟩ | ⟨front, last, below, rfl, _, hbelow, hcut⟩
  · left
    rw [hcut, filter_isDirective_of_blank hblank]
    decide
  · rw [hcut, List.filter_append, List.filter_append, List.filter_cons, List.filter_cons,
      filter_isDirective_of_blank hbelow, isDirective_trimEnd]
    cases isDirective last with
    | true => exact Or.inr ⟨_, last, rfl, rfl⟩
    | false => exact Or.inl rfl

theorem directiveLines_trimEnd_eq_nil_iff (s : String) :
    directiveLines (Text.trimEnd s) = [] ↔ directiveLines s = [] := by
  have hfeeds : ∀ l ∈ Text.splitLines s, '\n' ∉ l.toList :=
    fun l hl => Text.not_mem_of_mem_splitLines hl
  have hsame := sameButEnd_trimEnd_joinLines hfeeds
  rw [Text.joinLines_splitLines, ← directiveLines_eq_filter] at hsame
  rw [← List.length_eq_zero_iff, ← List.length_eq_zero_iff, hsame.length_eq]

/-! ## The outline of a label -/

theorem filter_isDirective_labelLines (label : String) :
    (labelLines label).filter isDirective = directiveLines label := by
  rw [directiveLines_eq_filter]
  unfold labelLines
  split
  next h =>
    rw [String.isEmpty_iff.mp h]
    decide
  next => rfl

/-- White space above a directive line does not hide it. -/
theorem isDirective_cons_return (cs : List Char) :
    isDirective (String.ofList ('\r' :: cs)) = isDirective (String.ofList cs) := by
  unfold isDirective
  rw [String.toList_ofList, String.toList_ofList, List.dropWhile_cons_of_pos (by decide)]

/-- Line ends at the top of a text are no part of its outline. -/
theorem directiveLines_dropWhile_eq_nil_iff (cs : List Char) :
    directiveLines (String.ofList (cs.dropWhile fun c => c = '\n' || c = '\r')) = [] ↔
      directiveLines (String.ofList cs) = [] := by
  induction cs with
  | nil => rfl
  | cons c cs ih =>
    cases hc : (decide (c = '\n') || decide (c = '\r')) with
    | false => rw [List.dropWhile_cons_of_neg (by rw [hc]; exact Bool.false_ne_true)]
    | true =>
      rw [List.dropWhile_cons_of_pos (p := fun c => decide (c = '\n') || decide (c = '\r')) hc, ih,
        directiveLines_eq_filter, directiveLines_eq_filter]
      unfold Text.splitLines
      rw [String.toList_ofList, String.toList_ofList, Text.cutLines]
      split
      next => rw [List.map_cons, List.filter_cons_of_neg (by decide)]
      next hfeed =>
        rw [decide_eq_false hfeed, Bool.false_or, decide_eq_true_eq] at hc
        obtain ⟨line, rest, hcut⟩ := List.exists_cons_of_ne_nil (Text.cutLines_ne_nil cs)
        rw [hcut, hc, List.map_cons, List.map_cons, List.filter_cons, List.filter_cons,
          isDirective_cons_return]
        split <;> simp

/-- A label and its trimmed form have a directive line or not alike. -/
theorem directiveLines_trimLabel_eq_nil_iff (label : String) :
    directiveLines (trimLabel label) = [] ↔ directiveLines label = [] := by
  unfold trimLabel
  rw [directiveLines_dropWhile_eq_nil_iff]
  exact directiveLines_trimEnd_eq_nil_iff label

/-! ## The outline of a merge -/

/-- What becomes of a directive line, given what is written in the place of its block. -/
def blockOutline (line : String) : Option (List String) → List String
  | none => [line]
  | some new => new.filter isDirective

/-- Block by block, the directive lines are those of the lines that are written. -/
theorem filter_isDirective_rewriteBlocks {new : Nat → Option (List String)} (blocks : List Block)
    (hw : ∀ block ∈ blocks, block.WellFormed) (i : Nat) :
    (rewriteBlocks new i blocks).filter isDirective =
      ((blocks.map Block.directive).zipIdx i).flatMap fun (line, k) =>
        blockOutline line (new k) := by
  induction blocks generalizing i with
  | nil => rfl
  | cons block blocks ih =>
    have hblock := hw block (List.mem_cons_self ..)
    rw [rewriteBlocks, List.filter_append, List.filter_append,
      filter_isDirective_eq_nil hblock.not_isDirective_of_mem, List.nil_append,
      ih fun b hb => hw b (List.mem_cons_of_mem _ hb), List.map_cons, List.zipIdx_cons,
      List.flatMap_cons]
    congr 1
    show _ = blockOutline block.directive (new i)
    cases new i with
    | some lines => rfl
    | none =>
      rw [Option.getD_none, List.filter_append, filter_isDirective_eq_nil fun l hl =>
        not_isDirective_of_isLabelLine (hblock.isLabelLine_of_mem l hl),
        List.nil_append, List.filter_cons_of_pos hblock.isDirective_directive]
      rfl

theorem filter_isDirective_dropWhile_isBlank (lines : List String) :
    (lines.dropWhile Text.isBlank).filter isDirective = lines.filter isDirective := by
  conv_rhs => rw [← List.takeWhile_append_dropWhile (p := Text.isBlank) (l := lines)]
  rw [List.filter_append, filter_isDirective_of_blank Text.isBlank_of_mem_takeWhile,
    List.nil_append]

/-- Blank lines that are dropped at the top are no directives. -/
theorem filter_isDirective_trimTop (lines written : List String) :
    (trimTop lines written).filter isDirective = written.filter isDirective := by
  unfold trimTop
  split
  next => exact filter_isDirective_dropWhile_isBlank written
  next => rfl

/-- What is rewritten has the directive lines of its blocks. -/
theorem filter_isDirective_bodyLines (merge : Merge) {note : String}
    (h : merge.entries = [] → directiveLines note = []) :
    (merge.bodyLines note).filter isDirective =
      (directiveLines note).zipIdx.flatMap fun (line, k) =>
        blockOutline line (merge.newBlock? k) := by
  by_cases he : merge.entries = []
  · have hnone := h he
    rw [Merge.bodyLines_of_no_entries he, plainLines, filter_isDirective_labelLines,
      (directiveLines_trimEnd_eq_nil_iff note).mpr hnone, hnone]
    rfl
  · rw [Merge.bodyLines_of_entries he, filter_isDirective_trimTop, List.filter_append,
      filter_isDirective_eq_nil (Layout.not_isDirective_of_mem_rest (Text.splitLines note)),
      List.append_nil, filter_isDirective_rewriteBlocks _ (Layout.ofLines_wellFormed _),
      directiveLines_eq_map_directive]

/-- Blank lines between blocks are no directives. -/
theorem filter_isDirective_spaceOut (groups : List (List String)) :
    (spaceOut groups).filter isDirective = groups.flatMap (List.filter isDirective) := by
  induction groups with
  | nil => rfl
  | cons group groups ih =>
    cases groups with
    | nil => simp [spaceOut]
    | cons next groups =>
      show (group ++ "" :: spaceOut (next :: groups)).filter isDirective = _
      rw [List.filter_append, List.filter_cons_of_neg (by decide), ih]
      rfl

theorem filter_isDirective_appendAdditions (lines : List String) (additions : List Addition) :
    (appendAdditions lines additions).filter isDirective =
      lines.filter isDirective ++
        additions.flatMap fun addition => addition.toLines.filter isDirective := by
  -- additions that write nothing have no directive line either
  have hgroups : ((additions.map Addition.toLines).filter (!·.isEmpty)).flatMap
      (List.filter isDirective) =
        additions.flatMap fun addition => addition.toLines.filter isDirective := by
    induction additions with
    | nil => rfl
    | cons addition additions ih =>
      rw [List.map_cons, List.filter_cons, List.flatMap_cons, ← ih]
      cases haddition : addition.toLines with
      | nil => rfl
      | cons line rest => rfl
  rw [← hgroups]
  unfold appendAdditions
  split
  next h => rw [h, List.flatMap_nil, List.append_nil]
  next groups _ =>
    have hgap : (if lines.getLast?.any (!Text.isBlank ·) then [""] else []).filter isDirective =
        [] := by
      split <;> decide
    rw [List.filter_append, List.filter_append, hgap, List.append_nil,
      filter_isDirective_spaceOut]

/-! ## The outline of a plan -/

/-- The directive line that is to remain for a stored entry, if any: the line of its draft, or the
note's own for an entry that could not be read. -/
def remainingLine? (drafts : List Draft) (stored : List Entry) (rendered : String) (entry : Entry)
    (i : Nat) (own : Option String) : Option String :=
  if entry.isManaged then (claimant? drafts i).map fun (_, k) => lineOf drafts stored rendered k
  else own

/-- The directive lines that a finished plan is asked for: one for each stored entry that is not
removed, and then one for each new draft. -/
def remainingLines (drafts : List Draft) (stored : List Entry) (rendered note : String) :
    List String :=
  (stored.zipIdx.filterMap fun (entry, i) =>
    remainingLine? drafts stored rendered entry i (directiveLines note)[i]?) ++
  (unclaimed drafts).map fun (_, k) => lineOf drafts stored rendered k

/-- The directive lines in the label of a draft, as the label is written. -/
def labelOutline (draft : Draft × Nat) : List String := directiveLines (trimLabel draft.1.label)

/-- The directive lines of a label and the line below it. -/
theorem filter_isDirective_label_line (label : String) {line : String}
    (hline : isDirective line = true) :
    (labelLines label ++ lineIfAny line).filter isDirective = directiveLines label ++ [line] := by
  rw [List.filter_append, filter_isDirective_labelLines,
    lineIfAny_of_not_isBlank (not_isBlank_of_isDirective hline), List.filter_cons_of_pos hline]
  rfl

/-- Lists of one length have the same positions. -/
theorem flatMap_zipIdx_of_length_eq {α β γ : Type} {xs : List α} {ys : List β}
    (h : xs.length = ys.length) (g : Option α → Nat → List γ) :
    xs.zipIdx.flatMap (fun (x, i) => g (some x) i) =
      ys.zipIdx.flatMap fun (_, i) => g xs[i]? i := by
  have hxs : xs.zipIdx.flatMap (fun (x, i) => g (some x) i) =
      (xs.zipIdx.map Prod.snd).flatMap fun i => g xs[i]? i := by
    rw [List.flatMap_map]
    refine List.flatMap_congr fun a ha => ?_
    rw [List.mem_zipIdx_iff_getElem?.mp ha]
  rw [hxs, List.zipIdx_map_snd, h, ← List.zipIdx_map_snd, List.flatMap_map]

theorem flatMap_append_of_flatMap_eq_nil {α β : Type} {xs : List α} {f : α → List β}
    (h : xs.flatMap f = []) (g : α → List β) :
    (xs.flatMap fun x => f x ++ g x) = xs.flatMap g := by
  refine List.flatMap_congr fun x hx => ?_
  rw [List.flatMap_eq_nil_iff.mp h x hx, List.nil_append]

theorem length_flatMap_append {α β : Type} (xs : List α) (f g : α → List β) :
    (xs.flatMap fun x => f x ++ g x).length = (xs.flatMap f).length + (xs.flatMap g).length := by
  induction xs with
  | nil => rfl
  | cons x xs ih =>
    rw [List.flatMap_cons, List.flatMap_cons, List.flatMap_cons, List.length_append,
      List.length_append, List.length_append, List.length_append, ih]
    omega

section

variable {drafts : List Draft} {stored : List Entry} {plan : WriteBack} {note rendered : String}

/-- A block has the line that is to remain for its entry, and what the label of its draft adds. -/
theorem blockOutline_writtenBlock? (h : WriteBack.plan drafts stored = .ok plan)
    (hline : ∀ a ∈ batchOrder drafts stored,
      isDirective (lineOf drafts stored rendered a.2) = true)
    {entry : Entry} {i : Nat} (hentry : stored[i]? = some entry) (own : String) :
    blockOutline own (writtenBlock? drafts stored rendered i) =
      ((claimant? drafts i).map labelOutline).getD [] ++
        (remainingLine? drafts stored rendered entry i (some own)).toList := by
  obtain ⟨compiled, hplanned, _⟩ := WriteBack.planned_of_plan h
  unfold writtenBlock? remainingLine?
  rw [hentry]
  cases entry with
  | unparsed line error =>
    rw [hplanned.claimant?_of_unmanaged hentry rfl]
    rfl
  | managed directive =>
    cases hclaimant : claimant? drafts i with
    | none => rfl
    | some a =>
      obtain ⟨draft, k⟩ := a
      have hmem := mem_batchOrder_of_claimant? hentry hclaimant
      simp only [blockOutline, Entry.isManaged, if_true, Option.map_some, Option.getD_some,
        Option.toList_some, labelOutline]
      rw [filter_isDirective_label_line (trimLabel draft.label) (hline (draft, k) hmem)]

/-- The outline before the note is trimmed: all that remains, with what the labels add. -/
theorem filter_isDirective_written (h : WriteBack.plan drafts stored = .ok plan)
    (hcount : stored.length = (directivesIn note).length)
    (hline : ∀ a ∈ batchOrder drafts stored,
      isDirective (lineOf drafts stored rendered a.2) = true) :
    (appendAdditions ((addressedMerge drafts stored rendered).bodyLines note)
        (addressedMerge drafts stored rendered).additions).filter isDirective =
      (stored.zipIdx.flatMap fun a =>
        ((claimant? drafts a.2).map labelOutline).getD [] ++
          (remainingLine? drafts stored rendered a.1 a.2 (directiveLines note)[a.2]?).toList) ++
      (unclaimed drafts).flatMap fun a =>
        labelOutline a ++ [lineOf drafts stored rendered a.2] := by
  have hlength : (directiveLines note).length = stored.length := by
    rw [hcount]
    exact List.length_map _
  have hempty : (addressedMerge drafts stored rendered).entries = [] →
      directiveLines note = [] := by
    intro hnil
    have hnil : stored = [] := hnil
    rw [← List.length_eq_zero_iff, hlength, hnil, List.length_nil]
  have hbody : (directiveLines note).zipIdx.flatMap (fun (line, i) =>
      blockOutline line ((addressedMerge drafts stored rendered).newBlock? i)) =
        stored.zipIdx.flatMap fun (_, i) =>
          (((directiveLines note)[i]?).map fun line =>
            blockOutline line ((addressedMerge drafts stored rendered).newBlock? i)).getD [] :=
    flatMap_zipIdx_of_length_eq hlength fun line i =>
      (line.map fun line =>
        blockOutline line ((addressedMerge drafts stored rendered).newBlock? i)).getD []
  have hadded : (addressedMerge drafts stored rendered).additions =
      (unclaimed drafts).map fun a =>
        ⟨trimLabel a.1.label, lineOf drafts stored rendered a.2⟩ := rfl
  rw [filter_isDirective_appendAdditions, filter_isDirective_bodyLines _ hempty, hbody, hadded,
    List.flatMap_map]
  refine congrArg₂ (· ++ ·) (List.flatMap_congr fun a ha => ?_) (List.flatMap_congr fun a ha => ?_)
  · have hentry : stored[a.2]? = some a.1 := List.mem_zipIdx_iff_getElem?.mp ha
    have hlt : a.2 < (directiveLines note).length := by
      rw [hlength]
      exact (List.getElem?_eq_some_iff.mp hentry).1
    show (((directiveLines note)[a.2]?).map _).getD [] = _
    rw [List.getElem?_eq_getElem hlt, Option.map_some, Option.getD_some,
      newBlock?_addressedMerge, blockOutline_writtenBlock? h hline hentry]
  · rw [Addition.toLines, labelOutline,
      filter_isDirective_label_line _ (hline a (List.mem_append_right _ ha))]

/-- What the labels of all drafts add, in the order of the batch. -/
theorem flatMap_labelOutline_batchOrder (drafts : List Draft) (stored : List Entry) :
    (batchOrder drafts stored).flatMap labelOutline =
      (stored.zipIdx.flatMap fun a => ((claimant? drafts a.2).map labelOutline).getD []) ++
        (unclaimed drafts).flatMap labelOutline := by
  unfold batchOrder
  rw [List.flatMap_append, List.range_eq_range', ← List.zipIdx_map_snd, List.filterMap_map,
    List.filterMap_eq_flatMap_toList, List.flatMap_assoc]
  refine congrArg (· ++ _) (List.flatMap_congr fun a _ => ?_)
  rw [Function.comp_apply]
  cases claimant? drafts a.2 with
  | none => rfl
  | some b => rw [Option.toList_some, List.flatMap_singleton, Option.map_some, Option.getD_some]

theorem remainingLines_eq_flatMap (drafts : List Draft) (stored : List Entry)
    (rendered note : String) :
    remainingLines drafts stored rendered note =
      (stored.zipIdx.flatMap fun a =>
        (remainingLine? drafts stored rendered a.1 a.2 (directiveLines note)[a.2]?).toList) ++
      (unclaimed drafts).flatMap fun a => [lineOf drafts stored rendered a.2] := by
  unfold remainingLines
  rw [List.filterMap_eq_flatMap_toList, List.map_eq_flatMap]

/-- **The outline of a finished note.** Where every entry has its directive line and every draft
gets one, the directive lines that are found are those that were asked for, exactly when no label
of a draft has a directive line in it. -/
theorem WriteBack.outline_finish_iff (h : WriteBack.plan drafts stored = .ok plan)
    (hcount : stored.length = (directivesIn note).length)
    (hlines : ∀ k < plan.batch.length, ∃ line, (Text.splitLines rendered)[k]? = some line ∧
      isDirective line = true) :
    ∃ out, plan.finish note rendered = .ok out ∧
      (SameButEnd (directiveLines out) (remainingLines drafts stored rendered note) ↔
        ∀ draft ∈ drafts, directiveLines draft.label = []) := by
  refine ⟨_, finish_eq_ok h note rendered, ?_⟩
  have hfound := sameButEnd_trimEnd_joinLines
    ((singleLines_addressedMerge drafts stored rendered).not_mem_written note)
  have hwritten := filter_isDirective_written h hcount (forall_lineOf h hlines)
  have hlabels := flatMap_labelOutline_batchOrder drafts stored
  have hremaining := remainingLines_eq_flatMap drafts stored rendered note
  constructor
  · -- a directive line in a label would be one too many
    intro hsame draft hdraft
    have hlength := hfound.length_eq.symm.trans hsame.length_eq
    rw [hwritten, hremaining, List.length_append, List.length_append, length_flatMap_append,
      length_flatMap_append] at hlength
    have hnil : (batchOrder drafts stored).flatMap labelOutline = [] := by
      rw [← List.length_eq_zero_iff, hlabels, List.length_append]
      omega
    obtain ⟨k, hk⟩ := mem_batchOrder h hdraft
    exact (directiveLines_trimLabel_eq_nil_iff draft.label).mp
      (List.flatMap_eq_nil_iff.mp hnil (draft, k) hk)
  · intro hnone
    have hnil : (batchOrder drafts stored).flatMap labelOutline = [] :=
      List.flatMap_eq_nil_iff.mpr fun a ha =>
        (directiveLines_trimLabel_eq_nil_iff a.1.label).mpr
          (hnone a.1 (mem_of_mem_batchOrder h ha))
    rw [hlabels, List.append_eq_nil_iff] at hnil
    rw [hwritten, flatMap_append_of_flatMap_eq_nil hnil.1, flatMap_append_of_flatMap_eq_nil hnil.2,
      ← hremaining] at hfound
    exact hfound

/-- An entry that stays, one that goes and one that is written anew, with a template added. -/
theorem WriteBack.outline_finish_mixed :
    let entry := Entry.managed (.ofTemplate (.goal ⟨.one⟩) none)
    let stored := [.unparsed "#template x" "", entry, entry]
    let drafts : List Draft :=
      [⟨"a", none, "Trip", "", .goal "2000"⟩, ⟨"b", some 2, "\nFood\n", "1", .average "3"⟩]
    let note := "#template x\nFun\n#goal 1\nGroceries\n#goal 1"
    let rendered := "#template-1 average 3 months\n#goal 2000 "
    stored.length = (directivesIn note).length ∧
    (∀ draft ∈ drafts, directiveLines draft.label = []) ∧
    ∃ plan, WriteBack.plan drafts stored = .ok plan ∧
      (∀ k < plan.batch.length, ∃ line, (Text.splitLines rendered)[k]? = some line ∧
        isDirective line = true) ∧
      ∃ out, plan.finish note rendered = .ok out ∧
        SameButEnd (directiveLines out)
          ["#template x", "#template-1 average 3 months", "#goal 2000 "] := by
  intro entry stored drafts note rendered
  have hcount : stored.length = (directivesIn note).length := by decide +kernel
  have hlabels : ∀ draft ∈ drafts, directiveLines draft.label = [] := by decide +kernel
  have hok : (WriteBack.plan drafts stored).isOk = true := by decide +kernel
  obtain ⟨plan, hplan⟩ := exists_of_isOk hok
  have hlines : ∀ k < plan.batch.length, ∃ line, (Text.splitLines rendered)[k]? = some line ∧
      isDirective line = true := by
    have hbatch : plan.batch.length = 2 := by
      rw [length_batch hplan]
      decide +kernel
    intro k hk
    rw [hbatch] at hk
    match k with
    | 0 => exact ⟨"#template-1 average 3 months", by decide +kernel, by decide +kernel⟩
    | 1 => exact ⟨"#goal 2000 ", by decide +kernel, by decide +kernel⟩
  refine ⟨hcount, hlabels, plan, hplan, hlines, ?_⟩
  obtain ⟨out, hout, hiff⟩ := outline_finish_iff hplan hcount hlines
  have hremaining : remainingLines drafts stored rendered note =
      ["#template x", "#template-1 average 3 months", "#goal 2000 "] := by
    decide +kernel
  exact ⟨out, hout, hremaining ▸ hiff.mpr hlabels⟩

/-- A label that is itself a directive line compiles, and is found as a directive of its own. -/
theorem WriteBack.outline_finish_directive_label :
    let stored := [Entry.managed (.ofTemplate (.goal ⟨.one⟩) none)]
    let drafts : List Draft := [⟨"a", some 0, "#template 5", "", .goal "2"⟩]
    ∃ plan, WriteBack.plan drafts stored = .ok plan ∧
      stored.length = (directivesIn "#goal 1").length ∧
      plan.batch.length = (Text.splitLines "#goal 2").length ∧
      (Text.splitLines "#goal 2").all isDirective = true ∧
      plan.finish "#goal 1" "#goal 2" = .ok "#template 5\n#goal 2" ∧
      directivesIn "#template 5\n#goal 2" = [0, 1] ∧
      remainingLines drafts stored "#goal 2" "#goal 1" = ["#goal 2"] ∧
      ¬SameButEnd (directiveLines "#template 5\n#goal 2")
        (remainingLines drafts stored "#goal 2" "#goal 1") := by
  intro stored drafts
  have hok : (WriteBack.plan drafts stored).isOk = true := by decide +kernel
  obtain ⟨plan, hplan⟩ := exists_of_isOk hok
  have hbatch : plan.batch.length = 1 := by
    rw [length_batch hplan]
    decide +kernel
  have hremaining : remainingLines drafts stored "#goal 2" "#goal 1" = ["#goal 2"] := by
    decide +kernel
  refine ⟨plan, hplan, by decide +kernel, by rw [hbatch]; decide +kernel, by decide +kernel, ?_,
    by decide +kernel, hremaining, fun hsame => ?_⟩
  · rw [finish_eq_into hplan]
    decide +kernel
  · -- there are two directive lines in the note, where one was asked for
    have hlength := hsame.length_eq
    rw [hremaining] at hlength
    have htwo : (directiveLines "#template 5\n#goal 2").length = 2 := by decide +kernel
    rw [htwo] at hlength
    cases hlength

end

end BudgetNotes
