import BudgetNotes.Proofs.Note.Finishing
import BudgetNotes.Proofs.Note.Outline
import BudgetNotes.Proofs.Text.Endings
import Mathlib.Data.List.Flatten

/-!
# Which rendered lines are kept

A rendered line is written in the place of a directive line of the note, or
after the note. A stored entry that the note has no directive line for has no
place, and what is rendered for it is not written anywhere. So the drafts that
keep their lines are those with a place (`hasPlace`):

> `sublist_written`: their lines stand in what is written, in the order of the
> batch, and each at a place of its own.

All that is done to the lines afterwards, at the top and at the end of the
note, takes no text from them but white space at the end of a line.

Main statement: `WriteBack.sublist_finish`.
-/

namespace BudgetNotes

/-! ## Lines in a merge -/

/-- Lines that are each among the new lines of their block are among the lines of all blocks. -/
theorem filterMap_sublist_rewriteBlocks {new : Nat → Option (List String)}
    {line? : Nat → Option String}
    (h : ∀ k line, line? k = some line → ∃ lines, new k = some lines ∧ line ∈ lines)
    (blocks : List Block) (i : Nat) :
    ((List.range' i blocks.length).filterMap line?).Sublist (rewriteBlocks new i blocks) := by
  induction blocks generalizing i with
  | nil => exact List.Sublist.refl _
  | cons block blocks ih =>
    have hrest := ih (i + 1)
    rw [List.length_cons, List.range'_succ, rewriteBlocks]
    cases hline : line? i with
    | none =>
      rw [List.filterMap_cons_none hline]
      exact hrest.trans (List.sublist_append_right _ _)
    | some line =>
      obtain ⟨lines, hnew, hmem⟩ := h i line hline
      rw [List.filterMap_cons_some hline, hnew, Option.getD_some, ← List.singleton_append]
      refine List.Sublist.append ?_ hrest
      exact (List.singleton_sublist.mpr hmem).trans (List.sublist_append_right _ _)

/-- Dropping blank lines at the top keeps text. -/
theorem sublist_trimTop {xs written : List String} (lines : List String)
    (h : xs.Sublist written) (htext : ∀ x ∈ xs, Text.isBlank x = false) :
    xs.Sublist (trimTop lines written) := by
  unfold trimTop
  split
  next =>
    rw [← List.takeWhile_append_dropWhile (p := Text.isBlank) (l := written)] at h
    obtain ⟨front, back, rfl, hfront, hback⟩ := List.sublist_append_iff.mp h
    -- what is dropped is blank, so nothing of the text can come from there
    have hnil : front = [] := by
      rw [List.eq_nil_iff_forall_not_mem]
      intro x hx
      have hblank := Text.isBlank_of_mem_takeWhile x (hfront.subset hx)
      rw [htext x (List.mem_append_left _ hx)] at hblank
      cases hblank
    rw [hnil, List.nil_append]
    exact hback
  next => exact h

theorem flatten_sublist_spaceOut (groups : List (List String)) :
    groups.flatten.Sublist (spaceOut groups) := by
  induction groups with
  | nil => exact List.Sublist.refl _
  | cons group groups ih =>
    cases groups with
    | nil => rw [List.flatten_singleton]; exact List.Sublist.refl _
    | cons next groups =>
      show (group ++ (next :: groups).flatten).Sublist (group ++ "" :: spaceOut (next :: groups))
      exact (List.Sublist.refl group).append (ih.cons "")

/-- Additions are written after the lines there are. -/
theorem append_sublist_appendAdditions (lines : List String) (additions : List Addition) :
    (lines ++ additions.flatMap Addition.toLines).Sublist (appendAdditions lines additions) := by
  have hgroups : additions.flatMap Addition.toLines =
      ((additions.map Addition.toLines).filter (!·.isEmpty)).flatten := by
    rw [List.flatMap_def, List.flatten_filter_not_isEmpty]
  rw [hgroups]
  unfold appendAdditions
  split
  next h => rw [h, List.flatten_nil, List.append_nil]
  next groups _ =>
    exact (List.sublist_append_left _ _).append (flatten_sublist_spaceOut _)

/-- Trimming the whole keeps text, up to white space at the end of a line. -/
theorem map_trimEnd_sublist {xs lines : List String} (h : xs.Sublist lines)
    (htext : ∀ x ∈ xs, Text.isBlank x = false) (hfeeds : ∀ l ∈ lines, '\n' ∉ l.toList) :
    (xs.map Text.trimEnd).Sublist
      ((Text.splitLines (Text.trimEnd (Text.joinLines lines))).map Text.trimEnd) := by
  have hself : xs.filter (!Text.isBlank ·) = xs := by
    rw [List.filter_eq_self]
    intro x hx
    rw [htext x hx]
    rfl
  have hkept := (h.filter (!Text.isBlank ·)).map Text.trimEnd
  rw [hself, ← Text.filter_text_splitLines_trimEnd hfeeds] at hkept
  exact hkept.trans (List.filter_sublist.map _)

/-! ## Drafts with a place -/

/-- Whether the line of a draft has a place: the draft is new, or the note has a directive line for
its entry. -/
def hasPlace (note : String) (draft : Draft) : Bool :=
  draft.sourceIndex.all (· < (directivesIn note).length)

theorem length_blocks (note : String) :
    (Layout.ofLines (Text.splitLines note)).blocks.length = (directivesIn note).length := by
  have h := congrArg List.length (directiveLines_eq_map_directive note)
  rw [List.length_map] at h
  rw [← h]
  exact List.length_map _

theorem hasPlace_of_mem_unclaimed {drafts : List Draft} {a : Draft × Nat}
    (ha : a ∈ unclaimed drafts) (note : String) : hasPlace note a.1 = true := by
  have hnone : a.1.sourceIndex = none := Option.isNone_iff_eq_none.mp (List.mem_filter.mp ha).2
  unfold hasPlace
  rw [hnone, Option.all_none]

/-- The draft of an entry has a place if the note has a directive line for the entry. -/
theorem hasPlace_of_claimant? {drafts : List Draft} {i : Nat} {a : Draft × Nat}
    (ha : claimant? drafts i = some a) (note : String) :
    hasPlace note a.1 = decide (i < (directivesIn note).length) := by
  unfold hasPlace
  rw [(claimant?_spec ha).2, Option.all_some]

/-- Positions past all that stand for something add nothing. -/
theorem filterMap_range_of_le {α : Type} {f : Nat → Option α} {m n : Nat} (hle : m ≤ n)
    (h : ∀ i, m ≤ i → f i = none) :
    (List.range n).filterMap f = (List.range m).filterMap f := by
  obtain ⟨d, rfl⟩ := Nat.exists_eq_add_of_le hle
  have hnone : (List.range d).filterMap (f ∘ fun i => m + i) = [] :=
    List.filterMap_eq_nil_iff.mpr fun i _ => h (m + i) (Nat.le_add_right m i)
  rw [List.range_add, List.filterMap_append, List.filterMap_map, hnone, List.append_nil]

section

variable {drafts : List Draft} {stored : List Entry} {plan : WriteBack}

/-- A draft that points at an entry points at a managed one. -/
theorem exists_managed_of_claimant? (h : WriteBack.plan drafts stored = .ok plan) {i : Nat}
    {a : Draft × Nat} (ha : claimant? drafts i = some a) :
    ∃ directive, stored[i]? = some (.managed directive) := by
  obtain ⟨compiled, hplanned, _⟩ := WriteBack.planned_of_plan h
  obtain ⟨hmem, hsource⟩ := claimant?_spec ha
  exact exists_managed_of_any (hplanned.editable a hmem i hsource)

theorem claimant?_of_le (h : WriteBack.plan drafts stored = .ok plan) {i : Nat}
    (hi : stored.length ≤ i) : claimant? drafts i = none := by
  cases ha : claimant? drafts i with
  | none => rfl
  | some a =>
    obtain ⟨directive, hentry⟩ := exists_managed_of_claimant? h ha
    rw [List.getElem?_eq_none_iff.mpr hi] at hentry
    cases hentry

/-- Of the batch, the drafts with a place are those of the first entries, and the new ones. -/
theorem filter_hasPlace_batchOrder (h : WriteBack.plan drafts stored = .ok plan) (note : String) :
    (batchOrder drafts stored).filter (fun a => hasPlace note a.1) =
      (List.range (directivesIn note).length).filterMap (claimant? drafts) ++ unclaimed drafts := by
  have hnew : (unclaimed drafts).filter (fun a => hasPlace note a.1) = unclaimed drafts :=
    List.filter_eq_self.mpr fun a ha => hasPlace_of_mem_unclaimed ha note
  have hplaced : ∀ i, (claimant? drafts i).filter (fun a => hasPlace note a.1) =
      if i < (directivesIn note).length then claimant? drafts i else none := by
    intro i
    cases ha : claimant? drafts i with
    | none => split <;> rfl
    | some a =>
      rw [Option.filter_some, hasPlace_of_claimant? ha]
      simp only [decide_eq_true_eq]
  unfold batchOrder
  rw [List.filter_append, hnew, List.filter_filterMap, funext hplaced]
  congr 1
  -- neither past the entries nor past the directive lines is there a draft with a place
  rcases Nat.le_total stored.length (directivesIn note).length with hle | hle
  · rw [filterMap_range_of_le hle fun i hi => claimant?_of_le h hi]
    refine List.filterMap_congr fun i hi => ?_
    rw [if_pos (by have := List.mem_range.mp hi; omega)]
  · rw [filterMap_range_of_le hle fun i hi => if_neg (by omega)]
    refine List.filterMap_congr fun i hi => ?_
    rw [if_pos (List.mem_range.mp hi)]

theorem exists_mem_writtenBlock? (h : WriteBack.plan drafts stored = .ok plan) {rendered : String}
    (htext : ∀ a ∈ batchOrder drafts stored,
      Text.isBlank (lineOf drafts stored rendered a.2) = false) (i : Nat) (line : String)
    (hline : (claimant? drafts i).map (fun a => lineOf drafts stored rendered a.2) = some line) :
    ∃ lines, writtenBlock? drafts stored rendered i = some lines ∧ line ∈ lines := by
  obtain ⟨⟨draft, k⟩, ha, rfl⟩ := Option.map_eq_some_iff.mp hline
  obtain ⟨directive, hentry⟩ := exists_managed_of_claimant? h ha
  have hmem := mem_batchOrder_of_claimant? hentry ha
  unfold writtenBlock?
  rw [hentry, ha]
  refine ⟨_, rfl, List.mem_append_right _ ?_⟩
  rw [lineIfAny_of_not_isBlank (htext (draft, k) hmem)]
  exact List.mem_singleton.mpr rfl

/-- The lines of the drafts with a place are written, in the order of the batch. -/
theorem sublist_written (h : WriteBack.plan drafts stored = .ok plan) {rendered : String}
    (htext : ∀ a ∈ batchOrder drafts stored,
      Text.isBlank (lineOf drafts stored rendered a.2) = false) (note : String) :
    (((batchOrder drafts stored).filter fun a => hasPlace note a.1).map fun a =>
      lineOf drafts stored rendered a.2).Sublist
        (appendAdditions ((addressedMerge drafts stored rendered).bodyLines note)
          (addressedMerge drafts stored rendered).additions) := by
  have hold : (((List.range (directivesIn note).length).filterMap (claimant? drafts)).map fun a =>
      lineOf drafts stored rendered a.2).Sublist
        ((addressedMerge drafts stored rendered).bodyLines note) := by
    by_cases he : stored = []
    · have hnone : (List.range (directivesIn note).length).filterMap (claimant? drafts) = [] := by
        rw [List.filterMap_eq_nil_iff]
        intro i _
        exact claimant?_of_le h (by rw [he]; exact Nat.zero_le i)
      rw [hnone]
      exact List.nil_sublist _
    · rw [Merge.bodyLines_of_entries he]
      refine sublist_trimTop _ ?_ ?_
      · rw [List.map_filterMap, List.range_eq_range', ← length_blocks]
        refine (filterMap_sublist_rewriteBlocks ?_ _ 0).trans (List.sublist_append_left _ _)
        intro i line hline
        rw [newBlock?_addressedMerge]
        exact exists_mem_writtenBlock? h htext i line hline
      · intro line hline
        obtain ⟨a, ha, rfl⟩ := List.mem_map.mp hline
        have hplaced := List.mem_append_left (unclaimed drafts) ha
        rw [← filter_hasPlace_batchOrder h] at hplaced
        exact htext a (List.mem_filter.mp hplaced).1
  have hnew : ((unclaimed drafts).map fun a => lineOf drafts stored rendered a.2).Sublist
      ((addressedMerge drafts stored rendered).additions.flatMap Addition.toLines) := by
    have hadded : (addressedMerge drafts stored rendered).additions =
        (unclaimed drafts).map fun a =>
          ⟨trimLabel a.1.label, lineOf drafts stored rendered a.2⟩ := rfl
    rw [hadded, List.flatMap_map, List.map_eq_flatMap]
    refine List.Sublist.flatMap_right _ fun a ha => ?_
    rw [Addition.toLines, lineIfAny_of_not_isBlank (htext a (List.mem_append_right _ ha))]
    exact List.sublist_append_right _ _
  rw [filter_hasPlace_batchOrder h, List.map_append]
  exact (hold.append hnew).trans (append_sublist_appendAdditions _ _)

/-! ## Lines without a place -/

/-- What is written in the place of a directive line of the note is decided by lines with a
place. -/
theorem writtenBlock?_congr (h : WriteBack.plan drafts stored = .ok plan)
    {note rendered rendered' : String}
    (hlines : ∀ a ∈ batchOrder drafts stored, hasPlace note a.1 = true →
      lineOf drafts stored rendered' a.2 = lineOf drafts stored rendered a.2)
    {i : Nat} (hi : i < (directivesIn note).length) :
    writtenBlock? drafts stored rendered' i = writtenBlock? drafts stored rendered i := by
  unfold writtenBlock?
  cases ha : claimant? drafts i with
  | none => rfl
  | some a =>
    obtain ⟨draft, k⟩ := a
    obtain ⟨directive, hentry⟩ := exists_managed_of_claimant? h ha
    have hmem := mem_batchOrder_of_claimant? hentry ha
    have hplace : hasPlace note draft = true :=
      (hasPlace_of_claimant? ha note).trans (decide_eq_true hi)
    rw [hentry]
    simp only [hlines (draft, k) hmem hplace]

/-- Lines of drafts without a place are not looked at. -/
theorem WriteBack.finish_congr (h : WriteBack.plan drafts stored = .ok plan)
    {note rendered rendered' : String}
    (hlines : ∀ a ∈ batchOrder drafts stored, hasPlace note a.1 = true →
      lineOf drafts stored rendered' a.2 = lineOf drafts stored rendered a.2) :
    plan.finish note rendered' = plan.finish note rendered := by
  have hbody : (addressedMerge drafts stored rendered').bodyLines note =
      (addressedMerge drafts stored rendered).bodyLines note := by
    by_cases he : stored = []
    · rw [Merge.bodyLines_of_no_entries he, Merge.bodyLines_of_no_entries he]
    · rw [Merge.bodyLines_of_entries he, Merge.bodyLines_of_entries he]
      congr 2
      refine rewriteBlocks_congr _ fun i hi => ?_
      rw [length_blocks] at hi
      rw [Nat.zero_add, newBlock?_addressedMerge, newBlock?_addressedMerge,
        writtenBlock?_congr h hlines hi]
  have hadded : (addressedMerge drafts stored rendered').additions =
      (addressedMerge drafts stored rendered).additions := by
    refine List.map_congr_left fun a ha => ?_
    show Addition.mk (trimLabel a.1.label) (lineOf drafts stored rendered' a.2) =
      ⟨trimLabel a.1.label, lineOf drafts stored rendered a.2⟩
    rw [hlines a (List.mem_append_right _ ha) (hasPlace_of_mem_unclaimed ha note)]
  rw [finish_eq_ok h, finish_eq_ok h, hbody, hadded]

/-- **Which rendered lines are kept.** Where every draft gets a line with text, the lines of the
drafts with a place are found in the finished note, in the order of the batch and each as a line of
its own; so if all have a place, all lines are found. The other lines have no effect on the
note. -/
theorem WriteBack.sublist_finish (h : WriteBack.plan drafts stored = .ok plan) (note : String)
    {rendered : String}
    (hlines : ∀ k < plan.batch.length, ∃ line, (Text.splitLines rendered)[k]? = some line ∧
      Text.isBlank line = false) :
    ∃ out, plan.finish note rendered = .ok out ∧
      ((((batchOrder drafts stored).filter fun a => hasPlace note a.1).map fun a =>
        lineOf drafts stored rendered a.2).map Text.trimEnd).Sublist
          ((Text.splitLines out).map Text.trimEnd) ∧
      ((∀ draft ∈ drafts, hasPlace note draft = true) →
        (((Text.splitLines rendered).take plan.batch.length).map Text.trimEnd).Sublist
          ((Text.splitLines out).map Text.trimEnd)) ∧
      ∀ rendered', (∀ a ∈ batchOrder drafts stored, hasPlace note a.1 = true →
          lineOf drafts stored rendered' a.2 = lineOf drafts stored rendered a.2) →
        plan.finish note rendered' = .ok out := by
  have htext := forall_lineOf h hlines
  have hkept := map_trimEnd_sublist (sublist_written h htext note)
    (fun line hline => by
      obtain ⟨a, ha, rfl⟩ := List.mem_map.mp hline
      exact htext a (List.mem_filter.mp ha).1)
    ((singleLines_addressedMerge drafts stored rendered).not_mem_written note)
  refine ⟨_, finish_eq_ok h note rendered, hkept, fun hall => ?_, fun rendered' hsame => ?_⟩
  · -- then the drafts with a place are all of the batch, and their lines those of the text
    have hself : (batchOrder drafts stored).filter (fun a => hasPlace note a.1) =
        batchOrder drafts stored :=
      List.filter_eq_self.mpr fun a ha => hall a.1 (mem_of_mem_batchOrder h ha)
    have hlen : (batchOrder drafts stored).length ≤ (Text.splitLines rendered).length := by
      by_contra hlt
      obtain ⟨line, hline, _⟩ := hlines (Text.splitLines rendered).length
        (by rw [length_batch h]; omega)
      rw [List.getElem?_eq_none_iff.mpr (Nat.le_refl _)] at hline
      cases hline
    rw [hself, map_lineOf (nodup_batchOrder h) hlen, ← length_batch h] at hkept
    exact hkept
  · rw [finish_congr h hsame, finish_eq_ok h]

/-- Two entries for one directive line of the note, with a template added: what is rendered for the
second entry is not kept. -/
theorem WriteBack.sublist_finish_mixed :
    let entry := Entry.managed (.ofTemplate (.goal ⟨.one⟩) none)
    let drafts : List Draft :=
      [⟨"a", none, "Trip", "", .goal "2000"⟩, ⟨"b", some 1, "", "", .goal "3"⟩,
        ⟨"c", some 0, "Food", "", .goal "2"⟩]
    let rendered := "#goal 2\n#goal 3\n#goal 2000"
    ∃ plan, WriteBack.plan drafts [entry, entry] = .ok plan ∧
      (∀ k < plan.batch.length, ∃ line, (Text.splitLines rendered)[k]? = some line ∧
        Text.isBlank line = false) ∧
      ∃ out, plan.finish "Groceries\n#goal 1" rendered = .ok out ∧
        ["#goal 2", "#goal 2000"].Sublist ((Text.splitLines out).map Text.trimEnd) := by
  intro entry drafts rendered
  have hok : (WriteBack.plan drafts [entry, entry]).isOk = true := by decide +kernel
  obtain ⟨plan, hplan⟩ := exists_of_isOk hok
  have hlines : ∀ k < plan.batch.length, ∃ line, (Text.splitLines rendered)[k]? = some line ∧
      Text.isBlank line = false := by
    have hbatch : plan.batch.length = 3 := by
      rw [length_batch hplan]
      decide +kernel
    intro k hk
    rw [hbatch] at hk
    match k with
    | 0 => exact ⟨"#goal 2", by decide +kernel, by decide +kernel⟩
    | 1 => exact ⟨"#goal 3", by decide +kernel, by decide +kernel⟩
    | 2 => exact ⟨"#goal 2000", by decide +kernel, by decide +kernel⟩
  refine ⟨plan, hplan, hlines, ?_⟩
  obtain ⟨out, hout, hkept, _, _⟩ := sublist_finish hplan "Groceries\n#goal 1" hlines
  have hplaced : (((batchOrder drafts [entry, entry]).filter fun a =>
      hasPlace "Groceries\n#goal 1" a.1).map fun a =>
        lineOf drafts [entry, entry] rendered a.2).map Text.trimEnd =
      ["#goal 2", "#goal 2000"] := by
    decide +kernel
  rw [hplaced] at hkept
  exact ⟨out, hout, hkept⟩

/-- An entry without a directive line: its rendered line is dropped, and nothing is said. -/
theorem WriteBack.finish_without_place :
    let stored := [Entry.managed (.ofTemplate (.goal ⟨.one⟩) none)]
    let drafts : List Draft := [⟨"a", some 0, "", "", .goal "2"⟩]
    ∃ plan, WriteBack.plan drafts stored = .ok plan ∧
      plan.batch.length = 1 ∧ Text.splitLines "#goal 2" = ["#goal 2"] ∧
      Text.isBlank "#goal 2" = false ∧
      plan.finish "plain text" "#goal 2" = .ok "plain text" ∧
      ¬(((Text.splitLines "#goal 2").take plan.batch.length).map Text.trimEnd).Sublist
        ((Text.splitLines "plain text").map Text.trimEnd) := by
  intro stored drafts
  have hok : (WriteBack.plan drafts stored).isOk = true := by decide +kernel
  obtain ⟨plan, hplan⟩ := exists_of_isOk hok
  have hbatch : plan.batch.length = 1 := by
    rw [length_batch hplan]
    decide +kernel
  refine ⟨plan, hplan, hbatch, by decide +kernel, by decide +kernel, ?_, ?_⟩
  · rw [finish_eq_into hplan]
    decide +kernel
  · rw [hbatch]
    decide +kernel

end

end BudgetNotes
