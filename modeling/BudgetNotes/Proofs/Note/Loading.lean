import BudgetNotes.Proofs.Draft.Problems
import BudgetNotes.Proofs.Note.Finishing
import BudgetNotes.Proofs.Note.LabelEdges
import BudgetNotes.Proofs.Note.Reread

/-!
# Loaded drafts

Loading walks over the stored entries with the labels that were found, and
takes a label for every managed entry. Said by positions: the draft of the i-th
entry has the label above the i-th directive line of the note, or an empty one
if there is no such line.

> `draftsOf_eq_filterMap`: one draft for every managed entry, in their order.

Drafts that were loaded point at different entries, and no blank line splits
their labels; so if planning refuses them, a field is to blame. In a plan of
such drafts the k-th managed entry has the k-th draft and the k-th line.

Main statements: `draftsOf_eq_filterMap`, `WriteBack.exists_invalid_of_draftsOf` and
`writtenBlock?_draftsOf`.
-/

namespace BudgetNotes

/-! ## What is loaded -/

/-- The label above the i-th directive line of a note; empty if there is none. -/
def foundLabel (note : String) (i : Nat) : String :=
  ((labelledDirectives note)[i]?.map Prod.fst).getD ""

theorem foundLabel_eq_getD (note : String) (i : Nat) :
    foundLabel note i =
      ((directivesIn note)[i]?.map (labelAbove (Text.splitLines note))).getD "" := by
  unfold foundLabel labelledDirectives directivesIn
  rw [List.getElem?_map, Option.map_map]
  rfl

/-- The draft of a directive that was stored as the i-th entry. -/
def loadedDraft (newId label : Nat → String) (i : Nat) (d : Directive) : Draft :=
  { Draft.ofDirective (newId i) d with
    sourceIndex := some i
    label := label i }

/-- The draft of a stored entry, with its position; none if the entry could not be read. -/
def loaded? (newId label : Nat → String) (entry : Entry × Nat) : Option Draft :=
  entry.1.directive?.map (loadedDraft newId label entry.2)

theorem isSome_loaded? (newId label : Nat → String) (entry : Entry × Nat) :
    (loaded? newId label entry).isSome = entry.1.isManaged := by
  obtain ⟨entry, i⟩ := entry
  cases entry <;> rfl

/-- A loaded draft points at its entry. -/
theorem source_of_loaded? {newId label : Nat → String} {entry : Entry × Nat} {i : Nat}
    (h : (loaded? newId label entry).bind Draft.sourceIndex = some i) : entry.2 = i := by
  obtain ⟨entry, j⟩ := entry
  cases entry with
  | unparsed line error => cases h
  | managed d => exact Option.some.inj h

/-- Loading from any entry on; `label` says which label an entry is to get. -/
theorem draftsFrom_eq_filterMap (newId : Nat → String) {found label : Nat → String}
    {positions : List Nat} {index : Nat} (stored : List Entry)
    (h : ∀ j, (positions[j]?.map found).getD "" = label (index + j)) :
    draftsFrom newId index stored
        (((positions.zip stored).filter fun (_, entry) => entry.isManaged).map
          fun (line, _) => found line) =
      (stored.zipIdx index).filterMap (loaded? newId label) := by
  induction stored generalizing positions index with
  | nil => rw [draftsFrom, List.zipIdx_nil, List.filterMap_nil]
  | cons entry stored ih =>
    -- the positions and the entries go on together, whether or not there are positions left
    have hnext : ∀ j, (positions.tail[j]?.map found).getD "" = label (index + 1 + j) := by
      intro j
      rw [List.getElem?_tail, h, Nat.add_assoc, Nat.add_comm 1 j]
    have hrest := ih hnext
    have hfirst := h 0
    rw [Nat.add_zero] at hfirst
    rw [List.zipIdx_cons]
    cases entry with
    | unparsed line error =>
      rw [List.filterMap_cons_none rfl, ← hrest, draftsFrom]
      cases positions <;> rfl
    | managed d =>
      have hdraft : loaded? newId label (.managed d, index) =
          some (loadedDraft newId label index d) := rfl
      rw [List.filterMap_cons_some hdraft, ← hrest, draftsFrom]
      unfold loadedDraft
      rw [← hfirst]
      cases positions <;> rfl

/-- **Loaded drafts by position.** -/
theorem draftsOf_eq_filterMap (newId : Nat → String) (note : String) (stored : List Entry) :
    draftsOf newId note stored = stored.zipIdx.filterMap (loaded? newId (foundLabel note)) := by
  refine draftsFrom_eq_filterMap newId stored fun j => ?_
  rw [Nat.zero_add, foundLabel_eq_getD]
  rfl

theorem mem_draftsOf_iff {newId : Nat → String} {note : String} {stored : List Entry}
    {draft : Draft} :
    draft ∈ draftsOf newId note stored ↔
      ∃ i d, stored[i]? = some (.managed d) ∧ draft = loadedDraft newId (foundLabel note) i d := by
  rw [draftsOf_eq_filterMap, List.mem_filterMap]
  constructor
  · rintro ⟨⟨entry, i⟩, hmem, hdraft⟩
    have hentry := List.mem_zipIdx_iff_getElem?.mp hmem
    cases entry with
    | unparsed line error => cases hdraft
    | managed d =>
      cases hdraft
      exact ⟨i, d, hentry, rfl⟩
  · rintro ⟨i, d, hentry, rfl⟩
    exact ⟨(.managed d, i), List.mem_zipIdx_iff_getElem?.mpr hentry, rfl⟩

/-- The draft of a managed entry has as many before it as managed entries are before that. -/
theorem getElem?_draftsOf (newId : Nat → String) (note : String) {stored : List Entry} {i : Nat}
    {d : Directive} (h : stored[i]? = some (.managed d)) :
    (draftsOf newId note stored)[managedBefore stored i]? =
      some (loadedDraft newId (foundLabel note) i d) := by
  rw [draftsOf_eq_filterMap]
  unfold managedBefore
  rw [getElem?_filterMap_zipIdx (isSome_loaded? _ _) h rfl, Nat.zero_add]
  rfl

/-! ## Labels that were found -/

theorem not_mem_lineFeed_of_mem_blocks {note : String} {block : Block}
    (hblock : block ∈ (Layout.ofLines (Text.splitLines note)).blocks) :
    ∀ l ∈ block.toLines, '\n' ∉ l.toList := by
  intro l hl
  apply Text.not_mem_of_mem_splitLines (s := note)
  rw [← Layout.blocks_append_rest (Text.splitLines note)]
  exact List.mem_append_left _ (List.mem_flatMap.mpr ⟨block, hblock, hl⟩)

/-- The lines of a label have text, and are single lines. -/
theorem label_spec {note : String} {block : Block}
    (hblock : block ∈ (Layout.ofLines (Text.splitLines note)).blocks) :
    (∀ l ∈ block.label, Text.isBlank l = false) ∧ ∀ l ∈ block.label, '\n' ∉ l.toList := by
  have hw := Layout.ofLines_wellFormed (Text.splitLines note) block hblock
  refine ⟨fun l hl => not_isBlank_of_isLabelLine (hw.isLabelLine_of_mem l hl),
    fun l hl => not_mem_lineFeed_of_mem_blocks hblock l ?_⟩
  unfold Block.toLines
  exact List.mem_append_left _ (List.mem_append_right _ hl)

theorem foundLabel_eq (note : String) (i : Nat) :
    foundLabel note i =
      ((Layout.ofLines (Text.splitLines note)).blocks[i]?.map fun block =>
        Text.joinLines block.label).getD "" := by
  unfold foundLabel
  rw [labelledDirectives_eq_map_labelled, List.getElem?_map, Option.map_map]
  rfl

theorem labelHasGap_foundLabel (note : String) (i : Nat) :
    Draft.labelHasGap (foundLabel note i) = false := by
  rw [foundLabel_eq]
  cases hblock : (Layout.ofLines (Text.splitLines note)).blocks[i]? with
  | none => decide
  | some block =>
    obtain ⟨htext, hfeeds⟩ := label_spec (List.mem_of_getElem? hblock)
    exact labelHasGap_joinLines htext hfeeds

/-! ## Planning loaded drafts -/

/-- Drafts that point at different editable entries are in no conflict. -/
theorem sourceConflict?_of_nodup {stored : List Entry} {position : Nat} {seen : List Nat}
    {drafts : List Draft}
    (h : ∀ source ∈ drafts.filterMap Draft.sourceIndex,
      isEditable stored source = true ∧ source ∉ seen)
    (hnodup : (drafts.filterMap Draft.sourceIndex).Nodup) :
    sourceConflict? stored position seen drafts = none := by
  induction drafts generalizing position seen with
  | nil => rfl
  | cons draft drafts ih =>
    rw [sourceConflict?]
    cases hs : draft.sourceIndex with
    | none =>
      rw [List.filterMap_cons_none hs] at h hnodup
      exact ih h hnodup
    | some source =>
      rw [List.filterMap_cons_some hs] at h hnodup
      obtain ⟨hnot, hnodup⟩ := List.nodup_cons.mp hnodup
      obtain ⟨heditable, hseen⟩ := h source (List.mem_cons_self ..)
      have hcontains : ¬seen.contains source = true := by
        rwa [List.contains_iff_mem]
      simp only [heditable, Bool.not_true, Bool.false_eq_true, if_false, if_neg hcontains]
      refine ih (fun i hi => ⟨(h i (List.mem_cons_of_mem _ hi)).1, fun hmem => ?_⟩) hnodup
      rcases List.mem_cons.mp hmem with rfl | hmem
      · exact hnot hi
      · exact (h i (List.mem_cons_of_mem _ hi)).2 hmem

theorem sourceConflict?_draftsOf (newId : Nat → String) (note : String) (stored : List Entry)
    (position : Nat) : sourceConflict? stored position [] (draftsOf newId note stored) = none := by
  refine sourceConflict?_of_nodup (fun source hsource => ⟨?_, List.not_mem_nil⟩) ?_
  · obtain ⟨draft, hdraft, hsource⟩ := List.mem_filterMap.mp hsource
    obtain ⟨i, d, hentry, rfl⟩ := mem_draftsOf_iff.mp hdraft
    cases hsource
    unfold isEditable
    rw [hentry]
    rfl
  · have hpositions : stored.zipIdx.Pairwise fun a b => a.2 ≠ b.2 :=
      List.pairwise_map.mp (List.nodup_zipIdx_map_snd stored)
    rw [draftsOf_eq_filterMap, List.filterMap_filterMap]
    refine List.pairwise_filterMap.mpr (hpositions.imp fun {a b} hne i hi j hj hij => hne ?_)
    rw [source_of_loaded? hi, source_of_loaded? hj, hij]

/-- If planning refuses loaded drafts, it is for a field of theirs. -/
theorem WriteBack.exists_invalid_of_draftsOf {newId : Nat → String} {note : String}
    {stored : List Entry} {e : WriteBackError}
    (h : WriteBack.plan (draftsOf newId note stored) stored = .error e) :
    ∃ problems, e = .invalid problems ∧ ∀ p ∈ problems, p.problem ≠ .blankLineInLabel := by
  unfold WriteBack.plan at h
  simp only [sourceConflict?_draftsOf] at h
  split at h
  next =>
    cases h
    refine ⟨_, rfl, fun p hp hgap => ?_⟩
    obtain ⟨draft, hdraft, hmem⟩ := Compilation.exists_of_mem_fromPosition hp
    obtain ⟨i, d, _, rfl⟩ := mem_draftsOf_iff.mp hdraft
    rw [hgap, Draft.blankLineInLabel_mem_iff] at hmem
    have hlabel := labelHasGap_foundLabel note i
    exact Bool.false_ne_true (hlabel.symm.trans hmem)
  next => cases h

/-! ## A plan of loaded drafts -/

theorem unclaimed_draftsOf (newId : Nat → String) (note : String) (stored : List Entry) :
    unclaimed (draftsOf newId note stored) = [] := by
  unfold unclaimed
  rw [List.filter_eq_nil_iff]
  intro a ha
  obtain ⟨i, d, _, hdraft⟩ := mem_draftsOf_iff.mp (List.fst_mem_of_mem_zipIdx ha)
  show ¬a.1.sourceIndex.isNone = true
  rw [hdraft]
  exact Bool.false_ne_true

section

variable {newId : Nat → String} {note : String} {stored : List Entry} {plan : WriteBack}
  (h : WriteBack.plan (draftsOf newId note stored) stored = .ok plan)
include h

/-- A managed entry has its own draft. -/
theorem claimant?_draftsOf {i : Nat} {d : Directive} (hentry : stored[i]? = some (.managed d)) :
    claimant? (draftsOf newId note stored) i =
      some (loadedDraft newId (foundLabel note) i d, managedBefore stored i) := by
  obtain ⟨compiled, hplanned, _⟩ := WriteBack.planned_of_plan h
  have hmem : (loadedDraft newId (foundLabel note) i d, managedBefore stored i) ∈
      (draftsOf newId note stored).zipIdx :=
    List.mem_zipIdx_iff_getElem?.mpr (getElem?_draftsOf newId note hentry)
  -- some draft points at the entry, and no other does
  obtain ⟨a, ha⟩ : ∃ a, claimant? (draftsOf newId note stored) i = some a := by
    rw [← Option.isSome_iff_exists]
    unfold claimant?
    rw [List.find?_isSome]
    exact ⟨_, hmem, decide_eq_true rfl⟩
  obtain ⟨hamem, hsource⟩ := claimant?_spec ha
  rw [ha, hplanned.distinct a hamem _ hmem i hsource rfl]

/-- The batch has the drafts in their order. -/
theorem getElem?_batchOrder_draftsOf {i : Nat} {d : Directive}
    (hentry : stored[i]? = some (.managed d)) :
    (batchOrder (draftsOf newId note stored) stored)[managedBefore stored i]? =
      some (loadedDraft newId (foundLabel note) i d, managedBefore stored i) := by
  obtain ⟨compiled, hplanned, _⟩ := WriteBack.planned_of_plan h
  have hclaimants : (List.range stored.length).filterMap (claimant? (draftsOf newId note stored)) =
      stored.zipIdx.filterMap fun a =>
        (loaded? newId (foundLabel note) a).map fun draft => (draft, managedBefore stored a.2) := by
    rw [List.range_eq_range', ← List.zipIdx_map_snd, List.filterMap_map]
    refine List.filterMap_congr fun a ha => ?_
    obtain ⟨entry, j⟩ := a
    have hj := List.mem_zipIdx_iff_getElem?.mp ha
    cases entry with
    | unparsed line error => exact hplanned.claimant?_of_unmanaged hj rfl
    | managed d => exact claimant?_draftsOf h hj
  unfold batchOrder
  rw [unclaimed_draftsOf, List.append_nil, hclaimants]
  conv_lhs => rw [managedBefore]
  rw [getElem?_filterMap_zipIdx (fun a => ?_) hentry rfl, Nat.zero_add]
  · rfl
  · rw [Option.isSome_map, isSome_loaded?]

/-- A managed entry is written with its label and the line for its draft. -/
theorem writtenBlock?_draftsOf {i : Nat} {d : Directive}
    (hentry : stored[i]? = some (.managed d)) (rendered : String) :
    writtenBlock? (draftsOf newId note stored) stored rendered i =
      some (labelLines (trimLabel (foundLabel note i)) ++
        lineIfAny ((Text.splitLines rendered)[managedBefore stored i]?.getD "")) := by
  have hline := lineOf_eq_getD (WriteBack.nodup_batchOrder h) rendered
    (getElem?_batchOrder_draftsOf h hentry)
  unfold writtenBlock?
  rw [hentry, claimant?_draftsOf h hentry]
  show some (labelLines (trimLabel (foundLabel note i)) ++ lineIfAny (lineOf _ _ _ _)) = _
  rw [hline]

end

end BudgetNotes
