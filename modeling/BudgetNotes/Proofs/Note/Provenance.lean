import BudgetNotes.Proofs.Note.Loading
import BudgetNotes.Proofs.Note.Planning

/-!
# Where loaded drafts come from

A loaded draft points at the stored entry it was made from, and everything else
in it is said by that index alone (`LoadedFrom`): its fields are those of the
entry's directive, and its label stands above the directive line of the same
number, if the note has that many. How many entries before it could not be
read, and how many lines and entries there are after it, plays no part.

> `LoadedFrom.unique`: there is one list of such drafts.

Main statement: `draftsOf_eq_iff`.
-/

namespace BudgetNotes

/-- What loaded drafts are, said by the entries they point at. -/
structure LoadedFrom (newId : Nat → String) (note : String) (stored : List Entry)
    (drafts : List Draft) : Prop where
  /-- There is one draft for every managed entry, in stored order. -/
  sources : drafts.map Draft.sourceIndex =
    ((List.range stored.length).filter (isEditable stored)).map some
  id_eq : ∀ draft ∈ drafts, ∀ s, draft.sourceIndex = some s → draft.id = newId s
  form_eq : ∀ draft ∈ drafts, ∀ s d, draft.sourceIndex = some s →
    stored[s]? = some (.managed d) → draft.form = .ofTemplate d.template
  priority_eq : ∀ draft ∈ drafts, ∀ s d, draft.sourceIndex = some s →
    stored[s]? = some (.managed d) →
    draft.priority = (d.priority.map fun p => Text.intNumeral p.toInt).getD ""
  /-- The label stands above the directive line with the number of the entry. -/
  labelled : ∀ draft ∈ drafts, ∀ s line, draft.sourceIndex = some s →
    (directivesIn note)[s]? = some line → draft.label = labelAbove (Text.splitLines note) line
  unlabelled : ∀ draft ∈ drafts, ∀ s, draft.sourceIndex = some s →
    (directivesIn note).length ≤ s → draft.label = ""

/-! ## Labels by position -/

theorem foundLabel_of_getElem? {note : String} {i line : Nat}
    (h : (directivesIn note)[i]? = some line) :
    foundLabel note i = labelAbove (Text.splitLines note) line := by
  rw [foundLabel_eq_getD, h]
  rfl

theorem foundLabel_of_length_le {note : String} {i : Nat} (h : (directivesIn note).length ≤ i) :
    foundLabel note i = "" := by
  rw [foundLabel_eq_getD, List.getElem?_eq_none h]
  rfl

/-! ## Drafts by their entries -/

section

variable {newId : Nat → String} {note : String} {stored : List Entry}

theorem map_sourceIndex_draftsOf (newId : Nat → String) (note : String) (stored : List Entry) :
    (draftsOf newId note stored).map Draft.sourceIndex =
      ((List.range stored.length).filter (isEditable stored)).map some := by
  have hrange : List.range stored.length = stored.zipIdx.map Prod.snd := by
    rw [List.zipIdx_map_snd, List.range_eq_range']
  rw [draftsOf_eq_filterMap, List.map_filterMap, hrange, List.filter_map, List.map_map,
    ← List.filterMap_eq_map, List.filterMap_filter]
  refine List.filterMap_congr fun a ha => ?_
  obtain ⟨entry, i⟩ := a
  have hentry := List.mem_zipIdx_iff_getElem?.mp ha
  show (loaded? newId (foundLabel note) (entry, i)).map Draft.sourceIndex =
    if isEditable stored i = true then some (some i) else none
  unfold isEditable
  rw [hentry]
  cases entry with
  | unparsed line error => rfl
  | managed d => rfl

/-- A draft that points at an entry was loaded from it. -/
theorem eq_loadedDraft_of_mem {draft : Draft} (h : draft ∈ draftsOf newId note stored) {s : Nat}
    (hs : draft.sourceIndex = some s) :
    ∃ d, stored[s]? = some (.managed d) ∧ draft = loadedDraft newId (foundLabel note) s d := by
  obtain ⟨i, d, hentry, rfl⟩ := mem_draftsOf_iff.mp h
  cases hs
  exact ⟨d, hentry, rfl⟩

theorem loadedFrom_draftsOf (newId : Nat → String) (note : String) (stored : List Entry) :
    LoadedFrom newId note stored (draftsOf newId note stored) := by
  constructor
  case sources => exact map_sourceIndex_draftsOf newId note stored
  case id_eq =>
    intro draft hdraft s hs
    obtain ⟨d, _, rfl⟩ := eq_loadedDraft_of_mem hdraft hs
    rfl
  case form_eq =>
    intro draft hdraft s d hs hentry
    obtain ⟨d', hentry', rfl⟩ := eq_loadedDraft_of_mem hdraft hs
    rw [hentry] at hentry'
    cases hentry'
    rfl
  case priority_eq =>
    intro draft hdraft s d hs hentry
    obtain ⟨d', hentry', rfl⟩ := eq_loadedDraft_of_mem hdraft hs
    rw [hentry] at hentry'
    cases hentry'
    rfl
  case labelled =>
    intro draft hdraft s line hs hline
    obtain ⟨d, _, rfl⟩ := eq_loadedDraft_of_mem hdraft hs
    exact foundLabel_of_getElem? hline
  case unlabelled =>
    intro draft hdraft s hs hlength
    obtain ⟨d, _, rfl⟩ := eq_loadedDraft_of_mem hdraft hs
    exact foundLabel_of_length_le hlength

namespace LoadedFrom

variable {drafts drafts' : List Draft}

/-- Every draft points at a managed entry. -/
theorem exists_managed (h : LoadedFrom newId note stored drafts) {draft : Draft}
    (hdraft : draft ∈ drafts) :
    ∃ s d, draft.sourceIndex = some s ∧ stored[s]? = some (.managed d) := by
  have hmem := List.mem_map_of_mem (f := Draft.sourceIndex) hdraft
  rw [h.sources, List.mem_map] at hmem
  obtain ⟨s, hs, hsource⟩ := hmem
  obtain ⟨d, hentry⟩ := isEditable_iff.mp (List.mem_filter.mp hs).2
  exact ⟨s, d, hsource.symm, hentry⟩

/-- The label is said by the source. -/
theorem label_eq (h : LoadedFrom newId note stored drafts) {draft : Draft}
    (hdraft : draft ∈ drafts) {s : Nat} (hs : draft.sourceIndex = some s) :
    draft.label = foundLabel note s := by
  cases hline : (directivesIn note)[s]? with
  | none =>
    have hlength := List.getElem?_eq_none_iff.mp hline
    rw [h.unlabelled draft hdraft s hs hlength, foundLabel_of_length_le hlength]
  | some line => rw [h.labelled draft hdraft s line hs hline, foundLabel_of_getElem? hline]

/-- So is the whole draft. -/
theorem eq_loadedDraft (h : LoadedFrom newId note stored drafts) {draft : Draft}
    (hdraft : draft ∈ drafts) {s : Nat} {d : Directive} (hs : draft.sourceIndex = some s)
    (hentry : stored[s]? = some (.managed d)) :
    draft = loadedDraft newId (foundLabel note) s d := by
  have hid := h.id_eq draft hdraft s hs
  have hlabel := h.label_eq hdraft hs
  have hpriority := h.priority_eq draft hdraft s d hs hentry
  have hform := h.form_eq draft hdraft s d hs hentry
  obtain ⟨id, source, label, priority, form⟩ := draft
  dsimp only at hid hs hlabel hpriority hform
  rw [hid, hs, hlabel, hpriority, hform]
  rfl

/-- There is one list of drafts that are loaded from a note. -/
theorem unique (h : LoadedFrom newId note stored drafts)
    (h' : LoadedFrom newId note stored drafts') : drafts = drafts' := by
  have hsources : drafts.map Draft.sourceIndex = drafts'.map Draft.sourceIndex := by
    rw [h.sources, h'.sources]
  apply List.ext_getElem?
  intro k
  have hk : drafts[k]?.map Draft.sourceIndex = drafts'[k]?.map Draft.sourceIndex := by
    rw [← List.getElem?_map, hsources, List.getElem?_map]
  cases hdraft : drafts[k]? with
  | none =>
    rw [hdraft] at hk
    exact (Option.map_eq_none_iff.mp hk.symm).symm
  | some draft =>
    rw [hdraft, Option.map_some] at hk
    obtain ⟨draft', hdraft', hsame⟩ := Option.map_eq_some_iff.mp hk.symm
    have hmem := List.mem_of_getElem? hdraft
    obtain ⟨s, d, hs, hentry⟩ := h.exists_managed hmem
    rw [hdraft', h.eq_loadedDraft hmem hs hentry,
      h'.eq_loadedDraft (List.mem_of_getElem? hdraft') (hsame.trans hs) hentry]

end LoadedFrom

/-- **Loaded drafts carry the right label and source.** A list of drafts is what is loaded from a
note exactly if it has one draft for every managed entry, in stored order, each with the fields of
its entry and the label above its entry's directive line, or without a label if the note has no such
line. -/
theorem draftsOf_eq_iff {drafts : List Draft} :
    draftsOf newId note stored = drafts ↔ LoadedFrom newId note stored drafts := by
  constructor
  · intro h
    rw [← h]
    exact loadedFrom_draftsOf newId note stored
  · intro h
    exact (loadedFrom_draftsOf newId note stored).unique h

end

end BudgetNotes
