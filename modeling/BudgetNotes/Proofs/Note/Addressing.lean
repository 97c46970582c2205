import BudgetNotes.Proofs.Note.Dealing
import Mathlib.Data.List.Basic
import Mathlib.Data.List.Nodup
import Mathlib.Data.List.Perm.Basic
import Mathlib.Data.List.Sigma

/-!
# Every rendered line comes to its draft

A plan has its slots in the order of the note, and the drafts were in any
order. What it does is said by drafts alone: the directives are rendered in
the order of `batchOrder`, and the line of a draft is the one at the draft's
place there (`lineOf`). A stored entry gets the line and the label of the draft
that points at it, goes if none does, and stays if it could not be read; a
draft that points at no entry is added with its own line and label
(`addressedMerge`).

> `finish_addressed`: finishing a plan is that merge, and it cannot fail.

For this every stored entry has at most one draft, and no draft points
elsewhere (`Planned`), which planning has checked.
-/

namespace BudgetNotes

/-! ## Lines by drafts -/

/-- The draft that points at a stored entry, with its position among the drafts. -/
def claimant? (drafts : List Draft) (index : Nat) : Option (Draft × Nat) :=
  drafts.zipIdx.find? fun (draft, _) => draft.sourceIndex = some index

/-- The drafts that point at no entry, with their positions. -/
def unclaimed (drafts : List Draft) : List (Draft × Nat) :=
  drafts.zipIdx.filter fun (draft, _) => draft.sourceIndex.isNone

/-- The drafts, with their positions, in the order in which they are rendered. -/
def batchOrder (drafts : List Draft) (stored : List Entry) : List (Draft × Nat) :=
  (List.range stored.length).filterMap (claimant? drafts) ++ unclaimed drafts

/-- The line that was rendered for the k-th draft; empty if there are too few. -/
def lineOf (drafts : List Draft) (stored : List Entry) (rendered : String) (k : Nat) : String :=
  (Text.splitLines rendered)[((batchOrder drafts stored).map Prod.snd).idxOf k]?.getD ""

/-- The label that a stored entry gets, if it is managed. -/
def labelFor? (drafts : List Draft) (entry : Entry) (index : Nat) : Option String :=
  if entry.isManaged then
    match claimant? drafts index with
    | some (draft, _) => some (trimLabel draft.label)
    | none => some ""
  else none

/-- What becomes of a stored entry. -/
def replacementFor (drafts : List Draft) (stored : List Entry) (rendered : String) (entry : Entry)
    (index : Nat) : Replacement :=
  if entry.isManaged then
    match claimant? drafts index with
    | some (_, k) => .replace (lineOf drafts stored rendered k)
    | none => .delete
  else .keep

/-- The merge that writes a rendered text, said by drafts. -/
def addressedMerge (drafts : List Draft) (stored : List Entry) (rendered : String) : Merge where
  entries := stored
  labels := stored.zipIdx.filterMap fun (entry, index) => labelFor? drafts entry index
  replacements := stored.zipIdx.map fun (entry, index) =>
    replacementFor drafts stored rendered entry index
  additions := (unclaimed drafts).map fun (draft, k) =>
    ⟨trimLabel draft.label, lineOf drafts stored rendered k⟩

theorem claimant?_spec {drafts : List Draft} {i : Nat} {a : Draft × Nat}
    (h : claimant? drafts i = some a) : a ∈ drafts.zipIdx ∧ a.1.sourceIndex = some i :=
  ⟨List.mem_of_find?_eq_some h, by simpa using List.find?_some h⟩

/-! ## What planning has checked -/

/-- Without a conflict every draft points at an editable entry that no other draft points at. -/
theorem sourceConflict?_eq_none {stored : List Entry} {position : Nat} {seen : List Nat}
    {drafts : List Draft} (h : sourceConflict? stored position seen drafts = none) :
    (∀ source ∈ drafts.filterMap Draft.sourceIndex,
      isEditable stored source = true ∧ source ∉ seen) ∧
    (drafts.filterMap Draft.sourceIndex).Nodup := by
  induction drafts generalizing position seen with
  | nil => exact ⟨fun source hmem => (List.not_mem_nil hmem).elim, List.nodup_nil⟩
  | cons draft drafts ih =>
    rw [sourceConflict?] at h
    cases hs : draft.sourceIndex with
    | none =>
      rw [hs] at h
      rw [List.filterMap_cons_none hs]
      exact ih h
    | some source =>
      rw [hs] at h
      simp only [Bool.not_eq_true'] at h
      split at h
      next => cases h
      next heditable =>
        split at h
        next => cases h
        next hseen =>
          obtain ⟨hrest, hnodup⟩ := ih h
          rw [Bool.not_eq_false] at heditable
          rw [List.contains_iff_mem] at hseen
          rw [List.filterMap_cons_some hs]
          -- for the drafts below, this source counts as seen
          refine ⟨fun i hi => ?_, List.nodup_cons.mpr ⟨fun hmem => ?_, hnodup⟩⟩
          · rcases List.mem_cons.mp hi with rfl | hi
            · exact ⟨heditable, hseen⟩
            · exact ⟨(hrest i hi).1, fun hmem => (hrest i hi).2 (List.mem_cons_of_mem _ hmem)⟩
          · exact (hrest source hmem).2 (List.mem_cons_self ..)

/-- Where all drafts compile, each has its own directive. -/
theorem Compilation.fromPosition_isOk {position : Nat} {drafts : List Draft}
    (h : (fromPosition position drafts).isOk = true) :
    (drafts.zip (fromPosition position drafts).directives).map Prod.fst = drafts ∧
    ∀ c ∈ drafts.zip (fromPosition position drafts).directives, c.1.compile = .ok c.2 := by
  induction drafts generalizing position with
  | nil => exact ⟨rfl, fun c hc => (List.not_mem_nil hc).elim⟩
  | cons draft drafts ih =>
    unfold isOk fromPosition cons at h
    rw [List.isEmpty_iff, List.append_eq_nil_iff, List.map_eq_nil_iff,
      Check.problems_eq_nil_iff] at h
    obtain ⟨⟨directive, hdirective⟩, hrest⟩ := h
    have hisOk : (fromPosition (position + 1) drafts).isOk = true := List.isEmpty_iff.mpr hrest
    obtain ⟨hfst, hcompile⟩ := ih hisOk
    have hdirectives : (fromPosition position (draft :: drafts)).directives =
        directive :: (fromPosition (position + 1) drafts).directives := by
      rw [fromPosition, cons, hdirective]
      rfl
    rw [hdirectives, List.zip_cons_cons]
    refine ⟨by rw [List.map_cons, hfst], fun c hc => ?_⟩
    rcases List.mem_cons.mp hc with rfl | hc
    · exact hdirective
    · exact hcompile c hc

/-- Drafts that are compiled and fit the stored entries. -/
structure Planned (drafts : List Draft) (stored : List Entry) (compiled : List CompiledDraft) :
    Prop where
  map_fst : compiled.map Prod.fst = drafts
  compile_eq : ∀ c ∈ compiled, c.1.compile = .ok c.2
  editable : ∀ a ∈ drafts.zipIdx, ∀ i, a.1.sourceIndex = some i → isEditable stored i = true
  distinct : ∀ a ∈ drafts.zipIdx, ∀ b ∈ drafts.zipIdx, ∀ i,
    a.1.sourceIndex = some i → b.1.sourceIndex = some i → a = b

/-- The slots of stored entries, each by its position. -/
theorem storedSlotsFrom_eq_map (compiled : List CompiledDraft) (index : Nat)
    (stored : List Entry) :
    storedSlotsFrom compiled index stored =
      (stored.zipIdx index).map fun (entry, i) => slotOf compiled entry i := by
  induction stored generalizing index with
  | nil => rfl
  | cons entry stored ih => rw [storedSlotsFrom, ih, List.zipIdx_cons, List.map_cons]

/-- What a plan consists of. -/
theorem WriteBack.planned_of_plan {drafts : List Draft} {stored : List Entry} {plan : WriteBack}
    (h : WriteBack.plan drafts stored = .ok plan) :
    ∃ compiled, Planned drafts stored compiled ∧
      plan = ⟨stored, storedSlotsFrom compiled 0 stored ++ addedSlots compiled⟩ := by
  unfold WriteBack.plan at h
  simp only [Bool.not_eq_true'] at h
  split at h
  next => cases h
  next hok =>
    rw [Bool.not_eq_false] at hok
    split at h
    next => cases h
    next hsource =>
      obtain ⟨hfst, hcompile⟩ := Compilation.fromPosition_isOk hok
      obtain ⟨heditable, hnodup⟩ := sourceConflict?_eq_none hsource
      refine ⟨_, ⟨hfst, hcompile, ?_, ?_⟩, (Except.ok.inj h).symm⟩
      · intro a ha i hi
        have hmem : a.1 ∈ drafts := List.fst_mem_of_mem_zipIdx ha
        exact (heditable i (List.mem_filterMap.mpr ⟨a.1, hmem, hi⟩)).1
      · intro a ha b hb i hai hbi
        -- two drafts at different positions would be one source twice
        by_contra hne
        have hpairs : drafts.zipIdx.Pairwise fun a b =>
            ∀ i, a.1.sourceIndex = some i → ∀ j, b.1.sourceIndex = some j → i ≠ j := by
          rw [← List.zipIdx_map_fst 0 drafts, List.filterMap_map] at hnodup
          exact List.pairwise_filterMap.mp hnodup
        have hsymm : Std.Symm fun a b : Draft × Nat =>
            ∀ i, a.1.sourceIndex = some i → ∀ j, b.1.sourceIndex = some j → i ≠ j :=
          ⟨fun a b hab i hi j hj hij => hab j hj i hi hij.symm⟩
        exact hpairs.forall ha hb hne i hai i hbi rfl

namespace Planned

variable {drafts : List Draft} {stored : List Entry} {compiled : List CompiledDraft}

/-! ## Drafts and compiled drafts -/

theorem zipIdx_eq (h : Planned drafts stored compiled) :
    drafts.zipIdx = compiled.zipIdx.map (Prod.map Prod.fst id) := by
  rw [← h.map_fst, List.zipIdx_map]

/-- A stored entry has the same draft before and after compiling, if it has one. -/
theorem claimant?_cases (h : Planned drafts stored compiled) (i : Nat) :
    (claimant? drafts i = none ∧ compiled.find? (·.1.sourceIndex = some i) = none) ∨
      ∃ draft directive k, claimant? drafts i = some (draft, k) ∧
        compiled.find? (·.1.sourceIndex = some i) = some (draft, directive) ∧
        draft.compile = .ok directive := by
  have hbefore : claimant? drafts i =
      (compiled.zipIdx.find? fun c => c.1.1.sourceIndex = some i).map (Prod.map Prod.fst id) := by
    unfold claimant?
    rw [h.zipIdx_eq, List.find?_map]
    rfl
  have hafter : compiled.find? (·.1.sourceIndex = some i) =
      (compiled.zipIdx.find? fun c => c.1.1.sourceIndex = some i).map Prod.fst := by
    conv_lhs => rw [← List.zipIdx_map_fst 0 compiled, List.find?_map]
    rfl
  cases hfind : compiled.zipIdx.find? fun c => c.1.1.sourceIndex = some i with
  | none =>
    rw [hfind] at hbefore hafter
    exact Or.inl ⟨hbefore, hafter⟩
  | some c =>
    obtain ⟨⟨draft, directive⟩, k⟩ := c
    rw [hfind] at hbefore hafter
    have hmem : (draft, directive) ∈ compiled :=
      List.fst_mem_of_mem_zipIdx (List.mem_of_find?_eq_some hfind)
    exact Or.inr ⟨draft, directive, k, hbefore, hafter, h.compile_eq (draft, directive) hmem⟩

/-- An entry that could not be read has no draft. -/
theorem claimant?_of_unmanaged (h : Planned drafts stored compiled) {entry : Entry} {i : Nat}
    (hentry : stored[i]? = some entry) (hunmanaged : entry.isManaged = false) :
    claimant? drafts i = none := by
  cases ha : claimant? drafts i with
  | none => rfl
  | some a =>
    obtain ⟨hmem, hsource⟩ := claimant?_spec ha
    have heditable := h.editable a hmem i hsource
    unfold isEditable at heditable
    rw [hentry, Option.any_some, hunmanaged] at heditable
    cases heditable

/-- The batch has every draft, and has it once. -/
theorem batchOrder_perm (h : Planned drafts stored compiled) :
    (batchOrder drafts stored).Perm drafts.zipIdx := by
  have hnodup : drafts.zipIdx.Nodup :=
    List.Nodup.of_map Prod.snd (List.nodup_zipIdx_map_snd drafts)
  have hclaimed : ((List.range stored.length).filterMap (claimant? drafts)).Nodup := by
    refine List.Nodup.filterMap (fun i j a hi hj => ?_) List.nodup_range
    have hij := (claimant?_spec hi).2.symm.trans (claimant?_spec hj).2
    exact Option.some.inj hij
  -- so both lists have the same members, each once
  have hmem : ∀ a, a ∈ (List.range stored.length).filterMap (claimant? drafts) ↔
      a ∈ drafts.zipIdx.filter fun a => !a.1.sourceIndex.isNone := by
    intro a
    rw [List.mem_filterMap, List.mem_filter]
    constructor
    · rintro ⟨i, _, hi⟩
      obtain ⟨ha, hsource⟩ := claimant?_spec hi
      refine ⟨ha, ?_⟩
      rw [hsource]
      rfl
    · rintro ⟨ha, hsome⟩
      cases hsource : a.1.sourceIndex with
      | none =>
        rw [hsource] at hsome
        cases hsome
      | some i =>
        have heditable := h.editable a ha i hsource
        obtain ⟨entry, hentry, _⟩ := (Option.any_eq_true ..).mp heditable
        have hlt : i < stored.length := (List.getElem?_eq_some_iff.mp hentry).1
        refine ⟨i, List.mem_range.mpr hlt, ?_⟩
        -- the entry has a draft, since this one points at it, and so it is this one
        obtain ⟨b, hb⟩ : ∃ b, claimant? drafts i = some b := by
          rw [← Option.isSome_iff_exists]
          unfold claimant?
          rw [List.find?_isSome]
          exact ⟨a, ha, decide_eq_true hsource⟩
        obtain ⟨hbmem, hbsource⟩ := claimant?_spec hb
        rw [hb, h.distinct b hbmem a ha i hbsource hsource]
  have hperm : ((List.range stored.length).filterMap (claimant? drafts)).Perm
      (drafts.zipIdx.filter fun a => !a.1.sourceIndex.isNone) :=
    (List.perm_ext_iff_of_nodup hclaimed (hnodup.filter _)).mpr hmem
  unfold batchOrder unclaimed
  exact ((hperm.append_right _).trans List.perm_append_comm).trans
    (List.filter_append_perm (fun a : Draft × Nat => a.1.sourceIndex.isNone) drafts.zipIdx)

end Planned

/-! ## Places -/

/-- A place that a plan writes: a stored entry, or a draft that points at none; with its
position. -/
inductive Place where
  | stored (entry : Entry) (index : Nat)
  | new (draft : CompiledDraft) (position : Nat)

namespace Place

/-- The slot of a place. -/
def slot (compiled : List CompiledDraft) : Place → Slot
  | stored entry index => slotOf compiled entry index
  | new draft _ => .added (pieceOf draft)

/-- The position of the draft that a place's line is rendered for. -/
def owner (drafts : List Draft) : Place → Option Nat
  | stored _ index => (claimant? drafts index).map Prod.snd
  | new _ position => some position

end Place

/-- The places that a plan writes, in the order of the note. -/
def places (compiled : List CompiledDraft) (stored : List Entry) : List Place :=
  (stored.zipIdx.map fun (entry, index) => .stored entry index) ++
    (compiled.zipIdx.filter fun (draft, _) => draft.1.sourceIndex.isNone).map
      fun (draft, position) => .new draft position

/-- The slots of a plan are those of its places. -/
theorem map_slot_places (compiled : List CompiledDraft) (stored : List Entry) :
    (places compiled stored).map (Place.slot compiled) =
      storedSlotsFrom compiled 0 stored ++ addedSlots compiled := by
  have hadded : addedSlots compiled =
      (compiled.zipIdx.filter fun (draft, _) => draft.1.sourceIndex.isNone).map
        fun (draft, _) => Slot.added (pieceOf draft) := by
    unfold addedSlots
    conv_lhs => rw [← List.zipIdx_map_fst 0 compiled, List.filter_map, List.map_map]
    rfl
  unfold places
  rw [storedSlotsFrom_eq_map, hadded, List.map_append, List.map_map, List.map_map]
  rfl

namespace Planned

variable {drafts : List Draft} {stored : List Entry} {compiled : List CompiledDraft}

/-- New drafts before and after compiling. -/
theorem unclaimed_eq (h : Planned drafts stored compiled) :
    unclaimed drafts =
      (compiled.zipIdx.filter fun (draft, _) => draft.1.sourceIndex.isNone).map
        (Prod.map Prod.fst id) := by
  unfold unclaimed
  rw [h.zipIdx_eq, List.filter_map]
  rfl

/-- What is written for a stored entry, by its draft. -/
theorem slotOf_cases (h : Planned drafts stored compiled) {entry : Entry} {i : Nat}
    (hentry : stored[i]? = some entry) :
    (entry.isManaged = false ∧ claimant? drafts i = none ∧ slotOf compiled entry i = .kept i) ∨
    (entry.isManaged = true ∧ claimant? drafts i = none ∧ slotOf compiled entry i = .removed) ∨
    (entry.isManaged = true ∧ ∃ draft directive k, claimant? drafts i = some (draft, k) ∧
      slotOf compiled entry i = .edited ⟨directive, trimLabel draft.label⟩ ∧
      draft.compile = .ok directive) := by
  unfold slotOf
  cases hmanaged : entry.isManaged with
  | false => exact Or.inl ⟨rfl, h.claimant?_of_unmanaged hentry hmanaged, rfl⟩
  | true =>
    right
    rcases h.claimant?_cases i with ⟨hnone, hfind⟩ | ⟨draft, directive, k, hsome, hfind, hcompile⟩
    · rw [hfind]
      exact Or.inl ⟨rfl, hnone, rfl⟩
    · rw [hfind]
      exact Or.inr ⟨rfl, draft, directive, k, hsome, rfl, hcompile⟩

/-- What each place has through its draft comes in the order of the batch. -/
theorem filterMap_places (h : Planned drafts stored compiled) {γ : Type} {G : Place → Option γ}
    {F : Draft × Nat → γ}
    (hstored : ∀ entry i, stored[i]? = some entry →
      G (.stored entry i) = (claimant? drafts i).map F)
    (hnew : ∀ draft ∈ compiled, ∀ k, G (.new draft k) = some (F (draft.1, k))) :
    (places compiled stored).filterMap G = (batchOrder drafts stored).map F := by
  unfold places batchOrder
  rw [List.filterMap_append, List.map_append, List.filterMap_map, List.filterMap_map,
    List.map_filterMap, h.unclaimed_eq, List.map_map]
  congr 1
  · have hrange : List.range stored.length = stored.zipIdx.map Prod.snd := by
      rw [List.zipIdx_map_snd, List.range_eq_range']
    rw [hrange, List.filterMap_map]
    refine List.filterMap_congr fun a ha => ?_
    exact hstored a.1 a.2 (List.mem_zipIdx_iff_getElem?.mp ha)
  · rw [← List.filterMap_eq_map]
    refine List.filterMap_congr fun a ha => ?_
    exact hnew a.1 (List.fst_mem_of_mem_zipIdx (List.mem_filter.mp ha).1) a.2

theorem filterMap_owner (h : Planned drafts stored compiled) :
    (places compiled stored).filterMap (Place.owner drafts) =
      (batchOrder drafts stored).map Prod.snd :=
  h.filterMap_places (fun _ _ _ => rfl) fun _ _ _ => rfl

/-- A stored entry among the places is a stored entry. -/
theorem mem_places_stored {entry : Entry} {i : Nat}
    (h : Place.stored entry i ∈ places compiled stored) : stored[i]? = some entry := by
  unfold places at h
  rcases List.mem_append.mp h with h | h
  · obtain ⟨a, ha, heq⟩ := List.mem_map.mp h
    cases heq
    exact List.mem_zipIdx_iff_getElem?.mp ha
  · obtain ⟨a, _, heq⟩ := List.mem_map.mp h
    cases heq

/-- The slot of every place fits, and is rendered if the place has a draft. -/
theorem slot_spec (h : Planned drafts stored compiled) {place : Place}
    (hplace : place ∈ places compiled stored) :
    (place.slot compiled).Fits stored ∧
      (place.slot compiled).isRendered = (place.owner drafts).isSome := by
  cases place with
  | new draft k => exact ⟨trivial, rfl⟩
  | stored entry i =>
    have hentry := mem_places_stored hplace
    show (slotOf compiled entry i).Fits stored ∧ (slotOf compiled entry i).isRendered =
      ((claimant? drafts i).map Prod.snd).isSome
    rcases h.slotOf_cases hentry with ⟨hunmanaged, hnone, hslot⟩ | ⟨_, hnone, hslot⟩ |
      ⟨_, draft, directive, k, hsome, hslot, _⟩
    · rw [hslot, hnone]
      exact ⟨⟨entry, hentry, hunmanaged⟩, rfl⟩
    · rw [hslot, hnone]
      exact ⟨trivial, rfl⟩
    · rw [hslot, hsome]
      exact ⟨trivial, rfl⟩

theorem fits_of_mem (h : Planned drafts stored compiled) :
    ∀ slot ∈ (places compiled stored).map (Place.slot compiled), slot.Fits stored := by
  intro slot hslot
  obtain ⟨place, hplace, rfl⟩ := List.mem_map.mp hslot
  exact (h.slot_spec hplace).1

/-- The line that is dealt to a place is that of its draft. -/
theorem renderedSlots_eq (h : Planned drafts stored compiled) (rendered : String) :
    (WriteBack.mk stored ((places compiled stored).map (Place.slot compiled))).renderedSlots
        rendered =
      (places compiled stored).map fun place =>
        (place.slot compiled, (place.slot compiled).finalLine stored
          ((place.owner drafts).bind fun k =>
            (Text.splitLines rendered)[((batchOrder drafts stored).map Prod.snd).idxOf k]?)) := by
  -- no draft owns two places, since the batch has every draft once
  have hnodup : ([] ++ (places compiled stored).filterMap (Place.owner drafts)).Nodup := by
    rw [List.nil_append, h.filterMap_owner]
    exact (h.batchOrder_perm.map Prod.snd).nodup_iff.mpr (List.nodup_zipIdx_map_snd drafts)
  have hdealt :=
    dealLines_eq_map_owner [] (places compiled stored) (Text.splitLines rendered) hnodup
  rw [List.length_nil, List.drop_zero, List.nil_append, h.filterMap_owner] at hdealt
  rw [WriteBack.renderedSlots_eq_dealLines h.fits_of_mem, dealLines_map,
    dealLines_congr fun place hplace => (h.slot_spec hplace).2, hdealt, List.map_map, List.map_map]
  rfl

/-! ## The merge of a plan -/

/-- What only stored entries have. -/
theorem filterMap_places_stored {γ : Type} {G : Place → Option γ}
    (hnew : ∀ draft k, G (.new draft k) = none) :
    (places compiled stored).filterMap G =
      stored.zipIdx.filterMap fun (entry, i) => G (.stored entry i) := by
  unfold places
  rw [List.filterMap_append, List.filterMap_map, List.filterMap_map]
  have hnone : (compiled.zipIdx.filter fun (draft, _) => draft.1.sourceIndex.isNone).filterMap
      (G ∘ fun (draft, k) => Place.new draft k) = [] := by
    rw [List.filterMap_eq_nil_iff]
    intro a _
    exact hnew a.1 a.2
  rw [hnone, List.append_nil]
  rfl

/-- What only new drafts have. -/
theorem filterMap_places_new (h : Planned drafts stored compiled) {γ : Type}
    {G : Place → Option γ} {F : Draft × Nat → γ}
    (hstored : ∀ entry i, stored[i]? = some entry → G (.stored entry i) = none)
    (hnew : ∀ draft k, G (.new draft k) = some (F (draft.1, k))) :
    (places compiled stored).filterMap G = (unclaimed drafts).map F := by
  unfold places
  rw [List.filterMap_append, List.filterMap_map, List.filterMap_map, h.unclaimed_eq, List.map_map,
    ← List.filterMap_eq_map]
  have hnone : stored.zipIdx.filterMap (G ∘ fun (entry, i) => Place.stored entry i) = [] := by
    rw [List.filterMap_eq_nil_iff]
    intro a ha
    exact hstored a.1 a.2 (List.mem_zipIdx_iff_getElem?.mp ha)
  rw [hnone, List.nil_append]
  refine List.filterMap_congr fun a _ => ?_
  exact hnew a.1 a.2

/-- The label of a stored entry's slot is the new label of its draft. -/
theorem label?_slotOf (h : Planned drafts stored compiled) {entry : Entry} {i : Nat}
    (hentry : stored[i]? = some entry) :
    (slotOf compiled entry i).label? = labelFor? drafts entry i := by
  unfold labelFor?
  rcases h.slotOf_cases hentry with ⟨hmanaged, _, hslot⟩ | ⟨hmanaged, hnone, hslot⟩ |
    ⟨hmanaged, draft, directive, k, hsome, hslot, _⟩
  · rw [hslot, hmanaged]
    rfl
  · rw [hslot, hmanaged, hnone]
    rfl
  · rw [hslot, hmanaged, hsome]
    rfl

/-- With its line, the slot says what becomes of the entry. -/
theorem replacement?_slotOf (h : Planned drafts stored compiled) (rendered : String)
    {entry : Entry} {i : Nat} (hentry : stored[i]? = some entry) :
    (slotOf compiled entry i).replacement? ((slotOf compiled entry i).finalLine stored
      (((claimant? drafts i).map Prod.snd).bind fun k =>
        (Text.splitLines rendered)[((batchOrder drafts stored).map Prod.snd).idxOf k]?)) =
      some (replacementFor drafts stored rendered entry i) := by
  unfold replacementFor
  rcases h.slotOf_cases hentry with ⟨hmanaged, _, hslot⟩ | ⟨hmanaged, hnone, hslot⟩ |
    ⟨hmanaged, draft, directive, k, hsome, hslot, _⟩
  · rw [hslot, hmanaged]
    rfl
  · rw [hslot, hmanaged, hnone]
    rfl
  · rw [hslot, hmanaged, hsome]
    rfl

/-- No stored entry is added. -/
theorem addition?_slotOf (h : Planned drafts stored compiled) {entry : Entry} {i : Nat}
    (hentry : stored[i]? = some entry) (line : String) :
    (slotOf compiled entry i).addition? line = none := by
  rcases h.slotOf_cases hentry with ⟨_, _, hslot⟩ | ⟨_, _, hslot⟩ | ⟨_, _, _, _, _, hslot, _⟩
  · rw [hslot]
    rfl
  · rw [hslot]
    rfl
  · rw [hslot]
    rfl

/-- A plan writes the merge that is said by drafts. -/
theorem toMerge_eq (h : Planned drafts stored compiled) (rendered : String) :
    (WriteBack.mk stored ((places compiled stored).map (Place.slot compiled))).toMerge rendered =
      addressedMerge drafts stored rendered := by
  unfold WriteBack.toMerge addressedMerge
  rw [h.renderedSlots_eq]
  congr 1
  · -- labels
    rw [List.filterMap_map, filterMap_places_stored fun _ _ => rfl]
    refine List.filterMap_congr fun a ha => ?_
    exact h.label?_slotOf (List.mem_zipIdx_iff_getElem?.mp ha)
  · -- replacements: every stored entry has one
    have hall :
        (stored.zipIdx.map fun (entry, i) => replacementFor drafts stored rendered entry i) =
        stored.zipIdx.filterMap fun a =>
          some (replacementFor drafts stored rendered a.1 a.2) :=
      (congrFun List.filterMap_eq_map _).symm
    rw [List.filterMap_map, filterMap_places_stored fun _ _ => rfl, hall]
    refine List.filterMap_congr fun a ha => ?_
    exact h.replacement?_slotOf rendered (List.mem_zipIdx_iff_getElem?.mp ha)
  · -- additions
    rw [List.filterMap_map]
    exact h.filterMap_places_new (fun entry i hentry => h.addition?_slotOf hentry _) fun _ _ => rfl

/-- The batch has the directive of every draft at the draft's place. -/
theorem batch_eq (h : Planned drafts stored compiled) :
    (WriteBack.mk stored ((places compiled stored).map (Place.slot compiled))).batch.map Check.ok =
      (batchOrder drafts stored).map fun (draft, _) => draft.compile := by
  unfold WriteBack.batch
  rw [List.map_map, List.map_filterMap, List.filterMap_map]
  refine h.filterMap_places (fun entry i hentry => ?_) fun draft hdraft k => ?_
  · show (slotOf compiled entry i).piece?.map (Check.ok ∘ Piece.directive) = _
    rcases h.slotOf_cases hentry with ⟨_, hnone, hslot⟩ | ⟨_, hnone, hslot⟩ |
      ⟨_, draft, directive, k, hsome, hslot, hcompile⟩
    · rw [hslot, hnone]
      rfl
    · rw [hslot, hnone]
      rfl
    · rw [hslot, hsome]
      exact congrArg some hcompile.symm
  · show some (Check.ok draft.2) = some draft.1.compile
    rw [h.compile_eq draft hdraft]

end Planned

/-- **Every rendered line comes to its draft.** The batch has the directive of every draft, each
once. Finishing a plan does not fail, and is the merge in which every draft has the line at its
place in the batch; what is kept is there, and lines past the batch are dropped. -/
theorem WriteBack.finish_addressed {drafts : List Draft} {stored : List Entry} {plan : WriteBack}
    (h : WriteBack.plan drafts stored = .ok plan) :
    (batchOrder drafts stored).Perm drafts.zipIdx ∧
    plan.batch.map Check.ok = (batchOrder drafts stored).map (fun (draft, _) => draft.compile) ∧
    (∀ index, .kept index ∈ plan.slots → index < stored.length) ∧
    ∀ note rendered, ∃ out, plan.finish note rendered = .ok out ∧
      (addressedMerge drafts stored rendered).into note = .ok out ∧
      ∀ rendered', (Text.splitLines rendered').take plan.batch.length =
          (Text.splitLines rendered).take plan.batch.length →
        plan.finish note rendered' = .ok out := by
  obtain ⟨compiled, hplanned, hplan⟩ := planned_of_plan h
  rw [← map_slot_places] at hplan
  subst hplan
  refine ⟨hplanned.batchOrder_perm, hplanned.batch_eq, fun index hkept => ?_,
    fun note rendered => ?_⟩
  · obtain ⟨entry, hentry, _⟩ := hplanned.fits_of_mem _ hkept
    exact (List.getElem?_eq_some_iff.mp hentry).1
  · have hcount : (addressedMerge drafts stored rendered).replacements.length =
        (addressedMerge drafts stored rendered).entries.length := by
      show (stored.zipIdx.map _).length = stored.length
      rw [List.length_map, List.length_zipIdx]
    obtain ⟨out, hout⟩ : ∃ out, (addressedMerge drafts stored rendered).into note = .ok out :=
      ⟨_, by rw [Merge.into, if_pos hcount]⟩
    have hfinish : finish _ note rendered = .ok out :=
      (congrArg (Merge.into · note) (hplanned.toMerge_eq rendered)).trans hout
    refine ⟨out, hfinish, hout, fun rendered' heq => ?_⟩
    rw [← hfinish]
    unfold finish toMerge
    rw [renderedSlots_congr hplanned.fits_of_mem heq]

/-- A new draft before one that edits, with an entry that stays and one that goes: the lines come
in the order of the note. -/
theorem WriteBack.finish_addressed_mixed :
    let entry := Entry.managed (.ofTemplate (.goal ⟨.one⟩) none)
    let drafts : List Draft :=
      [⟨"a", none, "Trip", "", .goal "2000"⟩, ⟨"b", some 2, "\nFood\n", "1", .average "3"⟩]
    ∃ plan, WriteBack.plan drafts [.unparsed "#template x" "", entry, entry] = .ok plan ∧
      plan.finish "#template x\nFun\n#goal 1\nGroceries\n#goal 1"
          "#template-1 average 3 months\n#goal 2000\nsurplus" =
        .ok "#template x\nFood\n#template-1 average 3 months\n\nTrip\n#goal 2000" := by
  intro entry drafts
  have hok : (WriteBack.plan drafts [.unparsed "#template x" "", entry, entry]).isOk = true := by
    decide +kernel
  obtain ⟨plan, hplan⟩ :
      ∃ plan, WriteBack.plan drafts [.unparsed "#template x" "", entry, entry] = .ok plan := by
    cases hplan : WriteBack.plan drafts [.unparsed "#template x" "", entry, entry] with
    | error e =>
      rw [hplan] at hok
      cases hok
    | ok plan => exact ⟨plan, rfl⟩
  refine ⟨plan, hplan, ?_⟩
  obtain ⟨_, _, _, hfinish⟩ := finish_addressed hplan
  obtain ⟨out, hout, hmerge, _⟩ := hfinish "#template x\nFun\n#goal 1\nGroceries\n#goal 1"
    "#template-1 average 3 months\n#goal 2000\nsurplus"
  rw [hout, ← hmerge]
  decide +kernel

end BudgetNotes
