import BudgetNotes.Proofs.Note.Loading
import BudgetNotes.Proofs.Note.Planning

/-!
# The order of drafts

Planning takes the drafts one after another, and which of them it reports
first depends on their order. Whether it succeeds does not: each draft has to
compile, and those that point at entries have to point at different editable
ones (`Plannable`). Nor does the plan, as long as new drafts stay in their
order among each other, for a stored entry takes the one draft that points at
it, wherever that stands.

> `find?_eq_of_perm`: if at most one element satisfies a condition, it is
> found in every order.

Main statement: `WriteBack.plan_reordered`.
-/

namespace BudgetNotes

/-! ## Finding the only one -/

section

variable {α : Type} {p : α → Bool} {xs ys : List α}

/-- Where at most one element satisfies a condition, that one is found. -/
theorem find?_eq_some_iff_of_unique
    (hunique : ∀ a ∈ xs, ∀ b ∈ xs, p a = true → p b = true → a = b) (a : α) :
    xs.find? p = some a ↔ a ∈ xs ∧ p a = true := by
  constructor
  · intro h
    exact ⟨List.mem_of_find?_eq_some h, List.find?_some h⟩
  · intro ⟨hmem, ha⟩
    cases hfind : xs.find? p with
    | none => exact absurd ha (List.find?_eq_none.mp hfind a hmem)
    | some b =>
      have hb := List.mem_of_find?_eq_some hfind
      rw [hunique a hmem b hb ha (List.find?_some hfind)]

/-- So it is found in every order. -/
theorem find?_eq_of_perm (hperm : xs.Perm ys)
    (hunique : ∀ a ∈ xs, ∀ b ∈ xs, p a = true → p b = true → a = b) :
    xs.find? p = ys.find? p := by
  have hunique' : ∀ a ∈ ys, ∀ b ∈ ys, p a = true → p b = true → a = b := by
    intro a ha b hb
    exact hunique a (hperm.mem_iff.mpr ha) b (hperm.mem_iff.mpr hb)
  apply Option.ext
  intro a
  rw [find?_eq_some_iff_of_unique hunique, find?_eq_some_iff_of_unique hunique', hperm.mem_iff]

end

/-! ## Drafts that can be planned -/

/-- Every draft compiles, and those that point at stored entries point at different editable
ones. -/
structure Plannable (drafts : List Draft) (stored : List Entry) : Prop where
  compiles : ∀ draft ∈ drafts, ∃ d, draft.compile = .ok d
  editable : ∀ source ∈ drafts.filterMap Draft.sourceIndex, isEditable stored source = true
  nodup : (drafts.filterMap Draft.sourceIndex).Nodup

/-- No order is asked for. -/
theorem Plannable.of_perm {drafts reordered : List Draft} {stored : List Entry}
    (hperm : drafts.Perm reordered) (h : Plannable drafts stored) : Plannable reordered stored := by
  have hsources := hperm.filterMap Draft.sourceIndex
  constructor
  case compiles =>
    intro draft hdraft
    exact h.compiles draft (hperm.mem_iff.mpr hdraft)
  case editable =>
    intro source hsource
    exact h.editable source (hsources.mem_iff.mpr hsource)
  case nodup => exact hsources.nodup_iff.mp h.nodup

/-- The one pass over the drafts looks for just that. -/
theorem sourceConflict?_eq_none_iff {drafts : List Draft} {stored : List Entry} (position : Nat) :
    sourceConflict? stored position [] drafts = none ↔
      (∀ source ∈ drafts.filterMap Draft.sourceIndex, isEditable stored source = true) ∧
        (drafts.filterMap Draft.sourceIndex).Nodup := by
  constructor
  · intro h
    obtain ⟨heditable, hnodup⟩ := sourceConflict?_eq_none h
    exact ⟨fun source hsource => (heditable source hsource).1, hnodup⟩
  · intro ⟨heditable, hnodup⟩
    refine sourceConflict?_of_nodup (fun source hsource => ?_) hnodup
    exact ⟨heditable source hsource, List.not_mem_nil⟩

/-- There is a plan exactly for drafts that can be planned. -/
theorem WriteBack.exists_plan_iff (drafts : List Draft) (stored : List Entry) :
    (∃ plan, WriteBack.plan drafts stored = .ok plan) ↔ Plannable drafts stored := by
  unfold WriteBack.plan
  dsimp only
  cases hok : (Compilation.ofDrafts drafts).isOk with
  | false =>
    refine iff_of_false (fun ⟨plan, hplan⟩ => ?_) fun h => ?_
    · cases hplan
    · rw [(Compilation.isOk_iff_compiles drafts).mpr h.compiles] at hok
      cases hok
  | true =>
    have hcompiles := (Compilation.isOk_iff_compiles drafts).mp hok
    cases hconflict : sourceConflict? stored 1 [] drafts with
    | some e =>
      refine iff_of_false (fun ⟨plan, hplan⟩ => ?_) fun h => ?_
      · cases hplan
      · rw [(sourceConflict?_eq_none_iff 1).mpr ⟨h.editable, h.nodup⟩] at hconflict
        cases hconflict
    | none =>
      obtain ⟨heditable, hnodup⟩ := (sourceConflict?_eq_none_iff 1).mp hconflict
      exact iff_of_true ⟨_, rfl⟩ ⟨hcompiles, heditable, hnodup⟩

/-! ## Compiled drafts in another order -/

/-- A draft with its directive, if it compiles. -/
def Draft.compiled? (draft : Draft) : Option CompiledDraft :=
  draft.compile.value?.map (draft, ·)

/-- What is kept by a condition on drafts is kept when they are compiled. -/
theorem filter_filterMap_compiled? (keeps : Draft → Bool) (drafts : List Draft) :
    (drafts.filterMap Draft.compiled?).filter (fun c => keeps c.1) =
      (drafts.filter keeps).filterMap Draft.compiled? := by
  rw [List.filter_filterMap, List.filterMap_filter]
  congr 1
  funext draft
  unfold Draft.compiled?
  cases draft.compile.value? with
  | none => split <;> rfl
  | some d => rfl

namespace Planned

variable {drafts : List Draft} {stored : List Entry} {compiled : List CompiledDraft}

/-- The compiled drafts are the drafts, each compiled by itself. -/
theorem compiled_eq (h : Planned drafts stored compiled) :
    compiled = drafts.filterMap Draft.compiled? := by
  have hself : ∀ c ∈ compiled, Draft.compiled? c.1 = some c := by
    intro c hc
    unfold Draft.compiled?
    rw [h.compile_eq c hc]
    rfl
  calc compiled = compiled.filterMap some := List.filterMap_some.symm
    _ = compiled.filterMap (Draft.compiled? ∘ Prod.fst) :=
      List.filterMap_congr fun c hc => (hself c hc).symm
    _ = (compiled.map Prod.fst).filterMap Draft.compiled? := List.filterMap_map.symm
    _ = drafts.filterMap Draft.compiled? := by rw [h.map_fst]

/-- At most one compiled draft points at an entry. -/
theorem eq_of_source (h : Planned drafts stored compiled) {a b : CompiledDraft}
    (ha : a ∈ compiled) (hb : b ∈ compiled) {i : Nat} (hai : a.1.sourceIndex = some i)
    (hbi : b.1.sourceIndex = some i) : a = b := by
  have hposition : ∀ c ∈ compiled, ∃ k, (c.1, k) ∈ drafts.zipIdx := by
    intro c hc
    have hmem : c.1 ∈ drafts := by
      rw [← h.map_fst]
      exact List.mem_map_of_mem hc
    obtain ⟨k, hk⟩ := List.mem_iff_getElem?.mp hmem
    exact ⟨k, List.mem_zipIdx_iff_getElem?.mpr hk⟩
  obtain ⟨j, hj⟩ := hposition a ha
  obtain ⟨k, hk⟩ := hposition b hb
  have hsame : (a.1, j) = (b.1, k) := h.distinct (a.1, j) hj (b.1, k) hk i hai hbi
  have hdraft : a.1 = b.1 := (Prod.mk.inj hsame).1
  -- and one draft has one directive
  have hcompile : Check.ok a.2 = Check.ok b.2 := by
    rw [← h.compile_eq a ha, ← h.compile_eq b hb, hdraft]
  exact Prod.ext hdraft (Check.ok.inj hcompile)

/-- The slots of the stored entries are the same in every order. -/
theorem storedSlotsFrom_eq_of_perm (h : Planned drafts stored compiled)
    {compiled' : List CompiledDraft} (hperm : compiled.Perm compiled') :
    storedSlotsFrom compiled 0 stored = storedSlotsFrom compiled' 0 stored := by
  have hfind : ∀ i : Nat, compiled.find? (·.1.sourceIndex = some i) =
      compiled'.find? (·.1.sourceIndex = some i) := by
    intro i
    refine find?_eq_of_perm hperm fun a ha b hb hai hbi => ?_
    exact h.eq_of_source ha hb (of_decide_eq_true hai) (of_decide_eq_true hbi)
  rw [storedSlotsFrom_eq_map, storedSlotsFrom_eq_map]
  refine List.map_congr_left fun (entry, i) _ => ?_
  show slotOf compiled entry i = slotOf compiled' entry i
  unfold slotOf
  rw [hfind i]

end Planned

/-! ## Plans of reordered drafts -/

namespace WriteBack

variable {drafts reordered : List Draft} {stored : List Entry}

/-- Drafts in another order have the same plan. -/
theorem plan_eq_of_perm (hperm : drafts.Perm reordered)
    (hnew : drafts.filter (·.sourceIndex.isNone) = reordered.filter (·.sourceIndex.isNone))
    {result : WriteBack} (h : plan drafts stored = .ok result) :
    plan reordered stored = .ok result := by
  have hplannable : Plannable reordered stored :=
    .of_perm hperm ((exists_plan_iff drafts stored).mp ⟨result, h⟩)
  obtain ⟨result', h'⟩ := (exists_plan_iff reordered stored).mpr hplannable
  obtain ⟨compiled, hplanned, hresult⟩ := planned_of_plan h
  obtain ⟨compiled', hplanned', hresult'⟩ := planned_of_plan h'
  have hcompiled : compiled.Perm compiled' := by
    rw [hplanned.compiled_eq, hplanned'.compiled_eq]
    exact hperm.filterMap Draft.compiled?
  have hadded : addedSlots compiled = addedSlots compiled' := by
    unfold addedSlots
    rw [hplanned.compiled_eq, hplanned'.compiled_eq,
      filter_filterMap_compiled? (·.sourceIndex.isNone),
      filter_filterMap_compiled? (·.sourceIndex.isNone), hnew]
  rw [h', hresult', hresult, hplanned.storedSlotsFrom_eq_of_perm hcompiled, hadded]

/-- **The order of edited drafts does not matter.** If drafts are reordered, and those that point at
no entry keep their order among each other, then one list can be planned exactly when the other can.
The plans send the same directives to the renderer, in the same order, and write the same note. -/
theorem plan_reordered (stored : List Entry) (hperm : drafts.Perm reordered)
    (hnew : drafts.filter (·.sourceIndex.isNone) = reordered.filter (·.sourceIndex.isNone)) :
    ((∃ result, plan drafts stored = .ok result) ↔
      ∃ result, plan reordered stored = .ok result) ∧
    ∀ result result', plan drafts stored = .ok result → plan reordered stored = .ok result' →
      result.batch = result'.batch ∧
      ∀ note rendered, ∃ out, result.finish note rendered = .ok out ∧
        result'.finish note rendered = .ok out := by
  constructor
  · constructor
    · intro ⟨result, h⟩
      exact ⟨result, plan_eq_of_perm hperm hnew h⟩
    · intro ⟨result, h⟩
      exact ⟨result, plan_eq_of_perm hperm.symm hnew.symm h⟩
  · intro result result' h h'
    rw [plan_eq_of_perm hperm hnew h] at h'
    cases h'
    refine ⟨rfl, fun note rendered => ?_⟩
    exact ⟨_, finish_eq_ok h note rendered, finish_eq_ok h note rendered⟩

/-- Two edited drafts and two new ones; the edited ones change places with each other and with the
new ones. -/
theorem plan_reordered_swapped :
    let entry := Entry.managed (.ofTemplate (.goal ⟨.one⟩) none)
    let food : Draft := ⟨"a", some 1, "Food", "", .goal "20"⟩
    let rent : Draft := ⟨"b", some 0, "", "", .goal "5"⟩
    let trip : Draft := ⟨"c", none, "Trip", "", .goal "2000"⟩
    let car : Draft := ⟨"d", none, "Car", "", .goal "900"⟩
    let drafts := [food, trip, rent, car]
    let reordered := [trip, rent, car, food]
    drafts.Perm reordered ∧
    drafts.filter (·.sourceIndex.isNone) = reordered.filter (·.sourceIndex.isNone) ∧
    ∃ result result', plan drafts [entry, entry] = .ok result ∧
      plan reordered [entry, entry] = .ok result' ∧ result.batch = result'.batch ∧
      ∀ note rendered, ∃ out, result.finish note rendered = .ok out ∧
        result'.finish note rendered = .ok out := by
  intro entry food rent trip car drafts reordered
  have hperm : drafts.Perm reordered := by decide
  have hnew : drafts.filter (·.sourceIndex.isNone) =
      reordered.filter (·.sourceIndex.isNone) := by decide
  have hok : (plan drafts [entry, entry]).isOk = true := by decide +kernel
  obtain ⟨hplanned, hsame⟩ := plan_reordered [entry, entry] hperm hnew
  cases h : plan drafts [entry, entry] with
  | error e =>
    rw [h] at hok
    cases hok
  | ok result =>
    obtain ⟨result', h'⟩ := hplanned.mp ⟨result, h⟩
    obtain ⟨hbatch, hfinish⟩ := hsame result result' h h'
    exact ⟨hperm, hnew, result, result', rfl, h', hbatch, hfinish⟩

end WriteBack

end BudgetNotes
