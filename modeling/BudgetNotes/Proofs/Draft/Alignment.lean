import BudgetNotes.Proofs.Draft.Recording
import BudgetNotes.Proofs.Draft.WellFormed
import Mathlib.Data.List.Basic

/-!
# Compiled lists of drafts

No draft is lost when a list is compiled. A draft gives a directive of its
kind, or at least one problem; the directives and the problems come in the
order of the drafts, and every problem has the position of its draft. So where
there is no problem at all, directives and drafts pair up.

Main statement: `Compilation.ofDrafts_aligned`.
-/

namespace BudgetNotes

/-- A draft compiles to a directive of its kind, or has problems. -/
theorem Draft.record_cases (draft : Draft) :
    (∃ d, draft.record = .ok d ∧ draft.compile = .ok d ∧ d.kind = draft.kind) ∨
      ∃ problems, draft.record = .error problems ∧ problems ≠ [] ∧
        draft.compile.value? = none ∧ draft.compile.problems = problems := by
  rw [record_eq]
  cases hcompile : draft.compile with
  | ok d => exact Or.inl ⟨d, rfl, rfl, (compiledFrom_of_compile hcompile).kind⟩
  | failed p ps => exact Or.inr ⟨p :: ps, rfl, List.cons_ne_nil p ps, rfl, rfl⟩

namespace Compilation

theorem directives_fromPosition (position : Nat) (drafts : List Draft) :
    (fromPosition position drafts).directives =
      drafts.filterMap fun draft => draft.compile.value? := by
  induction drafts generalizing position with
  | nil => rfl
  | cons draft drafts ih =>
    show draft.compile.value?.toList ++ (fromPosition (position + 1) drafts).directives = _
    rw [ih, List.filterMap_cons]
    cases draft.compile.value? with
    | none => rfl
    | some d => rfl

theorem problems_fromPosition (position : Nat) (drafts : List Draft) :
    (fromPosition position drafts).problems =
      (drafts.zipIdx position).flatMap fun (draft, k) =>
        draft.compile.problems.map (LocatedProblem.mk k) := by
  induction drafts generalizing position with
  | nil => rfl
  | cons draft drafts ih =>
    show draft.compile.problems.map (LocatedProblem.mk position) ++
      (fromPosition (position + 1) drafts).problems = _
    rw [ih, List.zipIdx_cons, List.flatMap_cons]

/-- The problems at a position are those of the draft there. -/
theorem mem_problems_ofDrafts_iff (drafts : List Draft) (p : LocatedProblem) :
    p ∈ (ofDrafts drafts).problems ↔
      ∃ i draft, drafts[i]? = some draft ∧ p.position = i + 1 ∧
        p.problem ∈ draft.compile.problems := by
  unfold ofDrafts
  rw [problems_fromPosition, List.mem_flatMap]
  constructor
  · rintro ⟨⟨draft, k⟩, hmem, hp⟩
    obtain ⟨hle, hdraft⟩ := List.mem_zipIdx_iff_le_and_getElem?_sub.mp hmem
    obtain ⟨q, hq, rfl⟩ := List.mem_map.mp hp
    have hk : k = k - 1 + 1 := by omega
    exact ⟨k - 1, draft, hdraft, hk, hq⟩
  · rintro ⟨i, draft, hdraft, hposition, hproblem⟩
    have hmem : (draft, i + 1) ∈ drafts.zipIdx 1 :=
      List.mem_zipIdx_iff_le_and_getElem?_sub.mpr ⟨by omega, hdraft⟩
    refine ⟨(draft, i + 1), hmem, List.mem_map.mpr ⟨p.problem, hproblem, ?_⟩⟩
    rw [← hposition]

theorem isOk_iff (drafts : List Draft) :
    (ofDrafts drafts).isOk = true ↔ ∀ draft ∈ drafts, draft.compile.problems = [] := by
  unfold isOk
  rw [List.isEmpty_iff, List.eq_nil_iff_forall_not_mem]
  constructor
  · intro h draft hdraft
    obtain ⟨i, hi⟩ := List.mem_iff_getElem?.mp hdraft
    rw [List.eq_nil_iff_forall_not_mem]
    intro q hq
    exact h ⟨i + 1, q⟩ ((mem_problems_ofDrafts_iff drafts _).mpr ⟨i, draft, hi, rfl, hq⟩)
  · intro h p hp
    obtain ⟨i, draft, hdraft, _, hproblem⟩ := (mem_problems_ofDrafts_iff drafts p).mp hp
    rw [h draft (List.mem_iff_getElem?.mpr ⟨i, hdraft⟩)] at hproblem
    cases hproblem

/-- There is no problem if all drafts compile. -/
theorem isOk_iff_compiles (drafts : List Draft) :
    (ofDrafts drafts).isOk = true ↔ ∀ draft ∈ drafts, ∃ d, draft.compile = .ok d := by
  rw [isOk_iff]
  constructor
  · intro h draft hdraft
    exact (Check.problems_eq_nil_iff _).mp (h draft hdraft)
  · intro h draft hdraft
    exact (Check.problems_eq_nil_iff _).mpr (h draft hdraft)

/-- Drafts that have a directive each pair up with them. -/
theorem map_ok_filterMap_value? {drafts : List Draft}
    (h : ∀ draft ∈ drafts, draft.compile.problems = []) :
    (drafts.filterMap fun draft => draft.compile.value?).map Check.ok =
      drafts.map Draft.compile := by
  induction drafts with
  | nil => rfl
  | cons draft drafts ih =>
    obtain ⟨d, hd⟩ := (Check.problems_eq_nil_iff _).mp (h draft (List.mem_cons_self ..))
    have hvalue : draft.compile.value? = some d := Check.value?_eq_some_iff.mpr hd
    have hrest := ih fun other hother => h other (List.mem_cons_of_mem _ hother)
    rw [List.filterMap_cons, hvalue, List.map_cons, List.map_cons, hd]
    exact congrArg (Check.ok d :: ·) hrest

/-- **No draft is lost.** Every draft has a directive of its kind or a problem, in one pass as in
checks that are combined. The directives are those of the drafts that compile, and the problems
those of all others with their positions, both in the order of the drafts; and there is no problem
exactly when each draft has its own directive. -/
theorem ofDrafts_aligned (drafts : List Draft) :
    (∀ draft : Draft,
      (∃ d, draft.record = .ok d ∧ draft.compile = .ok d ∧ d.kind = draft.kind) ∨
        ∃ problems, draft.record = .error problems ∧ problems ≠ [] ∧
          draft.compile.value? = none ∧ draft.compile.problems = problems) ∧
    (ofDrafts drafts).directives = drafts.filterMap (fun draft => draft.compile.value?) ∧
    (ofDrafts drafts).problems = (drafts.zipIdx.flatMap fun (draft, i) =>
      draft.compile.problems.map fun p => ⟨i + 1, p⟩) ∧
    (∀ i draft, drafts[i]? = some draft →
      ((∃ p ∈ (ofDrafts drafts).problems, p.position = i + 1) ↔ draft.compile.value? = none)) ∧
    ((ofDrafts drafts).isOk = true ↔
      (ofDrafts drafts).directives.map Check.ok = drafts.map Draft.compile) := by
  refine ⟨Draft.record_cases, directives_fromPosition 1 drafts, ?_, fun i draft hdraft => ?_, ?_⟩
  · -- positions are counted from 1
    have hcount : drafts.zipIdx 1 = drafts.zipIdx.map fun (draft, i) => (draft, i + 1) :=
      List.zipIdx_succ
    unfold ofDrafts
    rw [problems_fromPosition, hcount, List.flatMap_map]
  · constructor
    · rintro ⟨p, hp, hposition⟩
      obtain ⟨j, other, hother, hj, hproblem⟩ := (mem_problems_ofDrafts_iff drafts p).mp hp
      have hij : i = j := by omega
      rw [hij, hother] at hdraft
      cases hdraft
      cases hcompile : draft.compile with
      | ok d =>
        rw [hcompile] at hproblem
        cases hproblem
      | failed q qs => rfl
    · intro hnone
      cases hcompile : draft.compile with
      | ok d =>
        rw [hcompile] at hnone
        cases hnone
      | failed q qs =>
        refine ⟨⟨i + 1, q⟩, (mem_problems_ofDrafts_iff drafts _).mpr ⟨i, draft, hdraft, rfl, ?_⟩,
          rfl⟩
        rw [hcompile]
        exact List.mem_cons_self ..
  · have hdirectives : (ofDrafts drafts).directives =
        drafts.filterMap fun draft => draft.compile.value? := directives_fromPosition 1 drafts
    rw [isOk_iff, hdirectives]
    refine ⟨map_ok_filterMap_value?, fun h draft hdraft => ?_⟩
    -- a draft among those that were compiled has a value
    have hmem : draft.compile ∈ drafts.map Draft.compile := List.mem_map_of_mem hdraft
    rw [← h] at hmem
    obtain ⟨d, _, hd⟩ := List.mem_map.mp hmem
    rw [← hd]
    rfl

end Compilation

end BudgetNotes
