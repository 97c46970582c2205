import BudgetNotes.Proofs.Draft.Alignment
import BudgetNotes.Proofs.Note.Claims

/-!
# Which drafts can be planned

Planning refuses drafts for one of three reasons. If some draft does not
compile, all problems are reported. Otherwise the first draft is reported that
cannot be laid out (`Refused`): one that points at no managed entry, or at an
entry that a draft before it points at. All other drafts are planned, and the
plan has each of them in one slot (`LaidOut`).

> `sourceConflict?_cases`: one pass over the drafts, with what was pointed at
> so far, finds the first draft that cannot be laid out.

Main statement: `WriteBack.plan_characterized`.
-/

namespace BudgetNotes

/-! ## Drafts that cannot be laid out -/

/-- The draft at a position, counted from 0, cannot be laid out. -/
inductive Refused (drafts : List Draft) (stored : List Entry) (k : Nat) : WriteBackError → Prop
  /-- It points at no managed entry. -/
  | dangling {draft : Draft} {source : Nat} (hdraft : drafts[k]? = some draft)
      (hsource : draft.sourceIndex = some source)
      (hmissing : ∀ d, stored[source]? ≠ some (.managed d)) :
      Refused drafts stored k (.noEditableEntry (k + 1) source)
  /-- It points at an entry that an earlier draft points at. -/
  | repeated {draft earlier : Draft} {source j : Nat} (hdraft : drafts[k]? = some draft)
      (hsource : draft.sourceIndex = some source) (hj : j < k)
      (hearlier : drafts[j]? = some earlier) (hclaimed : earlier.sourceIndex = some source) :
      Refused drafts stored k (.claimedTwice source)

/-- The error of the first draft that cannot be laid out. -/
def FirstRefused (drafts : List Draft) (stored : List Entry) (e : WriteBackError) : Prop :=
  ∃ k, Refused drafts stored k e ∧ ∀ j < k, ∀ e', ¬ Refused drafts stored j e'

theorem isEditable_iff {stored : List Entry} {source : Nat} :
    isEditable stored source = true ↔ ∃ d, stored[source]? = some (.managed d) := by
  unfold isEditable
  cases stored[source]? with
  | none => simp
  | some entry => cases entry <;> simp [Entry.isManaged]

section

variable {drafts : List Draft} {stored : List Entry}

/-- Only a draft that points somewhere is refused. -/
theorem Refused.exists_source {k : Nat} {e : WriteBackError} (h : Refused drafts stored k e) :
    ∃ draft source, drafts[k]? = some draft ∧ draft.sourceIndex = some source := by
  cases h with
  | dangling hdraft hsource _ => exact ⟨_, _, hdraft, hsource⟩
  | repeated hdraft hsource _ _ _ => exact ⟨_, _, hdraft, hsource⟩

/-- The ways in which a draft that points somewhere can be refused. -/
theorem refused_iff {k : Nat} {draft : Draft} {source : Nat} (hdraft : drafts[k]? = some draft)
    (hsource : draft.sourceIndex = some source) {e : WriteBackError} :
    Refused drafts stored k e ↔
      (e = .noEditableEntry (k + 1) source ∧ ∀ d, stored[source]? ≠ some (.managed d)) ∨
      (e = .claimedTwice source ∧ ∃ j < k, ∃ earlier, drafts[j]? = some earlier ∧
        earlier.sourceIndex = some source) := by
  constructor
  · intro h
    cases h with
    | dangling hdraft' hsource' hmissing =>
      rw [hdraft] at hdraft'
      cases hdraft'
      rw [hsource] at hsource'
      cases hsource'
      exact Or.inl ⟨rfl, hmissing⟩
    | repeated hdraft' hsource' hj hearlier hclaimed =>
      rw [hdraft] at hdraft'
      cases hdraft'
      rw [hsource] at hsource'
      cases hsource'
      exact Or.inr ⟨rfl, _, hj, _, hearlier, hclaimed⟩
  · rintro (⟨rfl, hmissing⟩ | ⟨rfl, j, hj, earlier, hearlier, hclaimed⟩)
    · exact .dangling hdraft hsource hmissing
    · exact .repeated hdraft hsource hj hearlier hclaimed

/-- The first error is one only: a draft that points where an earlier one does is not also the
first that points at no managed entry. -/
theorem FirstRefused.unique {e e' : WriteBackError} (h : FirstRefused drafts stored e)
    (h' : FirstRefused drafts stored e') : e = e' := by
  obtain ⟨k, hk, hfirst⟩ := h
  obtain ⟨k', hk', hfirst'⟩ := h'
  have hle : k' ≤ k := Nat.le_of_not_lt fun hlt => hfirst' k hlt e hk
  have hge : k ≤ k' := Nat.le_of_not_lt fun hlt => hfirst k' hlt e' hk'
  obtain rfl : k = k' := Nat.le_antisymm hge hle
  obtain ⟨draft, source, hdraft, hsource⟩ := hk.exists_source
  rcases (refused_iff hdraft hsource).mp hk with ⟨rfl, hmissing⟩ | ⟨rfl, hrepeated⟩ <;>
    rcases (refused_iff hdraft hsource).mp hk' with ⟨rfl, hmissing'⟩ | ⟨rfl, hrepeated'⟩
  · rfl
  · obtain ⟨j, hj, earlier, hearlier, hclaimed⟩ := hrepeated'
    exact absurd (.dangling hearlier hclaimed hmissing) (hfirst j hj _)
  · obtain ⟨j, hj, earlier, hearlier, hclaimed⟩ := hrepeated
    exact absurd (.dangling hearlier hclaimed hmissing') (hfirst j hj _)
  · rfl

/-- What holds when the pass comes to a position: nothing was refused, and it has seen all that the
drafts before point at. -/
structure PassedTo (drafts : List Draft) (stored : List Entry) (k : Nat) (seen : List Nat) :
    Prop where
  passed : ∀ j < k, ∀ e, ¬ Refused drafts stored j e
  mem_seen : ∀ source, source ∈ seen ↔
    ∃ j < k, ∃ draft, drafts[j]? = some draft ∧ draft.sourceIndex = some source

/-- One draft further. -/
theorem PassedTo.step {k : Nat} {seen : List Nat} (h : PassedTo drafts stored k seen)
    {draft : Draft} (hdraft : drafts[k]? = some draft) (hk : ∀ e, ¬ Refused drafts stored k e) :
    PassedTo drafts stored (k + 1) (draft.sourceIndex.toList ++ seen) := by
  refine ⟨fun j hj e => ?_, fun source => ?_⟩
  · rcases Nat.lt_succ_iff_lt_or_eq.mp hj with hlt | rfl
    · exact h.passed j hlt e
    · exact hk e
  · rw [List.mem_append, Option.mem_toList, h.mem_seen]
    constructor
    · rintro (hsource | ⟨j, hj, other, hother, hsource⟩)
      · exact ⟨k, Nat.lt_succ_self k, draft, hdraft, hsource⟩
      · exact ⟨j, Nat.lt_succ_of_lt hj, other, hother, hsource⟩
    · rintro ⟨j, hj, other, hother, hsource⟩
      rcases Nat.lt_succ_iff_lt_or_eq.mp hj with hlt | rfl
      · exact Or.inr ⟨j, hlt, other, hother, hsource⟩
      · rw [hdraft] at hother
        cases hother
        exact Or.inl hsource

/-- From a position on, the pass finds the first draft that cannot be laid out, if there is one. -/
theorem sourceConflict?_cases {k : Nat} {seen : List Nat} (h : PassedTo drafts stored k seen)
    {rest : List Draft} (hrest : rest = drafts.drop k) :
    (∃ e, sourceConflict? stored (k + 1) seen rest = some e ∧ FirstRefused drafts stored e) ∨
      (sourceConflict? stored (k + 1) seen rest = none ∧ ∀ j e, ¬ Refused drafts stored j e) := by
  induction rest generalizing k seen with
  | nil =>
    right
    refine ⟨rfl, fun j e hj => ?_⟩
    have hlength : drafts.length ≤ k := List.drop_eq_nil_iff.mp hrest.symm
    -- a draft that is refused is one of those passed
    obtain ⟨draft, source, hdraft, _⟩ := hj.exists_source
    have hlt : j < drafts.length := (List.getElem?_eq_some_iff.mp hdraft).1
    exact h.passed j (Nat.lt_of_lt_of_le hlt hlength) e hj
  | cons draft rest ih =>
    have hdraft : drafts[k]? = some draft := by
      rw [← List.head?_drop, ← hrest, List.head?_cons]
    have hnext : rest = drafts.drop (k + 1) := by
      rw [← List.tail_drop, ← hrest, List.tail_cons]
    rw [sourceConflict?]
    cases hsource : draft.sourceIndex with
    | none =>
      have hk : ∀ e, ¬ Refused drafts stored k e := by
        intro e he
        obtain ⟨other, source, hother, hpoints⟩ := he.exists_source
        rw [hdraft] at hother
        cases hother
        rw [hsource] at hpoints
        cases hpoints
      have hstep := h.step hdraft hk
      rw [hsource] at hstep
      exact ih hstep hnext
    | some source =>
      simp only [Bool.not_eq_true']
      cases heditable : isEditable stored source with
      | false =>
        left
        have hmissing : ∀ d, stored[source]? ≠ some (.managed d) := by
          intro d hd
          rw [isEditable_iff.mpr ⟨d, hd⟩] at heditable
          cases heditable
        rw [if_pos rfl]
        exact ⟨_, rfl, k, .dangling hdraft hsource hmissing, h.passed⟩
      | true =>
        rw [if_neg Bool.false_ne_true.symm]
        by_cases hseen : source ∈ seen
        · left
          rw [if_pos (List.contains_iff_mem.mpr hseen)]
          obtain ⟨j, hj, earlier, hearlier, hclaimed⟩ := (h.mem_seen source).mp hseen
          exact ⟨_, rfl, k, .repeated hdraft hsource hj hearlier hclaimed, h.passed⟩
        · rw [if_neg (fun hcontains => hseen (List.contains_iff_mem.mp hcontains))]
          have hk : ∀ e, ¬ Refused drafts stored k e := by
            intro e he
            rcases (refused_iff hdraft hsource).mp he with ⟨_, hmissing⟩ | ⟨_, hrepeated⟩
            · obtain ⟨d, hd⟩ := isEditable_iff.mp heditable
              exact hmissing d hd
            · exact hseen ((h.mem_seen source).mpr hrepeated)
          have hstep := h.step hdraft hk
          rw [hsource] at hstep
          exact ih hstep hnext

end

/-! ## What a plan has -/

/-- What is written for a draft: its directive, if it compiles, with its own label. -/
def Draft.piece? (draft : Draft) : Option Piece :=
  draft.compile.value?.map (⟨·, trimLabel draft.label⟩)

theorem Draft.piece?_of_compile {draft : Draft} {d : Directive} (h : draft.compile = .ok d) :
    draft.piece? = some ⟨d, trimLabel draft.label⟩ := by
  unfold piece?
  rw [h]
  rfl

/-- A plan has every draft in one slot: that of the entry it points at, or one after all others.
The other entries are kept if they could not be read, and removed if they could. -/
structure LaidOut (drafts : List Draft) (stored : List Entry) (plan : WriteBack) : Prop where
  stored_eq : plan.stored = stored
  length_eq : plan.slots.length =
    stored.length + (drafts.filter (·.sourceIndex.isNone)).length
  kept : ∀ (i : Nat) (line error : String), stored[i]? = some (.unparsed line error) →
    plan.slots[i]? = some (.kept i)
  edited : ∀ draft ∈ drafts, ∀ i, draft.sourceIndex = some i →
    ∃ d, draft.compile = .ok d ∧ plan.slots[i]? = some (.edited ⟨d, trimLabel draft.label⟩)
  /-- No two drafts point at one entry. -/
  unique : ∀ (j k : Nat) (draft other : Draft) (i : Nat), drafts[j]? = some draft →
    drafts[k]? = some other → draft.sourceIndex = some i → other.sourceIndex = some i → j = k
  removed : ∀ (i : Nat) (d : Directive), stored[i]? = some (.managed d) →
    (∀ draft ∈ drafts, draft.sourceIndex ≠ some i) → plan.slots[i]? = some .removed
  added : (plan.slots.drop stored.length).map some =
    (drafts.filter (·.sourceIndex.isNone)).map fun draft => draft.piece?.map .added
  /-- Every draft is written once, with its own label. -/
  once : ∃ order : List (Draft × Nat), order.Perm drafts.zipIdx ∧
    (plan.slots.filterMap Slot.piece?).map some = order.map fun a => a.1.piece?

namespace Planned

variable {drafts : List Draft} {stored : List Entry} {compiled : List CompiledDraft}

/-- The drafts that point at no entry, before and after compiling. -/
theorem filter_isNone (h : Planned drafts stored compiled) :
    drafts.filter (·.sourceIndex.isNone) =
      (compiled.filter (·.1.sourceIndex.isNone)).map Prod.fst := by
  rw [← h.map_fst, List.filter_map]
  rfl

/-- The slot of a stored entry is the one at its index. -/
theorem getElem?_slots (compiled : List CompiledDraft) {entry : Entry} {i : Nat}
    (hentry : stored[i]? = some entry) :
    (storedSlotsFrom compiled 0 stored ++ addedSlots compiled)[i]? =
      some (slotOf compiled entry i) := by
  obtain ⟨hlt, _⟩ := List.getElem?_eq_some_iff.mp hentry
  have hindex : stored.zipIdx[i]? = some (entry, i) := by
    rw [List.getElem?_zipIdx, hentry, Option.map_some, Nat.zero_add]
  rw [storedSlotsFrom_eq_map,
    List.getElem?_append_left (by rwa [List.length_map, List.length_zipIdx]), List.getElem?_map,
    hindex]
  rfl

/-- What is written, in the order of the batch. -/
theorem pieces_eq (h : Planned drafts stored compiled) :
    ((storedSlotsFrom compiled 0 stored ++ addedSlots compiled).filterMap Slot.piece?).map some =
      (batchOrder drafts stored).map fun a => a.1.piece? := by
  rw [← map_slot_places, List.filterMap_map, List.map_filterMap]
  refine h.filterMap_places (fun entry i hentry => ?_) fun draft hdraft k => ?_
  · show (slotOf compiled entry i).piece?.map some = _
    rcases h.slotOf_cases hentry with ⟨_, hnone, hslot⟩ | ⟨_, hnone, hslot⟩ |
      ⟨_, draft, directive, k, hsome, hslot, hcompile⟩
    · rw [hslot, hnone]
      rfl
    · rw [hslot, hnone]
      rfl
    · rw [hslot, hsome, Option.map_some, Draft.piece?_of_compile hcompile]
      rfl
  · show some (some (pieceOf draft)) = some draft.1.piece?
    rw [Draft.piece?_of_compile (h.compile_eq draft hdraft)]
    rfl

/-- Drafts that fit the stored entries are laid out. -/
theorem laidOut (h : Planned drafts stored compiled) :
    LaidOut drafts stored ⟨stored, storedSlotsFrom compiled 0 stored ++ addedSlots compiled⟩ := by
  have hlength : (storedSlotsFrom compiled 0 stored).length = stored.length := by
    rw [storedSlotsFrom_eq_map, List.length_map, List.length_zipIdx]
  constructor
  case stored_eq => rfl
  case length_eq =>
    rw [List.length_append, hlength, h.filter_isNone, List.length_map]
    unfold addedSlots
    rw [List.length_map]
  case kept =>
    intro i line error hentry
    exact getElem?_slots compiled hentry
  case edited =>
    intro draft hdraft i hsource
    obtain ⟨k, hk⟩ := List.mem_iff_getElem?.mp hdraft
    have hmem : (draft, k) ∈ drafts.zipIdx := List.mem_zipIdx_iff_getElem?.mpr hk
    obtain ⟨d, hentry⟩ := isEditable_iff.mp (h.editable (draft, k) hmem i hsource)
    have hslots := getElem?_slots compiled hentry
    rcases h.slotOf_cases hentry with ⟨hunmanaged, _, _⟩ | ⟨_, hnone, _⟩ |
      ⟨_, other, directive, j, hsome, hslot, hcompile⟩
    · cases hunmanaged
    · -- the entry has a draft, since this one points at it
      have hnot := List.find?_eq_none.mp hnone (draft, k) hmem
      exact absurd (decide_eq_true hsource) hnot
    · obtain ⟨hother, hothersource⟩ := claimant?_spec hsome
      have hsame := h.distinct (draft, k) hmem (other, j) hother i hsource hothersource
      cases hsame
      rw [hslot] at hslots
      exact ⟨directive, hcompile, hslots⟩
  case unique =>
    intro j k draft other i hj hk hsource hother
    have hsame := h.distinct (draft, j) (List.mem_zipIdx_iff_getElem?.mpr hj) (other, k)
      (List.mem_zipIdx_iff_getElem?.mpr hk) i hsource hother
    exact congrArg Prod.snd hsame
  case removed =>
    intro i d hentry hfree
    have hslots := getElem?_slots compiled hentry
    rcases h.slotOf_cases hentry with ⟨hunmanaged, _, _⟩ | ⟨_, _, hslot⟩ |
      ⟨_, other, _, _, hsome, _, _⟩
    · cases hunmanaged
    · rwa [hslot] at hslots
    · obtain ⟨hother, hsource⟩ := claimant?_spec hsome
      exact absurd hsource (hfree other (List.fst_mem_of_mem_zipIdx hother))
  case added =>
    have hdrop : (storedSlotsFrom compiled 0 stored ++ addedSlots compiled).drop stored.length =
        addedSlots compiled := by
      rw [← hlength, List.drop_left]
    rw [hdrop, h.filter_isNone, List.map_map]
    unfold addedSlots
    rw [List.map_map]
    refine List.map_congr_left fun draft hdraft => ?_
    have hcompile := h.compile_eq draft (List.mem_of_mem_filter hdraft)
    show some (Slot.added (pieceOf draft)) = draft.1.piece?.map .added
    rw [Draft.piece?_of_compile hcompile]
    rfl
  case once => exact ⟨batchOrder drafts stored, h.batchOrder_perm, h.pieces_eq⟩

end Planned

/-! ## What is planned -/

namespace WriteBack

/-- Where nothing is refused, drafts that compile are laid out; else the first that is refused is
reported. -/
theorem plan_of_compile {drafts : List Draft} (stored : List Entry)
    (h : ∀ draft ∈ drafts, ∃ d, draft.compile = .ok d) :
    (∃ e, plan drafts stored = .error e ∧ FirstRefused drafts stored e) ∨
    ∃ result, plan drafts stored = .ok result ∧ LaidOut drafts stored result ∧
      ∀ k e, ¬ Refused drafts stored k e := by
  have hok := (Compilation.isOk_iff_compiles drafts).mpr h
  have hstart : PassedTo drafts stored 0 [] :=
    ⟨fun j hj => (Nat.not_lt_zero j hj).elim, fun source =>
      ⟨fun hsource => (List.not_mem_nil hsource).elim,
        fun ⟨j, hj, _⟩ => (Nat.not_lt_zero j hj).elim⟩⟩
  rcases sourceConflict?_cases hstart List.drop_zero.symm with
    ⟨e, hconflict, hfirst⟩ | ⟨hconflict, hnone⟩
  · left
    refine ⟨e, ?_, hfirst⟩
    unfold plan
    dsimp only
    rw [hok, hconflict]
    rfl
  · right
    obtain ⟨result, hresult⟩ : ∃ result, plan drafts stored = .ok result := by
      unfold plan
      dsimp only
      rw [hok, hconflict]
      exact ⟨_, rfl⟩
    obtain ⟨compiled, hplanned, rfl⟩ := planned_of_plan hresult
    exact ⟨_, hresult, hplanned.laidOut, hnone⟩

theorem plan_of_problem {drafts : List Draft} (stored : List Entry)
    (h : ∃ draft ∈ drafts, draft.compile.value? = none) :
    plan drafts stored = .error (.invalid (Compilation.ofDrafts drafts).problems) := by
  have hok : (Compilation.ofDrafts drafts).isOk = false := by
    rw [← Bool.not_eq_true, Compilation.isOk_iff_compiles]
    intro hall
    obtain ⟨draft, hdraft, hnone⟩ := h
    obtain ⟨d, hd⟩ := hall draft hdraft
    rw [hd] at hnone
    cases hnone
  unfold plan
  dsimp only
  rw [hok]
  rfl

/-- **Planning accepts the consistent requests, and only these.** It is one pass over the drafts
and one over the stored entries. If a draft does not compile, it fails with all problems; else, if a
draft cannot be laid out, it fails with the error of the first of them; else it has a plan, in which
every draft has one slot. -/
theorem plan_characterized (drafts : List Draft) (stored : List Entry) :
    gather drafts stored = plan drafts stored ∧
    (∀ e, plan drafts stored = .error e ↔
      ((∃ draft ∈ drafts, draft.compile.value? = none) ∧
        e = .invalid (Compilation.ofDrafts drafts).problems) ∨
      ((∀ draft ∈ drafts, ∃ d, draft.compile = .ok d) ∧ FirstRefused drafts stored e)) ∧
    ((∃ result, plan drafts stored = .ok result ∧ LaidOut drafts stored result) ↔
      (∀ draft ∈ drafts, ∃ d, draft.compile = .ok d) ∧ ∀ k e, ¬ Refused drafts stored k e) := by
  refine ⟨gather_eq_plan drafts stored, ?_⟩
  by_cases hall : ∀ draft ∈ drafts, ∃ d, draft.compile = .ok d
  · have hnone : ¬ ∃ draft ∈ drafts, draft.compile.value? = none := by
      rintro ⟨draft, hdraft, hvalue⟩
      obtain ⟨d, hd⟩ := hall draft hdraft
      rw [hd] at hvalue
      cases hvalue
    rcases plan_of_compile stored hall with ⟨e, herror, hfirst⟩ |
      ⟨result, hresult, hlaid, hpassed⟩
    · refine ⟨fun e' => ⟨fun h => Or.inr ⟨hall, ?_⟩, ?_⟩, ?_, ?_⟩
      · rw [herror] at h
        cases h
        exact hfirst
      · rintro (⟨hsome, _⟩ | ⟨_, hfirst'⟩)
        · exact absurd hsome hnone
        · rw [herror, hfirst.unique hfirst']
      · rintro ⟨result, hresult, _⟩
        rw [herror] at hresult
        cases hresult
      · rintro ⟨_, hpassed⟩
        obtain ⟨k, hk, _⟩ := hfirst
        exact absurd hk (hpassed k e)
    · refine ⟨fun e => ⟨fun h => ?_, ?_⟩, fun _ => ⟨hall, hpassed⟩,
        fun _ => ⟨result, hresult, hlaid⟩⟩
      · rw [hresult] at h
        cases h
      · rintro (⟨hsome, _⟩ | ⟨_, k, hk, _⟩)
        · exact absurd hsome hnone
        · exact absurd hk (hpassed k e)
  · have hsome : ∃ draft ∈ drafts, draft.compile.value? = none := by
      by_contra hno
      refine hall fun draft hdraft => ?_
      cases hcompile : draft.compile with
      | ok d => exact ⟨d, rfl⟩
      | failed p ps => exact absurd ⟨draft, hdraft, by rw [hcompile]; rfl⟩ hno
    have herror := plan_of_problem stored hsome
    refine ⟨fun e => ⟨fun h => Or.inl ⟨hsome, ?_⟩, ?_⟩, ?_, fun ⟨h, _⟩ => absurd h hall⟩
    · rw [herror] at h
      cases h
      rfl
    · rintro (⟨_, rfl⟩ | ⟨h, _⟩)
      · exact herror
      · exact absurd h hall
    · rintro ⟨result, hresult, _⟩
      rw [herror] at hresult
      cases hresult

end WriteBack

end BudgetNotes
