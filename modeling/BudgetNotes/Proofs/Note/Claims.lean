import BudgetNotes.Proofs.Note.Addressing

/-!
# Planning in one pass

Planning can go through the compiled drafts once, and note for each what it
asks for: a piece for the stored entry it points at, or a slot of its own
(`Claims`). Then it goes through the stored entries, and each takes the piece
that was noted for it. Such a pass finds the conflict that looking at the
sources alone finds, and the piece that an entry takes is that of the draft
pointing at it.

Main statement: `WriteBack.gather_eq_plan`.
-/

namespace BudgetNotes

/-- What the drafts so far ask for. -/
structure Claims where
  /-- The pieces for stored entries, by index. -/
  edits : List (Nat × Piece)
  /-- The slots of drafts that point at no entry. -/
  added : List Slot

namespace Claims

/-- Notes what one draft asks for. -/
def add (stored : List Entry) (position : Nat) (claims : Claims) (draft : CompiledDraft) :
    Except WriteBackError Claims :=
  match draft.1.sourceIndex with
  | none => .ok { claims with added := claims.added ++ [.added (pieceOf draft)] }
  | some source =>
    if !isEditable stored source then .error (.noEditableEntry position source)
    else if (claims.edits.lookup source).isSome then .error (.claimedTwice source)
    else .ok { claims with edits := (source, pieceOf draft) :: claims.edits }

/-- Notes what all drafts ask for, the first of them at `position`. -/
def addAll (stored : List Entry) :
    Nat → Claims → List CompiledDraft → Except WriteBackError Claims
  | _, claims, [] => .ok claims
  | position, claims, draft :: rest => do
    addAll stored (position + 1) (← claims.add stored position draft) rest

/-- The slots of the stored entries, the first of them at `index`: each takes its piece from the
edits. -/
def drain (edits : List (Nat × Piece)) (index : Nat) : List Entry → List Slot
  | [] => []
  | entry :: rest =>
    if !entry.isManaged then .kept index :: drain edits (index + 1) rest
    else match edits.lookup index with
      | some piece => .edited piece :: drain (edits.filter (·.1 != index)) (index + 1) rest
      | none => .removed :: drain edits (index + 1) rest

end Claims

/-- Compiles drafts and lays them out, in one pass over each of the lists. -/
def WriteBack.gather (drafts : List Draft) (stored : List Entry) :
    Except WriteBackError WriteBack :=
  let compilation := Compilation.ofDrafts drafts
  if !compilation.isOk then .error (.invalid compilation.problems)
  else (Claims.addAll stored 1 ⟨[], []⟩ (drafts.zip compilation.directives)).map fun claims =>
    ⟨stored, Claims.drain claims.edits 0 stored ++ claims.added⟩

namespace Claims

/-- The claims are those of the drafts so far. -/
structure Of (claims : Claims) (drafts : List CompiledDraft) : Prop where
  lookup_eq : ∀ i, claims.edits.lookup i =
    (drafts.find? (·.1.sourceIndex = some i)).map pieceOf
  added_eq : claims.added = addedSlots drafts

theorem of_nil : (Claims.mk [] []).Of [] := ⟨fun _ => rfl, rfl⟩

variable {claims : Claims} {drafts : List CompiledDraft}

/-- A draft that points at no entry. -/
theorem Of.add_new (h : claims.Of drafts) {draft : CompiledDraft}
    (hsource : draft.1.sourceIndex = none) :
    { claims with added := claims.added ++ [.added (pieceOf draft)] : Claims }.Of
      (drafts ++ [draft]) := by
  refine ⟨fun i => ?_, ?_⟩
  · have hother : [draft].find? (·.1.sourceIndex = some i) = none := by
      rw [List.find?_singleton, hsource]
      rfl
    rw [List.find?_append, hother, Option.or_none]
    exact h.lookup_eq i
  · have hself : [draft].filter (·.1.sourceIndex.isNone) = [draft] := by
      rw [List.filter_singleton, hsource]
      rfl
    unfold addedSlots
    rw [List.filter_append, List.map_append, hself]
    exact congrArg (· ++ [Slot.added (pieceOf draft)]) h.added_eq

/-- A draft that points at an entry that no draft before it points at. -/
theorem Of.add_edit (h : claims.Of drafts) {draft : CompiledDraft} {source : Nat}
    (hsource : draft.1.sourceIndex = some source) (hfree : claims.edits.lookup source = none) :
    { claims with edits := (source, pieceOf draft) :: claims.edits : Claims }.Of
      (drafts ++ [draft]) := by
  refine ⟨fun i => ?_, ?_⟩
  · rw [List.find?_append, List.find?_singleton, List.lookup_cons, hsource]
    by_cases hi : i = source
    · subst hi
      rw [h.lookup_eq, Option.map_eq_none_iff] at hfree
      rw [hfree, Option.none_or, if_pos (decide_eq_true rfl), beq_self_eq_true]
      rfl
    · have hne : some source ≠ some i := fun heq => hi (Option.some.inj heq).symm
      rw [decide_eq_false hne, if_neg Bool.false_ne_true, Option.or_none,
        beq_eq_false_iff_ne.mpr hi]
      exact h.lookup_eq i
  · have hother : [draft].filter (·.1.sourceIndex.isNone) = [] := by
      rw [List.filter_singleton, hsource]
      rfl
    unfold addedSlots
    rw [List.filter_append, hother, List.append_nil]
    exact h.added_eq

/-- The pass fails where looking at the sources alone finds a conflict, and with it; without one it
has the claims of all drafts. `seen` is what was pointed at before. -/
theorem addAll_cases (stored : List Entry) (h : claims.Of drafts) {seen : List Nat}
    (hseen : ∀ i, (claims.edits.lookup i).isSome = seen.contains i) (position : Nat)
    (rest : List CompiledDraft) :
    (∃ e, sourceConflict? stored position seen (rest.map Prod.fst) = some e ∧
      addAll stored position claims rest = .error e) ∨
    (sourceConflict? stored position seen (rest.map Prod.fst) = none ∧
      ∃ final, addAll stored position claims rest = .ok final ∧ final.Of (drafts ++ rest)) := by
  induction rest generalizing claims drafts seen position with
  | nil => exact Or.inr ⟨rfl, claims, rfl, (List.append_nil drafts).symm ▸ h⟩
  | cons draft rest ih =>
    have happend : drafts ++ draft :: rest = drafts ++ [draft] ++ rest := List.append_cons ..
    rw [List.map_cons, sourceConflict?, addAll, add, happend]
    cases hsource : draft.1.sourceIndex with
    | none => exact ih (h.add_new hsource) hseen (position + 1)
    | some source =>
      dsimp only
      rw [← hseen source]
      cases isEditable stored source with
      | false => exact Or.inl ⟨_, rfl, rfl⟩
      | true =>
        cases hlookup : claims.edits.lookup source with
        | some piece => exact Or.inl ⟨_, rfl, rfl⟩
        | none =>
          refine ih (h.add_edit hsource hlookup) (fun i => ?_) (position + 1)
          rw [List.lookup_cons, List.contains_cons]
          cases i == source with
          | true => rfl
          | false => exact hseen i

/-- The pieces of other entries are still there when one was taken. -/
theorem lookup_filter_ne {i index : Nat} (h : i ≠ index) (edits : List (Nat × Piece)) :
    (edits.filter (·.1 != index)).lookup i = edits.lookup i := by
  induction edits with
  | nil => rfl
  | cons edit edits ih =>
    rw [List.lookup_cons]
    by_cases hedit : edit.1 = index
    · have hother : (i == edit.1) = false := beq_eq_false_iff_ne.mpr (hedit ▸ h)
      rw [List.filter_cons_of_neg (by simp [hedit]), ih, hother]
    · rw [List.filter_cons_of_pos (by simp [hedit]), List.lookup_cons, ih]

/-- What is taken from the edits for the entries above leaves what those below take. -/
theorem drain_eq {edits : List (Nat × Piece)} {index : Nat}
    (h : ∀ i ≥ index, edits.lookup i = (drafts.find? (·.1.sourceIndex = some i)).map pieceOf)
    (stored : List Entry) :
    drain edits index stored = storedSlotsFrom drafts index stored := by
  induction stored generalizing edits index with
  | nil => rfl
  | cons entry stored ih =>
    have hbelow : ∀ i ≥ index + 1, edits.lookup i =
        (drafts.find? (·.1.sourceIndex = some i)).map pieceOf :=
      fun i hi => h i (Nat.le_of_succ_le hi)
    rw [drain, storedSlotsFrom, slotOf]
    cases entry.isManaged with
    | false => exact congrArg (Slot.kept index :: ·) (ih hbelow)
    | true =>
      have hindex := h index (Nat.le_refl index)
      cases hfind : drafts.find? (·.1.sourceIndex = some index) with
      | none =>
        rw [hfind] at hindex
        rw [hindex]
        exact congrArg (Slot.removed :: ·) (ih hbelow)
      | some draft =>
        rw [hfind] at hindex
        rw [hindex]
        refine congrArg (Slot.edited (pieceOf draft) :: ·) (ih fun i hi => ?_)
        rw [← hbelow i hi]
        -- the piece that was taken is not for an entry below
        exact lookup_filter_ne (Nat.ne_of_gt hi) edits

end Claims

/-- **One pass is enough.** Noting what each draft asks for, and handing it out to the stored
entries, gives the plan or its error. -/
theorem WriteBack.gather_eq_plan (drafts : List Draft) (stored : List Entry) :
    WriteBack.gather drafts stored = WriteBack.plan drafts stored := by
  unfold gather plan
  dsimp only
  cases hok : (Compilation.ofDrafts drafts).isOk with
  | false => rfl
  | true =>
    have hfst : (drafts.zip (Compilation.ofDrafts drafts).directives).map Prod.fst = drafts :=
      (Compilation.fromPosition_isOk hok).1
    have hseen : ∀ i : Nat, (List.lookup i ([] : List (Nat × Piece))).isSome = [].contains i :=
      fun _ => rfl
    have hcases := Claims.addAll_cases stored Claims.of_nil hseen 1
      (drafts.zip (Compilation.ofDrafts drafts).directives)
    rw [hfst] at hcases
    rcases hcases with ⟨e, hconflict, hadd⟩ | ⟨hconflict, claims, hadd, hclaims⟩
    · rw [hconflict, hadd]
      rfl
    · rw [List.nil_append] at hclaims
      rw [hconflict, hadd, ← hclaims.added_eq, ← Claims.drain_eq fun i _ => hclaims.lookup_eq i]
      rfl

end BudgetNotes
