import BudgetNotes.Proofs.Note.Addressing
import BudgetNotes.Proofs.Note.SingleLines

/-!
# A finished plan, block by block

A plan is finished by the merge that is said by drafts (`addressedMerge`). For
one block that merge looks up the entry of the block and its draft:

> `newBlock?_addressedMerge`: the block of a managed entry becomes the label
> and the line of its draft, or nothing without a draft; all others stay.

The lines of the drafts, in the order of the batch, are the lines of the
rendered text (`map_lineOf`), so what holds of these holds of the line of every
draft.

Main statements: `WriteBack.finish_eq_into`, `newBlock?_addressedMerge` and
`map_lineOf`.
-/

namespace BudgetNotes

/-! ## One block -/

/-- Of a list in which only some members stand for something, the member that as many of these
precede. -/
theorem getElem?_filterMap_zipIdx {α β : Type} {p : α → Bool} {f : α × Nat → Option β}
    (hf : ∀ a, (f a).isSome = p a.1) {xs : List α} {i : Nat} {x : α} (hx : xs[i]? = some x)
    (hp : p x = true) (n : Nat) :
    ((xs.zipIdx n).filterMap f)[(xs.take i).countP p]? = f (x, n + i) := by
  induction xs generalizing i n with
  | nil => cases hx
  | cons y xs ih =>
    rw [List.zipIdx_cons]
    cases i with
    | zero =>
      rw [List.getElem?_cons_zero, Option.some_inj] at hx
      subst hx
      obtain ⟨b, hb⟩ := Option.isSome_iff_exists.mp ((hf (y, n)).trans hp)
      rw [List.filterMap_cons_some hb, List.take_zero, List.countP_nil, List.getElem?_cons_zero,
        Nat.add_zero, hb]
    | succ i =>
      rw [List.getElem?_cons_succ] at hx
      have hrest := ih hx (n + 1)
      have hadd : n + 1 + i = n + (i + 1) := by omega
      rw [hadd] at hrest
      rw [List.take_succ_cons, ← hrest]
      cases hy : p y with
      | true =>
        obtain ⟨b, hb⟩ := Option.isSome_iff_exists.mp ((hf (y, n)).trans hy)
        rw [List.filterMap_cons_some hb, List.countP_cons_of_pos hy, List.getElem?_cons_succ]
      | false =>
        have hb : f (y, n) = none := by
          rw [← Option.not_isSome_iff_eq_none, hf (y, n), hy]
          exact Bool.false_ne_true
        rw [List.filterMap_cons_none hb,
          List.countP_cons_of_neg (by rw [hy]; exact Bool.false_ne_true)]

theorem isSome_labelFor? (drafts : List Draft) (entry : Entry) (i : Nat) :
    (labelFor? drafts entry i).isSome = entry.isManaged := by
  unfold labelFor?
  split
  next hmanaged => split <;> exact hmanaged.symm
  next hmanaged => exact (Bool.not_eq_true _ |>.mp hmanaged).symm

/-- What a finished plan writes in the place of the i-th label and directive. -/
def writtenBlock? (drafts : List Draft) (stored : List Entry) (rendered : String) (i : Nat) :
    Option (List String) :=
  match stored[i]? with
  | some (.managed _) =>
    match claimant? drafts i with
    | some (draft, k) =>
      some (labelLines (trimLabel draft.label) ++ lineIfAny (lineOf drafts stored rendered k))
    | none => some []
  | _ => none

/-- A block without a managed entry stays. -/
theorem writtenBlock?_of_unmanaged {drafts : List Draft} {stored : List Entry} {rendered : String}
    {i : Nat} (h : stored[i]?.any Entry.isManaged = false) :
    writtenBlock? drafts stored rendered i = none := by
  unfold writtenBlock?
  split
  next hentry =>
    rw [hentry] at h
    cases h
  next => rfl

theorem getElem?_replacements (drafts : List Draft) (stored : List Entry) (rendered : String)
    (i : Nat) :
    (addressedMerge drafts stored rendered).replacements[i]? =
      stored[i]?.map fun entry => replacementFor drafts stored rendered entry i := by
  show (stored.zipIdx.map fun a => replacementFor drafts stored rendered a.1 a.2)[i]? = _
  rw [List.getElem?_map, List.getElem?_zipIdx, Option.map_map, Nat.zero_add]
  rfl

/-- The label of an entry is found behind those of the managed entries before it. -/
theorem getElem?_labels (drafts : List Draft) {stored : List Entry} (rendered : String) {i : Nat}
    {entry : Entry} (he : stored[i]? = some entry) (hmanaged : entry.isManaged = true) :
    (addressedMerge drafts stored rendered).labels[managedBefore stored i]? =
      labelFor? drafts entry i := by
  have hlabel := getElem?_filterMap_zipIdx (p := Entry.isManaged)
    (f := fun a => labelFor? drafts a.1 a.2) (fun a => isSome_labelFor? drafts a.1 a.2) he hmanaged
    0
  rw [Nat.zero_add] at hlabel
  exact hlabel

theorem newBlock?_addressedMerge (drafts : List Draft) (stored : List Entry) (rendered : String)
    (i : Nat) :
    (addressedMerge drafts stored rendered).newBlock? i =
      writtenBlock? drafts stored rendered i := by
  have hentries : (addressedMerge drafts stored rendered).entries = stored := rfl
  unfold writtenBlock? Merge.newBlock?
  rw [getElem?_replacements, hentries]
  cases he : stored[i]? with
  | none => rfl
  | some entry =>
    cases entry with
    | unparsed line error => rfl
    | managed directive =>
      rw [getElem?_labels drafts rendered he rfl, Option.map_some]
      simp only [replacementFor, labelFor?, Entry.isManaged, if_true]
      cases claimant? drafts i <;> rfl

/-! ## The lines of the drafts -/

/-- The line of a draft is one line. -/
theorem not_mem_lineOf (drafts : List Draft) (stored : List Entry) (rendered : String) (k : Nat) :
    '\n' ∉ (lineOf drafts stored rendered k).toList := by
  unfold lineOf
  cases hline : (Text.splitLines rendered)[((batchOrder drafts stored).map Prod.snd).idxOf k]? with
  | none => decide
  | some line => exact Text.not_mem_of_mem_splitLines (List.mem_of_getElem? hline)

theorem singleLines_addressedMerge (drafts : List Draft) (stored : List Entry)
    (rendered : String) : (addressedMerge drafts stored rendered).SingleLines := by
  constructor
  · intro i directive line he hr
    have he : stored[i]? = some (.managed directive) := he
    rw [getElem?_replacements, he, Option.map_some, Option.some_inj] at hr
    simp only [replacementFor, Entry.isManaged, if_true] at hr
    cases hclaimant : claimant? drafts i with
    | none =>
      rw [hclaimant] at hr
      cases hr
    | some a =>
      rw [hclaimant] at hr
      cases hr
      exact not_mem_lineOf drafts stored rendered a.2
  · intro addition hmem
    obtain ⟨⟨draft, k⟩, _, rfl⟩ := List.mem_map.mp hmem
    exact not_mem_lineOf drafts stored rendered k

/-- The draft of an entry is in the batch. -/
theorem mem_batchOrder_of_claimant? {drafts : List Draft} {stored : List Entry} {i : Nat}
    {entry : Entry} {a : Draft × Nat} (hentry : stored[i]? = some entry)
    (ha : claimant? drafts i = some a) : a ∈ batchOrder drafts stored := by
  have hlt : i < stored.length := (List.getElem?_eq_some_iff.mp hentry).1
  exact List.mem_append_left _ (List.mem_filterMap.mpr ⟨i, List.mem_range.mpr hlt, ha⟩)

/-! ## The plan -/

namespace WriteBack

variable {drafts : List Draft} {stored : List Entry} {plan : WriteBack}

theorem exists_of_isOk (h : (WriteBack.plan drafts stored).isOk = true) :
    ∃ plan, WriteBack.plan drafts stored = .ok plan := by
  cases hplan : WriteBack.plan drafts stored with
  | error e =>
    rw [hplan] at h
    cases h
  | ok plan => exact ⟨plan, rfl⟩

/-- A plan is finished by the merge that is said by drafts. -/
theorem finish_eq_into (h : WriteBack.plan drafts stored = .ok plan) (note rendered : String) :
    plan.finish note rendered = (addressedMerge drafts stored rendered).into note := by
  obtain ⟨compiled, hplanned, hplan⟩ := planned_of_plan h
  rw [← map_slot_places] at hplan
  rw [hplan]
  exact congrArg (Merge.into · note) (hplanned.toMerge_eq rendered)

/-- It is finished without an error. -/
theorem finish_eq_ok (h : WriteBack.plan drafts stored = .ok plan) (note rendered : String) :
    plan.finish note rendered = .ok (Text.trimEnd (Text.joinLines (appendAdditions
      ((addressedMerge drafts stored rendered).bodyLines note)
      (addressedMerge drafts stored rendered).additions))) := by
  have hcount : (addressedMerge drafts stored rendered).replacements.length =
      (addressedMerge drafts stored rendered).entries.length := by
    show (stored.zipIdx.map _).length = stored.length
    rw [List.length_map, List.length_zipIdx]
  rw [finish_eq_into h, Merge.into, if_pos hcount]

theorem length_batch (h : WriteBack.plan drafts stored = .ok plan) :
    plan.batch.length = (batchOrder drafts stored).length := by
  obtain ⟨compiled, hplanned, hplan⟩ := planned_of_plan h
  rw [← map_slot_places] at hplan
  rw [hplan, ← List.length_map (f := Check.ok), hplanned.batch_eq, List.length_map]

theorem nodup_batchOrder (h : WriteBack.plan drafts stored = .ok plan) :
    ((batchOrder drafts stored).map Prod.snd).Nodup := by
  obtain ⟨compiled, hplanned, _⟩ := planned_of_plan h
  exact (hplanned.batchOrder_perm.map Prod.snd).nodup_iff.mpr (List.nodup_zipIdx_map_snd drafts)

/-- Every draft has its place in the batch. -/
theorem mem_batchOrder (h : WriteBack.plan drafts stored = .ok plan) {draft : Draft}
    (hdraft : draft ∈ drafts) : ∃ k, (draft, k) ∈ batchOrder drafts stored := by
  obtain ⟨compiled, hplanned, _⟩ := planned_of_plan h
  obtain ⟨k, hk⟩ := List.mem_iff_getElem?.mp hdraft
  exact ⟨k, hplanned.batchOrder_perm.mem_iff.mpr (List.mem_zipIdx_iff_getElem?.mpr hk)⟩

theorem mem_of_mem_batchOrder (h : WriteBack.plan drafts stored = .ok plan) {a : Draft × Nat}
    (ha : a ∈ batchOrder drafts stored) : a.1 ∈ drafts := by
  obtain ⟨compiled, hplanned, _⟩ := planned_of_plan h
  exact List.fst_mem_of_mem_zipIdx (hplanned.batchOrder_perm.mem_iff.mp ha)

end WriteBack

/-- The line at a place of the batch is that of the draft there. -/
theorem lineOf_eq_getD {drafts : List Draft} {stored : List Entry}
    (h : ((batchOrder drafts stored).map Prod.snd).Nodup) (rendered : String) {j : Nat}
    {a : Draft × Nat} (ha : (batchOrder drafts stored)[j]? = some a) :
    lineOf drafts stored rendered a.2 = (Text.splitLines rendered)[j]?.getD "" := by
  have hplace : ((batchOrder drafts stored).map Prod.snd)[j]? = some a.2 := by
    rw [List.getElem?_map, ha, Option.map_some]
  obtain ⟨hlt, hget⟩ := List.getElem?_eq_some_iff.mp hplace
  unfold lineOf
  rw [← hget, h.idxOf_getElem j hlt]

/-- Where every draft has a line, the lines of the drafts are those of the text. -/
theorem map_lineOf {drafts : List Draft} {stored : List Entry}
    (h : ((batchOrder drafts stored).map Prod.snd).Nodup) {rendered : String}
    (hlen : (batchOrder drafts stored).length ≤ (Text.splitLines rendered).length) :
    (batchOrder drafts stored).map (fun a => lineOf drafts stored rendered a.2) =
      (Text.splitLines rendered).take (batchOrder drafts stored).length := by
  apply List.ext_getElem?
  intro j
  rw [List.getElem?_map, List.getElem?_take]
  cases ha : (batchOrder drafts stored)[j]? with
  | none =>
    rw [if_neg (by have := List.getElem?_eq_none_iff.mp ha; omega)]
    rfl
  | some a =>
    have hlt : j < (batchOrder drafts stored).length := (List.getElem?_eq_some_iff.mp ha).1
    rw [if_pos hlt, Option.map_some, lineOf_eq_getD h rendered ha,
      List.getElem?_eq_getElem (by omega : j < (Text.splitLines rendered).length), Option.getD_some]

/-- What holds of the lines that the batch asks for holds of the line of every draft. -/
theorem WriteBack.forall_lineOf {drafts : List Draft} {stored : List Entry} {plan : WriteBack}
    (h : WriteBack.plan drafts stored = .ok plan) {rendered : String} {p : String → Prop}
    (hlines : ∀ k < plan.batch.length, ∃ line, (Text.splitLines rendered)[k]? = some line ∧
      p line) :
    ∀ a ∈ batchOrder drafts stored, p (lineOf drafts stored rendered a.2) := by
  intro a ha
  obtain ⟨j, hj⟩ := List.mem_iff_getElem?.mp ha
  obtain ⟨hlt, _⟩ := List.getElem?_eq_some_iff.mp hj
  obtain ⟨line, hget, hp⟩ := hlines j (by rw [length_batch h]; exact hlt)
  rw [lineOf_eq_getD (nodup_batchOrder h) rendered hj, hget, Option.getD_some]
  exact hp

end BudgetNotes
