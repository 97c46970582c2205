import BudgetNotes.Note.WriteBack
import Mathlib.Data.List.Basic

/-!
# Who gets which rendered line

Lines are dealt in passing: whoever wants a line takes the next one. Said
without the passing: if everyone who wants a line has an owner of their own,
the line of an owner is the one at the place of the owner among all of them.

> `dealLines_eq_map_owner`: `served` are the owners that have their lines
> already, which is how many lines are gone.

A rendered text is dealt twice on its way to a note, first to the entries that
are written and then to the slots. Slots that stay bring a line of their own
to the second dealing and take it back, so both together are one dealing to
the slots that are rendered (`renderedSlots_eq_dealLines`).
-/

namespace BudgetNotes

/-! ## Dealing once -/

variable {α β : Type}

theorem dealLines_cons_of_wants {wants : α → Bool} {x : α} (h : wants x = true) (xs : List α)
    (lines : List String) :
    dealLines wants (x :: xs) lines = (x, lines.head?) :: dealLines wants xs lines.tail := by
  rw [dealLines, if_pos h]

theorem dealLines_cons_of_not {wants : α → Bool} {x : α} (h : wants x = false) (xs : List α)
    (lines : List String) :
    dealLines wants (x :: xs) lines = (x, none) :: dealLines wants xs lines := by
  rw [dealLines, h]
  rfl

/-- Dealing looks at what it deals to only through who wants a line. -/
theorem dealLines_map (f : α → β) (wants : β → Bool) (xs : List α) (lines : List String) :
    dealLines wants (xs.map f) lines =
      (dealLines (fun x => wants (f x)) xs lines).map (Prod.map f id) := by
  induction xs generalizing lines with
  | nil => rfl
  | cons x xs ih =>
    rw [List.map_cons, dealLines, dealLines]
    split
    next => rw [ih, List.map_cons]; rfl
    next => rw [ih, List.map_cons]; rfl

theorem dealLines_congr {wants wants' : α → Bool} {xs : List α}
    (h : ∀ x ∈ xs, wants x = wants' x) (lines : List String) :
    dealLines wants xs lines = dealLines wants' xs lines := by
  induction xs generalizing lines with
  | nil => rfl
  | cons x xs ih =>
    have hxs := ih fun y hy => h y (List.mem_cons_of_mem _ hy)
    rw [dealLines, dealLines, h x (List.mem_cons_self ..), hxs, hxs]

/-- Only as many lines matter as are wanted. -/
theorem dealLines_take (wants : α → Bool) (xs : List α) (lines : List String) :
    dealLines wants xs (lines.take (xs.countP wants)) = dealLines wants xs lines := by
  induction xs generalizing lines with
  | nil => rfl
  | cons x xs ih =>
    cases hx : wants x with
    | false =>
      rw [List.countP_cons_of_neg (by rw [hx]; exact Bool.false_ne_true), dealLines_cons_of_not hx,
        dealLines_cons_of_not hx, ih]
    | true =>
      rw [List.countP_cons_of_pos hx, dealLines_cons_of_wants hx, dealLines_cons_of_wants hx]
      cases lines with
      | nil => rw [List.take_nil]
      | cons line lines => rw [List.take_succ_cons, List.head?_cons, List.tail_cons, ih]; rfl

/-- Everyone gets the line at the place of their owner. -/
theorem dealLines_eq_map_owner {owner : α → Option Nat} (served : List Nat) (xs : List α)
    (lines : List String) (hn : (served ++ xs.filterMap owner).Nodup) :
    dealLines (fun x => (owner x).isSome) xs (lines.drop served.length) =
      xs.map fun x =>
        (x, (owner x).bind fun k => lines[(served ++ xs.filterMap owner).idxOf k]?) := by
  induction xs generalizing served with
  | nil => rfl
  | cons x xs ih =>
    cases hx : owner x with
    | none =>
      rw [List.filterMap_cons_none hx] at hn ⊢
      rw [dealLines, hx, List.map_cons, ih served hn, hx]
      rfl
    | some k =>
      -- the line that x takes is the first that is not gone, and k is the next owner
      rw [List.filterMap_cons_some hx] at hn ⊢
      have hk : k ∉ served := fun hmem =>
        (List.nodup_append.mp hn).2.2 k hmem k (List.mem_cons_self ..) rfl
      have hplace : (served ++ k :: xs.filterMap owner).idxOf k = served.length := by
        rw [List.idxOf_append_of_notMem hk, List.idxOf_cons_self, Nat.add_zero]
      have hnext : served ++ k :: xs.filterMap owner = (served ++ [k]) ++ xs.filterMap owner := by
        simp
      have hrest := ih (served ++ [k]) (by rw [← hnext]; exact hn)
      rw [List.length_append, List.length_singleton, ← List.tail_drop, ← hnext] at hrest
      rw [dealLines, hx, List.map_cons, hx, Option.isSome_some, if_pos rfl, hrest,
        List.head?_drop, Option.bind_some, hplace]

/-! ## Dealing twice -/

/-- A slot that fits the stored entries: what it keeps is there, and could not be read. -/
def Slot.Fits (stored : List Entry) : Slot → Prop
  | kept index => ∃ entry, stored[index]? = some entry ∧ entry.isManaged = false
  | _ => True

/-- Whether a slot's directive is rendered. -/
def Slot.isRendered (slot : Slot) : Bool := slot.piece?.isSome

/-- The line that a slot has in the end, given the line that is dealt to it: a slot that stays has
that of its entry. -/
def Slot.finalLine (stored : List Entry) (slot : Slot) (line : Option String) : String :=
  match slot.writes? stored with
  | none => ""
  | some entry => entry.writtenLine line

/-- A slot writes an entry if it takes a line, and asks for the line if it is rendered. -/
theorem Slot.Fits.writes?_cases {stored : List Entry} {slot : Slot} (h : slot.Fits stored) :
    (slot.writes? stored = none ∧ slot.takesLine = false ∧ slot.isRendered = false) ∨
      ∃ entry, slot.writes? stored = some entry ∧ slot.takesLine = true ∧
        entry.isManaged = slot.isRendered := by
  cases slot with
  | kept index =>
    obtain ⟨entry, hentry, hunmanaged⟩ := h
    exact Or.inr ⟨entry, hentry, rfl, hunmanaged⟩
  | removed => exact Or.inl ⟨rfl, rfl, rfl⟩
  | edited piece => exact Or.inr ⟨_, rfl, rfl, rfl⟩
  | added piece => exact Or.inr ⟨_, rfl, rfl, rfl⟩

/-- Dealing to the written entries and then to the slots is dealing to the rendered slots. -/
theorem dealLines_writtenLines {stored : List Entry} {slots : List Slot}
    (h : ∀ slot ∈ slots, slot.Fits stored) (lines : List String) :
    (dealLines Slot.takesLine slots
        ((dealLines Entry.isManaged (slots.filterMap (Slot.writes? stored)) lines).map
          fun (entry, line) => entry.writtenLine line)).map
        (fun (slot, line) => (slot, line.getD "")) =
      (dealLines Slot.isRendered slots lines).map
        fun (slot, line) => (slot, slot.finalLine stored line) := by
  induction slots generalizing lines with
  | nil => rfl
  | cons slot slots ih =>
    have hrest := ih fun s hs => h s (List.mem_cons_of_mem _ hs)
    rcases (h slot (List.mem_cons_self ..)).writes?_cases with
      ⟨hentry, htakes, hrendered⟩ | ⟨entry, hentry, htakes, hmanaged⟩
    · -- a slot that goes takes no line in either dealing
      rw [List.filterMap_cons_none hentry, dealLines_cons_of_not htakes,
        dealLines_cons_of_not hrendered, List.map_cons, List.map_cons, hrest]
      simp only [Slot.finalLine, hentry, Option.getD_none]
    · rw [List.filterMap_cons_some hentry]
      cases hrendered : slot.isRendered with
      | false =>
        -- a slot that stays puts its own line among those of the second dealing, and takes it
        rw [hrendered] at hmanaged
        rw [dealLines_cons_of_not hmanaged, dealLines_cons_of_not hrendered, List.map_cons,
          dealLines_cons_of_wants htakes, List.map_cons, List.map_cons, List.tail_cons, hrest]
        simp only [Slot.finalLine, hentry, List.head?_cons, Option.getD_some]
      | true =>
        rw [hrendered] at hmanaged
        rw [dealLines_cons_of_wants hmanaged, dealLines_cons_of_wants hrendered, List.map_cons,
          dealLines_cons_of_wants htakes, List.map_cons, List.map_cons, List.tail_cons, hrest]
        simp only [Slot.finalLine, hentry, List.head?_cons, Option.getD_some]

/-- The two dealings of a plan whose slots fit its entries. -/
theorem WriteBack.renderedSlots_eq_dealLines {plan : WriteBack}
    (h : ∀ slot ∈ plan.slots, slot.Fits plan.stored) (rendered : String) :
    plan.renderedSlots rendered =
      (dealLines Slot.isRendered plan.slots (Text.splitLines rendered)).map
        fun (slot, line) => (slot, slot.finalLine plan.stored line) :=
  dealLines_writtenLines h (Text.splitLines rendered)

/-- Lines past the size of the batch do not matter. -/
theorem WriteBack.renderedSlots_congr {plan : WriteBack}
    (h : ∀ slot ∈ plan.slots, slot.Fits plan.stored) {rendered rendered' : String}
    (heq : (Text.splitLines rendered').take plan.batch.length =
      (Text.splitLines rendered).take plan.batch.length) :
    plan.renderedSlots rendered' = plan.renderedSlots rendered := by
  have hcount : plan.slots.countP Slot.isRendered = plan.batch.length := by
    unfold batch
    rw [List.length_map, List.length_filterMap_eq_countP]
    rfl
  rw [renderedSlots_eq_dealLines h, renderedSlots_eq_dealLines h,
    ← dealLines_take Slot.isRendered plan.slots (Text.splitLines rendered'), hcount, heq, ← hcount,
    dealLines_take]

end BudgetNotes
