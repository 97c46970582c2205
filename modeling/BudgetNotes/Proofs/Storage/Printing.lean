import BudgetNotes.Proofs.Json.ReadBack
import BudgetNotes.Proofs.Storage.Entries

/-!
# Stored values can be printed

What is stored is made of texts, switches, counts and priorities, in no more
than two objects, so it can be printed and read back wherever it is put. A draft
has one number that its form does not bound, the position of its entry.

Main statements: `Directive.printable_toJson` and `Draft.printable_toJson`.
-/

namespace BudgetNotes

open Json

/-- Members are printed one by one, so lists of them can be joined. -/
theorem Json.printableMembers_append (depth : Nat) (a b : List (String × Json)) :
    PrintableMembers depth (a ++ b) ↔ PrintableMembers depth a ∧ PrintableMembers depth b := by
  simp only [printableMembers_iff, List.forall_mem_append]

/-- A member that may be missing can be printed if its values can. -/
theorem Json.printableMembers_optionalMember {α : Type} {depth : Nat} (encode : α → Json)
    (h : ∀ a, Printable depth (encode a)) (key : String) (o : Option α) :
    PrintableMembers depth (optionalMember key encode o) := by
  cases o with
  | none => trivial
  | some a => exact ⟨h a, trivial⟩

/-- Every text can be printed: what is special in it is escaped. -/
theorem Json.printable_str (depth : Nat) (s : String) : Printable depth (.str s) := by
  unfold Printable
  trivial

/-- A switch can be printed at any depth. -/
theorem Json.printable_bool (depth : Nat) (b : Bool) : Printable depth (.bool b) := by
  unfold Printable
  trivial

/-- A count is far below the largest integer that is read. -/
theorem printable_countToJson (depth : Nat) (n : UInt32) : Printable depth (countToJson n) := by
  have hlt : n.toNat < 4294967296 := n.toNat_lt
  unfold countToJson
  rw [Printable]
  omega

/-- A priority is within the integers that are read, on both sides. -/
theorem printable_priorityToJson (depth : Nat) (p : Int32) :
    Printable depth (priorityToJson p) := by
  have hrange : -2147483648 ≤ p.toInt ∧ p.toInt < 2147483648 := ⟨p.le_toInt, p.toInt_lt⟩
  unfold priorityToJson
  rw [Printable]
  omega

/-! ## Directives -/

section

variable {depth : Nat}

/-- A limit has no object inside it. -/
theorem SpendingLimit.printable_toMembers (depth : Nat) (spec : SpendingLimit) :
    PrintableMembers depth spec.toMembers := by
  have hstart := printableMembers_optionalMember Date.toJson
    (fun d => printable_str depth d.toText) "start" spec.start
  simp [toMembers, PrintableMembers, printable_str, printable_bool, Money.toJson, hstart]

/-- A limit by itself is an object, one level deeper. -/
theorem SpendingLimit.printable_toJson (h : depth < maxDepth) (spec : SpendingLimit) :
    Printable depth spec.toJson := by
  unfold toJson
  rw [Printable]
  exact ⟨h, spec.printable_toMembers _⟩

/-- An interval is an object of a word and a count. -/
theorem Interval.printable_toJson (h : depth < maxDepth) (spec : Interval) :
    Printable depth spec.toJson := by
  unfold toJson
  rw [Printable]
  exact ⟨h, printable_str _ _, printable_countToJson _ _, trivial⟩

/-- A recurrence is an object of a word and a count. -/
theorem Recurrence.printable_toJson (h : depth < maxDepth) (spec : Recurrence) :
    Printable depth spec.toJson := by
  unfold toJson
  rw [Printable]
  exact ⟨h, printable_str _ _, printable_countToJson _ _, trivial⟩

/-- The parts of a template are objects of their own, and nothing is nested deeper than them. -/
theorem Template.printable_bodyMembers (h : depth < maxDepth) (t : Template) :
    PrintableMembers depth t.bodyMembers := by
  have hlim := printableMembers_optionalMember _ (SpendingLimit.printable_toJson h) "limit"
  have hrepeat := printableMembers_optionalMember _ (Recurrence.printable_toJson h) "repeat"
  have hfrom := printableMembers_optionalMember BudgetMonth.toJson
    (fun m => printable_str depth m.toText) "from"
  have hadjustment := printableMembers_optionalMember Decimal.toJson
    (fun x => printable_str depth x.toText) "adjustment"
  cases t <;> simp [bodyMembers, PrintableMembers, printableMembers_append, printable_str,
    printable_bool, printable_countToJson, Money.toJson, Decimal.toJson, Date.toJson,
    BudgetMonth.toJson, Interval.printable_toJson h, SpendingLimit.printable_toMembers, hlim,
    hrepeat, hfrom, hadjustment]

/-- **A directive can be printed** wherever two more levels are left. -/
theorem Directive.printable_toJson (h : depth + 1 < maxDepth) (d : Directive) :
    Printable depth d.toJson := by
  have hpriority : Printable (depth + 1) ((d.priority.map priorityToJson).getD .null) := by
    cases d.priority with
    | none => trivial
    | some p => exact printable_priorityToJson _ p
  unfold toJson Template.toMembers
  rw [Printable]
  exact ⟨by omega, printable_str _ _, hpriority, printable_str _ _,
    d.template.printable_bodyMembers h⟩

/-! ## Drafts -/

/-- What is typed for a limit is texts and a switch. -/
theorem LimitForm.printable_toMembers (depth : Nat) (form : LimitForm) :
    PrintableMembers depth form.toMembers := by
  simp [toMembers, PrintableMembers, printable_str, printable_bool]

/-- A limit that can be switched off is an object inside its form. -/
theorem LimitToggle.printable_toMembers (h : depth < maxDepth) (toggle : LimitToggle) :
    PrintableMembers depth toggle.toMembers := by
  have hform : Printable depth (.obj toggle.form.toMembers) := by
    rw [Printable]
    exact ⟨h, toggle.form.printable_toMembers _⟩
  simp [toMembers, PrintableMembers, printable_bool, hform]

/-- The fields of a form are texts and switches, but for the limit. -/
theorem Form.printable_bodyMembers (h : depth < maxDepth) (form : Form) :
    PrintableMembers depth form.bodyMembers := by
  cases form <;> simp [bodyMembers, PrintableMembers, printable_str, printable_bool,
    LimitToggle.printable_toMembers h, LimitForm.printable_toMembers, TargetForm.toMembers]

/-- **A draft can be printed** wherever two more levels are left, if the position of its entry is
one that a reader takes for an integer. -/
theorem Draft.printable_toJson (h : depth + 1 < maxDepth) {draft : Draft}
    (hsource : ∀ i ∈ draft.sourceIndex, i < 18446744073709551616) :
    Printable depth draft.toJson := by
  have hposition : Printable (depth + 1)
      ((draft.sourceIndex.map fun n => Json.int n).getD .null) := by
    cases hindex : draft.sourceIndex with
    | none => trivial
    | some i =>
      have hlt := hsource i hindex
      show Printable (depth + 1) (.int i)
      rw [Printable]
      omega
  unfold toJson contentMembers Form.toMembers
  rw [Printable]
  exact ⟨by omega, printable_str _ _, hposition, printable_str _ _, printable_str _ _,
    printable_str _ _, draft.form.printable_bodyMembers h⟩

end

end BudgetNotes
