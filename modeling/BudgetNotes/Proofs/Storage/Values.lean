import BudgetNotes.Proofs.Calendar.Reading
import BudgetNotes.Proofs.Calendar.Stored
import BudgetNotes.Proofs.Decimal.NormalForm
import BudgetNotes.Proofs.Decimal.Text
import BudgetNotes.Template.Codec

/-!
# Stored values

Each part of a template is stored as a value of its own, and read back from
it. A number comes back with all its places, but a zero comes back without its
sign (`Decimal.settled`): it is the same number. A month comes back if its year
has four digits, and no other months are read. All else comes back as it was.
-/

namespace BudgetNotes

/-! ## Numbers -/

namespace Decimal

/-- A decimal is stored as its text, and that is read with all its places. -/
@[simp] theorem ofJson?_toJson (x : Decimal) : ofJson? x.toJson = some x.settled := by
  unfold toJson ofJson?
  dsimp only
  rw [ofText_toText]
  rfl

end Decimal

/-- An amount as it is read back. -/
def Money.settled (m : Money) : Money := ⟨m.amount.settled⟩

/-- A zero without its sign is the same amount. -/
@[simp] theorem Money.normalize_settled (m : Money) : m.settled.normalize = m.normalize :=
  congrArg Money.mk m.amount.normalize_settled

/-- An amount is stored like its decimal, however many places it has. -/
@[simp] theorem Money.ofJson?_toJson (m : Money) : Money.ofJson? m.toJson = some m.settled := by
  have hamount : Decimal.ofJson? m.toJson = some m.amount.settled := m.amount.ofJson?_toJson
  unfold Money.ofJson?
  rw [hamount]
  rfl

/-- A count fits the range that is read, whatever it is. -/
@[simp] theorem countOfJson?_countToJson (n : UInt32) : countOfJson? (countToJson n) = some n := by
  have hlt : n.toNat < 4294967296 := n.toNat_lt
  have hnat : (countToJson n).asNat? = some n.toNat := rfl
  unfold countOfJson?
  rw [hnat, Option.bind_some, if_pos hlt, UInt32.ofNat_toNat]

/-- A priority fits the range that is read, with its sign. -/
@[simp] theorem priorityOfJson?_priorityToJson (p : Int32) :
    priorityOfJson? (priorityToJson p) = some p := by
  have hrange : -2147483648 ≤ p.toInt ∧ p.toInt < 2147483648 := ⟨p.le_toInt, p.toInt_lt⟩
  unfold priorityOfJson? priorityToJson Json.asInt?
  rw [Option.bind_some, if_pos hrange, Int32.ofInt_toInt]

/-! ## Days and months -/

/-- A day is read back even if its year does not have four digits. -/
@[simp] theorem Date.ofJson?_toJson (d : Date) : Date.ofJson? d.toJson = some d := by
  unfold Date.ofJson? Date.toJson Json.asText?
  rw [Option.bind_some, d.ofStored?_toText]

/-- A month is stored as the text that is typed for it. -/
theorem BudgetMonth.ofJson?_toJson {m : BudgetMonth} (h : FourDigitYear m.year) :
    BudgetMonth.ofJson? m.toJson = some m := by
  unfold ofJson? toJson Json.asText?
  rw [Option.bind_some, ofText_toText h]
  rfl

/-- So no month with another year comes out of the store. -/
theorem BudgetMonth.fourDigitYear_of_ofJson? {v : Json} {m : BudgetMonth}
    (h : ofJson? v = some m) : FourDigitYear m.year := by
  obtain ⟨s, _, hs⟩ := Option.bind_eq_some_iff.mp h
  cases hread : ofText s with
  | error e =>
    rw [hread] at hs
    cases hs
  | ok other =>
    rw [hread] at hs
    cases hs
    exact fourDigitYear_of_ofText hread

/-! ## Words -/

/-- The word of a window is the word of no other one. -/
@[simp] theorem LimitPeriod.ofWord?_word (period : LimitPeriod) :
    ofWord? period.word = some period := by
  cases period <;> decide

/-- The word of an interval is the word of no other one. -/
@[simp] theorem PeriodUnit.ofWord?_word (period : PeriodUnit) :
    ofWord? period.word = some period := by
  cases period <;> decide

/-- The word of a unit is the word of no other one. -/
@[simp] theorem RepeatUnit.ofWord?_word (unit : RepeatUnit) : ofWord? unit.word = some unit := by
  cases unit <;> decide

/-- The name of a marker is the name of no other one. -/
@[simp] theorem Marker.ofName?_name (marker : Marker) : ofName? marker.name = some marker := by
  cases marker <;> decide

end BudgetNotes
