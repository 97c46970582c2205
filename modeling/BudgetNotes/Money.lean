import BudgetNotes.Decimal.Reader

/-!
# Money

An amount is a decimal. Amounts that are typed in have at most two
significant decimal places; one that needs more is refused, not rounded to
cents. Amounts that are stored are taken as they are. An amount is shown in
its normal form (`12.5`) and stored with the places it was written with
(`12.50`).
-/

namespace BudgetNotes

/-- A budget amount in currency units. -/
structure Money where
  amount : Decimal
deriving DecidableEq

/-- Why a text is no amount; each keeps the text as it was given. -/
inductive MoneyError where
  | invalid (text : String) (cause : DecimalError)
  | tooPrecise (text : String)
deriving DecidableEq

def MoneyError.message : MoneyError → String
  | .invalid text cause => "Invalid amount '" ++ text ++ "': " ++ cause.message
  | .tooPrecise text => "Amount has more than two decimal places: '" ++ text ++ "'"

namespace Money

/-- Whether a decimal needs no more than two decimal places. -/
def Fits (x : Decimal) : Prop := x.normalize.scale ≤ 2

instance (x : Decimal) : Decidable (Fits x) :=
  inferInstanceAs (Decidable (x.normalize.scale ≤ 2))

/-- A decimal as an amount, if two decimal places are enough. -/
def ofDecimal? (x : Decimal) : Option Money :=
  if Fits x then some ⟨x⟩ else none

/-- The decimals that fit are amounts, and are not changed. -/
theorem ofDecimal?_eq_some_iff {x : Decimal} {m : Money} :
    ofDecimal? x = some m ↔ m.amount = x ∧ Fits x := by
  unfold ofDecimal?
  constructor
  · intro h
    split at h
    next hfits =>
      cases h
      exact ⟨rfl, hfits⟩
    next => cases h
  · rintro ⟨rfl, hfits⟩
    exact if_pos hfits

def ofCents (cents : Int64) : Money where
  amount := {
    negative := decide (cents.toInt < 0)
    mantissa := cents.toInt.natAbs
    scale := 2
    mantissa_le := by
      have := Int64.le_toInt cents
      have := Int64.toInt_lt cents
      omega
    scale_le := by decide }

def ofText (s : String) : Except MoneyError Money :=
  match Decimal.ofTyped s with
  | .error e => .error (.invalid s e)
  | .ok x =>
    match ofDecimal? x with
    | some m => .ok m
    | none => .error (.tooPrecise s)

/-- The text an amount is shown with. -/
def toText (m : Money) : String := m.amount.normalize.toText

/-- The text an amount is stored with. -/
def toStored (m : Money) : String := m.amount.toText

/-- The order of amounts by size. -/
def compare (a b : Money) : Ordering := Ord.compare a.amount.units b.amount.units

def normalize (m : Money) : Money := ⟨m.amount.normalize⟩

end Money

end BudgetNotes
