import BudgetNotes.Draft.Check
import BudgetNotes.Template.Basic

/-!
# Reading fields

What a field of a draft says. Each reader drops the white space around the
text and answers with the value or with one problem that names the field. An
optional field is none when it is blank.
-/

namespace BudgetNotes

namespace Field

/-- The text of a field without the white space around it, if anything is left. -/
def present? (raw : String) : Option String :=
  if Text.isBlank raw then none else some (Text.trim raw)

/-- Reads a field unless it is blank. -/
def optional {α : Type} (read : String → Check α) (raw : String) : Check (Option α) :=
  match present? raw with
  | none => .ok none
  | some text => (read text).map some

/-- Insists on a value. -/
def require {α : Type} (field : Field) (value : Check (Option α)) : Check α :=
  value.andThen fun
    | some a => .ok a
    | none => .fail (.required field)

def number (field : Field) (text : String) : Check Decimal :=
  match Decimal.ofTyped text with
  | .ok x => .ok x
  | .error _ => .fail (.notANumber field)

/-- Accepts a number that needs no more than two decimal places. -/
def cents (field : Field) (x : Decimal) : Check Money :=
  match Money.ofDecimal? x with
  | some m => .ok m
  | none => .fail (.tooPrecise field)

/-- The integer of a number, if it lies in a range; out of range is like a fraction. -/
def wholeIn (field : Field) (low high : Int) (x : Decimal) : Check Int :=
  match x.toInt? with
  | some n => if low ≤ n ∧ n ≤ high then .ok n else .fail (.notAWholeNumber field)
  | none => .fail (.notAWholeNumber field)

/-- Accepts a number above zero. -/
def positive (field : Field) (n : Int) : Check UInt32 :=
  if n = 0 then .fail (.notPositive field) else .ok (UInt32.ofNat n.toNat)

/-- Reads a decimal that may be left out. -/
def optionalDecimal (field : Field) : String → Check (Option Decimal) :=
  optional field.number

def decimal (field : Field) (raw : String) : Check Decimal :=
  field.require (field.optionalDecimal raw)

def money (field : Field) (raw : String) : Check Money :=
  (field.decimal raw).andThen field.cents

/-- Reads a priority that may be left out, a signed number of 32 bits. -/
def optionalPriority (field : Field) : String → Check (Option Int32) :=
  optional fun text =>
    ((field.number text).andThen (field.wholeIn (-2147483648) 2147483647)).map Int32.ofInt

/-- Reads a count that may be left out, from 1 up and below 2^32. -/
def optionalCount (field : Field) : String → Check (Option UInt32) :=
  optional fun text =>
    ((field.number text).andThen (field.wholeIn 0 4294967295)).andThen field.positive

def count (field : Field) (raw : String) : Check UInt32 :=
  field.require (field.optionalCount raw)

def text (field : Field) (raw : String) : Check String :=
  field.require (.ok (present? raw))

/-- Reads a date that may be left out. -/
def optionalDate (field : Field) : String → Check (Option Date) :=
  optional fun text =>
    match Date.ofIso? text with
    | some d => .ok d
    | none => .fail (.invalidDate field)

def date (field : Field) (raw : String) : Check Date :=
  field.require (field.optionalDate raw)

/-- Reads a month that may be left out. -/
def optionalMonth (field : Field) : String → Check (Option BudgetMonth) :=
  optional fun text =>
    match BudgetMonth.ofText text with
    | .ok m => .ok m
    | .error _ => .fail (.invalidMonth field)

def budgetMonth (field : Field) (raw : String) : Check BudgetMonth :=
  field.require (field.optionalMonth raw)

/-- Reads a choice that may be left out. -/
def optionalChoice {α : Type} (field : Field) (read : String → Except UnknownChoice α)
    (allowed : List String) : String → Check (Option α) :=
  optional fun text =>
    match read text with
    | .ok a => .ok a
    | .error _ => .fail (.invalidChoice field allowed)

end Field

end BudgetNotes
