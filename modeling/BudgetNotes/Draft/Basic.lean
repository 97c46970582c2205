import BudgetNotes.Template.Basic

/-!
# Drafts

A draft is the editable state of one template: what the user typed, as it was
typed, until it is compiled. A draft that was loaded from storage knows the
position of its entry.

`Form.ofTemplate` gives the texts a user would have typed for a template.
Drafts that are loaded are named by random identifiers in the usual form of
32 hexadecimal digits with dashes. The names of one run are counted up from
one random number, so neighbours differ.

Main statements: `kind_blank` and `kind_ofTemplate` (both forms are of the
kind they were made for).
-/

namespace BudgetNotes

/-- The fields of a limit. It is held if `hold` is on. -/
structure LimitForm where
  amount : String
  period : String
  hold : Bool
  start : String
deriving DecidableEq

/-- A limit that can be switched off; its fields stay as they were typed. -/
structure LimitToggle where
  enabled : Bool
  form : LimitForm
deriving DecidableEq

/-- The fields of a target by a month; `fromMonth` is used when spending only. -/
structure TargetForm where
  amount : String
  month : String
  fromMonth : String
  repeatAmount : String
  repeatUnit : String
deriving DecidableEq

/-- The fields of each kind. -/
inductive Form where
  | simple (monthly : String) (limit : LimitToggle)
  | percentage (percent category : String) (previous : Bool)
  | periodic (amount starting repeatAmount repeatUnit : String) (limit : LimitToggle)
  | saveBy (target : TargetForm)
  | spend (target : TargetForm)
  | schedule (name adjustment : String) (full : Bool)
  | average (numMonths : String)
  | copy (lookBack : String)
  | remainder (weight : String) (limit : LimitToggle)
  | limit (form : LimitForm)
  | goal (amount : String)
deriving DecidableEq

/-- An editable template. -/
structure Draft where
  id : String
  sourceIndex : Option Nat
  label : String
  priority : String
  form : Form
deriving DecidableEq

def LimitForm.blank : LimitForm := ⟨"", "", false, ""⟩

/-- No limit is typed and the limit is off. -/
def LimitToggle.off : LimitToggle := ⟨false, LimitForm.blank⟩

def TargetForm.blank : TargetForm := ⟨"", "", "", "", ""⟩

/-! ## Texts of values -/

/-- The texts of a limit; one without a start has a blank one. -/
def LimitForm.ofSpec (spec : SpendingLimit) : LimitForm where
  amount := spec.amount.toText
  period := spec.period.word
  hold := spec.hold
  start := (spec.start.map Date.toText).getD ""

/-- A template without a limit has it switched off, with nothing typed. -/
def LimitToggle.ofSpec : Option SpendingLimit → LimitToggle
  | some spec => ⟨true, LimitForm.ofSpec spec⟩
  | none => off

/-- The texts of a target; what it does not have is blank. -/
def TargetForm.ofTarget (amount : Money) (month : BudgetMonth) (fromMonth : Option BudgetMonth)
    (recurrence : Option Recurrence) : TargetForm where
  amount := amount.toText
  month := month.toText
  fromMonth := (fromMonth.map BudgetMonth.toText).getD ""
  repeatAmount := (recurrence.map fun r => Text.numeral r.every.toNat).getD ""
  repeatUnit := (recurrence.map fun r => r.unit.word).getD ""

namespace Form

/-- The kind that a form is for. -/
def kind : Form → TemplateKind
  | simple .. => .simple
  | percentage .. => .percentage
  | periodic .. => .periodic
  | saveBy .. => .saveBy
  | spend .. => .spend
  | schedule .. => .schedule
  | average .. => .average
  | copy .. => .copy
  | remainder .. => .remainder
  | limit .. => .limit
  | goal .. => .goal

/-- The form of a kind with nothing typed. -/
def blank : TemplateKind → Form
  | .simple => simple "" .off
  | .percentage => percentage "" "" false
  | .periodic => periodic "" "" "" "" .off
  | .saveBy => saveBy .blank
  | .spend => spend .blank
  | .schedule => schedule "" "" false
  | .average => average ""
  | .copy => copy ""
  | .remainder => remainder "" .off
  | .limit => limit .blank
  | .goal => goal ""

/-- The form a user would have filled in for a template. -/
def ofTemplate : Template → Form
  | .simple monthly lim => simple monthly.toText (.ofSpec lim)
  | .percentage percent category previous =>
    percentage percent.normalize.toText category previous
  | .periodic amount period starting lim =>
    periodic amount.toText starting.toText (Text.numeral period.amount.toNat) period.period.word
      (.ofSpec lim)
  | .saveBy amount month recurrence => saveBy (.ofTarget amount month none recurrence)
  | .spend amount month fromMonth recurrence =>
    spend (.ofTarget amount month fromMonth recurrence)
  | .schedule name adjustment full =>
    schedule name ((adjustment.map fun a => a.normalize.toText).getD "") full
  | .average n => average (Text.numeral n.toNat)
  | .copy n => copy (Text.numeral n.toNat)
  | .remainder weight lim => remainder weight.normalize.toText (.ofSpec lim)
  | .limit spec => limit (.ofSpec spec)
  | .goal amount => goal amount.toText

theorem kind_blank (k : TemplateKind) : (blank k).kind = k := by cases k <;> rfl

theorem kind_ofTemplate (t : Template) : (ofTemplate t).kind = t.kind := by cases t <;> rfl

end Form

namespace Draft

def kind (draft : Draft) : TemplateKind := draft.form.kind

/-- A draft for a template that is added. -/
def blank (id : String) (kind : TemplateKind) : Draft := ⟨id, none, "", "", Form.blank kind⟩

/-- A directive in editable form. -/
def ofDirective (id : String) (d : Directive) : Draft where
  id := id
  sourceIndex := none
  label := ""
  priority := (d.priority.map fun p => Text.intNumeral p.toInt).getD ""
  form := Form.ofTemplate d.template

end Draft

/-! ## Names -/

/-- The last hexadecimal digits of a number, a given count of them. -/
def hexDigits : Nat → Nat → List Char
  | 0, _ => []
  | count + 1, n => hexDigits count (n / 16) ++ [Nat.digitChar (n % 16)]

/-- The identifier of 128 random bits. The thirteenth digit is the version, 4, and the two highest
bits of the seventeenth are the variant. -/
def randomId (bits : Nat) : String :=
  let digits := hexDigits 32 bits
  let variant := (digits.drop 16).take 1 |>.map fun c => Nat.digitChar (8 + c.toNat % 4)
  String.ofList (digits.take 8 ++ '-' :: (digits.drop 8).take 4 ++ '-' :: '4' ::
    (digits.drop 13).take 3 ++ '-' :: variant ++ (digits.drop 17).take 3 ++ '-' :: digits.drop 20)

/-- The names of a run whose random number is `seed`. -/
def draftName (seed index : Nat) : String := randomId (seed + index)

end BudgetNotes
