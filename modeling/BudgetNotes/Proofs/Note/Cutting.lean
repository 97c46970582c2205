import BudgetNotes.Proofs.Note.Reading
import BudgetNotes.Proofs.Note.Rewriting
import Mathlib.Order.Bounds.Defs

/-!
# Where a merge cuts

A merge walks down the directive lines with a cursor, and looks for the label
of each from its directive up to the cursor. Labels that are reported are
looked for up to the first line of the note. Both scans find the same label,
because the cursor never stands inside one: the line above it is the directive
that the walk came to last, and a directive stops the scan from below.

The walk is taken here one directive line at a time (`Walk.step?`), and a step
fails if it looks at a line that is not there or takes a slice that is out of
range. No walk fails.

> `isLeast_labelStart`: the scan finds the first line from which only lines of
> the label lead down to the directive.

> `Walk.Standing.of_step?`: the invariant, that the cursor is not inside a
> label and the directive lines to come are those from it on, outlives a step.

Main statement: `Merge.walk_cutsReported`.
-/

namespace BudgetNotes

/-! ## What the scan for a label finds -/

/-- The lines from a position down to a line are neither blank nor directives. -/
def IsLabelFrom (lines : List String) (start line : Nat) : Prop :=
  ∀ i text, start ≤ i → i < line → lines[i]? = some text →
    Text.isBlank text = false ∧ isDirective text = false

theorem le_labelStart (lines : List String) {floor line : Nat} (h : floor ≤ line) :
    floor ≤ labelStart lines floor line := by
  induction line with
  | zero => exact h
  | succ line ih =>
    rw [labelStart_step]
    split
    next hstep => exact ih hstep.1
    next => exact h

/-- The scan leaves lines of the label behind it. -/
theorem isLabelFrom_labelStart (lines : List String) (floor line : Nat) :
    IsLabelFrom lines (labelStart lines floor line) line := by
  induction line with
  | zero =>
    intro i text _ hi
    omega
  | succ line ih =>
    intro i text hstart hi htext
    rw [labelStart_step] at hstart
    split at hstart
    next hstep =>
      by_cases hlast : i = line
      · subst hlast
        rw [htext, Option.any_some] at hstep
        exact ⟨not_isBlank_of_isLabelLine hstep.2, not_isDirective_of_isLabelLine hstep.2⟩
      · exact ih i text hstart (by omega) htext
    next => omega

/-- And it leaves none of them out. -/
theorem labelStart_le_of_isLabelFrom {lines : List String} {floor start line : Nat}
    (hline : line ≤ lines.length) (hfloor : floor ≤ start) (hstart : start ≤ line)
    (h : IsLabelFrom lines start line) : labelStart lines floor line ≤ start := by
  induction line with
  | zero => exact Nat.zero_le start
  | succ line ih =>
    rw [labelStart_step]
    split
    next =>
      by_cases hlast : start = line + 1
      · rw [hlast]
        exact Nat.le_succ_of_le (labelStart_le ..)
      · exact ih (by omega) (by omega) fun i text h1 h2 => h i text h1 (by omega)
    next hstop =>
      -- the scan has no reason to stop at a line of the label
      by_contra hlt
      have htext : lines[line]? = some lines[line] := List.getElem?_eq_getElem hline
      obtain ⟨hblank, hdirective⟩ := h line _ (by omega) (Nat.lt_succ_self line) htext
      refine hstop ⟨by omega, ?_⟩
      rw [htext, Option.any_some, isLabelLine, hblank, hdirective]
      rfl

/-- The scan finds the first line, not above the floor, from which only lines that are neither blank
nor directives lead down to its line. -/
theorem isLeast_labelStart {lines : List String} {floor line : Nat} (hline : line ≤ lines.length)
    (hfloor : floor ≤ line) :
    IsLeast {start | floor ≤ start ∧ IsLabelFrom lines start line}
      (labelStart lines floor line) := by
  refine ⟨⟨le_labelStart lines hfloor, isLabelFrom_labelStart lines floor line⟩, ?_⟩
  intro start hmem
  obtain ⟨hstart, hlabel⟩ := hmem
  rcases Nat.le_total start line with hle | hle
  · exact labelStart_le_of_isLabelFrom hline hstart hle hlabel
  · exact Nat.le_trans (labelStart_le ..) hle

/-- The floor does not matter if no line of a label stands above it. -/
theorem labelStart_eq_labelStart_zero {lines : List String} {floor line : Nat}
    (hline : line ≤ lines.length) (hfloor : floor ≤ line)
    (habove : ∀ i, i + 1 = floor → lines[i]?.any isLabelLine = false) :
    labelStart lines floor line = labelStart lines 0 line := by
  have hreach : floor ≤ labelStart lines 0 line := by
    by_contra hlt
    obtain ⟨i, rfl⟩ := Nat.exists_eq_add_of_le' (by omega : 1 ≤ floor)
    have htext : lines[i]? = some lines[i] := List.getElem?_eq_getElem (by omega)
    obtain ⟨hblank, hdirective⟩ :=
      isLabelFrom_labelStart lines 0 line i _ (by omega) (by omega) htext
    have hnot := habove i rfl
    rw [htext, Option.any_some, isLabelLine, hblank, hdirective] at hnot
    cases hnot
  apply Nat.le_antisymm
  · exact (isLeast_labelStart hline hfloor).2 ⟨hreach, isLabelFrom_labelStart lines 0 line⟩
  · exact (isLeast_labelStart hline (Nat.zero_le line)).2
      ⟨Nat.zero_le _, isLabelFrom_labelStart lines floor line⟩

/-! ## Lines and slices in range -/

/-- A slice, if its ends are in order and there are lines up to the second. -/
def slice? (lines : List String) (start stop : Nat) : Option (List String) :=
  if start ≤ stop ∧ stop ≤ lines.length then some (slice lines start stop) else none

/-- The scan for a label, which fails where it looks at a line that is not there. -/
def labelStart? (lines : List String) (floor : Nat) : Nat → Option Nat
  | 0 => some 0
  | line + 1 =>
    if floor ≤ line then
      lines[line]?.bind fun text =>
        if isLabelLine text then labelStart? lines floor line else some (line + 1)
    else some (line + 1)

theorem slice?_eq_some {lines : List String} {start stop : Nat} (hstart : start ≤ stop)
    (hstop : stop ≤ lines.length) : slice? lines start stop = some (slice lines start stop) :=
  if_pos ⟨hstart, hstop⟩

theorem labelStart?_eq_some {lines : List String} {line : Nat} (h : line ≤ lines.length)
    (floor : Nat) : labelStart? lines floor line = some (labelStart lines floor line) := by
  induction line with
  | zero => rfl
  | succ line ih =>
    have htext : lines[line]? = some lines[line] := List.getElem?_eq_getElem h
    rw [labelStart?, labelStart_step, htext, Option.bind_some, Option.any_some, ih (by omega)]
    split
    next hfloor =>
      split
      next hlabel => rw [if_pos ⟨hfloor, hlabel⟩]
      next hlabel => rw [if_neg fun hboth => hlabel hboth.2]
    next hfloor => rw [if_neg fun hboth => hfloor hboth.1]

/-! ## The walk, one directive line at a time -/

/-- A walk on its way: what it has written, the first line that it has not, the number of labels it
has taken, and the directive lines to come, each with its entry. -/
structure Walk where
  written : List String
  cursor : Nat
  taken : Nat
  pending : List (Nat × Entry × Replacement)
deriving DecidableEq

namespace Walk

/-- Walks on to the next directive line and past it. The step fails if anything that it looks at is
out of range. -/
def step? (lines labels : List String) (walk : Walk) : Option Walk :=
  match walk.pending with
  | [] => none
  | (line, entry, replacement) :: rest => do
    let start ← labelStart? lines walk.cursor line
    let above ← slice? lines walk.cursor start
    let block ← slice? lines start (line + 1)
    return {
      written := walk.written ++ above ++
        replaceBlock block entry labels[walk.taken]? replacement
      cursor := line + 1
      taken := if entry.isManaged then walk.taken + 1 else walk.taken
      pending := rest }

/-- What is written in all when no directive line is left; fails like a step. -/
def finish? (lines : List String) (walk : Walk) : Option (List String) :=
  (slice? lines walk.cursor lines.length).map (walk.written ++ ·)

/-- What is written in all when the rest is written as a merge does it. -/
def outcome (lines labels : List String) (walk : Walk) : List String :=
  walk.written ++ mergeFrom lines labels walk.cursor walk.taken walk.pending

/-- A walk that goes on has a directive line to come. -/
theorem exists_pending_of_step? {lines labels : List String} {walk next : Walk}
    (h : walk.step? lines labels = some next) :
    ∃ line entry replacement rest, walk.pending = (line, entry, replacement) :: rest := by
  cases hpending : walk.pending with
  | nil =>
    unfold step? at h
    rw [hpending] at h
    cases h
  | cons first rest => exact ⟨_, _, _, rest, rfl⟩

/-- How a walk stands before a step. -/
structure Standing (lines : List String) (walk : Walk) : Prop where
  cursor_le_length : walk.cursor ≤ lines.length
  /-- The cursor is not inside a label. -/
  not_isLabelLine_above : ∀ i, i + 1 = walk.cursor → lines[i]?.any isLabelLine = false
  /-- The directive lines to come are all from the cursor on. -/
  exists_pending_eq : ∃ entries,
    walk.pending = (directivePositionsFrom walk.cursor (lines.drop walk.cursor)).zip entries

end Walk

/-- What is cut out for a directive line, with the cursor where it is, is in range, and it is the
line with the label that is reported for it. -/
structure CutsReported (lines : List String) (cursor line : Nat) : Prop where
  isDirectiveAt_line : isDirectiveAt lines line = true
  cursor_le_labelStart : cursor ≤ labelStart lines cursor line
  labelStart_le_line : labelStart lines cursor line ≤ line
  line_lt_length : line < lines.length
  /-- The scan up to the cursor ends where the scan up to the top does. -/
  labelStart_eq : labelStart lines cursor line = labelStart lines 0 line
  /-- The lines that are cut above the directive are those of its label. -/
  joinLines_slice_eq :
    Text.joinLines (slice lines (labelStart lines cursor line) line) = labelAbove lines line

/-- The first of the directive positions, and those after it. -/
theorem directivePositionsFrom_eq_cons {start position : Nat} {positions : List Nat}
    {lines : List String} (h : directivePositionsFrom start lines = position :: positions) :
    ∃ k text, position = start + k ∧ lines[k]? = some text ∧ isDirective text = true ∧
      positions = directivePositionsFrom (position + 1) (lines.drop (k + 1)) := by
  induction lines generalizing start with
  | nil => cases h
  | cons line lines ih =>
    rw [directivePositionsFrom] at h
    split at h
    next hline =>
      cases h
      exact ⟨0, line, rfl, rfl, hline, rfl⟩
    next =>
      obtain ⟨k, text, hk, htext, hdirective, hrest⟩ := ih h
      exact ⟨k + 1, text, by omega, htext, hdirective, hrest⟩

namespace Walk.Standing

variable {lines labels : List String} {walk next : Walk} {line : Nat} {entry : Entry}
  {replacement : Replacement} {rest : List (Nat × Entry × Replacement)}

/-- The next directive line is the first from the cursor on. -/
theorem pending_eq_cons (h : walk.Standing lines)
    (hpending : walk.pending = (line, entry, replacement) :: rest) :
    walk.cursor ≤ line ∧ (∃ text, lines[line]? = some text ∧ isDirective text = true) ∧
      ∃ entries,
        rest = (directivePositionsFrom (line + 1) (lines.drop (line + 1))).zip entries := by
  obtain ⟨entries, hentries⟩ := h.exists_pending_eq
  rw [hpending] at hentries
  cases hpositions : directivePositionsFrom walk.cursor (lines.drop walk.cursor) with
  | nil =>
    rw [hpositions] at hentries
    cases hentries
  | cons position positions =>
    cases entries with
    | nil =>
      rw [List.zip_nil_right] at hentries
      cases hentries
    | cons first entries =>
      rw [hpositions, List.zip_cons_cons] at hentries
      cases hentries
      obtain ⟨k, text, rfl, htext, hdirective, rfl⟩ := directivePositionsFrom_eq_cons hpositions
      rw [List.getElem?_drop] at htext
      rw [List.drop_drop]
      exact ⟨Nat.le_add_right _ k, ⟨text, htext, hdirective⟩, entries, rfl⟩

/-- The walk cuts out what is reported. -/
theorem cutsReported (h : walk.Standing lines)
    (hpending : walk.pending = (line, entry, replacement) :: rest) :
    CutsReported lines walk.cursor line := by
  obtain ⟨hcursor, ⟨text, htext, hdirective⟩, -⟩ := h.pending_eq_cons hpending
  have hline : line < lines.length := (List.getElem?_eq_some_iff.mp htext).1
  have hsame := labelStart_eq_labelStart_zero (Nat.le_of_lt hline) hcursor h.not_isLabelLine_above
  constructor
  case isDirectiveAt_line => rw [isDirectiveAt, htext, Option.any_some, hdirective]
  case cursor_le_labelStart => exact le_labelStart lines hcursor
  case labelStart_le_line => exact labelStart_le lines walk.cursor line
  case line_lt_length => exact hline
  case labelStart_eq => exact hsame
  case joinLines_slice_eq => rw [hsame, labelAbove]

/-- So the step does not fail. -/
theorem step?_eq_some (h : walk.Standing lines)
    (hpending : walk.pending = (line, entry, replacement) :: rest) (labels : List String) :
    walk.step? lines labels = some {
      written := walk.written ++ slice lines walk.cursor (labelStart lines walk.cursor line) ++
        replaceBlock (slice lines (labelStart lines walk.cursor line) (line + 1)) entry
          labels[walk.taken]? replacement
      cursor := line + 1
      taken := if entry.isManaged then walk.taken + 1 else walk.taken
      pending := rest } := by
  have hcut := h.cutsReported hpending
  have hline := hcut.line_lt_length
  have hstart := hcut.labelStart_le_line
  have habove := slice?_eq_some hcut.cursor_le_labelStart (by omega : _ ≤ lines.length)
  have hblock := slice?_eq_some (by omega : labelStart lines walk.cursor line ≤ line + 1) hline
  unfold step?
  rw [hpending]
  simp only [labelStart?_eq_some (Nat.le_of_lt hline), habove, hblock, Option.bind_eq_bind,
    Option.bind_some, Option.pure_def]

/-- After a step the walk stands below the directive line that it came to. -/
theorem of_step? (h : walk.Standing lines) (hstep : walk.step? lines labels = some next) :
    next.Standing lines := by
  obtain ⟨line, entry, replacement, rest, hpending⟩ := exists_pending_of_step? hstep
  obtain ⟨-, ⟨text, htext, hdirective⟩, hrest⟩ := h.pending_eq_cons hpending
  rw [h.step?_eq_some hpending labels] at hstep
  cases hstep
  constructor
  case cursor_le_length => exact (List.getElem?_eq_some_iff.mp htext).1
  case not_isLabelLine_above =>
    intro i hi
    cases Nat.succ.inj hi
    rw [htext, Option.any_some, not_isLabelLine_of_isDirective hdirective]
  case exists_pending_eq => exact hrest

/-- A step changes nothing of what is written in all. -/
theorem outcome_of_step? (h : walk.Standing lines) (hstep : walk.step? lines labels = some next) :
    next.outcome lines labels = walk.outcome lines labels := by
  obtain ⟨line, entry, replacement, rest, hpending⟩ := exists_pending_of_step? hstep
  rw [h.step?_eq_some hpending labels] at hstep
  cases hstep
  unfold outcome
  rw [hpending, mergeFrom]
  simp only [List.append_assoc]

/-- When no directive line is left, the lines below the cursor are written. -/
theorem finish?_eq_some (h : walk.Standing lines) (hpending : walk.pending = [])
    (labels : List String) : walk.finish? lines = some (walk.outcome lines labels) := by
  unfold finish? outcome
  rw [slice?_eq_some h.cursor_le_length (Nat.le_refl _), hpending, mergeFrom, slice,
    List.take_length]
  rfl

end Walk.Standing

/-! ## The walk of a merge -/

namespace Merge

/-- The walk of a merge before its first step. -/
def firstWalk (merge : Merge) (note : String) : Walk where
  written := []
  cursor := 0
  taken := 0
  pending := (directivesIn note).zip (merge.entries.zip merge.replacements)

/-- The walk of a merge over a note, after any number of steps. -/
inductive Reaches (merge : Merge) (note : String) : Walk → Prop
  | first : merge.Reaches note (merge.firstWalk note)
  | step {walk next : Walk} : merge.Reaches note walk →
      walk.step? (Text.splitLines note) merge.labels = some next → merge.Reaches note next

variable {merge : Merge} {note : String} {walk : Walk}

theorem standing_firstWalk (merge : Merge) (note : String) :
    (merge.firstWalk note).Standing (Text.splitLines note) where
  cursor_le_length := Nat.zero_le _
  not_isLabelLine_above := fun _ hi => absurd hi (Nat.succ_ne_zero _)
  exists_pending_eq := ⟨merge.entries.zip merge.replacements, rfl⟩

/-- However far the walk has come, it stands so, and in all it writes what the merge does. -/
theorem Reaches.standing (h : merge.Reaches note walk) :
    walk.Standing (Text.splitLines note) ∧
      walk.outcome (Text.splitLines note) merge.labels =
        (merge.firstWalk note).outcome (Text.splitLines note) merge.labels := by
  induction h with
  | first => exact ⟨merge.standing_firstWalk note, rfl⟩
  | step _ hstep ih => exact ⟨ih.1.of_step? hstep, (ih.1.outcome_of_step? hstep).trans ih.2⟩

/-- A walk comes to its end. -/
theorem Reaches.exists_last (h : merge.Reaches note walk) :
    ∃ last, merge.Reaches note last ∧ last.pending = [] := by
  generalize hpending : walk.pending = pending
  induction pending generalizing walk with
  | nil => exact ⟨walk, h, hpending⟩
  | cons first rest ih =>
    obtain ⟨line, entry, replacement⟩ := first
    exact ih (h.step (h.standing.1.step?_eq_some hpending merge.labels)) rfl

/-- **The block that a merge cuts out is the block that is reported.** At every directive line that
the walk comes to, the block that it cuts out is in range and has the label that is reported, and
the walk goes on below it; it comes to its end, with what the merge writes. Whatever the floor, the
scan for a label finds the first line from which only lines that are neither blank nor directives
lead down. -/
theorem walk_cutsReported (merge : Merge) (note : String) :
    let lines := Text.splitLines note
    (∀ walk line entry replacement rest, merge.Reaches note walk →
      walk.pending = (line, entry, replacement) :: rest →
        CutsReported lines walk.cursor line ∧
          ∃ next, walk.step? lines merge.labels = some next ∧ next.cursor = line + 1 ∧
            next.pending = rest) ∧
    (∃ last written, merge.Reaches note last ∧ last.pending = [] ∧
      last.finish? lines = some written ∧
      mergeLines lines (merge.entries.zip merge.replacements) merge.labels =
        trimTop lines written) ∧
    ∀ line < lines.length, ∀ floor ≤ line,
      IsLeast {start | floor ≤ start ∧ IsLabelFrom lines start line}
        (labelStart lines floor line) := by
  intro lines
  refine ⟨?_, ?_, ?_⟩
  · intro walk line entry replacement rest hreaches hpending
    have hstanding := hreaches.standing.1
    exact ⟨hstanding.cutsReported hpending, _,
      hstanding.step?_eq_some hpending merge.labels, rfl, rfl⟩
  · have hfirst : merge.Reaches note (merge.firstWalk note) := .first
    obtain ⟨last, hlast, hnone⟩ := hfirst.exists_last
    obtain ⟨hstanding, houtcome⟩ := hlast.standing
    refine ⟨last, _, hlast, hnone, hstanding.finish?_eq_some hnone merge.labels, ?_⟩
    rw [houtcome]
    rfl
  · intro line hline floor hfloor
    exact isLeast_labelStart (Nat.le_of_lt hline) hfloor

/-- A walk that has come past an entry that could not be read, and stands at the label of the
next. -/
theorem walk_cutsReported_mixed :
    let entry := Entry.managed (.ofTemplate (.goal ⟨.one⟩) none)
    let merge : Merge :=
      ⟨[.unparsed "#template ???" "unknown", entry], ["Trip"], [.delete, .replace "#goal 2"], []⟩
    let note := "Top\n\nCar\nin May\n#template ???\nTrip\n#goal 1\nend"
    let lines := Text.splitLines note
    let walk : Walk := ⟨["Top", "", "Car", "in May", "#template ???"], 5, 0,
      [(6, entry, .replace "#goal 2")]⟩
    merge.Reaches note walk ∧ walk.pending = (6, entry, .replace "#goal 2") :: [] ∧
    CutsReported lines 5 6 ∧ labelAbove lines 6 = "Trip" ∧
    4 < lines.length ∧ 3 ≤ 4 ∧ IsLeast {start | 3 ≤ start ∧ IsLabelFrom lines start 4} 3 := by
  intro entry merge note lines walk
  have hstep : (merge.firstWalk note).step? lines merge.labels = some walk := by decide +kernel
  have hreaches : merge.Reaches note walk := Reaches.first.step hstep
  obtain ⟨hcuts, -, hleast⟩ := walk_cutsReported merge note
  have hlength : 4 < lines.length := by decide +kernel
  have hlabel : labelAbove lines 6 = "Trip" := by decide +kernel
  have hstart : labelStart lines 3 4 = 3 := by decide +kernel
  have hmay := hleast 4 hlength 3 (by decide)
  rw [hstart] at hmay
  exact ⟨hreaches, rfl, (hcuts walk 6 entry _ _ hreaches rfl).1, hlabel, hlength, by decide, hmay⟩

end Merge

end BudgetNotes
