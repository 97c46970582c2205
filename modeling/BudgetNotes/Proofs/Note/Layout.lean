import BudgetNotes.Note.Labels
import Mathlib.Data.List.TakeWhile

/-!
# The layout of a note

A note is a row of blocks and the lines after the last one. A block is a
directive line with its label, the lines directly above it that are neither
blank nor directives, and the other lines above that. The layout is built
from the last line up: a line joins the label below it as long as nothing
stands between.

Main statements: `toLines_ofLines` (the layout holds every line, in order),
`ofLines_wellFormed` (its blocks are as described),
`not_isDirective_of_mem_rest` (every directive line has its block) and
`ofLines_flatMap_append` (no other blocks are as described).
-/

namespace BudgetNotes

/-- No directive line is blank. -/
theorem not_isBlank_of_isDirective {line : String} (h : isDirective line = true) :
    Text.isBlank line = false := by
  rw [Bool.eq_false_iff]
  intro hblank
  have hdrop : line.toList.dropWhile Text.isSpace = [] :=
    List.dropWhile_eq_nil_iff.mpr (List.all_eq_true.mp hblank)
  rw [isDirective, hdrop] at h
  cases h

/-- A directive line, its label, and what stands above the label. -/
structure Block where
  before : List String
  label : List String
  directive : String
deriving DecidableEq

/-- The blocks of a note and the lines after the last of them. -/
structure Layout where
  blocks : List Block
  rest : List String
deriving DecidableEq

/-- The lines of a block. -/
def Block.toLines (block : Block) : List String :=
  block.before ++ block.label ++ [block.directive]

/-- What a block is made of: no directive above its own, and a label that cannot reach further
up. -/
structure Block.WellFormed (block : Block) : Prop where
  isDirective_directive : isDirective block.directive = true
  isLabelLine_of_mem : ∀ line ∈ block.label, isLabelLine line = true
  not_isDirective_of_mem : ∀ line ∈ block.before, isDirective line = false
  isBlank_getLast : ∀ line ∈ block.before.getLast?, Text.isBlank line = true

namespace Layout

/-- The lines of a layout. -/
def toLines (layout : Layout) : List String :=
  layout.blocks.flatMap Block.toLines ++ layout.rest

/-- Puts a line above a layout. -/
def cons (line : String) (layout : Layout) : Layout :=
  if isDirective line then { layout with blocks := ⟨[], [], line⟩ :: layout.blocks }
  else match layout.blocks with
    | [] => { layout with rest := line :: layout.rest }
    | block :: blocks =>
      if block.before.isEmpty && !Text.isBlank line then
        { layout with blocks := { block with label := line :: block.label } :: blocks }
      else { layout with blocks := { block with before := line :: block.before } :: blocks }

/-- The layout of a note's lines. -/
def ofLines : List String → Layout
  | [] => ⟨[], []⟩
  | line :: lines => cons line (ofLines lines)

/-! ## Laws -/

/-- Putting a line above a layout puts it above the lines. -/
theorem toLines_cons (line : String) (layout : Layout) :
    (cons line layout).toLines = line :: layout.toLines := by
  obtain ⟨blocks, rest⟩ := layout
  rw [cons]
  split
  · simp [toLines, Block.toLines]
  · cases blocks with
    | nil => simp [toLines]
    | cons block blocks =>
      obtain ⟨before, label, directive⟩ := block
      simp only
      split
      next h =>
        rw [Bool.and_eq_true, List.isEmpty_iff] at h
        simp [toLines, Block.toLines, h.1]
      next => simp [toLines, Block.toLines]

/-- The layout holds every line, in order. -/
theorem toLines_ofLines (lines : List String) : (ofLines lines).toLines = lines := by
  induction lines with
  | nil => rfl
  | cons line lines ih => rw [ofLines, toLines_cons, ih]

theorem blocks_append_rest (lines : List String) :
    (ofLines lines).blocks.flatMap Block.toLines ++ (ofLines lines).rest = lines :=
  toLines_ofLines lines

/-- Putting a line above well-formed blocks gives well-formed blocks. -/
theorem wellFormed_cons {line : String} {layout : Layout}
    (h : ∀ block ∈ layout.blocks, block.WellFormed) :
    ∀ block ∈ (cons line layout).blocks, block.WellFormed := by
  obtain ⟨blocks, rest⟩ := layout
  rw [cons]
  split
  next hd =>
    intro block hb
    rcases List.mem_cons.mp hb with rfl | hb
    · exact ⟨hd, by simp, by simp, by simp⟩
    · exact h block hb
  next hd =>
    rw [Bool.not_eq_true] at hd
    cases blocks with
    | nil => exact h
    | cons first blocks =>
      have hfirst := h first (List.mem_cons_self ..)
      have hrest : ∀ block ∈ blocks, block.WellFormed :=
        fun block hb => h block (List.mem_cons_of_mem _ hb)
      simp only
      split
      next hl =>
        rw [Bool.and_eq_true, List.isEmpty_iff] at hl
        intro block hb
        rcases List.mem_cons.mp hb with rfl | hb
        · refine ⟨hfirst.isDirective_directive, ?_, hfirst.not_isDirective_of_mem,
            hfirst.isBlank_getLast⟩
          intro l hmem
          rcases List.mem_cons.mp hmem with rfl | hmem
          · simp [isLabelLine, hd, hl.2]
          · exact hfirst.isLabelLine_of_mem l hmem
        · exact hrest block hb
      next hl =>
        intro block hb
        rcases List.mem_cons.mp hb with rfl | hb
        · refine ⟨hfirst.isDirective_directive, hfirst.isLabelLine_of_mem, ?_, ?_⟩
          · intro l hmem
            rcases List.mem_cons.mp hmem with rfl | hmem
            · exact hd
            · exact hfirst.not_isDirective_of_mem l hmem
          · intro l hlast
            cases hbefore : first.before with
            | nil =>
              rw [hbefore] at hl hlast
              simp only [List.isEmpty_nil, Bool.true_and, Bool.not_eq_true,
                Bool.not_eq_false'] at hl
              simp only [List.getLast?_singleton, Option.mem_some_iff] at hlast
              rwa [← hlast]
            | cons a as =>
              apply hfirst.isBlank_getLast
              rw [hbefore] at hlast ⊢
              simpa [List.getLast?_cons_cons] using hlast
        · exact hrest block hb

/-- The blocks of a note are well formed. -/
theorem ofLines_wellFormed (lines : List String) :
    ∀ block ∈ (ofLines lines).blocks, block.WellFormed := by
  induction lines with
  | nil => intro block hb; cases hb
  | cons line lines ih => exact wellFormed_cons ih

/-- Below the last block no line is a directive. -/
theorem not_isDirective_of_mem_rest (lines : List String) :
    ∀ line ∈ (ofLines lines).rest, isDirective line = false := by
  induction lines with
  | nil => intro line hl; cases hl
  | cons first lines ih =>
    intro line hl
    unfold ofLines cons at hl
    split at hl
    next => exact ih line hl
    next hd =>
      split at hl
      next =>
        rcases List.mem_cons.mp hl with rfl | hl
        · exact Bool.not_eq_true _ |>.mp hd
        · exact ih line hl
      next => split at hl <;> exact ih line hl

/-! ## The layout of given blocks -/

/-- Lines without a directive are all below the last block. -/
theorem ofLines_of_not_isDirective {lines : List String}
    (h : ∀ l ∈ lines, isDirective l = false) : ofLines lines = ⟨[], lines⟩ := by
  induction lines with
  | nil => rfl
  | cons line lines ih =>
    have hline : ¬isDirective line = true := by
      rw [h line (List.mem_cons_self ..)]
      exact Bool.false_ne_true
    rw [ofLines, ih fun l hl => h l (List.mem_cons_of_mem _ hl), cons, if_neg hline]

/-- A label joins its directive. -/
theorem ofLines_label_append {label : List String} {directive : String}
    (hl : ∀ l ∈ label, isLabelLine l = true) (hd : isDirective directive = true)
    (lines : List String) :
    ofLines (label ++ directive :: lines) =
      ⟨⟨[], label, directive⟩ :: (ofLines lines).blocks, (ofLines lines).rest⟩ := by
  induction label with
  | nil => rw [List.nil_append, ofLines, cons, if_pos hd]
  | cons line label ih =>
    have hline := hl line (List.mem_cons_self ..)
    unfold isLabelLine at hline
    rw [Bool.and_eq_true, Bool.not_eq_true', Bool.not_eq_true'] at hline
    rw [List.cons_append, ofLines, ih fun l h => hl l (List.mem_cons_of_mem _ h), cons, hline.1]
    simp [hline.2]

/-- Lines that end with a blank one stay before the block that they are put above. -/
theorem ofLines_before_append {before lines rest : List String} {block : Block}
    {blocks : List Block}
    (hnot : ∀ l ∈ before, isDirective l = false)
    (hlast : ∀ l ∈ before.getLast?, Text.isBlank l = true)
    (h : ofLines lines = ⟨block :: blocks, rest⟩) :
    ofLines (before ++ lines) =
      ⟨{ block with before := before ++ block.before } :: blocks, rest⟩ := by
  induction before with
  | nil => exact h
  | cons line before ih =>
    have hline := hnot line (List.mem_cons_self ..)
    cases before with
    | nil =>
      -- the last of the lines is blank, so it does not join the label
      have hblank := hlast line rfl
      rw [List.singleton_append, ofLines, h, cons, hline, hblank]
      simp
    | cons next before =>
      have hrest := ih (fun l hl => hnot l (List.mem_cons_of_mem _ hl))
        fun l hl => hlast l (by rwa [List.getLast?_cons_cons])
      rw [List.cons_append, ofLines, hrest, cons, hline]
      simp

/-- Well-formed blocks that are put above lines are the first blocks of the layout. -/
theorem ofLines_flatMap_append {blocks : List Block} (hw : ∀ block ∈ blocks, block.WellFormed)
    (lines : List String) :
    ofLines (blocks.flatMap Block.toLines ++ lines) =
      ⟨blocks ++ (ofLines lines).blocks, (ofLines lines).rest⟩ := by
  induction blocks with
  | nil => rfl
  | cons block blocks ih =>
    have hblock := hw block (List.mem_cons_self ..)
    have hlines : (block :: blocks).flatMap Block.toLines ++ lines =
        block.before ++ (block.label ++ block.directive ::
          (blocks.flatMap Block.toLines ++ lines)) := by
      simp [Block.toLines]
    have hlabel := ofLines_label_append hblock.isLabelLine_of_mem hblock.isDirective_directive
      (blocks.flatMap Block.toLines ++ lines)
    rw [ih fun b hb => hw b (List.mem_cons_of_mem _ hb)] at hlabel
    rw [hlines, ofLines_before_append hblock.not_isDirective_of_mem hblock.isBlank_getLast hlabel,
      List.append_nil]
    rfl

/-- Lines without a directive are added below the last block. -/
theorem ofLines_append_of_not_isDirective (lines : List String) {below : List String}
    (h : ∀ l ∈ below, isDirective l = false) :
    ofLines (lines ++ below) = ⟨(ofLines lines).blocks, (ofLines lines).rest ++ below⟩ := by
  have hrest : ∀ l ∈ (ofLines lines).rest ++ below, isDirective l = false := by
    intro l hl
    rcases List.mem_append.mp hl with hl | hl
    · exact not_isDirective_of_mem_rest lines l hl
    · exact h l hl
  have hlines : lines ++ below =
      (ofLines lines).blocks.flatMap Block.toLines ++ ((ofLines lines).rest ++ below) := by
    rw [← List.append_assoc, blocks_append_rest]
  rw [hlines, ofLines_flatMap_append (ofLines_wellFormed lines), ofLines_of_not_isDirective hrest,
    List.append_nil]

/-- A directive that ends the lines makes what is below the last block a block, the same for every
directive. -/
theorem exists_ofLines_concat (lines : List String) :
    ∃ before label, ∀ directive, isDirective directive = true →
      ofLines (lines ++ [directive]) =
        ⟨(ofLines lines).blocks ++ [⟨before, label, directive⟩], []⟩ := by
  induction lines with
  | nil =>
    refine ⟨[], [], fun directive hd => ?_⟩
    show cons directive ⟨[], []⟩ = _
    rw [cons, if_pos hd]
    rfl
  | cons line lines ih =>
    obtain ⟨before, label, hih⟩ := ih
    by_cases hline : isDirective line = true
    · refine ⟨before, label, fun directive hd => ?_⟩
      rw [List.cons_append, ofLines, hih directive hd, cons, if_pos hline, ofLines, cons,
        if_pos hline]
      rfl
    · -- the line goes to the first block, which is the new one if there was none
      cases hblocks : (ofLines lines).blocks with
      | cons block blocks =>
        refine ⟨before, label, fun directive hd => ?_⟩
        rw [List.cons_append, ofLines, hih directive hd, hblocks, cons, if_neg hline, ofLines, cons,
          if_neg hline, hblocks]
        simp only [List.cons_append]
        split <;> rfl
      | nil =>
        by_cases hlabel : (before.isEmpty && !Text.isBlank line) = true
        · refine ⟨before, line :: label, fun directive hd => ?_⟩
          rw [List.cons_append, ofLines, hih directive hd, hblocks, List.nil_append, cons,
            if_neg hline, ofLines, cons, if_neg hline, hblocks]
          simp only [hlabel, if_true, List.nil_append]
        · refine ⟨line :: before, label, fun directive hd => ?_⟩
          rw [List.cons_append, ofLines, hih directive hd, hblocks, List.nil_append, cons,
            if_neg hline, ofLines, cons, if_neg hline, hblocks]
          simp only [hlabel, Bool.false_eq_true, if_false, List.nil_append]

end Layout

end BudgetNotes
