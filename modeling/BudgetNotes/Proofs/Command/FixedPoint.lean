import BudgetNotes.Command
import BudgetNotes.Proofs.Draft.Alignment
import BudgetNotes.Proofs.Draft.NormalForm
import BudgetNotes.Proofs.Json.Progress
import BudgetNotes.Proofs.Note.Loading
import BudgetNotes.Proofs.Storage.Order
import BudgetNotes.Proofs.Storage.Printing

/-!
# One round of loading and compiling

Directives that were compiled are stored, loaded as drafts of a note, and the
drafts are compiled again. Every step goes through printed text. The directives
come back with their numbers in normal form and nothing else changed, whatever
note they are loaded from; so a second round changes nothing at all.

> `draftsOf_managed`: every stored directive is loaded, with the label found for
> it in the note.
> `Draft.compile_loadedDraft`: and it is compiled again, to its normal form.

A round needs the positions of the entries to be machine words, since they are
printed; positions in what was read from a text are.

Main statement: `Command.reloadsTo_of_compile`.
-/

namespace BudgetNotes

open Json

/-! ## Printed lists -/

namespace Json

/-- A printed value is read as the value, by a reader that does not look at the order of members. -/
theorem parse?_print_bind {α : Type} {decode : Json → Option α} (hdecode : IgnoresOrder decode)
    {v : Json} (h : Printable 0 v) (style : Style) :
    (parse? (v.print style)).bind decode = decode v := by
  rw [parse?_print style h]
  exact hdecode v

theorem printable_arr_map {α : Type} {depth : Nat} {encode : α → Json} {l : List α}
    (hdepth : depth < maxDepth) (h : ∀ a ∈ l, Printable (depth + 1) (encode a)) :
    Printable depth (.arr (l.map encode)) := by
  rw [Printable]
  refine ⟨hdepth, ?_⟩
  induction l with
  | nil => trivial
  | cons a l ih =>
    obtain ⟨ha, hl⟩ := List.forall_mem_cons.mp h
    exact ⟨ha, ih hl⟩

end Json

/-! ## Compiling a list -/

namespace Compilation

/-- Drafts that compile one by one compile as a list. -/
theorem ofDrafts_of_map_compile {drafts : List Draft} {directives : List Directive}
    (h : drafts.map Draft.compile = directives.map Check.ok) :
    (ofDrafts drafts).isOk = true ∧ (ofDrafts drafts).directives = directives := by
  have hproblems : ∀ draft ∈ drafts, draft.compile.problems = [] := by
    intro draft hdraft
    have hmem : draft.compile ∈ directives.map Check.ok := h ▸ List.mem_map_of_mem hdraft
    obtain ⟨d, _, hd⟩ := List.mem_map.mp hmem
    rw [← hd]
    rfl
  have hinjective : Function.Injective (Check.ok : Directive → Check Directive) :=
    fun _ _ heq => Check.ok.inj heq
  refine ⟨(isOk_iff drafts).mpr hproblems, List.map_injective_iff.mpr hinjective ?_⟩
  rw [ofDrafts, directives_fromPosition, map_ok_filterMap_value? hproblems, h]

theorem typeable_of_mem_directives {drafts : List Draft} {d : Directive}
    (h : d ∈ (ofDrafts drafts).directives) : d.Typeable := by
  rw [ofDrafts, directives_fromPosition] at h
  obtain ⟨draft, _, hd⟩ := List.mem_filterMap.mp h
  exact Draft.typeable_of_compile (Check.value?_eq_some_iff.mp hd)

theorem length_directives_le (drafts : List Draft) :
    (ofDrafts drafts).directives.length ≤ drafts.length := by
  rw [ofDrafts, directives_fromPosition]
  exact List.length_filterMap_le _ _

end Compilation

/-! ## Loading what was stored -/

/-- A stored directive that can be typed compiles to its normal form, under any label found in a
note. -/
theorem Draft.compile_loadedDraft {d : Directive} (h : d.Typeable) (newId : Nat → String)
    (note : String) (i : Nat) :
    (loadedDraft newId (foundLabel note) i d.settled).compile = .ok d.normalize := by
  have hform : (loadedDraft newId (foundLabel note) i d.settled).form =
      .ofTemplate d.template :=
    Form.ofTemplate_congr d.template.normalize_settled
  exact compile_ofTemplate h hform rfl (labelHasGap_foundLabel note i)

/-- Where every entry is a directive, every entry is loaded. -/
theorem draftsOf_managed (newId : Nat → String) (note : String) (directives : List Directive) :
    draftsOf newId note (directives.map .managed) =
      directives.zipIdx.map fun a => loadedDraft newId (foundLabel note) a.2 a.1 := by
  rw [draftsOf_eq_filterMap, List.zipIdx_map, List.filterMap_map, ← List.filterMap_eq_map]
  rfl

section

variable {directives : List Directive} (h : ∀ d ∈ directives, d.Typeable)
include h

/-- Stored directives are read as they are stored. -/
theorem asList?_entries :
    asList? Entry.ofJson? (.arr (directives.map Directive.toJson)) =
      some ((directives.map Directive.settled).map .managed) := by
  rw [List.map_map]
  refine asList?_map fun d hd => ?_
  have hstorable : (Entry.managed d).Storable := (h d hd).template.storable
  exact Entry.ofJson?_toJson hstorable

/-- What is loaded compiles to normal forms. -/
theorem map_compile_draftsOf (newId : Nat → String) (note : String) :
    (draftsOf newId note ((directives.map Directive.settled).map .managed)).map Draft.compile =
      (directives.map Directive.normalize).map Check.ok := by
  have hcompile : ∀ a ∈ directives.zipIdx,
      (loadedDraft newId (foundLabel note) a.2 a.1.settled).compile = .ok a.1.normalize :=
    fun a ha => Draft.compile_loadedDraft (h a.1 (List.fst_mem_of_mem_zipIdx ha)) newId note a.2
  have hfirst : directives.zipIdx.map (fun a => Check.ok a.1.normalize) =
      (directives.zipIdx.map Prod.fst).map fun d => Check.ok d.normalize := by
    rw [List.map_map]
    rfl
  rw [draftsOf_managed, List.zipIdx_map]
  simp only [List.map_map, Function.comp_def, Prod.map, id]
  rw [List.map_congr_left hcompile, hfirst, List.zipIdx_map_fst]

end

/-! ## Commands on printed text -/

namespace Command

theorem readRequest_of_bind {α : Type} {decode : Json → Option α} {content : String} {a : α}
    (h : (Json.parse? content).bind decode = some a) (what : String) :
    readRequest what decode content = .ok a := by
  unfold readRequest
  rw [h]

/-- Drafts that are read and compile one by one are compiled. -/
theorem runCompile_of_map_compile {content : String} {drafts : List Draft}
    {directives : List Directive}
    (hread : (Json.parse? content).bind (asList? Draft.ofJson?) = some drafts)
    (hcompile : drafts.map Draft.compile = directives.map Check.ok) :
    runCompile content = .ok (.ofValue (.arr (directives.map Directive.toJson))) := by
  obtain ⟨hok, hdirectives⟩ := Compilation.ofDrafts_of_map_compile hcompile
  unfold runCompile
  rw [readRequest_of_bind hread]
  show (if (Compilation.ofDrafts drafts).isOk = true then _ else _) = _
  rw [if_pos hok, hdirectives]

/-- The directives that were compiled can be typed, and there are no more of them than the content
has characters. -/
theorem exists_directives_of_runCompile {content : String} {result : CommandResult}
    (h : runCompile content = .ok result) (hok : result.ok = true) :
    ∃ directives : List Directive, result.value = .arr (directives.map Directive.toJson) ∧
      (∀ d ∈ directives, d.Typeable) ∧ directives.length ≤ content.length := by
  unfold runCompile at h
  cases hread : (Json.parse? content).bind (asList? Draft.ofJson?) with
  | none =>
    unfold readRequest at h
    rw [hread] at h
    cases h
  | some drafts =>
    rw [readRequest_of_bind hread] at h
    replace h : (if (Compilation.ofDrafts drafts).isOk = true then _ else _) = _ := h
    split at h
    next =>
      cases h
      obtain ⟨v, hparse, hlist⟩ := Option.bind_eq_some_iff.mp hread
      obtain ⟨items, rfl, hitems⟩ := exists_of_asList? hlist
      have hdrafts : items.length ≤ content.length := length_le_of_parse? hparse
      have hdirectives := Compilation.length_directives_le drafts
      exact ⟨(Compilation.ofDrafts drafts).directives, rfl,
        fun d => Compilation.typeable_of_mem_directives, by omega⟩
    next =>
      cases h
      cases hok

/-! ## Requests for drafts -/

/-- Whether a text is a request for the drafts of a note with the given entries. The members of its
objects may stand in any order, and there may be others. -/
def AsksForDrafts (request note : String) (entries : Json) : Prop :=
  ∃ members stored, Json.parse? request = some (.obj members) ∧
    textField? members "note" = some note ∧
    Json.valuesAt "entries" members = [stored] ∧ stored.sortKeys = entries.sortKeys

/-- The members of a request for drafts, without any others. -/
def draftsMembers (note : String) (entries : Json) : List (String × Json) :=
  [("note", .str note), ("entries", entries)]

/-- Entries that can be printed can be asked for with any note. -/
theorem asksForDrafts_print {entries : Json} (h : Printable 1 entries) (note : String)
    (style : Style) :
    AsksForDrafts ((Json.obj (draftsMembers note entries)).print style) note entries := by
  have hprintable : Printable 0 (.obj (draftsMembers note entries)) := by
    rw [Printable]
    exact ⟨by decide, printable_str _ _, h, trivial⟩
  refine ⟨sortedMembers (draftsMembers note entries), entries.sortKeys, ?_, ?_, ?_,
    sortKeys_sortKeys entries⟩
  · rw [parse?_print style hprintable, sortKeys_obj]
  · rw [(sortsTo_sortedMembers _).textField?]
    rfl
  · rw [valuesAt_sortedMembers]
    rfl

/-- The drafts of entries that are read are loaded. -/
theorem runDrafts_of_asksForDrafts {request note : String} {entries : Json} {stored : List Entry}
    (h : AsksForDrafts request note entries)
    (hread : asList? Entry.ofJson? entries = some stored) (newId : Nat → String) :
    runDrafts newId request =
      .ok (.ofValue (.arr ((draftsOf newId note stored).map Draft.toJson))) := by
  obtain ⟨members, v, hparse, hnote, hentries, hsort⟩ := h
  have hlist : listMember? members "entries" Entry.ofJson? = some stored := by
    unfold listMember?
    rw [optional_of_valuesAt hentries, ← hread]
    exact Entry.ignoresOrder_ofJson?.asList?.eq_of_sortKeys_eq hsort
  have hrequest : (Json.parse? request).bind NoteRequest.ofJson? = some ⟨note, stored⟩ := by
    rw [hparse]
    show NoteRequest.ofJson? (.obj members) = _
    unfold NoteRequest.ofJson? asRecord?
    simp only [Option.bind_eq_bind, Option.bind_some, hnote, hlist]
  unfold runDrafts
  rw [readRequest_of_bind hrequest]
  rfl

/-! ## Rounds -/

/-- Whether entries come back as `value'` from a round of loading and compiling: from every request
for their drafts, whatever note it names, drafts are loaded, and the text of these drafts compiles
to `value'`. There is such a request for every note. -/
def ReloadsTo (value value' : Json) : Prop :=
  ∀ note, (∃ request, AsksForDrafts request note value) ∧
    ∀ newId request, AsksForDrafts request note value →
      ∃ loaded again, run newId .drafts request = .ok loaded ∧ loaded.ok = true ∧
        run newId .compile loaded.text = .ok again ∧ again.ok = true ∧ again.value = value'

/-- Directives that can be typed come back in normal form. -/
theorem reloadsTo_normalize {directives : List Directive} (h : ∀ d ∈ directives, d.Typeable)
    (hlength : directives.length < 18446744073709551616) :
    ReloadsTo (.arr (directives.map Directive.toJson))
      (.arr ((directives.map Directive.normalize).map Directive.toJson)) := by
  have hentries : Printable 1 (.arr (directives.map Directive.toJson)) :=
    printable_arr_map (by decide) fun d _ => d.printable_toJson (by decide)
  intro note
  refine ⟨⟨_, asksForDrafts_print hentries note .oneLine⟩, fun newId request hrequest => ?_⟩
  have hloaded := runDrafts_of_asksForDrafts hrequest (asList?_entries h) newId
  have hcompile := map_compile_draftsOf h newId note
  -- the positions are printed, so they have to fit
  have hprintable : Printable 0 (.arr ((draftsOf newId note
      ((directives.map Directive.settled).map .managed)).map Draft.toJson)) := by
    refine printable_arr_map (by decide) fun draft hdraft => draft.printable_toJson (by decide) ?_
    intro i hi
    obtain ⟨j, d, hentry, rfl⟩ := mem_draftsOf_iff.mp hdraft
    have hposition : j = i := Option.some.inj hi
    have hlt := (List.getElem?_eq_some_iff.mp hentry).1
    rw [List.length_map, List.length_map] at hlt
    omega
  have hread := parse?_print_bind Draft.ignoresOrder_ofJson?.asList? hprintable .indented
  rw [asList?_map fun draft _ => draft.ofJson?_toJson, List.map_id'] at hread
  exact ⟨_, _, hloaded, rfl, runCompile_of_map_compile hread hcompile, rfl, rfl⟩

/-- **One round of loading and compiling reaches a fixed point.** What was compiled can be stored as
entries. From any note with these entries drafts are loaded, and they compile to the same directives
with their numbers in normal form; from then on rounds change nothing. The content is a text in
memory, whose length is a machine word. -/
theorem reloadsTo_of_compile {newId : Nat → String} {content : String} {result : CommandResult}
    (hlength : content.length < 18446744073709551616)
    (h : run newId .compile content = .ok result) (hok : result.ok = true) :
    ∃ directives : List Directive, result.value = .arr (directives.map Directive.toJson) ∧
      ReloadsTo result.value (.arr ((directives.map Directive.normalize).map Directive.toJson)) ∧
      ReloadsTo (.arr ((directives.map Directive.normalize).map Directive.toJson))
        (.arr ((directives.map Directive.normalize).map Directive.toJson)) := by
  obtain ⟨directives, hvalue, htypeable, hle⟩ := exists_directives_of_runCompile h hok
  have hnormal : ∀ d ∈ directives.map Directive.normalize, d.Typeable := by
    intro d hd
    obtain ⟨d', hd', rfl⟩ := List.mem_map.mp hd
    exact (htypeable d' hd').normalize
  have hsame : (directives.map Directive.normalize).map Directive.normalize =
      directives.map Directive.normalize := by
    rw [List.map_map]
    exact List.map_congr_left fun d _ => d.normalize_normalize
  have hfirst := reloadsTo_normalize htypeable (by omega)
  have hsecond := reloadsTo_normalize hnormal (by rw [List.length_map]; omega)
  rw [hsame] at hsecond
  exact ⟨directives, hvalue, hvalue ▸ hfirst, hsecond⟩

/-- A percentage and a goal with zeros at the end. -/
theorem reloadsTo_of_compile_zeros :
    let content := "[\x7b\"id\": \"a\", \"type\": \"percentage\", \"percent\": \"07.50\", " ++
      "\"category\": \"Pay\"\x7d, \x7b\"id\": \"b\", \"label\": \"Rent\", \"type\": \"goal\", " ++
      "\"amount\": \"20.10\"\x7d]"
    let compiled : List Directive :=
      [.ofTemplate (.percentage ⟨false, 750, 2, by decide, by decide⟩ "Pay" false) none,
        .ofTemplate (.goal ⟨⟨false, 2010, 2, by decide, by decide⟩⟩) none]
    let result := CommandResult.ofValue (.arr (compiled.map Directive.toJson))
    content.length < 18446744073709551616 ∧ run (fun _ => "") .compile content = .ok result ∧
      result.ok = true ∧
      ∃ directives : List Directive, result.value = .arr (directives.map Directive.toJson) ∧
        ReloadsTo result.value (.arr ((directives.map Directive.normalize).map Directive.toJson)) ∧
        ReloadsTo (.arr ((directives.map Directive.normalize).map Directive.toJson))
          (.arr ((directives.map Directive.normalize).map Directive.toJson)) := by
  intro content compiled result
  have hlength : content.length < 18446744073709551616 := by decide +kernel
  have hread : (Json.parse? content).bind (asList? Draft.ofJson?) =
      some [⟨"a", none, "", "", .percentage "07.50" "Pay" false⟩,
        ⟨"b", none, "Rent", "", .goal "20.10"⟩] := by decide +kernel
  have hrun : run (fun _ => "") .compile content = .ok result :=
    runCompile_of_map_compile hread (by decide +kernel)
  exact ⟨hlength, hrun, rfl, reloadsTo_of_compile hlength hrun rfl⟩

end Command

end BudgetNotes
