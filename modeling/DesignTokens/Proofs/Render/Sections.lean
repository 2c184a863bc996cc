import DesignTokens.Proofs.Render.History

/-!
A sheet of several inputs is put together input by input. All inputs share one mapper, in which the
guesses for one input are still pending when the next one is read:

    context ──default──▶ · ──input 0──▶ · ──input 1──▶ · ──▶ context after the sheet
    header   ++  base    ++  section 0  ++  section 1  ++ …

The parts of a sheet (`sheetParts`) are cut out of that very loop. What the mapper remembers changes
no answer, so each part is the one that the context before the sheet would give, had it read nothing
but that input (`sectionsInTurn_eq`): the other inputs do not show in it.
-/

namespace DesignTokens

/-- The rules of the default input, and the context after them. -/
def baseAt (c : Config) (variants : List FileVariant) (default : Nat) (x : Context) :
    Option Json → Text × Context
  | none => ([], x)
  | some document =>
    let (block, x) := ClassBlock.ofDocument c x document
    (baseSection (baseLabel c variants default) block, x)

theorem baseAt_eq (c : Config) (variants : List FileVariant) (default : Nat) (x : Context)
    (document : Option Json) :
    baseAt c variants default x document =
      (baseText c variants x default document,
        x.lookAll (document.toList.flatMap (documentNames c x.keywords))) := by
  cases document with
  | none => rfl
  | some document => simp [baseAt, baseText, ofDocument_eq]

/-- What a sheet of several inputs is made of: the rules of the default input, and a section for
each input in turn. -/
structure SheetParts where
  base : Text
  sections : List Text

/-- The parts of the sheet of several inputs. -/
def sheetParts (c : Config) (x : Context) (sources : List Source) : SheetParts :=
  let variants := c.fileVariants sources.length
  let default := c.defaultFile.toNat
  let base := baseAt c variants default x (documentAt sources default)
  ⟨base.1, sectionsInTurn c variants default 0 base.2 sources⟩

/-- The sheet is its header and its parts, one after the other. -/
theorem text_eq_sheetParts (c : Config) (x : Context) (sources : List Source) :
    (responsiveSheet c x sources c.defaultFile.toNat).1 =
      sheetHeader c.responsive ++ (sheetParts c x sources).base ++
        (sheetParts c x sources).sections.flatten := by
  rw [responsiveSheet_eq]
  simp only [text_sectionsFrom, sheetParts, baseAt_eq]

theorem base_sheetParts (c : Config) (x : Context) (sources : List Source) :
    (sheetParts c x sources).base =
      baseText c (c.fileVariants sources.length) x c.defaultFile.toNat
        (documentAt sources c.defaultFile.toNat) := by
  simp only [sheetParts, baseAt_eq]

/-- The sections are those that one context gives to each input by itself. -/
theorem sections_sheetParts (c : Config) {x y : Context} (h : x.Alike y) (sources : List Source) :
    (sheetParts c x sources).sections = sources.zipIdx.map fun p =>
      (sectionAt c (c.fileVariants sources.length) c.defaultFile.toNat p.2 y p.1).1 := by
  simp only [sheetParts, baseAt_eq]
  exact sectionsInTurn_eq c _ _ 0 (h.lookAll _ []) sources

/-- The section at an index is told by the input at that index. -/
theorem getElem?_sections (c : Config) {x y : Context} (h : x.Alike y) (sources : List Source)
    (index : Nat) :
    (sheetParts c x sources).sections[index]? =
      sources[index]?.map fun source =>
        (sectionAt c (c.fileVariants sources.length) c.defaultFile.toNat index y source).1 := by
  rw [sections_sheetParts c h, List.getElem?_map, List.getElem?_zipIdx, Option.map_map]
  simp [Function.comp_def]

/-- Inputs that agree on an index have the same section there. -/
theorem sections_congr (c : Config) {x y : Context} (h : x.Alike y) {sources others : List Source}
    (hlength : others.length = sources.length) {index : Nat}
    (hindex : others[index]? = sources[index]?) :
    (sheetParts c y others).sections[index]? = (sheetParts c x sources).sections[index]? := by
  rw [getElem?_sections c (.refl y), getElem?_sections c h, hlength, hindex]

/-- Inputs that agree on the default one have the same rules for it. -/
theorem base_congr (c : Config) {x y : Context} (h : x.Alike y) {sources others : List Source}
    (hlength : others.length = sources.length)
    (hindex : others[c.defaultFile.toNat]? = sources[c.defaultFile.toNat]?) :
    (sheetParts c y others).base = (sheetParts c x sources).base := by
  rw [base_sheetParts, base_sheetParts, hlength, documentAt, documentAt, hindex,
    baseText_congr c _ h]

/-- A class pass over several inputs can be made when the settings hold good and name one of the
inputs. -/
theorem tryRender_of_several {c : Config} (hvalid : c.fault = none) (hmode : c.mode = .classes)
    {sources : List Source} (hmany : 2 ≤ sources.length)
    (hdefault : c.defaultFile.toNat < sources.length) (x : Context) :
    tryRender c x sources = .ok (responsiveSheet c x sources c.defaultFile.toNat) := by
  unfold tryRender classSheet
  rw [hvalid, hmode]
  simp only [defaultIndex_of_lt hdefault, bind, Except.bind]
  rw [if_neg (by omega)]

/-- The sheet of several inputs is put together input by input: the header, the rules of the default
input, and a section for every other input in turn, which is empty for an input without a document.
A part depends on the settings, the number of inputs, its own index and input, and the keywords and
the registry: it is the same, character by character, whatever the other inputs hold and whatever
happened to the context before. -/
theorem sheet_is_put_together {c : Config} {x : Context} {sources : List Source}
    (hvalid : c.fault = none) (hmode : c.mode = .classes) (hx : x.Reachable)
    (hmany : 2 ≤ sources.length) (hdefault : c.defaultFile.toNat < sources.length) :
    let parts := sheetParts c x sources
    (tryRender c x sources).map Prod.fst =
        .ok (sheetHeader c.responsive ++ parts.base ++ parts.sections.flatten) ∧
      parts.sections.length = sources.length ∧
      (documentAt sources c.defaultFile.toNat = none → parts.base = []) ∧
      (∀ index < sources.length,
        index = c.defaultFile.toNat ∨ documentAt sources index = none →
          parts.sections[index]? = some []) ∧
      ∀ (y : Context) (others : List Source), y.Reachable → y.keywords = x.keywords →
        y.mapper.registry = x.mapper.registry → others.length = sources.length →
          (others[c.defaultFile.toNat]? = sources[c.defaultFile.toNat]? →
            (sheetParts c y others).base = parts.base) ∧
          ∀ index : Nat, others[index]? = sources[index]? →
            (sheetParts c y others).sections[index]? = parts.sections[index]? := by
  intro parts
  refine ⟨?_, ?_, fun hnone => ?_, fun index hindex hempty => ?_,
    fun y others hy hkeywords hregistry hlength => ?_⟩
  · rw [tryRender_of_several hvalid hmode hmany hdefault, Except.map, text_eq_sheetParts]
  · rw [sections_sheetParts c (.refl x), List.length_map, List.length_zipIdx]
  · rw [base_sheetParts, hnone, baseText]
  · have hsource : sources[index]? = some sources[index] := List.getElem?_eq_getElem hindex
    rw [getElem?_sections c (.refl x), hsource, Option.map_some, sectionAt]
    rcases hempty with heq | hnone
    · rw [if_pos heq]
    · rw [documentAt, hsource, Option.bind_some] at hnone
      rw [hnone, ite_self]
  · have halike : x.Alike y := hx.alike hy hkeywords.symm hregistry.symm
    exact ⟨base_congr c halike hlength, fun index => sections_congr c halike hlength⟩

/-- The section for phones is the same when the default input before it holds the same name, so that
its guess is pending already, and when that input cannot be read. -/
theorem phone_section_stands_alone :
    let token := Json.object [("$type", .string "dimension"), ("$value", .string "4px")]
    let phone : Source := ⟨"phone.json", some (.object [("card-gap", token)])⟩
    let sources : List Source := [⟨"desk.json", some (.object [("card-gap", token)])⟩, phone]
    let others : List Source := [⟨"desk.json", none⟩, phone]
    let x := Context.of ⟨["gap"]⟩ .defaults
    (sheetParts .default x others).base = [] ∧ (sheetParts .default x sources).base ≠ [] ∧
      (sheetParts .default x others).sections[1]? = (sheetParts .default x sources).sections[1]? ∧
      (sheetParts .default x sources).sections[1]? ≠ some [] := by
  intro token phone sources others x
  have hx : x.Reachable := .start ⟨["gap"]⟩ .defaults
  have hvalid : Config.default.fault = none := by decide
  obtain ⟨-, -, -, -, hsame⟩ := sheet_is_put_together hvalid rfl hx
    (show 2 ≤ sources.length by decide) (show Config.default.defaultFile.toNat < _ by decide)
  obtain ⟨-, -, hbase, -, -⟩ := sheet_is_put_together hvalid rfl hx
    (show 2 ≤ others.length by decide) (show Config.default.defaultFile.toNat < _ by decide)
  exact ⟨hbase rfl, by decide +kernel, (hsame x others hx rfl rfl rfl).2 1 rfl, by decide +kernel⟩

end DesignTokens
