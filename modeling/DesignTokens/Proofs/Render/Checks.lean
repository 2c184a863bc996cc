import DesignTokens.Proofs.Css.Widths
import DesignTokens.Proofs.Json.Serializing
import DesignTokens.Proofs.Render.Sections

/-!
Passes that check every step. The pass that is run takes a blank variant where the list of variants
is too short, no input where the list of inputs is, and no more keys of a path than there are; and it
writes documents without asking whether they can be written. Here the same pass is told so that each
of these steps can stop it: a position has to be in its list (`itemAt`), a slice may not be longer
than its path (`firstItems`, `lastItems`), and the writer may refuse (`Datum.write?`).

None of them ever does. In the loop over the inputs the invariant is that the inputs that are left
have their variants left too:

    variants   v₀  v₁  v₂ │ v₃  v₄
    inputs     ·   ·   ·  │ i₃  i₄      index + inputs left ≤ number of variants

So the checked pass fails with the errors of the pass that is run, and otherwise gives what it gives
(`checkedPass_eq`).
-/

namespace DesignTokens

/-- What could stop a pass. -/
inductive PassFault where
  /-- An error that the pass reports. -/
  | reported (error : RenderError)
  /-- A position that is not in its list. -/
  | pastEnd (position length : Nat)
  /-- A document that cannot be written. -/
  | unwritable (fault : WriteFault)
  deriving DecidableEq

/-- What a checked step comes to. -/
abbrev Checked := Except PassFault

/-! ### Positions and slices -/

section Positions

variable {α : Type}

/-- The item at a position, which has to be there. -/
def itemAt (items : List α) (position : Nat) : Checked α :=
  match items[position]? with
  | some a => .ok a
  | none => .error (.pastEnd position items.length)

/-- The first items, of which there have to be enough. -/
def firstItems (count : Nat) (items : List α) : Checked (List α) :=
  if count ≤ items.length then .ok (items.take count) else .error (.pastEnd count items.length)

/-- The last items, of which there have to be enough. -/
def lastItems (count : Nat) (items : List α) : Checked (List α) :=
  if count ≤ items.length then .ok (items.drop (items.length - count))
  else .error (.pastEnd count items.length)

theorem itemAt_of_lt {items : List α} {position : Nat} (h : position < items.length) :
    itemAt items position = .ok items[position] := by
  rw [itemAt, List.getElem?_eq_getElem h]

end Positions

/-! ### Classes -/

/-- The trailing part of a path that a name is made of, sliced off only from longer paths. -/
def checkedSlice (d : Depth) (path : List Text) : Checked (List Text) :=
  match d.normalized with
  | .all => .ok path
  | .last count =>
    if path.length ≤ count.toNat then .ok path else lastItems count.toNat path

/-- The class of a token at a path. -/
def checkedClassName (c : Config) (path : List Text) : Checked Text := do
  let group ← firstItems (path.length - 1) path
  let name := segment c.naming.blankReplacement c.naming.lowercase (Text.join [' '] group)
  return if name.isEmpty then fallbackClass else name

/-- The property of a token at a path. -/
def checkedPropertyName (c : Config) (path : List Text) : Checked Text := do
  let keys ← checkedSlice c.naming.depth path
  return segment c.naming.blankReplacement c.naming.lowercase (Text.join [' '] keys)

/-- Whether a name gives way to other outputs; a single output is looked at. -/
def checkedRemap (name : Text) (outputs : List Text) : Checked Bool :=
  if outputs.length = 1 then do
    let output ← itemAt outputs 0
    return output ≠ name
  else return true

/-- One token further. That its name gives way is noted, which changes no class. -/
def checkedStep (c : Config) (state : ClassBlock × Context) (t : Token) :
    Checked (ClassBlock × Context) := do
  let (block, x) := state
  let name ← checkedClassName c t.path
  let property ← checkedPropertyName c t.path
  let (resolution, mapper) := x.mapper.resolve x.keywords property
  let outputs := resolution.outputs property
  let _ ← checkedRemap property outputs
  return (block.declare name outputs (cssValue c t), { x with mapper })

/-- The classes of a document, and the context with the names that had to be guessed. -/
def checkedClasses (c : Config) (x : Context) (document : Json) : Checked (ClassBlock × Context) :=
  (Token.extract c.naming x.keywords document).foldlM (checkedStep c) ([], x)

theorem checkedSlice_eq (d : Depth) (path : List Text) : checkedSlice d path = .ok (d.slice path) := by
  rw [checkedSlice, Depth.slice]
  cases d.normalized with
  | all => rfl
  | last count =>
    simp only
    split
    · next hshort => rw [Nat.sub_eq_zero_of_le hshort, List.drop_zero]
    · rw [lastItems, if_pos (by omega)]

theorem checkedClassName_eq (c : Config) (path : List Text) :
    checkedClassName c path = .ok (className c path) := by
  rw [checkedClassName, firstItems, if_pos (Nat.sub_le ..), ← List.dropLast_eq_take]
  rfl

theorem checkedPropertyName_eq (c : Config) (path : List Text) :
    checkedPropertyName c path = .ok (propertyName c path) := by
  rw [checkedPropertyName, checkedSlice_eq]
  rfl

/-- A single output is there to be looked at. -/
theorem exists_checkedRemap_eq (name : Text) (outputs : List Text) :
    ∃ gives, checkedRemap name outputs = .ok gives := by
  rw [checkedRemap]
  split
  · next hone =>
    rw [itemAt_of_lt (show 0 < outputs.length by omega)]
    exact ⟨_, rfl⟩
  · exact ⟨true, rfl⟩

theorem checkedStep_eq (c : Config) (state : ClassBlock × Context) (t : Token) :
    checkedStep c state t = .ok (ClassBlock.step c state t) := by
  obtain ⟨block, x⟩ := state
  obtain ⟨gives, hgives⟩ := exists_checkedRemap_eq (propertyName c t.path)
    ((x.mapper.resolve x.keywords (propertyName c t.path)).1.outputs (propertyName c t.path))
  simp only [checkedStep, checkedClassName_eq, checkedPropertyName_eq, bind, Except.bind, hgives]
  rfl

theorem checkedClasses_eq (c : Config) (x : Context) (document : Json) :
    checkedClasses c x document = .ok (ClassBlock.ofDocument c x document) := by
  have hstep : checkedStep c = fun state t => pure (ClassBlock.step c state t) :=
    funext fun state => funext fun t => checkedStep_eq c state t
  rw [checkedClasses, hstep, List.foldlM_pure]
  rfl

/-! ### Sections -/

/-- The range of widths of the input at an index. -/
def checkedRange (variants : List FileVariant) (index : Nat) : Checked WidthRange := do
  let own ← itemAt variants index
  if own.hasBounds then return .bounded own.minWidth own.maxWidth
  else
    let others := variants.eraseIdx index
    return .between (WidthRange.largest (others.filterMap (·.maxWidth)))
      (WidthRange.smallest (others.filterMap (·.minWidth)))

/-- The label of the input at an index. -/
def checkedLabel (variants : List FileVariant) (index : Nat) : Checked Text := do
  let own ← itemAt variants index
  return themeLabel index own

/-- What the comment above the default rules calls the default input. -/
def checkedBaseLabel (c : Config) (variants : List FileVariant) (index : Nat) : Checked Text :=
  match c.responsive with
  | .resolution => do
    let range ← checkedRange variants index
    return range.label
  | .theme => do
    let label ← checkedLabel variants index
    return commentText label

/-- The section of the input at an index. -/
def checkedSection (c : Config) (variants : List FileVariant) (index : Nat) (name : Text)
    (block : ClassBlock) : Checked Text :=
  match c.responsive with
  | .resolution => do
    let range ← checkedRange variants index
    return widthSection range name block
  | .theme => do
    let label ← checkedLabel variants index
    return themeSection label block

/-- The sections of the inputs from an index on, the default input left out. -/
def checkedSectionsFrom (c : Config) (variants : List FileVariant) (default : Nat) :
    Nat → Context → List Source → Checked (Text × Context)
  | _, x, [] => .ok ([], x)
  | index, x, source :: rest =>
    match if index = default then none else source.document with
    | none => checkedSectionsFrom c variants default (index + 1) x rest
    | some document => do
      let (block, x) ← checkedClasses c x document
      let here ← checkedSection c variants index source.name block
      let (more, x) ← checkedSectionsFrom c variants default (index + 1) x rest
      return (here ++ more, x)

section Sections

variable {c : Config} {variants : List FileVariant} {index : Nat}

theorem checkedRange_eq (h : index < variants.length) :
    checkedRange variants index = .ok (.derive variants index) := by
  rw [checkedRange, itemAt_of_lt h]
  simp only [bind, Except.bind]
  split
  · next hbounds => rw [WidthRange.derive_of_hasBounds h hbounds]; rfl
  · next hbounds =>
    rw [WidthRange.derive_of_no_bounds h (Bool.eq_false_iff.mpr hbounds)]
    rfl

theorem checkedLabel_eq (h : index < variants.length) :
    checkedLabel variants index = .ok (themeLabel index (variants[index]?.getD .blank)) := by
  rw [checkedLabel, itemAt_of_lt h, List.getElem?_eq_getElem h]
  rfl

theorem checkedBaseLabel_eq (h : index < variants.length) :
    checkedBaseLabel c variants index = .ok (baseLabel c variants index) := by
  rw [checkedBaseLabel, baseLabel]
  cases c.responsive with
  | resolution => simp only [checkedRange_eq h]; rfl
  | theme => simp only [checkedLabel_eq h]; rfl

theorem checkedSection_eq (h : index < variants.length) (name : Text) (block : ClassBlock) :
    checkedSection c variants index name block = .ok (inputSection c variants index name block) := by
  rw [checkedSection, inputSection]
  cases c.responsive with
  | resolution => simp only [checkedRange_eq h]; rfl
  | theme => simp only [checkedLabel_eq h]; rfl

/-- The loop over the inputs stays in the list of variants as long as there are variants left for
the inputs that are left. -/
theorem checkedSectionsFrom_eq (default : Nat) (x : Context) {sources : List Source}
    (h : index + sources.length ≤ variants.length) :
    checkedSectionsFrom c variants default index x sources =
      .ok (sectionsFrom c variants default index x sources) := by
  induction sources generalizing index x with
  | nil => rfl
  | cons source rest ih =>
    rw [List.length_cons] at h
    have hindex : index < variants.length := by omega
    have hrest : index + 1 + rest.length ≤ variants.length := by omega
    rw [checkedSectionsFrom, sectionsFrom]
    cases if index = default then none else source.document with
    | none => exact ih x hrest
    | some document =>
      simp only [checkedClasses_eq, checkedSection_eq hindex, ih _ hrest, bind, Except.bind]
      rfl

end Sections

/-! ### Passes -/

/-- The document of an input, where a pass cannot do without it. -/
def checkedDocument (sources : List Source) (index : Nat) : Checked Json := do
  let source ← itemAt sources index
  source.document.elim (.error (.reported .noInput)) .ok

/-- The rules of the default input under their comment, the comment's label being at hand. -/
def checkedBase (c : Config) (label : Text) (x : Context) : Option Json → Checked (Text × Context)
  | none => .ok ([], x)
  | some document => do
    let (block, x) ← checkedClasses c x document
    return (baseSection label block, x)

/-- The sheet of several inputs. -/
def checkedResponsiveSheet (c : Config) (x : Context) (sources : List Source) (default : Nat) :
    Checked (Text × Context) := do
  let variants := c.fileVariants sources.length
  let label ← checkedBaseLabel c variants default
  let source ← itemAt sources default
  let (base, x) ← checkedBase c label x source.document
  let (more, x) ← checkedSectionsFrom c variants default 0 x sources
  return (sheetHeader c.responsive ++ base ++ more, x)

/-- The class sheet of the inputs. -/
def checkedClassSheet (c : Config) (x : Context) (sources : List Source) :
    Checked (Text × Context) := do
  let default ← (defaultIndex c sources).mapError .reported
  if sources.length = 1 then
    let document ← checkedDocument sources default
    let (block, x) ← checkedClasses c x document
    return (singleSheet block, x)
  else checkedResponsiveSheet c x sources default

/-- The text of the tokens of one document, a nested object being handed to the writer. -/
def checkedText (c : Config) (tokens : List Token) : Checked Text :=
  match c.mode, c.tokenFormat with
  | .references, _ => .ok (referringProperties c tokens)
  | _, .customProperties => .ok (customProperties c tokens)
  | _, .nestedJson => (nestedObject c tokens).toDatum.write?.mapError .unwritable

/-- One pass. -/
def checkedPass (c : Config) (x : Context) (sources : List Source) : Checked (Text × Context) :=
  match c.fault with
  | some e => .error (.reported (.config e))
  | none =>
    match c.mode with
    | .classes => checkedClassSheet c x sources
    | _ => do
      let default ← (defaultIndex c sources).mapError .reported
      let document ← checkedDocument sources default
      let text ← checkedText c (Token.extract c.naming x.keywords document)
      return (text, x)

section Passes

variable (c : Config) (x : Context) {sources : List Source}

theorem documentAt_of_lt {index : Nat} (h : index < sources.length) :
    documentAt sources index = sources[index].document := by
  rw [documentAt, List.getElem?_eq_getElem h, Option.bind_some]

theorem checkedDocument_eq {index : Nat} (h : index < sources.length) :
    checkedDocument sources index =
      (documentAt sources index).elim (.error (.reported .noInput)) .ok := by
  rw [checkedDocument, itemAt_of_lt h, documentAt_of_lt h]
  rfl

theorem checkedBase_eq (variants : List FileVariant) (default : Nat) (document : Option Json) :
    checkedBase c (baseLabel c variants default) x document =
      .ok (baseAt c variants default x document) := by
  cases document with
  | none => rfl
  | some document => simp only [checkedBase, checkedClasses_eq]; rfl

theorem checkedResponsiveSheet_eq {default : Nat} (h : default < sources.length) :
    checkedResponsiveSheet c x sources default = .ok (responsiveSheet c x sources default) := by
  -- there is a variant for each input
  have hvariants := c.length_fileVariants sources.length
  have hlabel := checkedBaseLabel_eq (c := c) (hvariants ▸ h)
  have hsections (y : Context) :
      checkedSectionsFrom c (c.fileVariants sources.length) default 0 y sources =
        .ok (sectionsFrom c (c.fileVariants sources.length) default 0 y sources) :=
    checkedSectionsFrom_eq default y (by omega)
  have hsheet : responsiveSheet c x sources default =
      let variants := c.fileVariants sources.length
      let base := baseAt c variants default x (documentAt sources default)
      let more := sectionsFrom c variants default 0 base.2 sources
      (sheetHeader c.responsive ++ base.1 ++ more.1, more.2) := by
    rw [responsiveSheet]
    cases documentAt sources default <;> rfl
  rw [hsheet, documentAt_of_lt h]
  simp only [checkedResponsiveSheet, hlabel, itemAt_of_lt h, checkedBase_eq, hsections, bind,
    Except.bind]
  rfl

theorem checkedClassSheet_eq (sources : List Source) :
    checkedClassSheet c x sources = (classSheet c x sources).mapError .reported := by
  rw [checkedClassSheet, classSheet]
  cases hindex : defaultIndex c sources with
  | error e => rfl
  | ok default =>
    obtain ⟨rfl, hdefault⟩ := defaultIndex_eq_ok hindex
    simp only [Except.mapError, bind, Except.bind, checkedDocument_eq hdefault]
    split
    · cases documentAt sources c.defaultFile.toNat with
      | none => rfl
      | some document => simp only [Option.elim_some, checkedClasses_eq]; rfl
    · rw [checkedResponsiveSheet_eq c x hdefault]

theorem checkedText_eq (tokens : List Token) : checkedText c tokens = .ok (documentText c tokens) := by
  unfold checkedText documentText
  cases c.mode <;> cases c.tokenFormat <;> simp only [Json.write?_toDatum] <;> rfl

/-- None of the steps can stop a pass: it fails with the errors it reports, and with nothing else. -/
theorem checkedPass_eq (sources : List Source) :
    checkedPass c x sources = (tryRender c x sources).mapError .reported := by
  rw [checkedPass, tryRender]
  cases c.fault with
  | some e => rfl
  | none =>
    cases c.mode with
    | classes => exact checkedClassSheet_eq c x sources
    | properties | references =>
      cases hindex : defaultIndex c sources with
      | error e => rfl
      | ok default =>
        obtain ⟨rfl, hdefault⟩ := defaultIndex_eq_ok hindex
        simp only [Except.mapError, bind, Except.bind, checkedDocument_eq hdefault]
        cases documentAt sources c.defaultFile.toNat with
        | none => rfl
        | some document => simp only [Option.elim_some, checkedText_eq]; rfl

end Passes

end DesignTokens
