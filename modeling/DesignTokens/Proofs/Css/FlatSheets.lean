import DesignTokens.Proofs.Css.Scanning

/-!
Sheets of flat rules. Their braces tell selectors and bodies apart, whatever else these hold, so a
text is the text of at most one such sheet (`FlatSheet.eq_of_text`), and it is settled what it
declares. Where selectors and values are free of semicolons and colons as well, the declarations of
a body are told apart, too:

    selector { margin name gap : value ; margin name gap : value ; padding }
               └──── a declaration ───┘

These are the written sheets; what their texts declare are the names of their declarations
(`WrittenSheet.declares_text_iff`).
-/

namespace DesignTokens

/-! ### Flat sheets -/

/-- A selector, and the body in braces behind it. -/
structure FlatRule where
  selector : Text
  body : Text
  deriving DecidableEq

/-- The rule as it is written. -/
def FlatRule.text (r : FlatRule) : Text := r.selector ++ '{' :: (r.body ++ ['}'])

/-- The text of rules, one behind the other. -/
def FlatRule.textOf (rules : List FlatRule) : Text := rules.flatMap FlatRule.text

theorem FlatRule.textOf_cons (r : FlatRule) (rules : List FlatRule) :
    textOf (r :: rules) = r.text ++ textOf rules := List.flatMap_cons

theorem FlatRule.text_append (r : FlatRule) (rest : Text) :
    r.text ++ rest = r.selector ++ '{' :: (r.body ++ '}' :: rest) := by
  simp [FlatRule.text]

/-- Neither selector nor body holds a brace. -/
structure FlatRule.Flat (r : FlatRule) : Prop where
  selector : r.selector.Braceless
  body : r.body.Braceless

instance : DecidablePred FlatRule.Flat := fun r =>
  decidable_of_iff (r.selector.Braceless ∧ r.body.Braceless)
    ⟨fun ⟨hselector, hbody⟩ => ⟨hselector, hbody⟩, fun h => ⟨h.selector, h.body⟩⟩

/-- Rules, and the blanks behind the last one. -/
structure FlatSheet where
  rules : List FlatRule
  tail : Text

namespace FlatSheet

/-- The sheet as it is written. -/
def text (s : FlatSheet) : Text := FlatRule.textOf s.rules ++ s.tail

/-- The selectors of the rules. -/
def selectors (s : FlatSheet) : List Text := s.rules.map FlatRule.selector

/-- The rules are flat, and there are only blanks behind them. -/
structure Flat (s : FlatSheet) : Prop where
  rules : ∀ r ∈ s.rules, r.Flat
  tail : ∀ c ∈ s.tail, isBlank c

instance : DecidablePred Flat := fun s =>
  decidable_of_iff ((∀ r ∈ s.rules, r.Flat) ∧ s.tail.all isBlank)
    ⟨fun ⟨hrules, htail⟩ => ⟨hrules, List.all_eq_true.mp htail⟩,
      fun h => ⟨h.rules, List.all_eq_true.mpr h.tail⟩⟩

end FlatSheet

theorem Text.Braceless.eq_of_append {a b s t : Text} {brace : Char} (ha : a.Braceless)
    (hb : b.Braceless) (hbrace : isBrace brace) (h : a ++ brace :: s = b ++ brace :: t) :
    a = b ∧ s = t := by
  have hrun : ∀ {x : Text}, x.Braceless → ∀ c ∈ x, (!isBrace c) = true := fun hx c hc => by
    rw [hx c hc]
    rfl
  have hstop : (!isBrace brace) = false := by rw [hbrace]; rfl
  obtain ⟨rfl, heq⟩ := eq_of_runs (hrun ha) (hrun hb) (stop_cons hstop s) (stop_cons hstop t) h
  exact ⟨rfl, (List.cons.inj heq).2⟩

/-- There is no rule in blanks. -/
theorem FlatRule.text_append_ne_blank (r : FlatRule) (rest : Text) {tail : Text}
    (htail : ∀ c ∈ tail, isBlank c) : r.text ++ rest ≠ tail := by
  intro h
  have hbrace : '{' ∈ tail := by
    rw [← h, FlatRule.text_append]
    simp
  exact absurd (htail '{' hbrace) (by decide)

/-- The braces tell rules apart. -/
theorem FlatRule.eq_of_textOf {rules others : List FlatRule} (hrules : ∀ r ∈ rules, r.Flat)
    (hothers : ∀ r ∈ others, r.Flat) {tail rear : Text} (htail : ∀ c ∈ tail, isBlank c)
    (hend : ∀ c ∈ rear, isBlank c) (h : textOf rules ++ tail = textOf others ++ rear) :
    rules = others ∧ tail = rear := by
  induction rules generalizing others with
  | nil =>
    cases others with
    | nil => exact ⟨rfl, h⟩
    | cons o others =>
      rw [textOf_cons, List.append_assoc] at h
      exact absurd h.symm (o.text_append_ne_blank _ htail)
  | cons r rules ih =>
    cases others with
    | nil =>
      rw [textOf_cons, List.append_assoc] at h
      exact absurd h (r.text_append_ne_blank _ hend)
    | cons o others =>
      obtain ⟨hr, hrules⟩ := List.forall_mem_cons.mp hrules
      obtain ⟨ho, hothers⟩ := List.forall_mem_cons.mp hothers
      rw [textOf_cons, textOf_cons, List.append_assoc, List.append_assoc, text_append,
        text_append] at h
      obtain ⟨hselector, h⟩ := hr.selector.eq_of_append ho.selector (by decide) h
      obtain ⟨hbody, h⟩ := hr.body.eq_of_append ho.body (by decide) h
      obtain ⟨rfl, rfl⟩ := ih hrules hothers h
      cases r
      cases o
      cases hselector
      cases hbody
      exact ⟨rfl, rfl⟩

/-- A text is the text of one flat sheet at most. -/
theorem FlatSheet.eq_of_text {s t : FlatSheet} (hs : s.Flat) (ht : t.Flat)
    (h : s.text = t.text) : s = t := by
  obtain ⟨hrules, htail⟩ := FlatRule.eq_of_textOf hs.rules ht.rules hs.tail ht.tail h
  cases s
  cases t
  cases hrules
  cases htail
  rfl

/-- A text is the text of a flat sheet, and in the body of one of its rules a name is declared. -/
def Declares (t name : Text) : Prop :=
  ∃ s : FlatSheet, s.Flat ∧ s.text = t ∧ ∃ r ∈ s.rules, name ∈ declaredNames r.body

/-! ### Written sheets -/

/-- Whether a character ends nothing: no brace, no semicolon and no colon. -/
def isPlain (c : Char) : Bool := !isBrace c && c != ';' && c != ':'

theorem isPlain_iff {c : Char} : isPlain c ↔ isBrace c = false ∧ c ≠ ';' ∧ c ≠ ':' := by
  simp [isPlain, and_assoc]

/-- The text holds no brace, no semicolon and no colon. -/
def Text.Plain (t : Text) : Prop := ∀ c ∈ t, isPlain c

-- by the characters of the text: the instance that is found first goes through all there are
instance : DecidablePred Text.Plain := fun t => List.decidableBAll (fun c => isPlain c) t

theorem Text.Plain.braceless {t : Text} (h : t.Plain) : t.Braceless := fun c hc =>
  (isPlain_iff.mp (h c hc)).1

theorem Text.Plain.no_semicolon {t : Text} (h : t.Plain) : ';' ∉ t := fun hmem =>
  (isPlain_iff.mp (h ';' hmem)).2.1 rfl

theorem Text.Plain.no_colon {t : Text} (h : t.Plain) : ':' ∉ t := fun hmem =>
  (isPlain_iff.mp (h ':' hmem)).2.2 rfl

/-- A declaration with the blanks in front of its name and behind it. The value has its blanks with
it. -/
structure WrittenDeclaration where
  margin : Text
  name : Text
  gap : Text
  value : Text
  deriving DecidableEq

namespace WrittenDeclaration

/-- The declaration behind its margin. -/
def core (d : WrittenDeclaration) : Text := d.name ++ (d.gap ++ ':' :: d.value)

/-- The declaration as it is written. -/
def text (d : WrittenDeclaration) : Text := d.margin ++ d.core

/-- The parts are what they are called, and the value is more than blanks. -/
structure Sound (d : WrittenDeclaration) : Prop where
  margin : ∀ c ∈ d.margin, isBlank c
  name : IsPropertyName d.name
  gap : ∀ c ∈ d.gap, isBlank c
  value : d.value.Plain
  has_value : ∃ c ∈ d.value, isBlank c = false

theorem has_value_iff {t : Text} : t.all isBlank = false ↔ ∃ c ∈ t, isBlank c = false := by
  simp [List.all_eq_false]

instance : DecidablePred Sound := fun d =>
  decidable_of_iff (d.margin.all isBlank ∧ IsPropertyName d.name ∧ d.gap.all isBlank ∧
      d.value.Plain ∧ d.value.all isBlank = false)
    ⟨fun ⟨hmargin, hname, hgap, hvalue, hhas⟩ => ⟨List.all_eq_true.mp hmargin, hname,
        List.all_eq_true.mp hgap, hvalue, has_value_iff.mp hhas⟩,
      fun h => ⟨List.all_eq_true.mpr h.margin, h.name, List.all_eq_true.mpr h.gap, h.value,
        has_value_iff.mpr h.has_value⟩⟩

theorem Sound.value_ne_nil {d : WrittenDeclaration} (h : d.Sound) : d.value ≠ [] :=
  h.has_value.elim fun _ hc => List.ne_nil_of_mem hc.1

/-- The texts of declarations behind others, each behind the semicolon that ends the one before. -/
def behind (ds : List WrittenDeclaration) : Text := ds.flatMap fun d => ';' :: d.text

theorem behind_cons (d : WrittenDeclaration) (ds : List WrittenDeclaration) :
    behind (d :: ds) = ';' :: (d.text ++ behind ds) := List.flatMap_cons

theorem behind_append (ds es : List WrittenDeclaration) :
    behind (ds ++ es) = behind ds ++ behind es := List.flatMap_append

/-- The texts of declarations, with semicolons between them. -/
def textOf (ds : List WrittenDeclaration) : Text := Text.join ";" (ds.map text)

theorem textOf_cons (d : WrittenDeclaration) (ds : List WrittenDeclaration) :
    textOf (d :: ds) = d.text ++ behind ds := by
  induction ds generalizing d with
  | nil => exact (List.append_nil d.text).symm
  | cons e ds ih =>
    rw [behind_cons, ← ih e, textOf, List.map_cons, List.map_cons, Text.join_cons_cons]
    exact List.append_assoc d.text [';'] _

theorem textOf_append {ds : List WrittenDeclaration} (hds : ds ≠ [])
    (es : List WrittenDeclaration) : textOf (ds ++ es) = textOf ds ++ behind es := by
  obtain ⟨d, ds, rfl⟩ := List.exists_cons_of_ne_nil hds
  rw [List.cons_append, textOf_cons, textOf_cons, behind_append, List.append_assoc]

theorem behind_eq {ds : List WrittenDeclaration} (hds : ds ≠ []) :
    behind ds = ';' :: textOf ds := by
  obtain ⟨d, ds, rfl⟩ := List.exists_cons_of_ne_nil hds
  rw [behind_cons, textOf_cons]

theorem braceless_text {d : WrittenDeclaration} (hd : d.Sound) : d.text.Braceless := by
  have hmargin : d.margin.Braceless := fun c hc => isBrace_of_isBlank (hd.margin c hc)
  have hname : d.name.Braceless := fun c hc => isBrace_of_isNameChar (hd.name.nameChars c hc)
  have hgap : d.gap.Braceless := fun c hc => isBrace_of_isBlank (hd.gap c hc)
  simp only [text, core, Text.braceless_append, Text.braceless_cons]
  exact ⟨hmargin, hname, hgap, by decide, hd.value.braceless⟩

/-- A declaration declares its name, whatever follows its semicolon. -/
theorem declaredNames_text {d : WrittenDeclaration} (hd : d.Sound) {rest : Text}
    (hrest : ∀ c ∈ rest.head?, c = ';') :
    declaredNames (d.text ++ rest) = d.name :: declaredNames (rest.drop 1) := by
  have hmargin : ∀ c ∈ d.margin, isNameChar c = false := fun c hc =>
    isNameChar_of_isBlank (hd.margin c hc)
  have htext : d.text ++ rest = d.margin ++ (d.name ++ (d.gap ++ ':' :: (d.value ++ rest))) := by
    simp [text, core]
  rw [htext, declaredNames_append hmargin, declaredNames_declaration_of_stop hd.name hd.gap
    hd.value_ne_nil hd.value.no_semicolon hrest]

theorem declaredNames_behind {ds : List WrittenDeclaration} (hds : ∀ d ∈ ds, d.Sound)
    {ending : Text} (hstop : ∀ c ∈ ending.head?, c = ';')
    (hblank : ∀ c ∈ ending.drop 1, isBlank c) :
    declaredNames ((behind ds ++ ending).drop 1) = ds.map name := by
  induction ds with
  | nil =>
    have hnone : ∀ c ∈ ending.drop 1, isNameChar c = false := fun c hc =>
      isNameChar_of_isBlank (hblank c hc)
    have hblanks := declaredNames_append hnone []
    rw [List.append_nil] at hblanks
    exact hblanks
  | cons d ds ih =>
    obtain ⟨hd, hds⟩ := List.forall_mem_cons.mp hds
    have hrest : ∀ c ∈ (behind ds ++ ending).head?, c = ';' := by
      cases ds with
      | nil => exact hstop
      | cons e ds => exact fun c hc => (Option.some.inj hc).symm
    rw [behind_cons, List.cons_append, List.drop_succ_cons, List.drop_zero, List.append_assoc,
      declaredNames_text hd hrest, ih hds, List.map_cons]

end WrittenDeclaration

/-- A selector, declarations, and what stands between the last one and the closing brace: a
semicolon or none, and blanks. -/
structure WrittenRule where
  selector : Text
  declarations : List WrittenDeclaration
  semicolon : Bool
  padding : Text
  deriving DecidableEq

namespace WrittenRule

/-- What stands in front of the closing brace. -/
def ending (r : WrittenRule) : Text := if r.semicolon then ';' :: r.padding else r.padding

/-- The rule with its body as a text. -/
def flat (r : WrittenRule) : FlatRule :=
  ⟨r.selector, WrittenDeclaration.textOf r.declarations ++ r.ending⟩

/-- The parts are what they are called. Blanks in front of the closing brace are part of the value
in front of them if no semicolon stands between. -/
structure Sound (r : WrittenRule) : Prop where
  selector : r.selector.Plain
  declarations : ∀ d ∈ r.declarations, d.Sound
  padding : ∀ c ∈ r.padding, isBlank c
  closed : r.declarations = [] ∨ r.semicolon ∨ r.padding = []

instance : DecidablePred Sound := fun r =>
  decidable_of_iff (r.selector.Plain ∧ (∀ d ∈ r.declarations, d.Sound) ∧
      r.padding.all isBlank ∧ (r.declarations = [] ∨ r.semicolon ∨ r.padding = []))
    ⟨fun ⟨hselector, hds, hpadding, hclosed⟩ =>
        ⟨hselector, hds, List.all_eq_true.mp hpadding, hclosed⟩,
      fun h => ⟨h.selector, h.declarations, List.all_eq_true.mpr h.padding, h.closed⟩⟩

/-- The rule with other declarations. -/
def mapDeclarations (f : List WrittenDeclaration → List WrittenDeclaration) (r : WrittenRule) :
    WrittenRule :=
  { r with declarations := f r.declarations }

variable {r : WrittenRule}

theorem Sound.stop_ending (h : r.Sound) (hds : r.declarations ≠ []) :
    ∀ c ∈ r.ending.head?, c = ';' := by
  intro c hc
  rw [ending] at hc
  split at hc
  · exact (Option.some.inj hc).symm
  · next hsemicolon =>
    rw [(h.closed.resolve_left hds).resolve_left hsemicolon] at hc
    cases hc

theorem Sound.blank_ending (h : r.Sound) : ∀ c ∈ r.ending.drop 1, isBlank c := by
  intro c hc
  rw [ending] at hc
  split at hc
  · exact h.padding c hc
  · exact h.padding c (List.mem_of_mem_drop hc)

theorem Sound.mem_ending (h : r.Sound) {c : Char} (hc : c ∈ r.ending) : c = ';' ∨ isBlank c := by
  rw [ending] at hc
  split at hc
  · exact (List.mem_cons.mp hc).imp id (h.padding c)
  · exact .inr (h.padding c hc)

theorem Sound.flat (h : r.Sound) : r.flat.Flat := by
  refine ⟨h.selector.braceless, Text.braceless_append.mpr ⟨?_, fun c hc => ?_⟩⟩
  · refine Text.braceless_join (by decide) fun p hp => ?_
    obtain ⟨d, hd, rfl⟩ := List.mem_map.mp hp
    exact WrittenDeclaration.braceless_text (h.declarations d hd)
  · rcases h.mem_ending hc with rfl | hblank
    · rfl
    · exact isBrace_of_isBlank hblank

/-- The body of a rule declares the names of its declarations. -/
theorem Sound.declaredNames_body (h : r.Sound) :
    declaredNames r.flat.body = r.declarations.map WrittenDeclaration.name := by
  cases hds : r.declarations with
  | nil =>
    have hnone : ∀ c ∈ r.ending, isNameChar c = false := fun c hc => by
      rcases h.mem_ending hc with rfl | hblank
      · decide
      · exact isNameChar_of_isBlank hblank
    have hblanks := declaredNames_append hnone []
    rw [List.append_nil] at hblanks
    rw [WrittenRule.flat, hds]
    exact hblanks
  | cons d ds =>
    have hne : r.declarations ≠ [] := by simp [hds]
    have hbehind := WrittenDeclaration.declaredNames_behind h.declarations
      (h.stop_ending hne) h.blank_ending
    rw [WrittenDeclaration.behind_eq hne, hds] at hbehind
    rw [WrittenRule.flat, hds]
    exact hbehind

end WrittenRule

/-- Written rules, and the blanks behind the last one. -/
structure WrittenSheet where
  rules : List WrittenRule
  tail : Text
  deriving DecidableEq

namespace WrittenSheet

/-- The sheet with its bodies as texts. -/
def flat (s : WrittenSheet) : FlatSheet := ⟨s.rules.map WrittenRule.flat, s.tail⟩

/-- The sheet as it is written. -/
def text (s : WrittenSheet) : Text := s.flat.text

/-- The names of all declarations. -/
def names (s : WrittenSheet) : List Text :=
  s.rules.flatMap fun r => r.declarations.map WrittenDeclaration.name

/-- The rules are what they are called, and there are only blanks behind them. -/
structure Sound (s : WrittenSheet) : Prop where
  rules : ∀ r ∈ s.rules, r.Sound
  tail : ∀ c ∈ s.tail, isBlank c

instance : DecidablePred Sound := fun s =>
  decidable_of_iff ((∀ r ∈ s.rules, r.Sound) ∧ s.tail.all isBlank)
    ⟨fun ⟨hrules, htail⟩ => ⟨hrules, List.all_eq_true.mp htail⟩,
      fun h => ⟨h.rules, List.all_eq_true.mpr h.tail⟩⟩

/-- The sheet with other declarations in its rules. -/
def mapDeclarations (f : List WrittenDeclaration → List WrittenDeclaration) (s : WrittenSheet) :
    WrittenSheet :=
  { s with rules := s.rules.map (WrittenRule.mapDeclarations f) }

theorem mapDeclarations_mapDeclarations
    (f g : List WrittenDeclaration → List WrittenDeclaration) (s : WrittenSheet) :
    (s.mapDeclarations f).mapDeclarations g = s.mapDeclarations (g ∘ f) := by
  simp [mapDeclarations, WrittenRule.mapDeclarations]

theorem mapDeclarations_congr {f g : List WrittenDeclaration → List WrittenDeclaration}
    {s : WrittenSheet} (h : ∀ r ∈ s.rules, f r.declarations = g r.declarations) :
    s.mapDeclarations f = s.mapDeclarations g := by
  refine congrArg (WrittenSheet.mk · s.tail) (List.map_congr_left fun r hr => ?_)
  rw [WrittenRule.mapDeclarations, WrittenRule.mapDeclarations, h r hr]

theorem mapDeclarations_eq_self {f : List WrittenDeclaration → List WrittenDeclaration}
    {s : WrittenSheet} (h : ∀ ds, f ds = ds) : s.mapDeclarations f = s := by
  obtain rfl : f = id := funext h
  exact congrArg (WrittenSheet.mk · s.tail) (List.map_id s.rules)

theorem mem_names_mapDeclarations {f : List WrittenDeclaration → List WrittenDeclaration}
    {s : WrittenSheet} {name : Text} :
    name ∈ (s.mapDeclarations f).names ↔ ∃ r ∈ s.rules, ∃ d ∈ f r.declarations, d.name = name := by
  simp [names, mapDeclarations, WrittenRule.mapDeclarations]

variable {s : WrittenSheet}

/-- Sound declarations in the place of those that there were, and none where there were none. -/
theorem Sound.mapDeclarations (h : s.Sound)
    {f : List WrittenDeclaration → List WrittenDeclaration} (hnil : f [] = [])
    (hf : ∀ {ds : List WrittenDeclaration}, (∀ d ∈ ds, d.Sound) → ∀ d ∈ f ds, d.Sound) :
    (s.mapDeclarations f).Sound := by
  refine ⟨List.forall_mem_map.mpr fun r hr => ?_, h.tail⟩
  obtain ⟨hselector, hds, hpadding, hclosed⟩ := h.rules r hr
  refine ⟨hselector, hf hds, hpadding, hclosed.imp (fun hnone => ?_) id⟩
  rw [WrittenRule.mapDeclarations, hnone, hnil]

theorem Sound.flat (h : s.Sound) : s.flat.Flat := by
  refine ⟨fun r hr => ?_, h.tail⟩
  obtain ⟨written, hwritten, rfl⟩ := List.mem_map.mp hr
  exact (h.rules written hwritten).flat

/-- The text of a written sheet declares the names of its declarations, and no others. -/
theorem declares_text_iff (h : s.Sound) {name : Text} : Declares s.text name ↔ name ∈ s.names := by
  rw [names, List.mem_flatMap]
  constructor
  · rintro ⟨flat, hflat, htext, r, hr, hname⟩
    rw [FlatSheet.eq_of_text hflat h.flat htext] at hr
    obtain ⟨written, hwritten, rfl⟩ := List.mem_map.mp hr
    rw [(h.rules written hwritten).declaredNames_body] at hname
    exact ⟨written, hwritten, hname⟩
  · rintro ⟨r, hr, hname⟩
    rw [← (h.rules r hr).declaredNames_body] at hname
    exact ⟨s.flat, h.flat, rfl, r.flat, List.mem_map_of_mem hr, hname⟩

end WrittenSheet

end DesignTokens
