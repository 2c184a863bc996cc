import DesignTokens.Proofs.Css.Spreading

/-!
Expansion of written sheets. One pass over the text of such a sheet gives the text of the sheet
whose declarations are spread as `spreadBehind` says for one name (`expandMapping_text`): the pass
comes to the end of each declaration with what ends it still to go over, or behind it (`resume`),
and which of the two it is decides on the next declaration.

The passes for all names make of the sheet what `spreadBehind` says for all of them. So every
declaration of a mapped name is replaced if, and for distinct names only if, none of them stands
right behind another one of its name (`WrittenSheet.expansion_complete_iff`).
-/

namespace DesignTokens

open WrittenDeclaration (behind textOf)

/-! ### Declarations in the place of one -/

theorem mem_trim {t : Text} {c : Char} (h : c ∈ t) (hc : isBlank c = false) : c ∈ Text.trim t := by
  have hdrop : ∀ {s : Text}, c ∈ s → c ∈ s.dropWhile isBlank := fun {s} hs => by
    rw [← List.takeWhile_append_dropWhile (p := isBlank) (l := s), List.mem_append] at hs
    refine hs.resolve_left fun htake => ?_
    rw [List.mem_takeWhile_imp htake] at hc
    cases hc
  rw [Text.trim, Text.trimEnd, List.mem_reverse]
  exact hdrop (List.mem_reverse.mpr (hdrop h))

theorem WrittenDeclaration.Sound.renamed {d : WrittenDeclaration} (hd : d.Sound)
    {margin name : Text} (hmargin : ∀ c ∈ margin, isBlank c) (hname : IsPropertyName name) :
    (d.renamed margin name).Sound := by
  obtain ⟨c, hc, hblank⟩ := hd.has_value
  exact ⟨hmargin, hname, List.forall_mem_nil _,
    List.forall_mem_cons.mpr ⟨by decide, fun c hc => hd.value c (mem_of_mem_trim hc)⟩,
    c, List.mem_cons_of_mem _ (mem_trim hc hblank), hblank⟩

theorem Mapping.NamesProperties.sound_spread {m : Mapping} (hm : m.NamesProperties)
    {d : WrittenDeclaration} (hd : d.Sound) : ∀ e ∈ m.spread d, e.Sound := by
  intro e he
  rw [Mapping.spread] at he
  cases htargets : m.targets with
  | nil =>
    rw [htargets] at he
    cases he
  | cons target targets =>
    have hnames : ∀ t ∈ target :: targets, IsPropertyName t := htargets ▸ hm.targets
    obtain ⟨hname, hnames⟩ := List.forall_mem_cons.mp hnames
    rw [htargets] at he
    rcases List.mem_cons.mp he with rfl | he
    · exact hd.renamed hd.margin hname
    · obtain ⟨t, ht, rfl⟩ := List.mem_map.mp he
      exact hd.renamed (List.forall_mem_singleton.mpr rfl) (hnames t ht)

theorem textOf_renamed (d : WrittenDeclaration) (margin target : Text) (targets : List Text) :
    textOf (d.renamed margin target :: targets.map (d.renamed " ")) =
      margin ++
        Text.join "; " ((target :: targets).map fun t => t ++ ": " ++ Text.trim d.value) := by
  induction targets generalizing margin target with
  | nil => simp [textOf, WrittenDeclaration.text, WrittenDeclaration.core,
      WrittenDeclaration.renamed, Text.join]
  | cons next targets ih =>
    rw [WrittenDeclaration.textOf_cons, List.map_cons,
      WrittenDeclaration.behind_eq (List.cons_ne_nil _ _), ih, List.map_cons, List.map_cons,
      List.map_cons, Text.join_cons_cons]
    simp [WrittenDeclaration.text, WrittenDeclaration.core, WrittenDeclaration.renamed]

/-- What the spread value of a declaration is the text of. -/
theorem textOf_spread {m : Mapping} (hm : m.isMapped) (d : WrittenDeclaration) (stop : Char)
    (rest : Text) :
    textOf (m.spread d) ++ stop :: rest =
      d.margin ++ (spreadValue m.targets (Text.trim d.value) stop ++ rest) := by
  rw [Mapping.spread]
  cases htargets : m.targets with
  | nil => exact absurd htargets (Mapping.targets_ne_nil hm)
  | cons target targets =>
    rw [textOf_renamed, spreadValue]
    simp

/-! ### One pass over the declarations of a rule -/

/-- How a pass goes on where a declaration ends: behind what ends it if the declaration was spread,
and else with it. -/
def resume (m : Mapping) (spread : Bool) (stop : Char) (rest : Text) : Text :=
  if spread then stop :: expandRest m rest else expandRest m (stop :: rest)

section Declarations

variable {m : Mapping} {d : WrittenDeclaration} {stop : Char} {rest : Text}

theorem WrittenDeclaration.core_append (d : WrittenDeclaration) (t : Text) :
    d.core ++ t = d.name ++ (d.gap ++ ':' :: (d.value ++ t)) := by
  simp [core]

theorem inValue_of_isPlain {c : Char} (h : isPlain c) : inValue c := by
  obtain ⟨hbrace, hsemicolon, -⟩ := isPlain_iff.mp h
  cases hc : inValue c with
  | true => rfl
  | false =>
    rcases inValue_eq_false_iff.mp hc with rfl | rfl
    · exact absurd rfl hsemicolon
    · cases hbrace

theorem readDeclaration?_core (hd : d.Sound) (hname : d.name = m.name)
    (hstop : inValue stop = false) (rest : Text) :
    readDeclaration? m.name (d.core ++ stop :: rest) =
      some (Text.trim d.value, stop, rest) :=
  readDeclaration?_eq_some_iff.mpr ⟨d.gap, d.value, by rw [d.core_append, hname], hd.gap,
    hd.value_ne_nil, fun c hc => inValue_of_isPlain (hd.value c hc), hstop, rfl⟩

theorem readDeclaration?_core_of_ne (hm : m.NamesProperties) (hd : d.Sound)
    (hname : d.name ≠ m.name) (t : Text) : readDeclaration? m.name (d.core ++ t) = none := by
  rw [d.core_append]
  exact readDeclaration?_other hm.name hd.name hname hd.gap _

theorem expandRest_core (hm : m.NamesProperties) (hd : d.Sound) (hstop : inValue stop = false)
    (rest : Text) :
    expandRest m (d.core ++ stop :: rest) = d.core ++ expandRest m (stop :: rest) := by
  rw [d.core_append, d.core_append]
  exact expandRest_declaration hm.name hd.name.nameChars hd.gap hd.value.no_colon
    (divides_of_inValue hstop) rest

/-- A declaration of the name is spread, unless it stands right behind one that has been. -/
theorem resume_of_spread (hm : m.NamesProperties) (hmapped : m.isMapped) (hd : d.Sound)
    (hname : d.name = m.name) {spread : Bool} (hfree : spread = false ∨ d.margin ≠ [])
    {sep : Char} (hsep : isNameChar sep = false) (hstop : inValue stop = false) (rest : Text) :
    resume m spread sep (d.text ++ stop :: rest) =
      sep :: (textOf (m.spread d) ++ resume m true stop rest) := by
  have hmargin : ∀ c ∈ d.margin, isNameChar c = false := fun c hc =>
    isNameChar_of_isBlank (hd.margin c hc)
  -- the declaration is met behind the last character in front of its name
  have hread : ∀ front : Text, front ≠ [] → (∀ c ∈ front, isNameChar c = false) →
      expandRest m (front ++ (d.core ++ stop :: rest)) =
        front ++ (spreadValue m.targets (Text.trim d.value) stop ++ expandRest m rest) := by
    intro front hne hfront
    obtain ⟨front, last, rfl⟩ := (List.eq_nil_or_concat' front).resolve_left hne
    obtain ⟨hfront, hlast⟩ := List.forall_mem_append.mp hfront
    have hlast := hlast last (List.mem_singleton_self last)
    rw [List.append_assoc, List.singleton_append,
      expandRest_front hm.name hfront (readDeclaration?_cons hm.name hlast _),
      expandRest_found hlast (readDeclaration?_core hd hname hstop rest)]
    simp
  have htext : resume m spread sep (d.text ++ stop :: rest) = sep ::
      (d.margin ++ (spreadValue m.targets (Text.trim d.value) stop ++ expandRest m rest)) := by
    rw [resume, WrittenDeclaration.text, List.append_assoc]
    split
    · next hspread =>
      have hne : d.margin ≠ [] := hfree.resolve_left (by simp [hspread])
      rw [hread d.margin hne hmargin]
    · exact hread (sep :: d.margin) (List.cons_ne_nil _ _)
        (List.forall_mem_cons.mpr ⟨hsep, hmargin⟩)
  rw [htext, resume, if_pos rfl, textOf_spread hmapped]

/-- Any other declaration stays. -/
theorem resume_of_keep (hm : m.NamesProperties) (hd : d.Sound) {spread : Bool}
    (hkeep : d.name ≠ m.name ∨ spread = true ∧ d.margin = []) {sep : Char}
    (hsep : isNameChar sep = false) (hstop : inValue stop = false) (rest : Text) :
    resume m spread sep (d.text ++ stop :: rest) =
      sep :: (d.text ++ resume m false stop rest) := by
  have hmargin : ∀ c ∈ d.margin, isNameChar c = false := fun c hc =>
    isNameChar_of_isBlank (hd.margin c hc)
  have hread : ∀ front : Text, (∀ c ∈ front, isNameChar c = false) →
      (front = [] ∨ d.name ≠ m.name) → expandRest m (front ++ (d.core ++ stop :: rest)) =
        front ++ (d.core ++ expandRest m (stop :: rest)) := by
    intro front hfront hcase
    rcases hcase with rfl | hname
    · exact expandRest_core hm hd hstop rest
    · rw [expandRest_front hm.name hfront (readDeclaration?_core_of_ne hm hd hname _),
        expandRest_core hm hd hstop]
  rw [resume, resume, if_neg Bool.false_ne_true, WrittenDeclaration.text, List.append_assoc,
    List.append_assoc]
  split
  · rw [hread d.margin hmargin (hkeep.symm.imp And.right id)]
  · next hspread =>
    exact hread (sep :: d.margin) (List.forall_mem_cons.mpr ⟨hsep, hmargin⟩)
      (.inr (hkeep.resolve_right fun h => hspread h.1))

end Declarations

/-! ### One pass over a sheet -/

section Sheets

variable {m : Mapping}

theorem expandRest_closing (hm : m.NamesProperties) {t rest : Text} (ht : ':' ∉ t)
    (hrest : readDeclaration? m.name rest = none) :
    expandRest m (t ++ '}' :: rest) = t ++ '}' :: expandRest m rest := by
  rw [expandRest_no_colon hm.name ht (divides_of_inValue (by decide)), expandRest_skip (.inr hrest)]

/-- What comes behind a declaration ends it. -/
theorem exists_stop (ds : List WrittenDeclaration) {ending : Text}
    (hending : ∀ c ∈ ending.head?, c = ';') (rest : Text) :
    ∃ stop more, behind ds ++ (ending ++ '}' :: rest) = stop :: more ∧ inValue stop = false := by
  cases ds with
  | nil =>
    cases ending with
    | nil => exact ⟨'}', rest, rfl, by decide⟩
    | cons c ending => exact ⟨c, _, rfl, by rw [hending c rfl]; decide⟩
  | cons d ds => exact ⟨';', _, rfl, by decide⟩

/-- Which declaration a pass spreads. -/
theorem spreadBy?_singleton (hmapped : m.isMapped) (spread : Bool) (d : WrittenDeclaration) :
    spreadBy? [m] (if spread then some m.name else none) d =
      if d.name ≠ m.name ∨ spread = true ∧ d.margin = [] then none else some m := by
  rw [spreadBy?, mappingFor?_singleton hmapped]
  by_cases hname : d.name = m.name
  · cases spread <;> simp [hname]
  · simp [hname]

/-- A declaration and what follows it, given what a pass makes of the latter. -/
theorem resume_declaration (hm : m.NamesProperties) (hmapped : m.isMapped)
    {d : WrittenDeclaration} (hd : d.Sound) {ds : List WrittenDeclaration} {stop : Char}
    {more after : Text} (hstop : inValue stop = false)
    (hmore : ∀ spread, resume m spread stop more =
      behind (spreadBehind [m] (if spread then some m.name else none) ds) ++ after)
    (spread : Bool) {sep : Char} (hsep : isNameChar sep = false) :
    resume m spread sep (d.text ++ stop :: more) =
      sep :: (textOf (spreadBehind [m] (if spread then some m.name else none) (d :: ds)) ++
        after) := by
  have hby := spreadBy?_singleton hmapped spread d
  by_cases hkeep : d.name ≠ m.name ∨ spread = true ∧ d.margin = []
  · rw [if_pos hkeep] at hby
    rw [resume_of_keep hm hd hkeep hsep hstop, hmore, spreadBehind_none hby,
      WrittenDeclaration.textOf_cons, List.append_assoc]
    rfl
  · rw [if_neg hkeep] at hby
    obtain ⟨hname, hfree⟩ := not_or.mp hkeep
    have hname : d.name = m.name := not_not.mp hname
    have hfree : spread = false ∨ d.margin ≠ [] := by
      rw [← Bool.not_eq_true]
      exact not_and_or.mp hfree
    rw [resume_of_spread hm hmapped hd hname hfree hsep hstop, hmore, spreadBehind_some hby,
      WrittenDeclaration.textOf_append (m.spread_ne_nil hmapped d), hname, List.append_assoc]
    rfl

/-- A pass over what follows a declaration in its rule. -/
theorem resume_behind (hm : m.NamesProperties) (hmapped : m.isMapped)
    {ds : List WrittenDeclaration} (hds : ∀ d ∈ ds, d.Sound) {ending : Text}
    (hending : ∀ c ∈ ending.head?, c = ';') (hcolon : ':' ∉ ending) {rest : Text}
    (hrest : readDeclaration? m.name rest = none) (spread : Bool) {stop : Char} {more : Text}
    (h : behind ds ++ (ending ++ '}' :: rest) = stop :: more) :
    resume m spread stop more =
      behind (spreadBehind [m] (if spread then some m.name else none) ds) ++
        (ending ++ '}' :: expandRest m rest) := by
  induction ds generalizing spread stop more with
  | nil =>
    -- only the ending is left: the pass is at its first character, or behind it
    cases spread with
    | false =>
      rw [resume, if_neg Bool.false_ne_true, ← h]
      exact expandRest_closing hm hcolon hrest
    | true =>
      cases ending with
      | nil =>
        obtain ⟨rfl, rfl⟩ := List.cons.inj h
        rfl
      | cons c ending =>
        obtain ⟨rfl, rfl⟩ := List.cons.inj h
        have hbehind := expandRest_closing hm (fun hc => hcolon (List.mem_cons_of_mem c hc)) hrest
        exact congrArg (c :: ·) hbehind
  | cons d ds ih =>
    obtain ⟨hd, hds⟩ := List.forall_mem_cons.mp hds
    obtain ⟨next, later, hnext, hends⟩ := exists_stop ds hending rest
    rw [WrittenDeclaration.behind_cons, List.cons_append, List.append_assoc, hnext] at h
    obtain ⟨rfl, rfl⟩ := List.cons.inj h
    rw [resume_declaration hm hmapped hd hends (fun spread => ih hds spread hnext) spread
      (by decide), WrittenDeclaration.behind_eq (spreadBehind_ne_nil d ds)]
    rfl

/-- A pass over a rule. -/
theorem expandRest_writtenRule (hm : m.NamesProperties) (hmapped : m.isMapped) {r : WrittenRule}
    (hr : r.Sound) {rest : Text} (hrest : readDeclaration? m.name rest = none) :
    expandRest m (r.flat.text ++ rest) =
      (r.mapDeclarations (spreadBehind [m] none)).flat.text ++ expandRest m rest := by
  have hcolon : ':' ∉ r.ending := fun hc => by
    rcases hr.mem_ending hc with h | h
    · cases h
    · exact absurd h (by decide)
  have hbody : expandRest m ('{' :: (textOf r.declarations ++ (r.ending ++ '}' :: rest))) =
      '{' :: (textOf (spreadBehind [m] none r.declarations) ++
        (r.ending ++ '}' :: expandRest m rest)) := by
    cases hds : r.declarations with
    | nil =>
      have hopening : ':' ∉ '{' :: r.ending := List.not_mem_cons_of_ne_of_not_mem (by decide) hcolon
      exact expandRest_closing hm hopening hrest
    | cons d ds =>
      have hsound := hr.declarations
      have hending := hr.stop_ending (by simp [hds])
      rw [hds] at hsound
      obtain ⟨hd, hsound⟩ := List.forall_mem_cons.mp hsound
      obtain ⟨stop, more, hmore, hstop⟩ := exists_stop ds hending rest
      rw [WrittenDeclaration.textOf_cons, List.append_assoc, hmore]
      exact resume_declaration hm hmapped hd hstop
        (fun spread => resume_behind hm hmapped hsound hending hcolon hrest spread hmore)
        false (by decide)
  rw [FlatRule.text_append, WrittenRule.flat, List.append_assoc,
    expandRest_no_colon hm.name hr.selector.no_colon divides_opening, hbody, FlatRule.text_append]
  exact congrArg (fun t => r.selector ++ '{' :: t) (List.append_assoc _ _ _).symm

theorem readDeclaration?_writtenRules (hm : m.NamesProperties) {rules : List WrittenRule}
    (hrules : ∀ r ∈ rules, r.Sound) {tail : Text} (htail : ∀ c ∈ tail, isBlank c) :
    readDeclaration? m.name (FlatRule.textOf (rules.map WrittenRule.flat) ++ tail) = none := by
  cases rules with
  | nil => exact readDeclaration?_of_no_colon (no_colon_of_blank htail)
  | cons r rules =>
    rw [List.map_cons, FlatRule.textOf_cons, List.append_assoc, FlatRule.text_append]
    exact readDeclaration?_of_divides hm.name (hrules r List.mem_cons_self).selector.no_colon
      divides_opening _

theorem expandRest_writtenRules (hm : m.NamesProperties) (hmapped : m.isMapped)
    {rules : List WrittenRule} (hrules : ∀ r ∈ rules, r.Sound) {tail : Text}
    (htail : ∀ c ∈ tail, isBlank c) :
    expandRest m (FlatRule.textOf (rules.map WrittenRule.flat) ++ tail) =
      FlatRule.textOf ((rules.map (WrittenRule.mapDeclarations (spreadBehind [m] none))).map
        WrittenRule.flat) ++ tail := by
  induction rules with
  | nil => exact expandRest_of_no_colon (no_colon_of_blank htail)
  | cons r rules ih =>
    obtain ⟨hr, hrules⟩ := List.forall_mem_cons.mp hrules
    rw [List.map_cons, FlatRule.textOf_cons, List.append_assoc,
      expandRest_writtenRule hm hmapped hr (readDeclaration?_writtenRules hm hrules htail),
      ih hrules, List.map_cons, List.map_cons, FlatRule.textOf_cons, List.append_assoc]

/-- A pass over a sheet. -/
theorem expandMapping_text (hm : m.NamesProperties) (hmapped : m.isMapped) {s : WrittenSheet}
    (hs : s.Sound) :
    expandMapping m s.text = (s.mapDeclarations (spreadBehind [m] none)).text :=
  (expandMapping_of_none (readDeclaration?_writtenRules hm hs.rules hs.tail)).trans
    (expandRest_writtenRules hm hmapped hs.rules hs.tail)

end Sheets

/-! ### All passes over a sheet -/

/-- Mapped names and their targets are names of properties, and no target is a mapped name. -/
structure Expandable (mappings : List Mapping) : Prop where
  names : ∀ m ∈ mappings, m.isMapped → m.NamesProperties
  targets : ∀ m ∈ mappings, m.isMapped → ∀ t ∈ m.targets, ∀ k ∈ mappings, k.isMapped → k.name ≠ t

instance : DecidablePred Expandable := fun mappings =>
  decidable_of_iff ((∀ m ∈ mappings, m.isMapped → m.NamesProperties) ∧
      ∀ m ∈ mappings, m.isMapped → ∀ t ∈ m.targets, ∀ k ∈ mappings, k.isMapped → k.name ≠ t)
    ⟨fun ⟨hnames, htargets⟩ => ⟨hnames, htargets⟩, fun h => ⟨h.names, h.targets⟩⟩

theorem sound_spreadBehind {mappings : List Mapping}
    (hms : ∀ m ∈ mappings, m.isMapped → m.NamesProperties) {last : Option Text}
    {ds : List WrittenDeclaration} (hds : ∀ d ∈ ds, d.Sound) :
    ∀ d ∈ spreadBehind mappings last ds, d.Sound := by
  induction ds generalizing last with
  | nil => exact List.forall_mem_nil _
  | cons d ds ih =>
    obtain ⟨hd, hds⟩ := List.forall_mem_cons.mp hds
    cases hby : spreadBy? mappings last d with
    | none =>
      rw [spreadBehind_none hby]
      exact List.forall_mem_cons.mpr ⟨hd, ih hds⟩
    | some m =>
      have hfor := mappingFor?_of_spreadBy? hby
      have hm := hms m (List.mem_of_find?_eq_some hfor) (isMapped_of_mappingFor? hfor)
      rw [spreadBehind_some hby]
      exact List.forall_mem_append.mpr ⟨hm.sound_spread hd, ih hds⟩

theorem sound_spreadAll {mappings : List Mapping}
    (hms : ∀ m ∈ mappings, m.isMapped → m.NamesProperties) {ds : List WrittenDeclaration}
    (hds : ∀ d ∈ ds, d.Sound) : ∀ d ∈ spreadAll mappings ds, d.Sound := by
  intro e he
  obtain ⟨d, hd, he⟩ := List.mem_flatMap.mp he
  cases hfor : mappingFor? mappings d.name with
  | none =>
    rw [hfor, List.mem_singleton] at he
    exact he ▸ hds d hd
  | some m =>
    rw [hfor] at he
    have hm := hms m (List.mem_of_find?_eq_some hfor) (isMapped_of_mappingFor? hfor)
    exact hm.sound_spread (hds d hd) e he

namespace WrittenSheet

/-- Every declaration of a mapped name replaced. -/
def spread (mappings : List Mapping) (s : WrittenSheet) : WrittenSheet :=
  s.mapDeclarations (spreadAll mappings)

/-- The declarations replaced that the passes find. -/
def passed (mappings : List Mapping) (s : WrittenSheet) : WrittenSheet :=
  s.mapDeclarations (spreadBehind mappings none)

/-- Mappings without targets do not matter. -/
theorem spread_filter (mappings : List Mapping) (s : WrittenSheet) :
    s.spread (mappings.filter Mapping.isMapped) = s.spread mappings :=
  mapDeclarations_congr fun r _ => spreadAll_filter mappings r.declarations

theorem passed_filter (mappings : List Mapping) (s : WrittenSheet) :
    s.passed (mappings.filter Mapping.isMapped) = s.passed mappings :=
  mapDeclarations_congr fun r _ => spreadBehind_filter mappings none r.declarations

/-- No declaration of a mapped name stands right behind another one of that name. -/
def Spaced (mappings : List Mapping) (s : WrittenSheet) : Prop :=
  ∀ r ∈ s.rules, r.declarations.IsChain (Apart mappings)

instance (mappings : List Mapping) : DecidablePred (Spaced mappings) := fun s =>
  inferInstanceAs (Decidable (∀ r ∈ s.rules, r.declarations.IsChain (Apart mappings)))

end WrittenSheet

section Passes

variable {m : Mapping} {mappings : List Mapping} {s : WrittenSheet}

theorem Expandable.of_cons (h : Expandable (m :: mappings)) : Expandable mappings :=
  ⟨fun k hk => h.names k (List.mem_cons_of_mem m hk), fun k hk hmapped t ht j hj =>
    h.targets k (List.mem_cons_of_mem m hk) hmapped t ht j (List.mem_cons_of_mem m hj)⟩

theorem Expandable.filter (h : Expandable mappings) :
    Expandable (mappings.filter Mapping.isMapped) :=
  ⟨fun k hk => h.names k (List.mem_of_mem_filter hk), fun k hk hmapped t ht j hj =>
    h.targets k (List.mem_of_mem_filter hk) hmapped t ht j (List.mem_of_mem_filter hj)⟩

theorem Expandable.unmapped (h : Expandable mappings) {k : Mapping} (hk : k ∈ mappings)
    (hmapped : k.isMapped) : ∀ t ∈ k.targets, mappingFor? mappings t = none := fun t ht =>
  mappingFor?_eq_none_iff.mpr (h.targets k hk hmapped t ht)

/-- No target of the first mapping is mapped later on. -/
theorem Expandable.unmapped_later (h : Expandable (m :: mappings)) (hmapped : m.isMapped) :
    ∀ t ∈ m.targets, mappingFor? mappings t = none := fun t ht =>
  mappingFor?_eq_none_iff.mpr fun k hk =>
    h.targets m List.mem_cons_self hmapped t ht k (List.mem_cons_of_mem m hk)

theorem sound_passed (hms : Expandable mappings) (hs : s.Sound) : (s.passed mappings).Sound :=
  hs.mapDeclarations rfl (sound_spreadBehind hms.names)

/-- Passes over the text of a sheet give the text of the sheet that they make of it. -/
theorem foldl_expandMapping_text
    (hms : ∀ m ∈ mappings, m.isMapped ∧ m.NamesProperties) (hs : s.Sound) :
    mappings.foldl (fun t m => expandMapping m t) s.text =
      (mappings.foldl (fun s m => s.passed [m]) s).text := by
  induction mappings generalizing s with
  | nil => rfl
  | cons m mappings ih =>
    obtain ⟨⟨hmapped, hm⟩, hms⟩ := List.forall_mem_cons.mp hms
    have hfirst : (s.passed [m]).Sound :=
      hs.mapDeclarations rfl (sound_spreadBehind (List.forall_mem_singleton.mpr fun _ => hm))
    rw [List.foldl_cons, expandMapping_text hm hmapped hs]
    exact ih hms hfirst

/-- For distinct names, passes make of a sheet what they find together. -/
theorem foldl_passed (hms : Expandable mappings) (hmapped : ∀ m ∈ mappings, m.isMapped)
    (hdistinct : (mappings.map Mapping.name).Nodup) :
    mappings.foldl (fun s m => s.passed [m]) s = s.passed mappings := by
  induction mappings generalizing s with
  | nil =>
    exact (WrittenSheet.mapDeclarations_eq_self fun ds =>
      spreadBehind_of_unmapped fun _ _ => rfl).symm
  | cons m mappings ih =>
    obtain ⟨hm, hmapped⟩ := List.forall_mem_cons.mp hmapped
    obtain ⟨hnew, hdistinct⟩ := List.nodup_cons.mp hdistinct
    have hown : mappingFor? mappings m.name = none := mappingFor?_eq_none_iff.mpr
      fun k hk _ heq => hnew (List.mem_map.mpr ⟨k, hk, heq⟩)
    rw [List.foldl_cons, ih hms.of_cons hmapped hdistinct, WrittenSheet.passed,
      WrittenSheet.passed, WrittenSheet.mapDeclarations_mapDeclarations]
    exact WrittenSheet.mapDeclarations_congr fun r _ =>
      spreadBehind_cons hm hown (hms.unmapped_later hm) none r.declarations

/-- Where declarations are spaced, a pass finds them all. -/
theorem passed_eq_spread (h : s.Spaced mappings) : s.passed mappings = s.spread mappings :=
  WrittenSheet.mapDeclarations_congr fun r hr =>
    spreadBehind_eq_spreadAll (fun _ _ hlast => nomatch hlast) (h r hr)

/-- Where declarations are spaced, passes replace them all, by the first mapping of each name. -/
theorem foldl_passed_of_spaced (hms : Expandable mappings) (hmapped : ∀ m ∈ mappings, m.isMapped)
    (hspaced : s.Spaced mappings) :
    mappings.foldl (fun s m => s.passed [m]) s = s.spread mappings := by
  induction mappings generalizing s with
  | nil =>
    exact (WrittenSheet.mapDeclarations_eq_self fun ds =>
      spreadAll_of_unmapped fun _ _ => rfl).symm
  | cons m mappings ih =>
    obtain ⟨hm, hmapped⟩ := List.forall_mem_cons.mp hmapped
    have htargets := hms.unmapped_later hm
    have hfirst : s.passed [m] = s.spread [m] :=
      passed_eq_spread fun r hr => (hspaced r hr).imp fun _ _ => Apart.of_cons hm
    have hstill : (s.spread [m]).Spaced mappings := List.forall_mem_map.mpr fun r hr =>
      isChain_spreadAll hm htargets (hspaced r hr)
    rw [List.foldl_cons, hfirst, ih hms.of_cons hmapped hstill, WrittenSheet.spread,
      WrittenSheet.spread, WrittenSheet.mapDeclarations_mapDeclarations]
    exact WrittenSheet.mapDeclarations_congr fun r _ => spreadAll_cons hm htargets r.declarations

theorem unmapped_names_spread (hms : Expandable mappings) :
    ∀ name ∈ (s.spread mappings).names, mappingFor? mappings name = none := by
  intro name hname
  obtain ⟨r, -, d, hd, rfl⟩ := WrittenSheet.mem_names_mapDeclarations.mp hname
  exact unmapped_of_mem_spreadAll (fun k => hms.unmapped) hd

/-- A mapped name is left if, and only if, declarations are not spaced. -/
theorem unmapped_names_passed_iff (hms : Expandable mappings) :
    (∀ name ∈ (s.passed mappings).names, mappingFor? mappings name = none) ↔ s.Spaced mappings := by
  constructor
  · intro h r hr
    have hleft : ∀ d ∈ spreadBehind mappings none r.declarations,
        mappingFor? mappings d.name = none := fun d hd =>
      h d.name (WrittenSheet.mem_names_mapDeclarations.mpr ⟨r, hr, d, hd, rfl⟩)
    exact (isChain_of_spreadBehind hleft).2
  · intro hspaced
    rw [passed_eq_spread hspaced]
    exact unmapped_names_spread hms

end Passes

/-! ### When nothing is missed -/

/-- No declaration in a text has a mapped name. -/
def Expanded (mappings : List Mapping) (t : Text) : Prop :=
  ∀ name, Declares t name → ∀ m ∈ mappings, m.isMapped → m.name ≠ name

theorem expanded_text_iff {mappings : List Mapping} {s : WrittenSheet} (hs : s.Sound) :
    Expanded mappings s.text ↔ ∀ name ∈ s.names, mappingFor? mappings name = none :=
  forall_congr' fun _ =>
    imp_congr (WrittenSheet.declares_text_iff hs) mappingFor?_eq_none_iff.symm

theorem expanded_spread {mappings : List Mapping} (hms : Expandable mappings) {s : WrittenSheet}
    (hs : s.Sound) : Expanded mappings (s.spread mappings).text := by
  have hsound : (s.spread mappings).Sound := hs.mapDeclarations rfl (sound_spreadAll hms.names)
  exact (expanded_text_iff hsound).mpr (unmapped_names_spread hms)

/-- Expansion gives the sheet that passes for the mapped names make one after the other. Where no
declaration of a mapped name stands right behind another one of that name, that is the sheet in
which every declaration of a mapped name is replaced, and such a sheet declares no mapped name. If
the mapped names are distinct, it is in any case the sheet with the replacements that the passes
find, and these are all, or leave no mapped name, only where declarations are so spaced. -/
theorem WrittenSheet.expansion_complete_iff {mappings : List Mapping} (hms : Expandable mappings)
    {s : WrittenSheet} (hs : s.Sound) :
    expandCustom mappings s.text =
      ((mappings.filter Mapping.isMapped).foldl (fun s m => s.passed [m]) s).text ∧
    Expanded mappings (s.spread mappings).text ∧
    (s.Spaced mappings → expandCustom mappings s.text = (s.spread mappings).text) ∧
    (((mappings.filter Mapping.isMapped).map Mapping.name).Nodup →
      expandCustom mappings s.text = (s.passed mappings).text ∧
      (expandCustom mappings s.text = (s.spread mappings).text ↔ s.Spaced mappings) ∧
      (Expanded mappings (expandCustom mappings s.text) ↔ s.Spaced mappings)) := by
  have hmapped : ∀ m ∈ mappings.filter Mapping.isMapped, m.isMapped := fun _ hm =>
    List.of_mem_filter hm
  have hpasses : expandCustom mappings s.text =
      ((mappings.filter Mapping.isMapped).foldl (fun s m => s.passed [m]) s).text :=
    foldl_expandMapping_text
      (fun m hm => ⟨hmapped m hm, hms.filter.names m hm (hmapped m hm)⟩) hs
  have hspread : s.Spaced mappings → expandCustom mappings s.text = (s.spread mappings).text := by
    intro hspaced
    have hfiltered : s.Spaced (mappings.filter Mapping.isMapped) := fun r hr => by
      rw [apart_filter]
      exact hspaced r hr
    rw [hpasses, foldl_passed_of_spaced hms.filter hmapped hfiltered, spread_filter]
  refine ⟨hpasses, expanded_spread hms hs, hspread, fun hdistinct => ?_⟩
  have hpassed : expandCustom mappings s.text = (s.passed mappings).text := by
    rw [hpasses, foldl_passed hms.filter hmapped hdistinct, passed_filter]
  have hleft : Expanded mappings (expandCustom mappings s.text) ↔ s.Spaced mappings := by
    rw [hpassed, expanded_text_iff (sound_passed hms hs), unmapped_names_passed_iff hms]
  refine ⟨hpassed, ⟨fun hall => hleft.mp ?_, hspread⟩, hleft⟩
  rw [hall]
  exact expanded_spread hms hs

/-- Declarations of mapped names right behind others, repeated names with blanks between them,
blanks around all pieces, and a rule without declarations. -/
theorem expansion_of_cards :
    let mappings := [Mapping.of "gap-x" ["column-gap"] none,
      Mapping.of "inset-x" ["left", "right"] none, Mapping.of "elevation" [] none]
    let card : WrittenRule := ⟨".card ", [⟨"\n  ", "gap-x", "", " 1px "⟩,
      ⟨"", "inset-x", " ", "a b"⟩, ⟨"", "gap-x", "", "2px"⟩], false, ""⟩
    let chip : WrittenRule := ⟨"\n.chip", [], false, " "⟩
    let link : WrittenRule := ⟨"a", [⟨"", "inset-x", "", "0"⟩, ⟨"\t", "inset-x", "", "1"⟩,
      ⟨"", "elevation", "", "2"⟩, ⟨"", "elevation", "", "3"⟩], true, "\t"⟩
    let s : WrittenSheet := ⟨[card, chip, link], "\n"⟩
    let expanded : Text :=
      ".card \x7b\n  column-gap: 1px;left: a b; right: a b;column-gap: 2px\x7d\n.chip\x7b \x7d" ++
        "a\x7bleft: 0; right: 0;\tleft: 1; right: 1;elevation:2;elevation:3;\t\x7d\n"
    Expandable mappings ∧ s.Sound ∧ s.Spaced mappings ∧
      ((mappings.filter Mapping.isMapped).map Mapping.name).Nodup ∧
      expandCustom mappings s.text = expanded ∧ Expanded mappings expanded := by
  intro mappings card chip link s expanded
  have hms : Expandable mappings := by decide
  have hs : s.Sound := by decide
  have hspaced : s.Spaced mappings := by decide
  have hdistinct : ((mappings.filter Mapping.isMapped).map Mapping.name).Nodup := by decide
  obtain ⟨-, -, hspread, hleft⟩ := WrittenSheet.expansion_complete_iff hms hs
  have hexpanded : expandCustom mappings s.text = expanded :=
    (hspread hspaced).trans (by decide +kernel)
  exact ⟨hms, hs, hspaced, hdistinct, hexpanded, hexpanded ▸ (hleft hdistinct).2.2.mpr hspaced⟩

/-- Two declarations of a name without a blank between them: the second one is missed. -/
theorem second_gap_is_missed :
    let mappings := [Mapping.of "gap-x" ["column-gap"] none]
    let s : WrittenSheet :=
      ⟨[⟨"a", [⟨"", "gap-x", "", "1px"⟩, ⟨"", "gap-x", "", "2px"⟩], false, ""⟩], ""⟩
    Expandable mappings ∧ s.Sound ∧ s.text = "a\x7bgap-x:1px;gap-x:2px\x7d" ∧
      (s.spread mappings).text = "a\x7bcolumn-gap: 1px;column-gap: 2px\x7d" ∧
      expandCustom mappings s.text = "a\x7bcolumn-gap: 1px;gap-x:2px\x7d" ∧
      ¬Expanded mappings (expandCustom mappings s.text) := by
  intro mappings s
  have hms : Expandable mappings := by decide
  have hs : s.Sound := by decide
  have hpassed : expandCustom mappings s.text = (s.passed mappings).text := by decide
  refine ⟨hms, hs, by decide, by decide, by decide, fun hexpanded => ?_⟩
  rw [hpassed, expanded_text_iff (sound_passed hms hs)] at hexpanded
  exact absurd (hexpanded "gap-x" (by decide)) (by decide)

end DesignTokens
