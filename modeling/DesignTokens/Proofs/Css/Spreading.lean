import DesignTokens.Proofs.Css.Expanding
import DesignTokens.Proofs.Css.FlatSheets
import Mathlib.Data.List.Chain
import Mathlib.Data.List.Nodup

/-!
What expansion makes of the declarations of a body. To expand a list of declarations is to put in
the place of each mapped one a declaration for each target (`spreadAll`). Expansion comes short of
that: a pass looks for a name behind a character, and behind a declaration that it has spread it
goes on past the semicolon, so it misses a declaration of the same name that follows without a
blank.

    gap-x:1px;gap-x:2px;gap-x:3px        gap-x ─▶ column-gap
    column-gap: 1px;gap-x:2px;column-gap: 3px

`spreadBehind` says so for all passes at once, as passes for different names do not get in each
other's way (`spreadBehind_cons`). It is `spreadAll` where no declaration of a mapped name stands
right behind another one of that name (`Spaced`), and where one does, a mapped name is left.
-/

namespace DesignTokens

/-- The first mapping of a name that has targets. -/
def mappingFor? (mappings : List Mapping) (name : Text) : Option Mapping :=
  mappings.find? fun m => m.isMapped && m.name == name

theorem mappingFor?_eq_none_iff {mappings : List Mapping} {name : Text} :
    mappingFor? mappings name = none ↔ ∀ m ∈ mappings, m.isMapped → m.name ≠ name := by
  simp [mappingFor?]

theorem isMapped_of_mappingFor? {mappings : List Mapping} {name : Text} {m : Mapping}
    (h : mappingFor? mappings name = some m) : m.isMapped := by
  have hfound := List.find?_some h
  rw [Bool.and_eq_true] at hfound
  exact hfound.1

theorem mappingFor?_cons {m : Mapping} (hm : m.isMapped) (mappings : List Mapping) (name : Text) :
    mappingFor? (m :: mappings) name =
      if name = m.name then some m else mappingFor? mappings name := by
  rw [mappingFor?, List.find?_cons, hm, Bool.true_and]
  by_cases h : name = m.name
  · rw [if_pos h, beq_iff_eq.mpr h.symm]
  · rw [if_neg h, beq_eq_false_iff_ne.mpr (Ne.symm h)]
    rfl

theorem mappingFor?_singleton {m : Mapping} (hm : m.isMapped) (name : Text) :
    mappingFor? [m] name = if name = m.name then some m else none :=
  mappingFor?_cons hm [] name

theorem mappingFor?_of_unmapped {m : Mapping} (hm : m.isMapped = false) (mappings : List Mapping)
    (name : Text) : mappingFor? (m :: mappings) name = mappingFor? mappings name := by
  rw [mappingFor?, List.find?_cons, hm]
  rfl

/-- Distinct names tell mappings apart. -/
theorem mappingFor?_eq_some_iff {mappings : List Mapping}
    (hdistinct : ((mappings.filter Mapping.isMapped).map Mapping.name).Nodup) {name : Text}
    {m : Mapping} :
    mappingFor? mappings name = some m ↔ m ∈ mappings ∧ m.isMapped ∧ m.name = name := by
  constructor
  · intro h
    have hfound := List.find?_some h
    rw [Bool.and_eq_true, beq_iff_eq] at hfound
    exact ⟨List.mem_of_find?_eq_some h, hfound⟩
  · rintro ⟨hm, hmapped, rfl⟩
    cases hfor : mappingFor? mappings m.name with
    | none => exact absurd rfl (mappingFor?_eq_none_iff.mp hfor m hm hmapped)
    | some k =>
      have hfound := List.find?_some hfor
      rw [Bool.and_eq_true, beq_iff_eq] at hfound
      have hk := List.mem_filter.mpr ⟨List.mem_of_find?_eq_some hfor, hfound.1⟩
      rw [List.inj_on_of_nodup_map hdistinct hk (List.mem_filter.mpr ⟨hm, hmapped⟩) hfound.2]

/-- If mapped names are distinct, the order of the mappings does not matter. -/
theorem mappingFor?_perm {mappings others : List Mapping} (h : others.Perm mappings)
    (hdistinct : ((mappings.filter Mapping.isMapped).map Mapping.name).Nodup) :
    mappingFor? others = mappingFor? mappings := by
  have hothers : ((others.filter Mapping.isMapped).map Mapping.name).Nodup :=
    ((h.filter _).map _).nodup_iff.mpr hdistinct
  funext name
  refine Option.ext fun m => ?_
  rw [mappingFor?_eq_some_iff hothers, mappingFor?_eq_some_iff hdistinct, h.mem_iff]

theorem mappingFor?_filter (mappings : List Mapping) :
    mappingFor? (mappings.filter Mapping.isMapped) = mappingFor? mappings := by
  funext name
  rw [mappingFor?, mappingFor?, List.find?_filter]
  refine congrArg (fun p => mappings.find? p) (funext fun m => ?_)
  exact Bool.eq_iff_iff.mpr (by simp)

/-! ### Declarations in the place of one -/

/-- Another name with the value of a declaration. -/
def WrittenDeclaration.renamed (d : WrittenDeclaration) (margin name : Text) : WrittenDeclaration :=
  ⟨margin, name, [], ' ' :: Text.trim d.value⟩

/-- A declaration for each target in the place of one; the first begins where that one did. -/
def Mapping.spread (m : Mapping) (d : WrittenDeclaration) : List WrittenDeclaration :=
  match m.targets with
  | [] => []
  | target :: targets => d.renamed d.margin target :: targets.map (d.renamed " ")

theorem Mapping.names_spread (m : Mapping) (d : WrittenDeclaration) :
    (m.spread d).map WrittenDeclaration.name = m.targets := by
  rw [Mapping.spread]
  cases m.targets with
  | nil => rfl
  | cons target targets => simp [WrittenDeclaration.renamed, Function.comp_def]

theorem Mapping.spread_ne_nil {m : Mapping} (hm : m.isMapped) (d : WrittenDeclaration) :
    m.spread d ≠ [] := by
  intro h
  have hnames := m.names_spread d
  rw [h, List.map_nil] at hnames
  exact Mapping.targets_ne_nil hm hnames.symm

theorem Mapping.name_mem_targets {m : Mapping} {d e : WrittenDeclaration} (h : e ∈ m.spread d) :
    e.name ∈ m.targets :=
  m.names_spread d ▸ List.mem_map_of_mem h

/-- Every declaration of a mapped name replaced. -/
def spreadAll (mappings : List Mapping) (ds : List WrittenDeclaration) : List WrittenDeclaration :=
  ds.flatMap fun d =>
    match mappingFor? mappings d.name with
    | some m => m.spread d
    | none => [d]

/-- The mapping by which a declaration is spread, if it is: not right behind one of its name that
has been. The name of the declaration in front is given if that has been spread. -/
def spreadBy? (mappings : List Mapping) (last : Option Text) (d : WrittenDeclaration) :
    Option Mapping :=
  if d.margin = [] ∧ last = some d.name then none else mappingFor? mappings d.name

/-- The declarations replaced that passes for all mapped names find behind what stands in front. -/
def spreadBehind (mappings : List Mapping) :
    Option Text → List WrittenDeclaration → List WrittenDeclaration
  | _, [] => []
  | last, d :: ds =>
    match spreadBy? mappings last d with
    | some m => m.spread d ++ spreadBehind mappings (some d.name) ds
    | none => d :: spreadBehind mappings none ds

section Behind

variable {mappings : List Mapping} {last : Option Text} {d : WrittenDeclaration}
  {ds : List WrittenDeclaration}

theorem spreadBehind_some {m : Mapping} (h : spreadBy? mappings last d = some m) :
    spreadBehind mappings last (d :: ds) =
      m.spread d ++ spreadBehind mappings (some d.name) ds := by
  rw [spreadBehind, h]

theorem spreadBehind_none (h : spreadBy? mappings last d = none) :
    spreadBehind mappings last (d :: ds) = d :: spreadBehind mappings none ds := by
  rw [spreadBehind, h]

theorem spreadBy?_of_unmapped (h : mappingFor? mappings d.name = none) :
    spreadBy? mappings last d = none := by
  rw [spreadBy?, h, ite_self]

theorem mappingFor?_of_spreadBy? {m : Mapping} (h : spreadBy? mappings last d = some m) :
    mappingFor? mappings d.name = some m := by
  rw [spreadBy?] at h
  split at h
  · cases h
  · exact h

theorem spreadBehind_ne_nil (d : WrittenDeclaration) (ds : List WrittenDeclaration) :
    spreadBehind mappings last (d :: ds) ≠ [] := by
  cases hby : spreadBy? mappings last d with
  | none =>
    rw [spreadBehind_none hby]
    exact List.cons_ne_nil _ _
  | some m =>
    rw [spreadBehind_some hby]
    refine List.append_ne_nil_of_left_ne_nil (m.spread_ne_nil ?_ d) _
    exact isMapped_of_mappingFor? (mappingFor?_of_spreadBy? hby)

theorem spreadBy?_congr {others : List Mapping} {other : Option Text}
    (hlast : other = some d.name ↔ last = some d.name)
    (hfor : mappingFor? others d.name = mappingFor? mappings d.name) :
    spreadBy? others other d = spreadBy? mappings last d := by
  simp only [spreadBy?, hlast, hfor]

/-- Declarations that are not mapped stay, and do not matter for those behind them. -/
theorem spreadBehind_append {es : List WrittenDeclaration} (hes : es ≠ [])
    (hfree : ∀ e ∈ es, mappingFor? mappings e.name = none) :
    spreadBehind mappings last (es ++ ds) = es ++ spreadBehind mappings none ds := by
  induction es generalizing last with
  | nil => exact absurd rfl hes
  | cons e es ih =>
    obtain ⟨he, hfree⟩ := List.forall_mem_cons.mp hfree
    rw [List.cons_append, spreadBehind_none (spreadBy?_of_unmapped he)]
    cases es with
    | nil => rfl
    | cons f es => rw [ih (List.cons_ne_nil f es) hfree]; rfl

theorem spreadBehind_of_unmapped (h : ∀ d ∈ ds, mappingFor? mappings d.name = none) :
    spreadBehind mappings none ds = ds := by
  cases ds with
  | nil => rfl
  | cons d ds =>
    have hstay : spreadBehind mappings none (d :: ds ++ []) = d :: ds ++ [] :=
      spreadBehind_append (List.cons_ne_nil d ds) h
    rwa [List.append_nil] at hstay

end Behind

/-- Mappings without targets do not matter. -/
theorem spreadBehind_filter (mappings : List Mapping) (last : Option Text)
    (ds : List WrittenDeclaration) :
    spreadBehind (mappings.filter Mapping.isMapped) last ds = spreadBehind mappings last ds := by
  induction ds generalizing last with
  | nil => rfl
  | cons d ds ih => simp only [spreadBehind, spreadBy?, mappingFor?_filter, ih]

theorem spreadAll_filter (mappings : List Mapping) (ds : List WrittenDeclaration) :
    spreadAll (mappings.filter Mapping.isMapped) ds = spreadAll mappings ds := by
  simp only [spreadAll, mappingFor?_filter]

/-! ### One pass after the other -/

section Passes

variable {m : Mapping} {mappings : List Mapping}

/-- A declaration of the one name is for the first pass. -/
theorem spreadBy?_own (mappings : List Mapping) (hm : m.isMapped) {d : WrittenDeclaration}
    (hname : d.name = m.name) (last : Option Text) :
    spreadBy? [m] (last.filter (· = m.name)) d = spreadBy? (m :: mappings) last d := by
  refine spreadBy?_congr ?_ ?_
  · rw [Option.filter_eq_some_iff]
    simp [hname]
  · rw [mappingFor?_singleton hm, mappingFor?_cons hm, if_pos hname, if_pos hname]

/-- A declaration of another name is for the later passes. -/
theorem spreadBy?_other (mappings : List Mapping) (hm : m.isMapped) {d : WrittenDeclaration}
    (hname : d.name ≠ m.name) (last : Option Text) :
    spreadBy? mappings (last.filter (· ≠ m.name)) d = spreadBy? (m :: mappings) last d := by
  refine spreadBy?_congr ?_ ?_
  · rw [Option.filter_eq_some_iff]
    simp [hname]
  · rw [mappingFor?_cons hm, if_neg hname]

/-- A pass for one name, and then those for other names. What has been spread in front is of the one
name or of another. -/
theorem spreadBehind_cons (hm : m.isMapped) (hown : mappingFor? mappings m.name = none)
    (htargets : ∀ t ∈ m.targets, mappingFor? mappings t = none) (last : Option Text)
    (ds : List WrittenDeclaration) :
    spreadBehind mappings (last.filter (· ≠ m.name))
      (spreadBehind [m] (last.filter (· = m.name)) ds) = spreadBehind (m :: mappings) last ds := by
  induction ds generalizing last with
  | nil => rfl
  | cons d ds ih =>
    by_cases hname : d.name = m.name
    · -- whether it is spread or missed, the later passes leave what there is in its place
      have hsame := spreadBy?_own mappings hm hname last
      cases hby : spreadBy? (m :: mappings) last d with
      | none =>
        rw [spreadBehind_none hby, spreadBehind_none (hsame.trans hby),
          spreadBehind_none (spreadBy?_of_unmapped (hname ▸ hown))]
        exact congrArg (d :: ·) (ih none)
      | some k =>
        obtain rfl : m = k := by
          have hfor := mappingFor?_of_spreadBy? hby
          rw [mappingFor?_cons hm, if_pos hname] at hfor
          exact Option.some.inj hfor
        have hrest := ih (some d.name)
        rw [Option.filter_some_neg (by simpa using hname),
          Option.filter_some_pos (by simpa using hname)] at hrest
        rw [spreadBehind_some hby, spreadBehind_some (hsame.trans hby),
          spreadBehind_append (m.spread_ne_nil hm d)
            fun e he => htargets _ (Mapping.name_mem_targets he), hrest]
    · -- the first pass leaves it, and remembers nothing of it
      have hsame := spreadBy?_other mappings hm hname last
      have hkeep : spreadBy? [m] (last.filter (· = m.name)) d = none :=
        spreadBy?_of_unmapped (by rw [mappingFor?_singleton hm, if_neg hname])
      rw [spreadBehind_none hkeep]
      cases hby : spreadBy? (m :: mappings) last d with
      | none =>
        rw [spreadBehind_none hby, spreadBehind_none (hsame.trans hby)]
        exact congrArg (d :: ·) (ih none)
      | some k =>
        have hrest := ih (some d.name)
        rw [Option.filter_some_pos (by simpa using hname),
          Option.filter_some_neg (by simpa using hname)] at hrest
        rw [spreadBehind_some hby, spreadBehind_some (hsame.trans hby), hrest]

theorem spreadAll_append (mappings : List Mapping) (ds es : List WrittenDeclaration) :
    spreadAll mappings (ds ++ es) = spreadAll mappings ds ++ spreadAll mappings es :=
  List.flatMap_append

theorem spreadAll_of_unmapped {ds : List WrittenDeclaration}
    (h : ∀ d ∈ ds, mappingFor? mappings d.name = none) : spreadAll mappings ds = ds := by
  induction ds with
  | nil => rfl
  | cons d ds ih =>
    obtain ⟨hd, hds⟩ := List.forall_mem_cons.mp h
    rw [spreadAll, List.flatMap_cons, hd]
    exact congrArg (d :: ·) (ih hds)

/-- What one pass makes of a declaration if it misses none. -/
theorem spreadAll_singleton (hm : m.isMapped) (d : WrittenDeclaration)
    (ds : List WrittenDeclaration) :
    spreadAll [m] (d :: ds) =
      (if d.name = m.name then m.spread d else [d]) ++ spreadAll [m] ds := by
  rw [spreadAll, List.flatMap_cons, mappingFor?_singleton hm]
  by_cases h : d.name = m.name
  · rw [if_pos h, if_pos h]
    rfl
  · rw [if_neg h, if_neg h]
    rfl

theorem spreadAll_cons (hm : m.isMapped)
    (htargets : ∀ t ∈ m.targets, mappingFor? mappings t = none) (ds : List WrittenDeclaration) :
    spreadAll mappings (spreadAll [m] ds) = spreadAll (m :: mappings) ds := by
  induction ds with
  | nil => rfl
  | cons d ds ih =>
    have hboth : spreadAll (m :: mappings) (d :: ds) =
        spreadAll (m :: mappings) [d] ++ spreadAll (m :: mappings) ds :=
      spreadAll_append (m :: mappings) [d] ds
    rw [spreadAll_singleton hm, spreadAll_append, ih, hboth]
    refine congrArg (· ++ _) ?_
    by_cases h : d.name = m.name
    · rw [if_pos h, spreadAll_of_unmapped fun e he => htargets _ (Mapping.name_mem_targets he)]
      simp [spreadAll, mappingFor?_cons hm, h]
    · rw [if_neg h]
      simp [spreadAll, mappingFor?_cons hm, h]

end Passes

/-! ### Declarations that are missed -/

/-- A declaration does not stand right behind one of the same name, or that name is not mapped. -/
def Apart (mappings : List Mapping) (before d : WrittenDeclaration) : Prop :=
  before.name = d.name → d.margin = [] → mappingFor? mappings d.name = none

instance (mappings : List Mapping) : DecidableRel (Apart mappings) := fun before d =>
  inferInstanceAs (Decidable (before.name = d.name → d.margin = [] →
    mappingFor? mappings d.name = none))

section Missing

variable {mappings : List Mapping}

theorem apart_filter (mappings : List Mapping) :
    Apart (mappings.filter Mapping.isMapped) = Apart mappings := by
  funext before d
  rw [Apart, Apart, mappingFor?_filter]

theorem Apart.of_cons {m : Mapping} (hm : m.isMapped) {before d : WrittenDeclaration}
    (h : Apart (m :: mappings) before d) : Apart [m] before d := by
  intro hname hmargin
  have hnone := h hname hmargin
  rw [mappingFor?_cons hm] at hnone
  rw [mappingFor?_singleton hm]
  split at hnone
  · cases hnone
  · next hne => exact if_neg hne

theorem spreadBy?_of_apart {last : Option Text} {d : WrittenDeclaration}
    (h : last = some d.name → d.margin = [] → mappingFor? mappings d.name = none) :
    spreadBy? mappings last d = mappingFor? mappings d.name := by
  rw [spreadBy?]
  split
  · next hcrowded => exact (h hcrowded.2 hcrowded.1).symm
  · rfl

/-- Nothing is missed where declarations of mapped names are apart. -/
theorem spreadBehind_eq_spreadAll {last : Option Text} {ds : List WrittenDeclaration}
    (hlast : ∀ d ∈ ds.head?, last = some d.name → d.margin = [] →
      mappingFor? mappings d.name = none)
    (hds : ds.IsChain (Apart mappings)) :
    spreadBehind mappings last ds = spreadAll mappings ds := by
  induction ds generalizing last with
  | nil => rfl
  | cons d ds ih =>
    obtain ⟨hnext, hds⟩ := List.isChain_cons.mp hds
    have hby := spreadBy?_of_apart (hlast d rfl)
    rw [spreadAll, List.flatMap_cons]
    cases hfor : mappingFor? mappings d.name with
    | none =>
      rw [spreadBehind_none (hby.trans hfor)]
      exact congrArg (d :: ·) (ih (fun _ _ h => nomatch h) hds)
    | some m =>
      rw [spreadBehind_some (hby.trans hfor)]
      refine congrArg (m.spread d ++ ·) (ih (fun e he hname => hnext e he ?_) hds)
      exact Option.some.inj hname

/-- Where all that is left is not mapped, declarations of mapped names were apart. -/
theorem isChain_of_spreadBehind {last : Option Text} {ds : List WrittenDeclaration}
    (h : ∀ d ∈ spreadBehind mappings last ds, mappingFor? mappings d.name = none) :
    (∀ d ∈ ds.head?, last = some d.name → d.margin = [] →
      mappingFor? mappings d.name = none) ∧ ds.IsChain (Apart mappings) := by
  induction ds generalizing last with
  | nil => exact ⟨fun _ hd => (nomatch hd), List.isChain_nil⟩
  | cons d ds ih =>
    cases hby : spreadBy? mappings last d with
    | none =>
      rw [spreadBehind_none hby] at h
      obtain ⟨hd, hds⟩ := List.forall_mem_cons.mp h
      refine ⟨fun e he _ _ => Option.some.inj he ▸ hd, List.isChain_cons.mpr ⟨?_, (ih hds).2⟩⟩
      exact fun e _ hname _ => hname ▸ hd
    | some m =>
      rw [spreadBehind_some hby] at h
      obtain ⟨hnext, hds⟩ := ih (List.forall_mem_append.mp h).2
      refine ⟨fun e he hname hmargin => ?_, List.isChain_cons.mpr ⟨fun e he hname =>
        hnext e he (congrArg some hname), hds⟩⟩
      -- right behind one of its name, the declaration would not have been spread
      obtain rfl := Option.some.inj he
      rw [spreadBy?, if_pos ⟨hmargin, hname⟩] at hby
      cases hby

variable {m : Mapping}

/-- What a pass that misses nothing leaves at the front is new, or was at the front before. -/
theorem head?_spreadAll (hm : m.isMapped)
    (htargets : ∀ t ∈ m.targets, mappingFor? mappings t = none) {ds : List WrittenDeclaration}
    {e : WrittenDeclaration} (he : e ∈ (spreadAll [m] ds).head?) :
    mappingFor? mappings e.name = none ∨ e ∈ ds.head? := by
  cases ds with
  | nil => exact .inr he
  | cons d ds =>
    rw [spreadAll_singleton hm] at he
    split at he
    · rw [List.head?_append_of_ne_nil _ (m.spread_ne_nil hm d)] at he
      exact .inl (htargets _ (Mapping.name_mem_targets (List.mem_of_mem_head? he)))
    · exact .inr he

/-- A pass that misses nothing brings no declarations of mapped names together. -/
theorem isChain_spreadAll (hm : m.isMapped)
    (htargets : ∀ t ∈ m.targets, mappingFor? mappings t = none) {ds : List WrittenDeclaration}
    (hds : ds.IsChain (Apart (m :: mappings))) :
    (spreadAll [m] ds).IsChain (Apart mappings) := by
  induction ds with
  | nil => exact List.isChain_nil
  | cons d ds ih =>
    obtain ⟨hnext, hds⟩ := List.isChain_cons.mp hds
    have hspread : ∀ e ∈ m.spread d, mappingFor? mappings e.name = none := fun e he =>
      htargets _ (Mapping.name_mem_targets he)
    rw [spreadAll_singleton hm, List.isChain_append]
    refine ⟨?_, ih hds, fun x hx y hy hname hmargin => ?_⟩
    · split
      · exact (List.pairwise_of_forall_mem_list fun _ _ e he _ _ => hspread e he).isChain
      · exact List.isChain_singleton d
    · rcases head?_spreadAll hm htargets hy with hfree | hold
      · exact hfree
      · split at hx
        · exact hname ▸ hspread x (List.mem_of_mem_getLast? hx)
        · obtain rfl := Option.some.inj hx
          have happart := hnext y hold hname hmargin
          rw [mappingFor?_cons hm] at happart
          split at happart
          · cases happart
          · exact happart

/-- No mapped name is left when every declaration has been replaced. -/
theorem unmapped_of_mem_spreadAll
    (htargets : ∀ m ∈ mappings, m.isMapped → ∀ t ∈ m.targets, mappingFor? mappings t = none)
    {ds : List WrittenDeclaration} {e : WrittenDeclaration} (he : e ∈ spreadAll mappings ds) :
    mappingFor? mappings e.name = none := by
  obtain ⟨d, -, hd⟩ := List.mem_flatMap.mp he
  cases hfor : mappingFor? mappings d.name with
  | none =>
    rw [hfor, List.mem_singleton] at hd
    rw [hd, hfor]
  | some m =>
    rw [hfor] at hd
    exact htargets m (List.mem_of_find?_eq_some hfor) (isMapped_of_mappingFor? hfor) _
      (Mapping.name_mem_targets hd)

end Missing

end DesignTokens
