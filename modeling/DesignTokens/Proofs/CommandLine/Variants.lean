import DesignTokens.CommandLine.Load
import DesignTokens.Proofs.CommandLine.Values

/-!
Widths and labels of inputs from the command line. The first of them gives every input a variant of
its own, the one that was settled for it or the standard one of its position, and each then changes
the variant of the input that it names:

    settled      v₀                          one variant, three inputs
    each its own v₀      standard 1   standard 2
    --range 1    v₀      widths set   standard 2
    --theme 2    v₀      widths set   label set

Later widths take the place of earlier ones, and so do labels. An input that is not named then has
the variant that it would have had (`fileVariant_variantsAfter`), although the settings now hold
as many variants as there are inputs, where they held fewer or more before.
-/

namespace DesignTokens

namespace Arguments

/-! ### Changes by index -/

section Changes

variable {σ : Type} (index : σ → Nat) (change : σ → FileVariant → FileVariant)
  (fault : σ → SettingsError)

/-- The variants with the one that a setting names changed. -/
def changeNamed (variants : List FileVariant) (s : σ) : Except SettingsError (List FileVariant) :=
  if index s < variants.length then .ok (variants.modify (index s) (change s)) else .error (fault s)

/-- Changes can be made one after the other just if each of them names a variant. -/
theorem foldlM_changeNamed_eq_ok_iff (settings : List σ) {variants later : List FileVariant} :
    settings.foldlM (changeNamed index change fault) variants = .ok later ↔
      (∀ s ∈ settings, index s < variants.length) ∧
        later = settings.foldl (fun vs s => vs.modify (index s) (change s)) variants := by
  induction settings generalizing variants with
  | nil =>
    rw [List.foldlM_nil, List.foldl_nil]
    exact ⟨fun h => ⟨nofun, (Except.ok.inj h).symm⟩, fun h => congrArg Except.ok h.2.symm⟩
  | cons s settings ih =>
    rw [List.foldlM_cons, List.foldl_cons, List.forall_mem_cons, changeNamed]
    by_cases hs : index s < variants.length
    · rw [if_pos hs]
      show settings.foldlM _ _ = _ ↔ _
      rw [ih, List.length_modify]
      simp only [hs, true_and]
    · rw [if_neg hs]
      exact iff_of_false nofun fun h => hs h.1.1

/-- Of changes that take each other's place, the last one that names a variant is what counts. -/
theorem getElem?_foldl_modify (hlast : ∀ s s' v, change s (change s' v) = change s v)
    (settings : List σ) (variants : List FileVariant) (i : Nat) :
    (settings.foldl (fun vs s => vs.modify (index s) (change s)) variants)[i]? =
      variants[i]?.map fun v => (settings.findRev? (index · = i)).elim v (change · v) := by
  induction settings generalizing variants with
  | nil => simp
  | cons s settings ih =>
    rw [List.foldl_cons, ih, List.getElem?_modify, List.findRev?, Option.map_eq_map,
      Option.map_map]
    refine congrArg (variants[i]?.map ·) (funext fun v => ?_)
    cases settings.findRev? (index · = i) with
    | some last =>
      simp only [Function.comp_apply, Option.elim_some]
      split
      · exact hlast last s v
      · rfl
    | none => by_cases hs : index s = i <;> simp [hs]

theorem length_foldl_modify (settings : List σ) (variants : List FileVariant) :
    (settings.foldl (fun vs s => vs.modify (index s) (change s)) variants).length =
      variants.length := by
  induction settings generalizing variants with
  | nil => rfl
  | cons s settings ih => rw [List.foldl_cons, ih, List.length_modify]

end Changes

/-! ### The variants of all inputs -/

variable {a : Arguments} {c later : Config} {tree : FileTree}

/-- Every input that widths or a label are given for is there. -/
def NamesInputs (a : Arguments) : Prop :=
  (∀ w ∈ a.widths, w.index.toNat < a.files.length) ∧
    ∀ l ∈ a.labels, l.index.toNat < a.files.length

/-- The variant of an input with the last widths, and with the last label, that name the input. -/
def variantFor (a : Arguments) (i : Nat) (v : FileVariant) : FileVariant :=
  let widths := a.widths.findRev? (·.index.toNat = i)
  let label := a.labels.findRev? (·.index.toNat = i)
  { minWidth := widths.elim v.minWidth (·.minWidth)
    maxWidth := widths.elim v.maxWidth (·.maxWidth)
    label := label.elim v.label fun l => some l.label }

/-- A variant with widths set. -/
def widened (w : WidthSetting) (v : FileVariant) : FileVariant :=
  { v with minWidth := w.minWidth, maxWidth := w.maxWidth }

/-- A variant with a label set. -/
def labelled (l : LabelSetting) (v : FileVariant) : FileVariant := { v with label := some l.label }

theorem foldlM_setWidths_eq_ok_iff {variants later : List FileVariant} (a : Arguments) :
    a.widths.foldlM setWidths variants = .ok later ↔
      (∀ w ∈ a.widths, w.index.toNat < variants.length) ∧
        later = a.widths.foldl (fun vs w => vs.modify w.index.toNat (widened w)) variants :=
  foldlM_changeNamed_eq_ok_iff (fun w : WidthSetting => w.index.toNat) widened
    (fun w => .widthsWithoutFile w.index) a.widths

theorem foldlM_setLabel_eq_ok_iff {variants later : List FileVariant} (a : Arguments) :
    a.labels.foldlM setLabel variants = .ok later ↔
      (∀ l ∈ a.labels, l.index.toNat < variants.length) ∧
        later = a.labels.foldl (fun vs l => vs.modify l.index.toNat (labelled l)) variants :=
  foldlM_changeNamed_eq_ok_iff (fun l : LabelSetting => l.index.toNat) labelled
    (fun l => .labelWithoutFile l.index) a.labels

/-- The variants when every input has its own and the options have changed them. -/
def ownVariants (a : Arguments) (c : Config) : List FileVariant :=
  a.labels.foldl (fun vs l => vs.modify l.index.toNat (labelled l))
    (a.widths.foldl (fun vs w => vs.modify w.index.toNat (widened w))
      (c.fileVariants a.files.length))

/-- The variants that settings hold after the options; without options those that they held. -/
def variantsAfter (a : Arguments) (c : Config) : List FileVariant :=
  if a.widths.isEmpty && a.labels.isEmpty then c.files else a.ownVariants c

theorem getElem?_ownVariants (a : Arguments) (c : Config) {i : Nat} (hi : i < a.files.length) :
    (a.ownVariants c)[i]? = some (a.variantFor i (c.fileVariant i)) := by
  rw [ownVariants, getElem?_foldl_modify _ labelled fun _ _ _ => rfl,
    getElem?_foldl_modify _ widened fun _ _ _ => rfl, c.getElem?_fileVariants hi, Option.map_some,
    Option.map_some, variantFor]
  cases a.widths.findRev? (·.index.toNat = i) <;>
    cases a.labels.findRev? (·.index.toNat = i) <;> rfl

/-- An input has the variant that it would have had, with the options that name it. -/
theorem fileVariant_variantsAfter (a : Arguments) (c : Config) {i : Nat}
    (hi : i < a.files.length) :
    { c with files := a.variantsAfter c }.fileVariant i = a.variantFor i (c.fileVariant i) := by
  rw [variantsAfter]
  split
  · next hnone =>
    obtain ⟨hwidths, hlabels⟩ : a.widths = [] ∧ a.labels = [] := by simpa using hnone
    rw [variantFor, hwidths, hlabels]
    rfl
  · rw [Config.fileVariant, getElem?_ownVariants a c hi, Option.getD_some]

/-- The options are taken just if they name inputs, and then they change the variants only. -/
theorem overrideVariants_eq_ok_iff : a.overrideVariants c = .ok later ↔
    a.NamesInputs ∧ later = { c with files := a.variantsAfter c } := by
  unfold overrideVariants variantsAfter
  split
  · next hnone =>
    obtain ⟨hwidths, hlabels⟩ : a.widths = [] ∧ a.labels = [] := by simpa using hnone
    rw [NamesInputs, hwidths, hlabels]
    exact ⟨fun h => ⟨⟨nofun, nofun⟩, (Except.ok.inj h).symm⟩, fun h => congrArg Except.ok h.2.symm⟩
  · simp only [bind_eq_ok_iff, foldlM_setWidths_eq_ok_iff, foldlM_setLabel_eq_ok_iff,
      Config.length_fileVariants]
    constructor
    · rintro ⟨_, ⟨hwidths, rfl⟩, _, ⟨hlabels, rfl⟩, h⟩
      rw [length_foldl_modify, Config.length_fileVariants] at hlabels
      exact ⟨⟨hwidths, hlabels⟩, (Except.ok.inj h).symm⟩
    · rintro ⟨⟨hwidths, hlabels⟩, rfl⟩
      refine ⟨_, ⟨hwidths, rfl⟩, _, ⟨?_, rfl⟩, rfl⟩
      rw [length_foldl_modify, Config.length_fileVariants]
      exact hlabels

/-! ### Settings -/

theorem loadConfig_eq_ok_iff : a.loadConfig tree = .ok c ↔
    ∃ base, a.baseConfig tree = .ok base ∧ a.overrideVariants (a.override base) = .ok c ∧
      c.fault = .none := by
  unfold loadConfig
  simp only [bind_eq_ok_iff]
  refine exists_congr fun base => and_congr_right fun _ => ?_
  constructor
  · rintro ⟨c', hc', h⟩
    split at h
    · cases h
    · next hfault =>
      obtain rfl := Except.ok.inj h
      exact ⟨hc', hfault⟩
  · rintro ⟨hc, hfault⟩
    exact ⟨c, hc, by rw [hfault]⟩

/-- The command line without widths and labels of inputs. -/
def withoutVariants (a : Arguments) : Arguments := { a with widths := [], labels := [] }

theorem loadConfig_withoutVariants_eq_ok_iff : a.withoutVariants.loadConfig tree = .ok c ↔
    ∃ base, a.baseConfig tree = .ok base ∧ c = a.override base ∧ (a.override base).fault = .none := by
  rw [loadConfig_eq_ok_iff]
  refine exists_congr fun base => and_congr_right fun _ => ?_
  constructor
  · rintro ⟨h, hfault⟩
    obtain rfl : a.override base = c := Except.ok.inj h
    exact ⟨rfl, hfault⟩
  · rintro ⟨rfl, hfault⟩
    exact ⟨rfl, hfault⟩

/-- Widths and labels of inputs change the inputs that they name. There are settings with them just
if there are settings without them and all of them name an input; the settings are then the same but
for the variants, and every input has its variant in the settings that the options override, with the
last widths and the last label that name it. -/
theorem options_change_named_inputs (a : Arguments) (tree : FileTree) :
    ((∃ c, a.loadConfig tree = .ok c) ↔
      (∃ c, a.withoutVariants.loadConfig tree = .ok c) ∧ a.NamesInputs) ∧
    ∀ c, a.loadConfig tree = .ok c →
      ∃ base, a.baseConfig tree = .ok base ∧
        a.withoutVariants.loadConfig tree = .ok { c with files := base.files } ∧
        ∀ i < a.files.length, c.fileVariant i = a.variantFor i (base.fileVariant i) := by
  have hsettings : ∀ c, a.loadConfig tree = .ok c ↔ ∃ base, a.baseConfig tree = .ok base ∧
      (a.override base).fault = .none ∧ a.NamesInputs ∧
        c = { a.override base with files := a.variantsAfter (a.override base) } := by
    intro c
    rw [loadConfig_eq_ok_iff]
    refine exists_congr fun base => and_congr_right fun _ => ?_
    rw [overrideVariants_eq_ok_iff]
    constructor
    · rintro ⟨⟨hnames, rfl⟩, hfault⟩
      exact ⟨hfault, hnames, rfl⟩
    · rintro ⟨hfault, hnames, rfl⟩
      exact ⟨⟨hnames, rfl⟩, hfault⟩
  refine ⟨?_, fun c hc => ?_⟩
  · simp only [hsettings, loadConfig_withoutVariants_eq_ok_iff]
    constructor
    · rintro ⟨_, base, hbase, hfault, hnames, -⟩
      exact ⟨⟨_, base, hbase, rfl, hfault⟩, hnames⟩
    · rintro ⟨⟨_, base, hbase, -, hfault⟩, hnames⟩
      exact ⟨_, base, hbase, hfault, hnames, rfl⟩
  · obtain ⟨base, hbase, hfault, -, rfl⟩ := (hsettings c).mp hc
    refine ⟨base, hbase, ?_, fun i hi => ?_⟩
    · exact loadConfig_withoutVariants_eq_ok_iff.mpr ⟨base, hbase, rfl, hfault⟩
    · exact fileVariant_variantsAfter a (a.override base) hi

/-- A file settles one of three inputs; the second gets widths twice, the third a label. -/
theorem options_change_two_of_three :
    let desk : FileVariant := ⟨some 1024, .none, .none⟩
    let tree : FileTree := ⟨[], [(["c.toml"], .file (.text "[[files]]\nminWidth = 1024\n"))]⟩
    let a : Arguments := { Arguments.none with
      files := ["a.json", "b.json", "c.json"]
      config := some "c.toml"
      widths := [⟨1, some 600, some 900⟩, ⟨1, .none, some 800⟩]
      labels := [⟨2, "dim"⟩] }
    ∃ c, a.loadConfig tree = .ok c ∧
      a.withoutVariants.loadConfig tree = .ok { c with files := [desk] } ∧
      c.fileVariant 0 = desk ∧
      c.fileVariant 1 = ⟨.none, some 800, some "dark"⟩ ∧
      c.fileVariant 2 = ⟨.none, some 767, some "dim"⟩ := by
  intro desk tree a
  have hbase : a.baseConfig tree = .ok { Config.default with files := [desk] } := by
    decide +kernel
  have hplain : a.withoutVariants.loadConfig tree = .ok { Config.default with files := [desk] } :=
    loadConfig_withoutVariants_eq_ok_iff.mpr ⟨_, hbase, by decide, by decide⟩
  obtain ⟨hsucceeds, hchanged⟩ := options_change_named_inputs a tree
  obtain ⟨c, hc⟩ := hsucceeds.mpr ⟨⟨_, hplain⟩, by decide, by decide⟩
  obtain ⟨base, hbase', hsame, hvariants⟩ := hchanged c hc
  obtain rfl : base = { Config.default with files := [desk] } :=
    Except.ok.inj (hbase'.symm.trans hbase)
  refine ⟨c, hc, hsame, ?_, ?_, ?_⟩
  · rw [hvariants 0 (by decide)]
    decide
  · rw [hvariants 1 (by decide)]
    decide
  · rw [hvariants 2 (by decide)]
    decide

end Arguments

end DesignTokens
