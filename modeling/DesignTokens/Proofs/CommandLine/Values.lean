import DesignTokens.CommandLine.Value
import DesignTokens.Proofs.Decimal.Naturals
import DesignTokens.Proofs.Text.Blanks
import DesignTokens.Proofs.Text.Splitting
import DesignTokens.Proofs.Text.Trimming
import Mathlib.Data.List.Forall2

/-!
Values of options as they are spelled. Each kind of value has its parts behind each other, with a
sign between them and blanks around them:

    widths     index = min : max        both widths are optional
    label      index = label            the label may hold any sign
    targets    name = piece , piece …   pieces of blanks hold no target

The first sign of its kind is the one that counts. Indexes and widths hold no signs, so nothing has
to be said of them; a name must not hold an equals sign. Reading gives what is spelled, and nothing
is read that is not.
-/

namespace DesignTokens

open Text (Padded Trimmed)

/-! ### Steps that can fail -/

/-- Two steps succeed just if the first does and the second does from there. -/
theorem bind_eq_ok_iff {ε α β : Type} {first : Except ε α} {next : α → Except ε β} {b : β} :
    first >>= next = .ok b ↔ ∃ a, first = .ok a ∧ next a = .ok b := by
  cases first with
  | error e => exact iff_of_false nofun fun ⟨_, h, _⟩ => nomatch h
  | ok a => exact ⟨fun h => ⟨a, rfl, h⟩, fun ⟨_, h, hnext⟩ => Except.ok.inj h ▸ hnext⟩

/-- A step whose result and whose fault are changed succeeds just if it did. -/
theorem mapError_map_eq_ok_iff {ε ζ α β : Type} {x : Except ε α} {f : α → β} {g : ε → ζ} {b : β} :
    (f <$> x).mapError g = .ok b ↔ ∃ a, x = .ok a ∧ f a = b := by
  cases x with
  | error e => exact iff_of_false nofun fun ⟨_, h, _⟩ => nomatch h
  | ok a =>
    exact ⟨fun h => ⟨a, rfl, Except.ok.inj h⟩, fun ⟨_, h, hf⟩ =>
      congrArg Except.ok ((congrArg f (Except.ok.inj h)).trans hf)⟩

/-! ### Numbers with blanks around them -/

theorem isBlank_of_isDigit {c : Char} (h : isDigit c) : isBlank c = false := by
  have hall : ∀ n ∈ blankCodes, isDigit (Char.ofNat n) = false := by decide
  refine Bool.eq_false_iff.mpr fun hblank => ?_
  have hnone := hall c.toNat (toNat_mem_blankCodes hblank)
  rw [Char.ofNat_toNat, h] at hnone
  cases hnone

theorem SpellsNat.trimmed {n : Nat} {t : Text} (h : SpellsNat n t) : t.Trimmed := by
  refine Text.trimmed_of_forall fun c hc => ?_
  rcases h.mem hc with rfl | hdigit
  · decide
  · exact isBlank_of_isDigit hdigit

/-- The text spells the natural, and may have blanks around it. -/
def PadsNat (n : Nat) (t : Text) : Prop := ∃ core, SpellsNat n core ∧ Padded core t

theorem PadsNat.of_natText {n : Nat} {t : Text} (h : Padded (natText n) t) : PadsNat n t :=
  ⟨natText n, spellsNat_natText n, h⟩

theorem PadsNat.not_mem {n : Nat} {t : Text} (h : PadsNat n t) {c : Char} (hplus : c ≠ '+')
    (hdigit : isDigit c = false) (hblank : isBlank c = false) : c ∉ t := by
  obtain ⟨core, hcore, hpadded⟩ := h
  refine hpadded.not_mem (fun hmem => ?_) hblank
  exact (hcore.mem hmem).elim hplus (Bool.eq_false_iff.mp hdigit)

/-- A number is not made of blanks only. -/
theorem PadsNat.exists_not_blank {n : Nat} {t : Text} (h : PadsNat n t) :
    ¬∀ c ∈ t, isBlank c := by
  obtain ⟨core, hcore, hpadded⟩ := h
  intro hblank
  have hnil : core = [] :=
    (hpadded.trim_eq hcore.trimmed).symm.trans (Text.trim_eq_nil_iff.mpr hblank)
  exact hcore.ne_nil hnil

theorem readNat_trim_eq_ok_iff {bound n : Nat} {t : Text} :
    readNat bound (Text.trim t) = .ok n ↔ PadsNat n t ∧ n < bound := by
  rw [readNat_eq_ok_iff]
  refine and_congr_left fun _ => ⟨fun h => ⟨Text.trim t, h, (Text.padded_trim t).1⟩, ?_⟩
  rintro ⟨core, hcore, hpadded⟩
  rwa [hpadded.trim_eq hcore.trimmed]

theorem readIndex_eq_ok_iff {t : Text} {index : UInt64} :
    readIndex t = .ok index ↔ PadsNat index.toNat t := by
  rw [readIndex, readCount, mapError_map_eq_ok_iff]
  constructor
  · rintro ⟨n, hread, rfl⟩
    obtain ⟨hpads, hlt⟩ := readNat_trim_eq_ok_iff.mp hread
    rwa [UInt64.toNat_ofNat_of_lt' hlt]
  · intro h
    exact ⟨index.toNat, readNat_trim_eq_ok_iff.mpr ⟨h, index.toNat_lt_size⟩, UInt64.ofNat_toNat⟩

/-- The text is a width, or blanks where there is none. -/
inductive SpellsWidth : Option UInt32 → Text → Prop
  | none {t : Text} (h : ∀ c ∈ t, isBlank c) : SpellsWidth none t
  | some {t : Text} {width : UInt32} (h : PadsNat width.toNat t) : SpellsWidth (some width) t

theorem readWidth_eq_ok_iff {t : Text} {width : Option UInt32} :
    readWidth t = .ok width ↔ SpellsWidth width t := by
  unfold readWidth
  split
  · next hblank =>
    have hblank := Text.isAllBlank_iff.mp hblank
    constructor
    · rintro ⟨⟩
      exact .none hblank
    · rintro (_ | hpads)
      · rfl
      · exact absurd hblank hpads.exists_not_blank
  · next hblank =>
    rw [mapError_map_eq_ok_iff]
    constructor
    · rintro ⟨n, hread, rfl⟩
      obtain ⟨hpads, hlt⟩ := readNat_trim_eq_ok_iff.mp hread
      exact .some (by rwa [UInt32.toNat_ofNat_of_lt' hlt])
    · rintro (h | @⟨_, width, hpads⟩)
      · exact absurd (Text.isAllBlank_iff.mpr h) hblank
      · exact ⟨width.toNat, readNat_trim_eq_ok_iff.mpr ⟨hpads, width.toNat_lt_size⟩,
          congrArg some UInt32.ofNat_toNat⟩

theorem SpellsWidth.no_colon {width : Option UInt32} {t : Text} (h : SpellsWidth width t) :
    ':' ∉ t := by
  cases h with
  | none hblank => exact fun hmem => absurd (hblank ':' hmem) (by decide)
  | some hpads => exact hpads.not_mem (by decide) (by decide) (by decide)

theorem PadsNat.no_equals {n : Nat} {t : Text} (h : PadsNat n t) : '=' ∉ t :=
  h.not_mem (by decide) (by decide) (by decide)

/-! ### Widths and labels -/

/-- How widths are spelled. -/
def WidthSetting.Spelled (w : WidthSetting) (t : Text) : Prop :=
  ∃ index min max, t = index ++ '=' :: (min ++ ':' :: max) ∧ PadsNat w.index.toNat index ∧
    SpellsWidth w.minWidth min ∧ SpellsWidth w.maxWidth max

/-- How a label is spelled. -/
def LabelSetting.Spelled (l : LabelSetting) (t : Text) : Prop :=
  ∃ index label, t = index ++ '=' :: label ∧ PadsNat l.index.toNat index ∧
    l.label.Trimmed ∧ Padded l.label label

/-- Where both signs stand, the parts are read one by one. -/
theorem WidthSetting.read_append {index min : Text} (hindex : '=' ∉ index) (hmin : ':' ∉ min)
    (max : Text) {w : WidthSetting} :
    read (index ++ '=' :: (min ++ ':' :: max)) = .ok w ↔
      PadsNat w.index.toNat index ∧ SpellsWidth w.minWidth min ∧ SpellsWidth w.maxWidth max := by
  simp only [read, Text.cut?_append _ hindex, Text.cut?_append _ hmin, ← readIndex_eq_ok_iff,
    ← readWidth_eq_ok_iff]
  constructor
  · intro h
    obtain ⟨i, hi, h⟩ := bind_eq_ok_iff.mp h
    obtain ⟨low, hlow, h⟩ := bind_eq_ok_iff.mp h
    obtain ⟨high, hhigh, h⟩ := bind_eq_ok_iff.mp h
    obtain rfl := Except.ok.inj h
    exact ⟨hi, hlow, hhigh⟩
  · rintro ⟨hi, hlow, hhigh⟩
    rw [hi, hlow, hhigh]
    rfl

/-- Nothing is read where a sign is missing. -/
theorem WidthSetting.exists_of_read {t : Text} {w : WidthSetting} (h : read t = .ok w) :
    ∃ index min max, t = index ++ '=' :: (min ++ ':' :: max) ∧ '=' ∉ index ∧ ':' ∉ min := by
  unfold read at h
  split at h
  · next index bounds hequals =>
    split at h
    · next min max hcolon =>
      obtain ⟨rfl, hindex⟩ := Text.eq_of_cut? hequals
      obtain ⟨rfl, hmin⟩ := Text.eq_of_cut? hcolon
      exact ⟨index, min, max, rfl, hindex, hmin⟩
    · cases h
  · cases h

/-- What is read as widths is how they are spelled. -/
theorem WidthSetting.read_eq_ok_iff {t : Text} {w : WidthSetting} :
    read t = .ok w ↔ w.Spelled t := by
  constructor
  · intro h
    obtain ⟨index, min, max, rfl, hindex, hmin⟩ := exists_of_read h
    exact ⟨index, min, max, rfl, (read_append hindex hmin max).mp h⟩
  · rintro ⟨index, min, max, rfl, hi, hlow, hhigh⟩
    exact (read_append hi.no_equals hlow.no_colon max).mpr ⟨hi, hlow, hhigh⟩

theorem LabelSetting.read_append {index : Text} (hindex : '=' ∉ index) (label : Text)
    {l : LabelSetting} :
    read (index ++ '=' :: label) = .ok l ↔
      PadsNat l.index.toNat index ∧ l.label.Trimmed ∧ Padded l.label label := by
  rw [← Text.trim_eq_iff, ← readIndex_eq_ok_iff]
  simp only [read, Text.cut?_append _ hindex]
  constructor
  · intro h
    obtain ⟨i, hi, h⟩ := bind_eq_ok_iff.mp h
    obtain rfl := Except.ok.inj h
    exact ⟨hi, rfl⟩
  · rintro ⟨hi, hlabel⟩
    rw [hi, hlabel]
    rfl

/-- What is read as a label is how it is spelled. -/
theorem LabelSetting.read_eq_ok_iff {t : Text} {l : LabelSetting} :
    read t = .ok l ↔ l.Spelled t := by
  constructor
  · intro h
    have hcut : ∃ index label, t = index ++ '=' :: label ∧ '=' ∉ index := by
      unfold read at h
      split at h
      · next index label hcut => exact ⟨index, label, Text.eq_of_cut? hcut⟩
      · cases h
    obtain ⟨index, label, rfl, hindex⟩ := hcut
    exact ⟨index, label, rfl, (read_append hindex label).mp h⟩
  · rintro ⟨index, label, rfl, hi, hlabel⟩
    exact (read_append hi.no_equals label).mpr ⟨hi, hlabel⟩

/-! ### Targets -/

/-- What pieces hold: a piece of blanks holds nothing, any other piece a text that has blanks around
it. -/
inductive Hold : List Text → List Text → Prop
  | nil : Hold [] []
  | blank {piece : Text} {pieces texts : List Text} (hpiece : ∀ c ∈ piece, isBlank c)
    (more : Hold pieces texts) : Hold (piece :: pieces) texts
  | text {piece core : Text} {pieces texts : List Text} (hne : core ≠ []) (hcore : core.Trimmed)
    (hpiece : Padded core piece) (more : Hold pieces texts) :
    Hold (piece :: pieces) (core :: texts)

theorem hold_iff {pieces texts : List Text} :
    Hold pieces texts ↔ (pieces.map Text.trim).filter (fun t => !t.isEmpty) = texts := by
  constructor
  · intro h
    induction h with
    | nil => rfl
    | blank hpiece _ ih =>
      rw [List.map_cons, Text.trim_eq_nil_iff.mpr hpiece]
      exact ih
    | text hne hcore hpiece _ ih =>
      rw [List.map_cons, hpiece.trim_eq hcore, List.filter_cons_of_pos (by simpa using hne), ih]
  · rintro rfl
    induction pieces with
    | nil => exact .nil
    | cons piece pieces ih =>
      obtain ⟨hpadded, htrimmed⟩ := Text.padded_trim piece
      rw [List.map_cons]
      by_cases hne : Text.trim piece = []
      · rw [List.filter_cons_of_neg (by simp [hne])]
        exact .blank (Text.trim_eq_nil_iff.mp hne) ih
      · rw [List.filter_cons_of_pos (by simpa using hne)]
        exact .text hne htrimmed hpadded ih

/-- Texts with blanks around them are what pieces hold. -/
theorem Hold.of_padded {pieces texts : List Text} (h : List.Forall₂ Padded texts pieces)
    (htexts : ∀ t ∈ texts, t ≠ [] ∧ t.Trimmed) : Hold pieces texts := by
  induction h with
  | nil => exact .nil
  | cons hpiece _ ih =>
    obtain ⟨⟨hne, hcore⟩, htexts⟩ := List.forall_mem_cons.mp htexts
    exact .text hne hcore hpiece (ih htexts)

/-- How targets are spelled. -/
def MappingSetting.Spelled (m : MappingSetting) (t : Text) : Prop :=
  ∃ name pieces, t = name ++ '=' :: Text.join [','] pieces ∧ '=' ∉ name ∧ (∀ p ∈ pieces, ',' ∉ p) ∧
    m.name ≠ [] ∧ m.name.Trimmed ∧ Padded m.name name ∧ m.targets ≠ [] ∧ Hold pieces m.targets

theorem MappingSetting.read_append {name : Text} (hname : '=' ∉ name) (targets : Text)
    {m : MappingSetting} :
    read (name ++ '=' :: targets) = .ok m ↔
      (m.name ≠ [] ∧ m.name.Trimmed ∧ Padded m.name name) ∧
        m.targets ≠ [] ∧ Hold (Text.splitOn ',' targets) m.targets := by
  rw [← Text.trim_eq_iff, hold_iff]
  simp only [read, Text.cut?_append _ hname]
  generalize ((Text.splitOn ',' targets).map Text.trim).filter (fun t => !t.isEmpty) = held
  split
  · next hempty =>
    refine iff_of_false nofun fun ⟨⟨hne, htrim⟩, htargets, hheld⟩ => ?_
    rcases Bool.or_eq_true_iff.mp hempty with hblank | hnone
    · exact hne (htrim.symm.trans (Text.trim_eq_nil_iff.mpr (Text.isAllBlank_iff.mp hblank)))
    · exact htargets (hheld.symm.trans (List.isEmpty_iff.mp hnone))
  · next hfull =>
    obtain ⟨hblank, hnone⟩ := not_or.mp (mt Bool.or_eq_true_iff.mpr hfull)
    constructor
    · intro h
      obtain rfl := Except.ok.inj h
      refine ⟨⟨fun htrim => hblank ?_, rfl⟩, mt List.isEmpty_iff.mpr hnone, rfl⟩
      exact Text.isAllBlank_iff.mpr (Text.trim_eq_nil_iff.mp htrim)
    · rintro ⟨⟨-, htrim⟩, -, hheld⟩
      rw [htrim, hheld]
      rfl

/-- What is read as targets is how they are spelled. -/
theorem MappingSetting.read_eq_ok_iff {t : Text} {m : MappingSetting} :
    read t = .ok m ↔ m.Spelled t := by
  constructor
  · intro h
    have hcut : ∃ name targets, t = name ++ '=' :: targets ∧ '=' ∉ name := by
      unfold read at h
      split at h
      · next name targets hcut => exact ⟨name, targets, Text.eq_of_cut? hcut⟩
      · cases h
    obtain ⟨name, targets, rfl, hname⟩ := hcut
    obtain ⟨⟨hne, htrimmed, hpadded⟩, htargets, hheld⟩ := (read_append hname targets).mp h
    refine ⟨name, Text.splitOn ',' targets, by rw [Text.join_splitOn], hname, fun p hp hmem => ?_,
      hne, htrimmed, hpadded, htargets, hheld⟩
    exact (Text.of_mem_splitOn hp hmem).2 rfl
  · rintro ⟨name, pieces, rfl, hname, hpieces, hne, htrimmed, hpadded, htargets, hheld⟩
    have hsome : pieces ≠ [] := by
      rintro rfl
      exact htargets (hold_iff.mp hheld).symm
    refine (read_append hname _).mpr ⟨⟨hne, htrimmed, hpadded⟩, htargets, ?_⟩
    rwa [Text.splitOn_join hsome hpieces]

/-! ### Printing and reading -/

/-- A width in digits, or nothing where there is none. -/
def widthText : Option UInt32 → Text
  | none => []
  | some width => natText width.toNat

theorem SpellsWidth.of_widthText {width : Option UInt32} {t : Text}
    (h : Padded (widthText width) t) : SpellsWidth width t := by
  cases width with
  | none => exact .none (Text.padded_nil_iff.mp h)
  | some width => exact .some (.of_natText h)

/-- Name and targets can be told apart when they are printed: none of them is empty or has blanks at
its ends, the name has no equals sign and the targets no commas. -/
structure MappingSetting.Printable (m : MappingSetting) : Prop where
  name_ne_nil : m.name ≠ []
  name_trimmed : m.name.Trimmed
  no_equals : '=' ∉ m.name
  targets_ne_nil : m.targets ≠ []
  targets : ∀ t ∈ m.targets, t ≠ [] ∧ t.Trimmed ∧ ',' ∉ t

instance : DecidablePred MappingSetting.Printable := fun m =>
  decidable_of_iff (m.name ≠ [] ∧ m.name.Trimmed ∧ '=' ∉ m.name ∧ m.targets ≠ [] ∧
      ∀ t ∈ m.targets, t ≠ [] ∧ t.Trimmed ∧ ',' ∉ t)
    ⟨fun ⟨hne, htrimmed, hequals, htargets, hall⟩ => ⟨hne, htrimmed, hequals, htargets, hall⟩,
      fun h => ⟨h.name_ne_nil, h.name_trimmed, h.no_equals, h.targets_ne_nil, h.targets⟩⟩

theorem not_mem_of_padded {c : Char} (hc : isBlank c = false) {texts pieces : List Text}
    (h : List.Forall₂ Padded texts pieces) (htexts : ∀ t ∈ texts, c ∉ t) :
    ∀ p ∈ pieces, c ∉ p := by
  induction h with
  | nil => exact List.forall_mem_nil _
  | cons hpiece _ ih =>
    obtain ⟨hcore, htexts⟩ := List.forall_mem_cons.mp htexts
    exact List.forall_mem_cons.mpr ⟨hpiece.not_mem hcore hc, ih htexts⟩

/-- Blanks around the name and the targets make no difference. -/
theorem MappingSetting.Printable.spelled {m : MappingSetting} (h : m.Printable) {name : Text}
    {pieces : List Text} (hname : Padded m.name name)
    (hpieces : List.Forall₂ Padded m.targets pieces) :
    m.Spelled (name ++ '=' :: Text.join [','] pieces) := by
  have hcommas : ∀ p ∈ pieces, ',' ∉ p :=
    not_mem_of_padded (by decide) hpieces fun t ht => (h.targets t ht).2.2
  have hheld : Hold pieces m.targets :=
    .of_padded hpieces fun t ht => ⟨(h.targets t ht).1, (h.targets t ht).2.1⟩
  exact ⟨name, pieces, rfl, hname.not_mem h.no_equals (by decide), hcommas, h.name_ne_nil,
    h.name_trimmed, hname, h.targets_ne_nil, hheld⟩

/-- What is read of a value is just what it spells. Targets, widths and labels that are printed are
read back, whatever blanks stand around the pieces; a label loses those at its ends. No widths are
read where one of them is neither blank nor a number of thirty-two bits. -/
theorem option_values_are_exact :
    (∀ t m, MappingSetting.read t = .ok m ↔ m.Spelled t) ∧
    (∀ t w, WidthSetting.read t = .ok w ↔ w.Spelled t) ∧
    (∀ t l, LabelSetting.read t = .ok l ↔ l.Spelled t) ∧
    (∀ m : MappingSetting, m.Printable → ∀ name pieces, Padded m.name name →
      List.Forall₂ Padded m.targets pieces →
      MappingSetting.read (name ++ '=' :: Text.join [','] pieces) = .ok m) ∧
    (∀ (w : WidthSetting) index min max, Padded (natText w.index.toNat) index →
      Padded (widthText w.minWidth) min → Padded (widthText w.maxWidth) max →
      WidthSetting.read (index ++ '=' :: (min ++ ':' :: max)) = .ok w) ∧
    (∀ (i : UInt64) index label, Padded (natText i.toNat) index →
      LabelSetting.read (index ++ '=' :: label) = .ok ⟨i, Text.trim label⟩) ∧
    (∀ index min max, '=' ∉ index → ':' ∉ min →
      (∃ bound ∈ [min, max], (¬∀ c ∈ bound, isBlank c) ∧ ∀ n < UInt32.size, ¬PadsNat n bound) →
      ∃ fault, WidthSetting.read (index ++ '=' :: (min ++ ':' :: max)) = .error fault) := by
  refine ⟨fun t m => MappingSetting.read_eq_ok_iff, fun t w => WidthSetting.read_eq_ok_iff,
    fun t l => LabelSetting.read_eq_ok_iff, fun m hm name pieces hname hpieces => ?_,
    fun w index min max hindex hmin hmax => ?_, fun i index label hindex => ?_,
    fun index min max hindex hmin hbad => ?_⟩
  · exact MappingSetting.read_eq_ok_iff.mpr (hm.spelled hname hpieces)
  · exact WidthSetting.read_eq_ok_iff.mpr ⟨index, min, max, rfl, .of_natText hindex,
      .of_widthText hmin, .of_widthText hmax⟩
  · have htrim := Text.padded_trim label
    exact LabelSetting.read_eq_ok_iff.mpr ⟨index, label, rfl, .of_natText hindex, htrim.2, htrim.1⟩
  · cases hread : WidthSetting.read (index ++ '=' :: (min ++ ':' :: max)) with
    | error fault => exact ⟨fault, rfl⟩
    | ok w =>
      obtain ⟨-, hlow, hhigh⟩ := (WidthSetting.read_append hindex hmin max).mp hread
      obtain ⟨bound, hbound, hblank, hnumber⟩ := hbad
      have hspells : ∃ width, SpellsWidth width bound := by
        rcases List.mem_pair.mp hbound with rfl | rfl
        · exact ⟨_, hlow⟩
        · exact ⟨_, hhigh⟩
      obtain ⟨_, hall | @⟨_, width, hpads⟩⟩ := hspells
      · exact absurd hall hblank
      · exact absurd hpads (hnumber _ width.toNat_lt_size)

/-- Signs within a target and a label, blanks of several kinds, a width that is left out, an index
behind a plus sign and with zeros in front, and one colon too many. -/
theorem option_values_with_signs_inside :
    let m : MappingSetting := ⟨"inset-x", ["left", "a=b:c"]⟩
    let w : WidthSetting := ⟨1, some 768, none⟩
    let l : LabelSetting := ⟨7, "dark"⟩
    m.Printable ∧ MappingSetting.read " inset-x\t= left,a=b:c " = .ok m ∧
      WidthSetting.read "1 =\u00A0768: " = .ok w ∧
      LabelSetting.read "2= a=b: c " = .ok ⟨2, "a=b: c"⟩ ∧
      l.Spelled "+007=dark" ∧ LabelSetting.read "+007=dark" = .ok l ∧
      ('=' ∉ ("1" : Text) ∧ ':' ∉ ("2" : Text) ∧ ∀ n < UInt32.size, ¬PadsNat n "3:4") ∧
      ∃ fault, WidthSetting.read "1=2:3:4" = .error fault := by
  intro m w l
  obtain ⟨-, -, hlabels, hmapping, hwidths, hlabel, hrefused⟩ := option_values_are_exact
  have hm : m.Printable := by decide
  have hname : Padded m.name " inset-x\t" :=
    Text.padded_of_isAllBlank " " "\t" (by decide) (by decide) (by decide)
  have hleft : Padded "left" " left" :=
    Text.padded_of_isAllBlank " " "" (by decide) (by decide) (by decide)
  have hsigns : Padded "a=b:c" "a=b:c " :=
    Text.padded_of_isAllBlank "" " " (by decide) (by decide) (by decide)
  have hindex : Padded (natText w.index.toNat) "1 " :=
    Text.padded_of_isAllBlank "" " " (by decide) (by decide) (by decide)
  have hmin : Padded (widthText w.minWidth) "\u00A0768" :=
    Text.padded_of_isAllBlank "\u00A0" "" (by decide) (by decide) (by decide)
  have hmax : Padded (widthText w.maxWidth) " " :=
    Text.padded_of_isAllBlank " " "" (by decide) (by decide) (by decide)
  have hdigits : ("007" : Text) ≠ [] ∧ ∀ c ∈ ("007" : Text), isDigit c :=
    ⟨by decide, List.all_eq_true.mp (by decide)⟩
  have hspelled : l.Spelled "+007=dark" :=
    ⟨"+007", "dark", rfl, ⟨"+007", .signed hdigits.1 hdigits.2, Text.padded_self _⟩, by decide,
      Text.padded_self _⟩
  have hcolon : ∀ n < UInt32.size, ¬PadsNat n "3:4" := fun n _ h =>
    h.not_mem (c := ':') (by decide) (by decide) (by decide) (by decide)
  refine ⟨hm, hmapping m hm _ _ hname (.cons hleft (.cons hsigns .nil)),
    hwidths w _ _ _ hindex hmin hmax, ?_, hspelled, (hlabels _ l).mpr hspelled,
    ⟨by decide, by decide, hcolon⟩, ?_⟩
  · exact hlabel 2 "2" " a=b: c " (Text.padded_self _)
  · have hblank : ¬∀ c ∈ ("3:4" : Text), isBlank c := mt Text.isAllBlank_iff.mpr (by decide)
    exact hrefused "1" "2" "3:4" (by decide) (by decide) ⟨"3:4", by simp, hblank, hcolon⟩

end DesignTokens
