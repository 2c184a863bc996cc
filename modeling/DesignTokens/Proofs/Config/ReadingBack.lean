import DesignTokens.Config.Writer
import DesignTokens.Proofs.Config.Pruning
import DesignTokens.Proofs.Json.Settings
import DesignTokens.Storage.Settings

/-!
Saved settings are read back. Settings are written as an object with a field for each of them, the
naming as an object within it and the variants of the files as a list of objects:

    { "mode": …, "naming": { "separator": …, … }, …, "files": [ { "minWidth": …, … }, … ] }

Reading gives the settings that were written, and when fields have been taken out of the document,
at the top, in the naming or in a variant, those settings have their defaults and all others are as
they were. One depth is the exception: a count of zero is read as one.
-/

namespace DesignTokens

namespace Setting

/-! ### Values -/

/-- A natural that fits is read as it was written. -/
theorem nat?_ofNat {bound n : Nat} (h : n < bound) : (ofJson (Json.ofNat n)).nat? bound = some n :=
  if_pos h

theorem count?_ofNat (n : UInt64) : (ofJson (Json.ofNat n.toNat)).count? = some n := by
  have hnat : (ofJson (Json.ofNat n.toNat)).nat? UInt64.size = some n.toNat := nat?_ofNat n.toNat_lt
  rw [count?, hnat, Option.map_some, UInt64.ofNat_toNat]

theorem width?_ofNat (n : UInt32) : (ofJson (Json.ofNat n.toNat)).width? = some n := by
  have hnat : (ofJson (Json.ofNat n.toNat)).nat? UInt32.size = some n.toNat := nat?_ofNat n.toNat_lt
  rw [width?, hnat, Option.map_some, UInt32.ofNat_toNat]

/-- An option is read as it was written if no value is written as null and each is read. -/
theorem nullable?_ofOption {α : Type} {write : α → Json} {read : Setting → Option α}
    (hnull : ∀ a, ofJson (write a) ≠ .null) (hread : ∀ a, read (ofJson (write a)) = some a)
    (value : Option α) : nullable? read (ofJson (Json.ofOption write value)) = some value := by
  cases value with
  | none => rfl
  | some a =>
    show nullable? read (ofJson (write a)) = _
    unfold nullable?
    split
    · next heq => exact absurd heq (hnull a)
    · rw [hread, Option.map_some]

/-! ### Fields -/

variable (gone : List Text → Bool) (key : Text)

theorem orElse_text (missing value : Text) :
    orElse missing text? (ofField gone (key, .string value)) =
      some (if gone [key] then missing else value) := by
  refine orElse_ofField ?_ missing
  rfl

theorem orElse_bool (missing value : Bool) :
    orElse missing bool? (ofField gone (key, .bool value)) =
      some (if gone [key] then missing else value) := by
  refine orElse_ofField ?_ missing
  rfl

theorem orElse_count (missing value : UInt64) :
    orElse missing count? (ofField gone (key, Json.ofNat value.toNat)) =
      some (if gone [key] then missing else value) :=
  orElse_ofField (count?_ofNat value) missing

theorem orElse_optionalText (missing value : Option Text) :
    orElse missing (nullable? text?) (ofField gone (key, Json.ofOption .string value)) =
      some (if gone [key] then missing else value) := by
  refine orElse_ofField ?_ missing
  have hkept : (Json.ofOption .string value).prune (below key gone) =
      Json.ofOption .string value := by
    cases value <;> rfl
  rw [hkept]
  exact nullable?_ofOption (fun _ => by simp [ofJson]) (fun _ => rfl) value

theorem orElse_optionalWidth (missing value : Option UInt32) :
    orElse missing (nullable? width?)
        (ofField gone (key, Json.ofOption (fun w : UInt32 => Json.ofNat w.toNat) value)) =
      some (if gone [key] then missing else value) := by
  refine orElse_ofField ?_ missing
  have hkept : (Json.ofOption (fun w : UInt32 => Json.ofNat w.toNat) value).prune (below key gone) =
      Json.ofOption (fun w : UInt32 => Json.ofNat w.toNat) value := by
    cases value <;> rfl
  rw [hkept]
  exact nullable?_ofOption (fun _ => by simp [Json.ofNat, ofJson, ofNumber]) width?_ofNat value

/-- A choice is read as it was written if its word is one of those that can be chosen. -/
theorem orElse_choice {α : Type} (format : SettingFormat) {words : List (Text × α)} {word : Text}
    {value : α} (h : words.lookup word = some value) (missing : α) :
    orElse missing (choice? format words) (ofField gone (key, .string word)) =
      some (if gone [key] then missing else value) :=
  orElse_ofField h missing

end Setting

/-- Every depth but a count of zero is read as it was written. -/
theorem Depth.ofSetting?_toJson {d : Depth} (h : d ≠ .last 0) :
    ofSetting? (Setting.ofJson d.toJson) = some d := by
  cases d with
  | all =>
    show read? word = some .all
    decide
  | last count =>
    have hne : count ≠ 0 := fun hzero => h (congrArg Depth.last hzero)
    show (Setting.count? (Setting.ofJson (Json.ofNat count.toNat))).map _ = _
    rw [Setting.count?_ofNat, Option.map_some, normalized, if_neg hne]

theorem OutputMode.lookup_word (m : OutputMode) : words.lookup m.word = some m := by
  cases m <;> rfl

theorem Responsive.lookup_word (r : Responsive) : words.lookup r.word = some r := by
  cases r <;> rfl

theorem TokenFormat.lookup_word (f : TokenFormat) : words.lookup f.word = some f := by
  cases f <;> rfl

/-! ### Structures -/

namespace Naming

/-- Naming in which the fields that were taken out have their defaults. -/
def reset (gone : List Text → Bool) (n : Naming) : Naming where
  separator := if gone ["separator"] then default.separator else n.separator
  lowercase := if gone ["lowercase"] then default.lowercase else n.lowercase
  replaceBlanks := if gone ["replaceWhitespace"] then default.replaceBlanks else n.replaceBlanks
  blankReplacement :=
    if gone ["whitespaceReplacement"] then default.blankReplacement else n.blankReplacement
  depth := if gone ["propertyPathDepth"] then default.depth else n.depth
  brand := if gone ["prefix"] then default.brand else n.brand
  useBrand := if gone ["usePrefix"] then default.useBrand else n.useBrand

theorem ofSetting?_prune {n : Naming} (h : n.depth ≠ .last 0) (gone : List Text → Bool) :
    ofSetting? Setting.documentFormat (Setting.ofJson (n.toJson.prune gone)) =
      some (n.reset gone) := by
  have hnames : fieldNames.Nodup := by decide
  have hfields := Setting.fields?_prune Setting.documentFormat hnames
    [.string n.separator, .bool n.lowercase, .bool n.replaceBlanks, .string n.blankReplacement,
      n.depth.toJson, Json.ofOption .string n.brand, .bool n.useBrand]
    rfl gone
  have hdepth : Setting.orElse default.depth Depth.ofSetting?
      (Setting.ofField gone ("propertyPathDepth", n.depth.toJson)) =
        some (if gone ["propertyPathDepth"] then default.depth else n.depth) := by
    refine Setting.orElse_ofField ?_ default.depth
    have hkept : n.depth.toJson.prune (below "propertyPathDepth" gone) = n.depth.toJson := by
      cases n.depth <;> rfl
    rw [hkept]
    exact Depth.ofSetting?_toJson h
  unfold ofSetting? toJson
  rw [hfields]
  show ((Setting.orElse default.separator Setting.text?
    (Setting.ofField gone ("separator", .string n.separator))).bind fun separator => _) = _
  simp only [Setting.orElse_text, Setting.orElse_bool, Setting.orElse_optionalText, hdepth,
    Option.bind_eq_bind, Option.bind_some]
  rfl

end Naming

namespace FileVariant

/-- A variant without the fields that were taken out. -/
def reset (gone : List Text → Bool) (v : FileVariant) : FileVariant where
  minWidth := if gone ["minWidth"] then none else v.minWidth
  maxWidth := if gone ["maxWidth"] then none else v.maxWidth
  label := if gone ["label"] then none else v.label

theorem ofSetting?_prune (v : FileVariant) (gone : List Text → Bool) :
    ofSetting? Setting.documentFormat (Setting.ofJson (v.toJson.prune gone)) =
      some (v.reset gone) := by
  have hnames : fieldNames.Nodup := by decide
  have hfields := Setting.fields?_prune Setting.documentFormat hnames
    [Json.ofOption (fun w : UInt32 => Json.ofNat w.toNat) v.minWidth,
      Json.ofOption (fun w : UInt32 => Json.ofNat w.toNat) v.maxWidth,
      Json.ofOption .string v.label]
    rfl gone
  unfold ofSetting? toJson
  rw [hfields]
  show ((Setting.orElse none (Setting.nullable? Setting.width?) (Setting.ofField gone
    ("minWidth", Json.ofOption _ v.minWidth))).bind fun minWidth => _) = _
  simp only [Setting.orElse_optionalWidth, Setting.orElse_optionalText, Option.bind_eq_bind,
    Option.bind_some]
  rfl

/-- Each variant of a list is found without the fields that were taken out of it. -/
theorem list?_prune (variants : List FileVariant) (gone : List Text → Bool) :
    Setting.list? (ofSetting? Setting.documentFormat)
        (Setting.ofJson ((Json.array (variants.map toJson)).prune gone)) =
      some (variants.zipIdx.map fun p => p.1.reset (below (natText p.2) gone)) := by
  have hitems : Setting.ofItems (Json.pruneItems gone 0 (variants.map toJson)) =
      variants.zipIdx.map fun p =>
        Setting.ofJson (p.1.toJson.prune (below (natText p.2) gone)) := by
    rw [Setting.ofItems_eq, Json.pruneItems_eq, List.zipIdx_map, List.map_map, List.map_map]
    rfl
  show (Setting.ofItems _).mapM _ = _
  rw [hitems, List.mapM_map]
  exact mapM_eq_some_map fun p _ => ofSetting?_prune p.1 (below (natText p.2) gone)

end FileVariant

namespace Config

/-- Settings in which the fields that were taken out have their defaults. -/
def reset (gone : List Text → Bool) (c : Config) : Config where
  mode := if gone ["mode"] then default.mode else c.mode
  naming := if gone ["naming"] then default.naming else c.naming.reset (below "naming" gone)
  decimals := if gone ["decimals"] then default.decimals else c.decimals
  useCodeSyntax := if gone ["useCodeSyntax"] then default.useCodeSyntax else c.useCodeSyntax
  tokenFormat := if gone ["tokenFormat"] then default.tokenFormat else c.tokenFormat
  responsive := if gone ["responsive"] then default.responsive else c.responsive
  pathSeparator := if gone ["pathSeparator"] then default.pathSeparator else c.pathSeparator
  sourceBrand := if gone ["sourcePrefix"] then default.sourceBrand else c.sourceBrand
  useSourceBrand :=
    if gone ["useSourcePrefix"] then default.useSourceBrand else c.useSourceBrand
  defaultFile := if gone ["defaultFile"] then default.defaultFile else c.defaultFile
  files :=
    if gone ["files"] then default.files
    else c.files.zipIdx.map fun p => p.1.reset (below (natText p.2) (below "files" gone))

/-- Settings without some of their fields are read with the defaults of these. -/
theorem ofSetting?_prune {c : Config} (h : c.naming.depth ≠ .last 0) (gone : List Text → Bool) :
    ofSetting? Setting.documentFormat (Setting.ofJson (c.toJson.prune gone)) =
      some (c.reset gone) := by
  have hnames : fieldNames.Nodup := by decide
  have hfields := Setting.fields?_prune Setting.documentFormat hnames
    [.string c.mode.word, c.naming.toJson, Json.ofNat c.decimals.toNat, .bool c.useCodeSyntax,
      .string c.tokenFormat.word, .string c.responsive.word, .string c.pathSeparator,
      Json.ofOption .string c.sourceBrand, .bool c.useSourceBrand,
      Json.ofNat c.defaultFile.toNat, .array (c.files.map FileVariant.toJson)]
    rfl gone
  have hnaming := Setting.orElse_ofField (Naming.ofSetting?_prune h (below "naming" gone))
    default.naming
  have hfiles := Setting.orElse_ofField (FileVariant.list?_prune c.files (below "files" gone))
    default.files
  unfold ofSetting? toJson
  rw [hfields]
  show ((Setting.orElse default.mode (Setting.choice? _ OutputMode.words)
    (Setting.ofField gone ("mode", .string c.mode.word))).bind fun mode => _) = _
  simp only [Setting.orElse_text, Setting.orElse_bool, Setting.orElse_count,
    Setting.orElse_optionalText, Setting.orElse_choice _ _ _ c.mode.lookup_word,
    Setting.orElse_choice _ _ _ c.tokenFormat.lookup_word,
    Setting.orElse_choice _ _ _ c.responsive.lookup_word, hnaming, hfiles, Option.bind_eq_bind,
    Option.bind_some]
  rfl

theorem reset_none (c : Config) : c.reset (fun _ => false) = c := by
  have hfiles : c.files.zipIdx.map (fun p => p.1.reset fun _ => false) =
      c.files.zipIdx.map Prod.fst := rfl
  rw [List.zipIdx_map_fst] at hfiles
  show { c with files := c.files.zipIdx.map fun p => p.1.reset fun _ => false } = c
  rw [hfiles]

end Config

/-! ### Texts -/

namespace Json

/-- Every number of the document is read back from its text. -/
def NumbersReadBack (j : Json) : Prop := ∀ n ∈ j.numbers, n.ReadsBack

theorem numbersReadBack_string (t : Text) : (string t).NumbersReadBack :=
  fun _ hn => absurd hn List.not_mem_nil

theorem numbersReadBack_bool (b : Bool) : (bool b).NumbersReadBack :=
  fun _ hn => absurd hn List.not_mem_nil

/-- A natural of sixty-four bits is read back. -/
theorem numbersReadBack_ofNat {n : Nat} (h : n < UInt64.size) : (ofNat n).NumbersReadBack := by
  intro m hm
  rw [List.mem_singleton.mp hm]
  refine JsonNumber.readsBack_integer ⟨?_, ?_⟩
  · show (-(Nat.pow 2 63 : Nat) : Int) ≤ n
    omega
  · exact_mod_cast h

theorem numbersReadBack_ofOption {α : Type} {write : α → Json}
    (h : ∀ a, (write a).NumbersReadBack) (value : Option α) :
    (ofOption write value).NumbersReadBack := by
  cases value with
  | none => exact fun _ hn => absurd hn List.not_mem_nil
  | some a => exact h a

/-- The numbers of a structure are those of its fields. -/
theorem numbersReadBack_zip (names : List Text) {values : List Json}
    (h : ∀ v ∈ values, v.NumbersReadBack) : (object (names.zip values)).NumbersReadBack := by
  intro n hn
  obtain ⟨p, hp, hn⟩ := mem_numbers_object.mp hn
  exact h p.2 (List.of_mem_zip hp).2 n hn

end Json

theorem Depth.numbersReadBack_toJson (d : Depth) : d.toJson.NumbersReadBack := by
  cases d with
  | all => exact Json.numbersReadBack_string word
  | last count => exact Json.numbersReadBack_ofNat count.toNat_lt

theorem Naming.numbersReadBack_toJson (n : Naming) : n.toJson.NumbersReadBack := by
  refine Json.numbersReadBack_zip fieldNames ?_
  simp only [List.forall_mem_cons, Json.numbersReadBack_string, Json.numbersReadBack_bool,
    Depth.numbersReadBack_toJson, Json.numbersReadBack_ofOption Json.numbersReadBack_string,
    List.not_mem_nil, false_implies, implies_true, and_self]

theorem FileVariant.numbersReadBack_toJson (v : FileVariant) : v.toJson.NumbersReadBack := by
  have hwidth : ∀ w : UInt32, (Json.ofNat w.toNat).NumbersReadBack := fun w =>
    Json.numbersReadBack_ofNat (Nat.lt_trans w.toNat_lt (by decide))
  refine Json.numbersReadBack_zip fieldNames ?_
  simp only [List.forall_mem_cons, Json.numbersReadBack_ofOption hwidth,
    Json.numbersReadBack_ofOption Json.numbersReadBack_string, List.not_mem_nil, false_implies,
    implies_true, and_self]

namespace Config

theorem numbersReadBack_toJson (c : Config) : c.toJson.NumbersReadBack := by
  have hfiles : (Json.array (c.files.map FileVariant.toJson)).NumbersReadBack := by
    intro n hn
    obtain ⟨item, hitem, hn⟩ := Json.mem_numbers_array.mp hn
    obtain ⟨v, -, rfl⟩ := List.mem_map.mp hitem
    exact v.numbersReadBack_toJson n hn
  refine Json.numbersReadBack_zip fieldNames ?_
  simp only [List.forall_mem_cons, Json.numbersReadBack_string, Json.numbersReadBack_bool,
    Json.numbersReadBack_ofNat c.decimals.toNat_lt,
    Json.numbersReadBack_ofNat c.defaultFile.toNat_lt, Naming.numbersReadBack_toJson,
    Json.numbersReadBack_ofOption Json.numbersReadBack_string, hfiles, List.not_mem_nil,
    false_implies, implies_true, and_self]

/-- The settings are read from the document: from its tree, and from its text in one line or over
several. -/
structure ReadFrom (c : Config) (j : Json) : Prop where
  tree : ofSetting? Setting.documentFormat (Setting.ofJson j) = some c
  compact : ofDocument? j.compact = some c
  pretty : ofDocument? j.pretty = some c

theorem readFrom_of_tree {c : Config} {j : Json} (hnumbers : j.NumbersReadBack)
    (h : ofSetting? Setting.documentFormat (Setting.ofJson j) = some c) : c.ReadFrom j where
  tree := h
  compact := by rw [ofDocument?, Setting.ofText?_compact hnumbers, Option.bind_some, h]
  pretty := by rw [ofDocument?, Setting.ofText?_pretty hnumbers, Option.bind_some, h]

/-- Settings whose depth is no count of zero are read back from the document that they are written
as; and when any fields have been taken out of it, what is read has the defaults of these and all
other settings as they were. -/
theorem settings_read_back {c : Config} (h : c.naming.depth ≠ .last 0) :
    c.ReadFrom c.toJson ∧ ∀ gone, (c.reset gone).ReadFrom (c.toJson.prune gone) := by
  have hpruned : ∀ gone, (c.reset gone).ReadFrom (c.toJson.prune gone) := fun gone =>
    readFrom_of_tree
      (fun n hn => c.numbersReadBack_toJson n (Json.mem_numbers_of_mem_prune hn))
      (ofSetting?_prune h gone)
  have hwhole := hpruned fun _ => false
  rw [reset_none, Json.prune_none] at hwhole
  exact ⟨hwhole, hpruned⟩

/-- A choice, the brand of the naming and the label of the first of two variants are missing. -/
theorem settings_read_back_without_three :
    let c : Config := { default with
      mode := .references
      naming := { Naming.default with separator := "_", depth := .last 3, brand := none }
      decimals := 2
      files := [⟨some 1440, none, some "wide"⟩, ⟨none, some 767, some "narrow"⟩] }
    let gone : List Text → Bool := fun path =>
      path ∈ ([["mode"], ["naming", "prefix"], ["files", "0", "label"]] : List (List Text))
    c.naming.depth ≠ .last 0 ∧ c.ReadFrom c.toJson ∧
      ReadFrom { c with
        mode := .classes
        naming := { c.naming with brand := some "tgds" }
        files := [⟨some 1440, none, none⟩, ⟨none, some 767, some "narrow"⟩] }
        (c.toJson.prune gone) := by
  intro c gone
  have hdepth : c.naming.depth ≠ .last 0 := by decide
  obtain ⟨hwhole, hpruned⟩ := settings_read_back hdepth
  refine ⟨hdepth, hwhole, ?_⟩
  have hreset : c.reset gone = { c with
      mode := .classes
      naming := { c.naming with brand := some "tgds" }
      files := [⟨some 1440, none, none⟩, ⟨none, some 767, some "narrow"⟩] } := by
    decide
  exact hreset ▸ hpruned gone

end Config

end DesignTokens
