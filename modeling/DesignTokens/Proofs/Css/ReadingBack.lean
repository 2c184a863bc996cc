import DesignTokens.Css.ClassBlock
import DesignTokens.Proofs.Css.Captures

/-!
Class rules as the scanner sees them. A rule that is written for a class is one rule to the scanner,
and each of its lines is one declaration: what stands around the names and values holds no brace, no
semicolon and no character of names that could be taken for more.

    ⟨indent⟩.class {\n ⟨indent⟩  name: value;\n … ⟨indent⟩}\n
    └── selector ───┘└─────────────── body ───────────────┘

So the scanner finds in the sheet the properties of each class, class by class
(`declaredNames_ruleBodies_write`), and reports those of them that nothing is known of. The same is
what the patterns of rules and declarations make of the sheet.
-/

namespace DesignTokens

namespace ClassBlock

/-- The sheet of the block is told apart by its braces and semicolons: the names of classes and the
values hold no braces, the values no semicolons either, and properties are named by names. -/
structure Scannable (block : ClassBlock) : Prop where
  classes : ∀ entry ∈ block, entry.1.Braceless
  names : ∀ entry ∈ block, ∀ d ∈ entry.2, IsPropertyName d.1
  values : ∀ entry ∈ block, ∀ d ∈ entry.2, ';' ∉ d.2 ∧ d.2.Braceless

/-- The properties of all classes, class by class. -/
def properties (block : ClassBlock) : List Text := block.flatMap fun entry => Assoc.keys entry.2

/-- What stands between the braces of the rule of a class. -/
def body (indent : Text) (declarations : Declarations) : Text :=
  '\n' :: (declarations.flatMap (line indent) ++ indent)

variable {indent : Text}

/-! ### Lines -/

theorem line_append (d : Text × Text) (rest : Text) :
    line indent d ++ rest = (indent ++ [' ', ' ']) ++
      (d.1 ++ ([] ++ ':' :: ((' ' :: d.2) ++ ';' :: ('\n' :: rest)))) := by
  rw [line]
  simp only [List.append_assoc]
  rfl

theorem blank_margin (hindent : ∀ c ∈ indent, isBlank c) :
    ∀ c ∈ indent ++ [' ', ' '], isBlank c :=
  List.forall_mem_append.mpr ⟨hindent, List.all_eq_true.mp (by decide)⟩

/-- A line is the declaration of its property, whatever follows. -/
theorem declaredNames_line (hindent : ∀ c ∈ indent, isBlank c) {d : Text × Text}
    (hname : IsPropertyName d.1) (hvalue : ';' ∉ d.2) (rest : Text) :
    declaredNames (line indent d ++ rest) = d.1 :: declaredNames rest := by
  have hmargin : ∀ c ∈ indent ++ [' ', ' '], isNameChar c = false := fun c hc =>
    isNameChar_of_isBlank (blank_margin hindent c hc)
  have hspaced : ';' ∉ ' ' :: d.2 := List.not_mem_cons_of_ne_of_not_mem (by decide) hvalue
  rw [line_append, declaredNames_append hmargin,
    declaredNames_declaration hname (List.forall_mem_nil _) (List.cons_ne_nil _ _) hspaced,
    declaredNames_cons (by decide)]

theorem declaredNames_lines (hindent : ∀ c ∈ indent, isBlank c) {ds : Declarations}
    (hnames : ∀ d ∈ ds, IsPropertyName d.1) (hvalues : ∀ d ∈ ds, ';' ∉ d.2) (rest : Text) :
    declaredNames (ds.flatMap (line indent) ++ rest) = Assoc.keys ds ++ declaredNames rest := by
  induction ds with
  | nil => rfl
  | cons d ds ih =>
    obtain ⟨hname, hnames⟩ := List.forall_mem_cons.mp hnames
    obtain ⟨hvalue, hvalues⟩ := List.forall_mem_cons.mp hvalues
    rw [List.flatMap_cons, List.append_assoc, declaredNames_line hindent hname hvalue,
      ih hnames hvalues]
    rfl

/-- The body of a class declares its properties. -/
theorem declaredNames_body (hindent : ∀ c ∈ indent, isBlank c) {ds : Declarations}
    (hnames : ∀ d ∈ ds, IsPropertyName d.1) (hvalues : ∀ d ∈ ds, ';' ∉ d.2) :
    declaredNames (body indent ds) = Assoc.keys ds := by
  have hnone : ∀ c ∈ indent, isNameChar c = false := fun c hc =>
    isNameChar_of_isBlank (hindent c hc)
  have htail : declaredNames indent = [] := by
    rw [← List.append_nil indent, declaredNames_append hnone]
    rfl
  rw [body, declaredNames_cons (by decide), declaredNames_lines hindent hnames hvalues, htail,
    List.append_nil]

/-! ### Rules -/

theorem braceless_line (hindent : ∀ c ∈ indent, isBlank c) {d : Text × Text}
    (hname : IsPropertyName d.1) (hvalue : d.2.Braceless) : (line indent d).Braceless := by
  have hmargin : indent.Braceless := fun c hc => isBrace_of_isBlank (hindent c hc)
  have hname : d.1.Braceless := fun c hc => isBrace_of_isNameChar (hname.nameChars c hc)
  have hstep : Text.Braceless "  " := by decide
  have hcolon : Text.Braceless ": " := by decide
  have hend : Text.Braceless ";\n" := by decide
  rw [line]
  simp only [Text.braceless_append]
  exact ⟨⟨⟨⟨⟨hmargin, hstep⟩, hname⟩, hcolon⟩, hvalue⟩, hend⟩

theorem braceless_body (hindent : ∀ c ∈ indent, isBlank c) {ds : Declarations}
    (hnames : ∀ d ∈ ds, IsPropertyName d.1) (hvalues : ∀ d ∈ ds, d.2.Braceless) :
    (body indent ds).Braceless := by
  refine List.forall_mem_cons.mpr ⟨by decide, Text.braceless_append.mpr ⟨?_, ?_⟩⟩
  · intro c hc
    obtain ⟨d, hd, hline⟩ := List.mem_flatMap.mp hc
    exact braceless_line hindent (hnames d hd) (hvalues d hd) c hline
  · exact fun c hc => isBrace_of_isBlank (hindent c hc)

theorem rule_append (entry : Text × Declarations) (rest : Text) :
    rule indent entry ++ rest =
      (indent ++ '.' :: (entry.1 ++ [' '])) ++
        '{' :: (body indent entry.2 ++ '}' :: ('\n' :: rest)) := by
  rw [rule, body]
  simp only [List.append_assoc, List.cons_append]
  rfl

/-- The rule of a class is one rule to the scanner, whatever follows. -/
theorem bodiesFrom_classRule (hindent : ∀ c ∈ indent, isBlank c) {entry : Text × Declarations}
    (hclass : entry.1.Braceless) (hnames : ∀ d ∈ entry.2, IsPropertyName d.1)
    (hvalues : ∀ d ∈ entry.2, d.2.Braceless) (run : Bool) (rest : Text) :
    bodiesFrom run none (rule indent entry ++ rest) =
      Text.trimStart (body indent entry.2) :: bodiesFrom true none rest := by
  have hmargin : indent.Braceless := fun c hc => isBrace_of_isBlank (hindent c hc)
  have hselector : (indent ++ '.' :: (entry.1 ++ [' '])).Braceless :=
    Text.braceless_append.mpr ⟨hmargin, List.forall_mem_cons.mpr
      ⟨by decide, Text.braceless_append.mpr ⟨hclass, by decide⟩⟩⟩
  rw [rule_append, bodiesFrom_rule (by simp) hselector (braceless_body hindent hnames hvalues),
    bodiesFrom_cons (by decide)]
  rfl

theorem Scannable.of_cons {entry : Text × Declarations} {block : ClassBlock}
    (h : Scannable (entry :: block)) : Scannable block :=
  ⟨fun e he => h.classes e (List.mem_cons_of_mem _ he),
    fun e he => h.names e (List.mem_cons_of_mem _ he),
    fun e he => h.values e (List.mem_cons_of_mem _ he)⟩

/-- The rules of a sheet are the rules of the classes. -/
theorem bodiesFrom_write (hindent : ∀ c ∈ indent, isBlank c) {block : ClassBlock}
    (h : block.Scannable) (run : Bool) :
    bodiesFrom run none (write indent block) =
      block.map fun entry => Text.trimStart (body indent entry.2) := by
  induction block generalizing run with
  | nil => rfl
  | cons entry block ih =>
    have hrule := bodiesFrom_classRule hindent (h.classes entry List.mem_cons_self)
      (h.names entry List.mem_cons_self) fun d hd => (h.values entry List.mem_cons_self d hd).2
    cases block with
    | nil =>
      have hwrite : write indent [entry] = rule indent entry ++ [] := by simp [write, Text.join]
      rw [hwrite, hrule, bodiesFrom]
      rfl
    | cons next block =>
      have hwrite : write indent (entry :: next :: block) =
          rule indent entry ++ '\n' :: write indent (next :: block) := by
        simp [write, Text.join]
      rw [hwrite, hrule, bodiesFrom_cons (by decide)]
      exact congrArg (_ :: ·) (ih h.of_cons true)

/-- In the sheet of a block, the scanner finds the properties of each class. -/
theorem declaredNames_ruleBodies_write (hindent : ∀ c ∈ indent, isBlank c) {block : ClassBlock}
    (h : block.Scannable) :
    (ruleBodies (write indent block)).map declaredNames =
      block.map fun entry => Assoc.keys entry.2 := by
  rw [ruleBodies, bodiesFrom_write hindent h, List.map_map]
  refine List.map_congr_left fun entry hentry => ?_
  rw [Function.comp_apply, declaredNames_trimStart]
  exact declaredNames_body hindent (h.names entry hentry) fun d hd =>
    (h.values entry hentry d hd).1

/-- What the scanner reports of the sheet of a block, and what its patterns make of the sheet, are
the properties of the block that nothing is known of, each once and in the order in which they first
occur. -/
theorem scan_reads_back (keywords : KeywordSet) (mappings : List Mapping)
    (hindent : ∀ c ∈ indent, isBlank c) {block : ClassBlock} (h : block.Scannable) :
    let unknown := (block.properties.filter fun name => Unlisted keywords mappings name).eraseDups
    detectCustom keywords mappings (write indent block) = unknown ∧
      ∀ reported, Detects keywords mappings (write indent block) reported ↔ reported = unknown := by
  intro unknown
  have hnames : (ruleBodies (write indent block)).flatMap declaredNames = block.properties := by
    rw [List.flatMap_def, declaredNames_ruleBodies_write hindent h]
    rfl
  have hdetected : detectCustom keywords mappings (write indent block) = unknown := by
    rw [detectCustom_eq, hnames]
  exact ⟨hdetected, fun reported => by rw [detects_iff, hdetected]⟩

/-- Values with colons, line breaks or nothing in them, a class without declarations, a property
that comes back, and one that is registered in small letters only. -/
theorem scan_reads_back_three_classes :
    let keywords := KeywordSet.ofNames ["color"]
    let mappings := [Mapping.of "inset-x" ["left", "right"] none]
    let indent : Text := "\t "
    let block : ClassBlock :=
      [("card", [("elevation", "a: b\nc:d"), ("COLOR", "red"), ("--brand", "")]), ("empty", []),
        ("chip, .über", [("inset-x", "4px"), ("Inset-X", ":"), ("elevation", "2")])]
    (∀ c ∈ indent, isBlank c) ∧ block.Scannable ∧
      detectCustom keywords mappings (write indent block) = [("elevation" : Text), "Inset-X"] ∧
      Detects keywords mappings (write indent block) ["elevation", "Inset-X"] := by
  intro keywords mappings indent block
  have hindent : ∀ c ∈ indent, isBlank c := List.all_eq_true.mp (by decide)
  have hblock : block.Scannable := ⟨by decide, by decide, by decide⟩
  have hunknown : (block.properties.filter fun name => Unlisted keywords mappings name).eraseDups =
      [("elevation" : Text), "Inset-X"] := by decide
  obtain ⟨hdetected, hdetects⟩ := scan_reads_back keywords mappings hindent hblock
  exact ⟨hindent, hblock, hdetected.trans hunknown, (hdetects _).mpr hunknown.symm⟩

end ClassBlock

end DesignTokens
