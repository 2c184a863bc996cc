import DesignTokens.Css.ClassBlock
import DesignTokens.Proofs.Css.Expansion
import DesignTokens.Proofs.Css.Replacing

/-!
Expansion of class rules. The rules that are written for classes stand out for expansion: each
declaration has a line of its own, so none of a mapped name is missed, and the selectors hold no
colons. A pass for a name leaves the lines where they are, and only replaces what stands in them:

    ␣␣gap-x: 1px;⏎   ──▶   ␣␣column-gap: 1px; row-gap: 1px;⏎

So while the passes go on, every line declares one value for a list of names, in which a pass puts
the targets in the place of its name (`expandMapping_writeWith`). As no target is mapped, all passes
together leave the targets of each mapped name (`expanded_rules`).
-/

namespace DesignTokens

/-! ### Joined pieces -/

/-- A separator between neighbours and one in front are one in front of every piece. -/
theorem Text.append_join (sep : Text) : ∀ {pieces : List Text}, pieces ≠ [] →
    sep ++ join sep pieces = pieces.flatMap (sep ++ ·)
  | [], hne => absurd rfl hne
  | [p], _ => by rw [List.flatMap_singleton, join]
  | p :: q :: rest, _ => by
    rw [List.flatMap_cons, ← append_join sep (List.cons_ne_nil q rest), join_cons_cons]
    simp only [List.append_assoc]

/-- What ends every piece is part of the separator, but for the last piece. -/
theorem Text.join_map_append (sep stop : Text) : ∀ {pieces : List Text}, pieces ≠ [] →
    join sep (pieces.map (· ++ stop)) = join (stop ++ sep) pieces ++ stop
  | [], hne => absurd rfl hne
  | [_], _ => rfl
  | p :: q :: rest, _ => by
    have hrest := join_map_append sep stop (List.cons_ne_nil q rest)
    rw [List.map_cons] at hrest
    rw [List.map_cons, List.map_cons, join_cons_cons, hrest, join_cons_cons]
    simp only [List.append_assoc]

/-! ### The names in a line -/

/-- What a name becomes: the targets of the mapping of that name, if it is mapped. -/
def namesFor (mappings : List Mapping) (name : Text) : List Text :=
  match mappingFor? mappings name with
  | some m => m.targets
  | none => [name]

section Names

variable {m : Mapping} {mappings : List Mapping} {name : Text}

theorem namesFor_of_some (h : mappingFor? mappings name = some m) :
    namesFor mappings name = m.targets := by
  rw [namesFor, h]

theorem namesFor_of_none (h : mappingFor? mappings name = none) :
    namesFor mappings name = [name] := by
  rw [namesFor, h]

theorem namesFor_singleton (hm : m.isMapped) (name : Text) :
    namesFor [m] name = if name = m.name then m.targets else [name] := by
  have hfor := mappingFor?_singleton hm name
  split
  · next hname => exact namesFor_of_some (hfor.trans (if_pos hname))
  · next hname => exact namesFor_of_none (hfor.trans (if_neg hname))

theorem namesFor_of_unmapped (hm : m.isMapped = false) (mappings : List Mapping) :
    namesFor (m :: mappings) = namesFor mappings := by
  funext name
  rw [namesFor, namesFor, mappingFor?_of_unmapped hm]

/-- Later passes leave the targets of an earlier one. -/
theorem namesFor_cons (hm : m.isMapped)
    (htargets : ∀ t ∈ m.targets, mappingFor? mappings t = none) (name : Text) :
    (namesFor [m] name).flatMap (namesFor mappings) = namesFor (m :: mappings) name := by
  rw [namesFor_singleton hm, namesFor, mappingFor?_cons hm]
  split
  · calc m.targets.flatMap (namesFor mappings)
        = m.targets.flatMap fun t => [t] :=
          List.flatMap_congr fun t ht => namesFor_of_none (htargets t ht)
      _ = m.targets := List.flatMap_singleton' m.targets
  · rw [List.flatMap_singleton, namesFor]

theorem namesFor_ne_nil (mappings : List Mapping) (name : Text) : namesFor mappings name ≠ [] := by
  cases hfor : mappingFor? mappings name with
  | none =>
    rw [namesFor_of_none hfor]
    exact List.cons_ne_nil name []
  | some m =>
    rw [namesFor_of_some hfor]
    exact Mapping.targets_ne_nil (isMapped_of_mappingFor? hfor)

theorem flatMap_namesFor_ne_nil (mappings : List Mapping) {names : List Text} (hne : names ≠ []) :
    names.flatMap (namesFor mappings) ≠ [] := by
  obtain ⟨name, hname⟩ := List.exists_mem_of_ne_nil names hne
  intro hnone
  exact namesFor_ne_nil mappings name (List.flatMap_eq_nil_iff.mp hnone name hname)

theorem Mapping.NamesProperties.namesFor (hm : m.NamesProperties) (hmapped : m.isMapped)
    (hname : IsPropertyName name) : ∀ k ∈ namesFor [m] name, IsPropertyName k := by
  rw [namesFor_singleton hmapped]
  split
  · exact hm.targets
  · exact List.forall_mem_singleton.mpr hname

theorem Expandable.perm {others : List Mapping} (hms : Expandable mappings)
    (h : others.Perm mappings) : Expandable others :=
  ⟨fun k hk => hms.names k (h.mem_iff.mp hk), fun k hk hmapped t ht j hj =>
    hms.targets k (h.mem_iff.mp hk) hmapped t ht j (h.mem_iff.mp hj)⟩

end Names

namespace ClassBlock

/-! ### Lines with several names -/

/-- A line that declares a value for names, one after the other. -/
def lineOf (indent : Text) (names : List Text) (value : Text) : Text :=
  indent ++ "  " ++ Text.join " " (names.map fun name => name ++ ": " ++ value ++ ";") ++ "\n"

/-- The line of a declaration, with the targets in the place of a mapped name. -/
def expandedLine (mappings : List Mapping) (indent : Text) (d : Text × Text) : Text :=
  match mappingFor? mappings d.1 with
  | some m => lineOf indent m.targets d.2
  | none => line indent d

/-- The rule of a class, its lines printed in this way. -/
def ruleWith (print : Text × Text → Text) (indent : Text) (entry : Text × Declarations) : Text :=
  indent ++ "." ++ entry.1 ++ " \x7b\n" ++ entry.2.flatMap print ++ indent ++ "\x7d\n"

/-- The rules of all classes, their lines printed in this way. -/
def writeWith (print : Text × Text → Text) (indent : Text) (block : ClassBlock) : Text :=
  Text.join "\n" (block.map (ruleWith print indent))

theorem write_eq (indent : Text) (block : ClassBlock) :
    write indent block = writeWith (line indent) indent block := rfl

/-- The sheet of the block is told apart by its braces, semicolons and colons, properties are named
by names, and no blank stands at the ends of values. -/
structure Legible (block : ClassBlock) : Prop where
  classes : ∀ entry ∈ block, entry.1.Plain
  names : ∀ entry ∈ block, ∀ d ∈ entry.2, IsPropertyName d.1
  values : ∀ entry ∈ block, ∀ d ∈ entry.2, d.2.Plain ∧ d.2.Trimmed

theorem Legible.of_cons {entry : Text × Declarations} {block : ClassBlock}
    (h : Legible (entry :: block)) : Legible block :=
  ⟨fun e he => h.classes e (List.mem_cons_of_mem _ he),
    fun e he => h.names e (List.mem_cons_of_mem _ he),
    fun e he => h.values e (List.mem_cons_of_mem _ he)⟩

/-- A declaration in a line, and the blank in front of it. -/
def item (value name : Text) : Text := ' ' :: (name ++ ": " ++ value ++ ";")

/-- What the names of a line are that was written for one. -/
def spelled (names : Text → List Text) (indent : Text) (d : Text × Text) : Text :=
  lineOf indent (names d.1) d.2

variable {m : Mapping} {mappings : List Mapping} {names : Text → List Text}
  {indent value rest : Text}

theorem line_eq (indent : Text) : line indent = spelled (fun name => [name]) indent := by
  funext d
  simp [spelled, lineOf, line, Text.join]

theorem expandedLine_eq (mappings : List Mapping) (indent : Text) :
    expandedLine mappings indent = spelled (namesFor mappings) indent := by
  funext d
  rw [expandedLine, spelled, namesFor]
  split
  · rfl
  · rw [line_eq]
    rfl

theorem item_append (value name rest : Text) :
    item value name ++ rest = ' ' :: (name ++ ([] ++ ':' :: ((' ' :: value) ++ ';' :: rest))) := by
  simp [item]

/-- A line is its items, between what comes first and last. -/
theorem lineOf_append {names : List Text} (hne : names ≠ []) (rest : Text) :
    lineOf indent names value ++ rest =
      (indent ++ [' ']) ++ (names.flatMap (item value) ++ '\n' :: rest) := by
  have hpieces : names.map (fun name => name ++ ": " ++ value ++ ";") ≠ [] := by simpa using hne
  have hitems : " " ++ Text.join " " (names.map fun name => name ++ ": " ++ value ++ ";") =
      names.flatMap (item value) := by
    rw [Text.append_join " " hpieces, List.flatMap_map]
    rfl
  rw [← hitems, lineOf]
  simp only [List.append_assoc]
  rfl

/-- What a declaration is spread to are items, but for the first blank. -/
theorem cons_spreadValue (value : Text) {targets : List Text} (hne : targets ≠ []) :
    ' ' :: spreadValue targets value ';' = targets.flatMap (item value) := by
  have hpieces : targets.map (fun target => target ++ ": " ++ value) ≠ [] := by simpa using hne
  have hends : (targets.map fun target => target ++ ": " ++ value).map (· ++ [';']) ≠ [] := by
    simpa using hne
  calc ' ' :: spreadValue targets value ';'
      = " " ++ Text.join " "
          ((targets.map fun target => target ++ ": " ++ value).map (· ++ [';'])) := by
        rw [Text.join_map_append " " [';'] hpieces]
        rfl
    _ = targets.flatMap (item value) := by
        rw [Text.append_join " " hends, List.map_map, List.flatMap_map]
        rfl

theorem ruleWith_append (print : Text × Text → Text) (indent : Text)
    (entry : Text × Declarations) (rest : Text) :
    ruleWith print indent entry ++ rest =
      (indent ++ '.' :: (entry.1 ++ [' '])) ++
        '{' :: '\n' :: (entry.2.flatMap print ++ (indent ++ '}' :: '\n' :: rest)) := by
  rw [ruleWith]
  simp only [List.append_assoc, List.cons_append]
  rfl

theorem writeWith_singleton (print : Text × Text → Text) (indent : Text)
    (entry : Text × Declarations) :
    writeWith print indent [entry] = ruleWith print indent entry ++ [] := by
  simp [writeWith, Text.join]

theorem writeWith_cons_cons (print : Text × Text → Text) (indent : Text)
    (entry next : Text × Declarations) (block : ClassBlock) :
    writeWith print indent (entry :: next :: block) =
      ruleWith print indent entry ++ '\n' :: writeWith print indent (next :: block) := by
  simp [writeWith, Text.join]

/-! ### Where no name begins -/

theorem stop_items {names : List Text} (hrest : ∀ c ∈ rest.head?, isNameChar c = false) :
    ∀ c ∈ (names.flatMap (item value) ++ rest).head?, isNameChar c = false := by
  cases names with
  | nil => exact hrest
  | cons name names =>
    rw [List.flatMap_cons, List.append_assoc, item_append]
    exact stop_cons (by decide) _

section Margins

variable (hindent : ∀ c ∈ indent, isBlank c)

include hindent

theorem stop_lines (names : Text → List Text) (ds : Declarations)
    (hrest : ∀ c ∈ rest.head?, isNameChar c = false) :
    ∀ c ∈ (ds.flatMap (spelled names indent) ++ rest).head?, isNameChar c = false := by
  cases ds with
  | nil => exact hrest
  | cons d ds =>
    rw [List.flatMap_cons, spelled, lineOf]
    simp only [List.append_assoc]
    exact stop_blanks hindent (stop_cons (by decide) _)

theorem stop_ruleWith (print : Text × Text → Text) (entry : Text × Declarations) (rest : Text) :
    ∀ c ∈ (ruleWith print indent entry ++ rest).head?, isNameChar c = false := by
  rw [ruleWith_append, List.append_assoc]
  exact stop_blanks hindent (stop_cons (by decide) _)

theorem stop_writeWith (print : Text × Text → Text) (block : ClassBlock) :
    ∀ c ∈ (writeWith print indent block).head?, isNameChar c = false := by
  cases block with
  | nil => exact nofun
  | cons entry block =>
    cases block with
    | nil =>
      rw [writeWith_singleton]
      exact stop_ruleWith hindent print entry []
    | cons next block =>
      rw [writeWith_cons_cons]
      exact stop_ruleWith hindent print entry _

end Margins

/-! ### One pass -/

/-- What stands for a name in its line: names of properties, and not none. -/
structure Renames (names : Text → List Text) : Prop where
  nonempty : ∀ k, names k ≠ []
  properties : ∀ k, IsPropertyName k → ∀ name ∈ names k, IsPropertyName name

theorem renames_singleton : Renames fun k => [k] :=
  ⟨fun k => List.cons_ne_nil k [], fun _ => List.forall_mem_singleton.mpr⟩

section Pass

variable (hm : m.NamesProperties) (hmapped : m.isMapped)

include hm hmapped

theorem Renames.pass (h : Renames names) : Renames fun k => (names k).flatMap (namesFor [m]) where
  nonempty := fun k => flatMap_namesFor_ne_nil [m] (h.nonempty k)
  properties := fun k hk later hlater => by
    obtain ⟨name, hname, hlater⟩ := List.mem_flatMap.mp hlater
    exact hm.namesFor hmapped (h.properties k hk name hname) later hlater

/-- A pass puts the targets in the place of its name. -/
theorem expandRest_item {name : Text} (hname : IsPropertyName name)
    (hvalue : value.Plain ∧ value.Trimmed) (hrest : ∀ c ∈ rest.head?, isNameChar c = false) :
    expandRest m (item value name ++ rest) =
      (namesFor [m] name).flatMap (item value) ++ expandRest m rest := by
  have hblank : ∀ c ∈ [' '], isBlank c := List.forall_mem_singleton.mpr rfl
  have hcolon : ':' ∉ ' ' :: value :=
    List.not_mem_cons_of_ne_of_not_mem (by decide) hvalue.1.no_colon
  rw [item_append, namesFor_singleton hmapped]
  split
  · next hown =>
    have hinside : ∀ c ∈ ' ' :: value, inValue c :=
      List.forall_mem_cons.mpr ⟨by decide, fun c hc => inValue_of_isPlain (hvalue.1 c hc)⟩
    have htrim : Text.trim (' ' :: value) = value :=
      (Text.trim_blank_append hblank value).trans hvalue.2.trim_eq
    have hread : readDeclaration? m.name
        (name ++ ([] ++ ':' :: ((' ' :: value) ++ ';' :: rest))) = some (value, ';', rest) :=
      readDeclaration?_eq_some_iff.mpr ⟨[], ' ' :: value, by rw [hown], List.forall_mem_nil _,
        List.cons_ne_nil _ _, hinside, by decide, htrim.symm⟩
    rw [expandRest_found (by decide) hread, ← List.cons_append,
      cons_spreadValue value (Mapping.targets_ne_nil hmapped)]
  · next hother =>
    have hsemicolon : readDeclaration? m.name rest = none := readDeclaration?_of_stop hm.name hrest
    rw [expandRest_skip
        (.inr (readDeclaration?_other hm.name hname hother (List.forall_mem_nil _) _)),
      expandRest_declaration hm.name hname.nameChars (List.forall_mem_nil _) hcolon
        (divides_of_inValue (by decide)), expandRest_skip (.inr hsemicolon),
      List.flatMap_singleton, item_append]

theorem expandRest_items {names : List Text} (hnames : ∀ name ∈ names, IsPropertyName name)
    (hvalue : value.Plain ∧ value.Trimmed) (hrest : ∀ c ∈ rest.head?, isNameChar c = false) :
    expandRest m (names.flatMap (item value) ++ rest) =
      (names.flatMap (namesFor [m])).flatMap (item value) ++ expandRest m rest := by
  induction names with
  | nil => rfl
  | cons name names ih =>
    obtain ⟨hname, hnames⟩ := List.forall_mem_cons.mp hnames
    rw [List.flatMap_cons, List.flatMap_cons, List.flatMap_append, List.append_assoc,
      List.append_assoc, expandRest_item hm hmapped hname hvalue (stop_items hrest), ih hnames]

variable (hindent : ∀ c ∈ indent, isBlank c)

include hindent

/-- A pass leaves a line where it is. -/
theorem expandRest_lineOf {names : List Text} (hne : names ≠ [])
    (hnames : ∀ name ∈ names, IsPropertyName name) (hvalue : value.Plain ∧ value.Trimmed)
    (hrest : ∀ c ∈ rest.head?, isNameChar c = false) :
    expandRest m (lineOf indent names value ++ rest) =
      lineOf indent (names.flatMap (namesFor [m])) value ++ expandRest m rest := by
  have hblank : ∀ c ∈ indent ++ [' '], isBlank c :=
    List.forall_mem_append.mpr ⟨hindent, List.forall_mem_singleton.mpr rfl⟩
  have hmargin : ∀ c ∈ indent ++ [' '], isNameChar c = false := fun c hc =>
    isNameChar_of_isBlank (hblank c hc)
  have hend : ∀ c ∈ ('\n' :: rest).head?, isNameChar c = false := stop_cons (by decide) rest
  rw [lineOf_append hne, lineOf_append (flatMap_namesFor_ne_nil [m] hne),
    expandRest_front hm.name hmargin (readDeclaration?_of_stop hm.name (stop_items hend)),
    expandRest_items hm hmapped hnames hvalue hend,
    expandRest_skip (.inr (readDeclaration?_of_stop hm.name hrest))]

variable (hnames : Renames names)

include hnames

theorem expandRest_lines {ds : Declarations} (hds : ∀ d ∈ ds, IsPropertyName d.1)
    (hvalues : ∀ d ∈ ds, d.2.Plain ∧ d.2.Trimmed)
    (hrest : ∀ c ∈ rest.head?, isNameChar c = false) :
    expandRest m (ds.flatMap (spelled names indent) ++ rest) =
      ds.flatMap (spelled (fun k => (names k).flatMap (namesFor [m])) indent) ++
        expandRest m rest := by
  induction ds with
  | nil => rfl
  | cons d ds ih =>
    obtain ⟨hd, hds⟩ := List.forall_mem_cons.mp hds
    obtain ⟨hvalue, hvalues⟩ := List.forall_mem_cons.mp hvalues
    rw [List.flatMap_cons, List.flatMap_cons, List.append_assoc, List.append_assoc,
      ← ih hds hvalues]
    exact expandRest_lineOf hm hmapped hindent (hnames.nonempty d.1) (hnames.properties d.1 hd)
      hvalue (stop_lines hindent names ds hrest)

/-- A pass leaves what stands around the lines of a rule. -/
theorem expandRest_ruleWith {entry : Text × Declarations} (hclass : entry.1.Plain)
    (hds : ∀ d ∈ entry.2, IsPropertyName d.1) (hvalues : ∀ d ∈ entry.2, d.2.Plain ∧ d.2.Trimmed)
    (hrest : ∀ c ∈ rest.head?, isNameChar c = false) :
    expandRest m (ruleWith (spelled names indent) indent entry ++ rest) =
      ruleWith (spelled (fun k => (names k).flatMap (namesFor [m])) indent) indent entry ++
        expandRest m rest := by
  have hselector : ':' ∉ indent ++ '.' :: (entry.1 ++ [' ']) := by
    simp only [List.mem_append, List.mem_cons, not_or]
    exact ⟨no_colon_of_blank hindent, by decide, hclass.no_colon, by decide, by decide⟩
  have hclosing : ∀ c ∈ (indent ++ '}' :: '\n' :: rest).head?, isNameChar c = false :=
    stop_blanks hindent (stop_cons (by decide) _)
  have hlines := stop_lines hindent names entry.2 hclosing
  have hbehind : readDeclaration? m.name ('\n' :: rest) = none :=
    readDeclaration?_cons hm.name (by decide) rest
  rw [ruleWith_append, ruleWith_append,
    expandRest_no_colon hm.name hselector divides_opening,
    expandRest_skip (.inr (readDeclaration?_cons hm.name (by decide) _)),
    expandRest_skip (.inr (readDeclaration?_of_stop hm.name hlines)),
    expandRest_lines hm hmapped hindent hnames hds hvalues hclosing,
    expandRest_closing hm (no_colon_of_blank hindent) hbehind,
    expandRest_skip (.inr (readDeclaration?_of_stop hm.name hrest))]

theorem expandRest_writeWith {block : ClassBlock} (h : block.Legible) :
    expandRest m (writeWith (spelled names indent) indent block) =
      writeWith (spelled (fun k => (names k).flatMap (namesFor [m])) indent) indent block := by
  induction block with
  | nil => rfl
  | cons entry block ih =>
    have hrule : ∀ rest : Text, (∀ c ∈ rest.head?, isNameChar c = false) →
        expandRest m (ruleWith (spelled names indent) indent entry ++ rest) =
          ruleWith (spelled (fun k => (names k).flatMap (namesFor [m])) indent) indent entry ++
            expandRest m rest := fun _ =>
      expandRest_ruleWith hm hmapped hindent hnames (h.classes entry List.mem_cons_self)
        (h.names entry List.mem_cons_self) (h.values entry List.mem_cons_self)
    cases block with
    | nil => rw [writeWith_singleton, writeWith_singleton, hrule [] nofun, expandRest_nil]
    | cons next block =>
      have hstop := stop_writeWith hindent (spelled names indent) (next :: block)
      rw [writeWith_cons_cons, writeWith_cons_cons, hrule _ (stop_cons (by decide) _),
        expandRest_skip (.inr (readDeclaration?_of_stop hm.name hstop)), ih h.of_cons]

/-- A pass over rules puts the targets in the place of its name in each line, and nothing else. -/
theorem expandMapping_writeWith {block : ClassBlock} (h : block.Legible) :
    expandMapping m (writeWith (spelled names indent) indent block) =
      writeWith (spelled (fun k => (names k).flatMap (namesFor [m])) indent) indent block := by
  have hstop := stop_writeWith hindent (spelled names indent) block
  rw [expandMapping_of_none (readDeclaration?_of_stop hm.name hstop),
    expandRest_writeWith hm hmapped hindent hnames h]

end Pass

/-! ### All passes -/

/-- All passes together put its targets in the place of each mapped name. -/
theorem expandCustom_writeWith (hindent : ∀ c ∈ indent, isBlank c) (hms : Expandable mappings)
    (hnames : Renames names) {block : ClassBlock} (h : block.Legible) :
    expandCustom mappings (writeWith (spelled names indent) indent block) =
      writeWith (spelled (fun k => (names k).flatMap (namesFor mappings)) indent) indent block := by
  induction mappings generalizing names with
  | nil =>
    have hsame : (fun k => (names k).flatMap (namesFor [])) = names :=
      funext fun k => List.flatMap_singleton' (names k)
    rw [hsame]
    rfl
  | cons m mappings ih =>
    cases hmapped : m.isMapped with
    | false => rw [expandCustom_of_unmapped hmapped, ih hms.of_cons hnames,
        namesFor_of_unmapped hmapped]
    | true =>
      have hm := hms.names m List.mem_cons_self hmapped
      have htargets := hms.unmapped_later hmapped
      rw [expandCustom_cons hmapped, expandMapping_writeWith hm hmapped hindent hnames h,
        ih hms.of_cons (hnames.pass hm hmapped)]
      simp only [List.flatMap_assoc, namesFor_cons hmapped htargets]

theorem expandCustom_write (hindent : ∀ c ∈ indent, isBlank c) (hms : Expandable mappings)
    {block : ClassBlock} (h : block.Legible) :
    expandCustom mappings (write indent block) =
      writeWith (expandedLine mappings indent) indent block := by
  rw [write_eq, line_eq, expandCustom_writeWith hindent hms renames_singleton h, expandedLine_eq]
  simp only [List.flatMap_singleton]

/-- Expansion of the rules of classes gives the same rules, in which each line of a mapped name is
replaced by one with a declaration for each of its targets, and all other lines are the same. That
is what the patterns of the mapped names make of the rules, and in whatever order the mappings
stand. -/
theorem expanded_rules (hindent : ∀ c ∈ indent, isBlank c) (hms : Expandable mappings)
    (hdistinct : ((mappings.filter Mapping.isMapped).map Mapping.name).Nodup)
    {block : ClassBlock} (h : block.Legible) :
    let expanded := writeWith (expandedLine mappings indent) indent block
    (∀ others, others.Perm mappings → expandCustom others (write indent block) = expanded ∧
      ∀ text, Expands others (write indent block) text ↔ text = expanded) ∧
    (∀ m ∈ mappings, m.isMapped → ∀ value,
      expandedLine mappings indent (m.name, value) = lineOf indent m.targets value) ∧
    ∀ d : Text × Text, (∀ m ∈ mappings, m.isMapped → m.name ≠ d.1) →
      expandedLine mappings indent d = line indent d := by
  intro expanded
  refine ⟨fun others hperm => ?_, fun m hm hmapped value => ?_, fun d hd => ?_⟩
  · have hsame : expandedLine others indent = expandedLine mappings indent := by
      funext d
      rw [expandedLine, expandedLine, mappingFor?_perm hperm hdistinct]
    have hcustom : expandCustom others (write indent block) = expanded := by
      rw [expandCustom_write hindent (hms.perm hperm) h, hsame]
    exact ⟨hcustom, fun text => by rw [expands_iff, hcustom]⟩
  · have hfor : mappingFor? mappings m.name = some m :=
      (mappingFor?_eq_some_iff hdistinct).mpr ⟨hm, hmapped, rfl⟩
    rw [expandedLine, hfor]
  · rw [expandedLine, mappingFor?_eq_none_iff.mpr hd]

/-- Names that begin or end like others, classes named like properties, a class without
declarations, values that are empty or have a line break in them, a mapping without targets, and the
mappings from the last to the first. -/
theorem expanded_rules_of_gaps :
    let mappings := [Mapping.of "gap" ["row-gap", "column-gap"] none,
      Mapping.of "elevation" [] none, Mapping.of "gap-x" ["column-gap"] none,
      Mapping.of "x" ["gap-x-y", "-x"] none]
    let indent : Text := "\t"
    let block : ClassBlock :=
      [("gap-x", [("gap-x", "1px"), ("row-gap-x", "a\nb"), ("gap", "")]), ("empty", []),
        ("x, .gap", [("x", "0 auto"), ("elevation", "2")])]
    let expanded : Text :=
      "\t.gap-x \x7b\n\t  column-gap: 1px;\n\t  row-gap-x: a\nb;\n" ++
        "\t  row-gap: ; column-gap: ;\n\t\x7d\n\n\t.empty \x7b\n\t\x7d\n\n" ++
        "\t.x, .gap \x7b\n\t  gap-x-y: 0 auto; -x: 0 auto;\n\t  elevation: 2;\n\t\x7d\n"
    (∀ c ∈ indent, isBlank c) ∧ Expandable mappings ∧
      ((mappings.filter Mapping.isMapped).map Mapping.name).Nodup ∧ block.Legible ∧
      expandCustom mappings.reverse (write indent block) = expanded ∧
      Expands mappings (write indent block) expanded := by
  intro mappings indent block expanded
  have hindent : ∀ c ∈ indent, isBlank c := List.all_eq_true.mp (by decide)
  have hms : Expandable mappings := by decide
  have hdistinct : ((mappings.filter Mapping.isMapped).map Mapping.name).Nodup := by decide
  have hblock : block.Legible := ⟨by decide, by decide, by decide⟩
  have hexpanded : writeWith (expandedLine mappings indent) indent block = expanded := by
    decide +kernel
  obtain ⟨hall, -, -⟩ := expanded_rules hindent hms hdistinct hblock
  exact ⟨hindent, hms, hdistinct, hblock, (hall _ (List.reverse_perm mappings)).1.trans hexpanded,
    ((hall mappings (.refl mappings)).2 expanded).mpr hexpanded.symm⟩

end ClassBlock

end DesignTokens
