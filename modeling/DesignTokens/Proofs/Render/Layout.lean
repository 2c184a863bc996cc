import DesignTokens.Proofs.Render.Sections

/-!
Two ways to print rules. A single input prints each rule with an empty line behind it; the rules of
the default input among several stand with an empty line between neighbours:

    single     rule ⏎ rule ⏎ rule ⏎
    several    rule ⏎ rule ⏎ rule

The rules themselves are spelled out twice, and are the same (`singleRule_eq`). So the two ways
differ in the last empty line and in nothing else, unless there are no rules, which print as nothing
either way (`singleSheet_eq`).
-/

namespace DesignTokens

/-- A separator behind every piece is one between neighbours and one at the end. -/
theorem Text.flatMap_append_eq_join (sep : Text) : ∀ {pieces : List Text}, pieces ≠ [] →
    pieces.flatMap (· ++ sep) = join sep pieces ++ sep
  | [], hne => absurd rfl hne
  | [p], _ => by rw [List.flatMap_singleton, join]
  | p :: q :: rest, _ => by
    rw [List.flatMap_cons, flatMap_append_eq_join sep (List.cons_ne_nil q rest), join_cons_cons,
      List.append_assoc (p ++ sep)]

/-- The rules that are spelled out for a single input are those that are written everywhere else,
each with an empty line behind it. -/
theorem singleRule_eq (entry : Text × Declarations) :
    singleRule entry = ClassBlock.rule [] entry ++ ['\n'] := by
  have hline : singleLine = ClassBlock.line [] := by
    funext declaration
    simp [singleLine, ClassBlock.line]
  simp [singleRule, ClassBlock.rule, hline]

/-- The rules of a single input end in an empty line, unless there are none. -/
theorem singleSheet_eq (block : ClassBlock) :
    singleSheet block = if block = [] then [] else block.write [] ++ ['\n'] := by
  split
  · next hempty => rw [hempty]; rfl
  · next hsome =>
    have hrules : block.map (ClassBlock.rule []) ≠ [] := by simpa using hsome
    calc singleSheet block
        = (block.map (ClassBlock.rule [])).flatMap (· ++ ['\n']) := by
          rw [singleSheet, List.flatMap_map, funext singleRule_eq]
      _ = block.write [] ++ ['\n'] := Text.flatMap_append_eq_join ['\n'] hrules

/-- Inputs that cannot be read have no sections. -/
theorem sectionsFrom_of_unreadable (c : Config) (variants : List FileVariant) (default index : Nat)
    (x : Context) {sources : List Source} (h : ∀ source ∈ sources, source.document = none) :
    sectionsFrom c variants default index x sources = ([], x) := by
  induction sources generalizing index with
  | nil => rfl
  | cons source rest ih =>
    obtain ⟨hsource, hrest⟩ := List.forall_mem_cons.mp h
    rw [sectionsFrom, hsource, ite_self]
    exact ih (index + 1) hrest

section Layout

variable {c : Config} (hdefault : c.defaultFile = 0) (x : Context) (name : Text) (document : Json)

include hdefault

theorem classSheet_of_single :
    classSheet c x [⟨name, some document⟩] =
      .ok (singleSheet (ClassBlock.ofDocument c x document).1,
        (ClassBlock.ofDocument c x document).2) := by
  unfold classSheet defaultIndex documentAt
  rw [hdefault]
  rfl

/-- Among inputs of which only the default one can be read, its rules are all that is printed. -/
theorem classSheet_of_readable_default {others : List Source} (hsome : others ≠ [])
    (hnone : ∀ source ∈ others, source.document = none) :
    classSheet c x (⟨name, some document⟩ :: others) =
      let label := baseLabel c (c.fileVariants (others.length + 1)) 0
      .ok (sheetHeader c.responsive ++ ("/* Base styles - " ++ label ++ " */\n") ++
          (ClassBlock.ofDocument c x document).1.write [],
        (ClassBlock.ofDocument c x document).2) := by
  have hlength : (⟨name, some document⟩ :: others : List Source).length = others.length + 1 :=
    List.length_cons
  have hseveral : others.length + 1 ≠ 1 := by simpa using hsome
  have hindex : defaultIndex c (⟨name, some document⟩ :: others) = .ok 0 := by
    rw [defaultIndex, hdefault]
    rfl
  have hsections (y : Context) : sectionsFrom c (c.fileVariants (others.length + 1)) 0 0 y
      (⟨name, some document⟩ :: others) = ([], y) := by
    rw [sectionsFrom, if_pos rfl]
    exact sectionsFrom_of_unreadable c _ 0 1 y hnone
  have hdocument : documentAt (⟨name, some document⟩ :: others) 0 = some document := rfl
  have hparts (header above rules : Text) : header ++ (above ++ rules) ++ [] =
      header ++ above ++ rules := by simp
  unfold classSheet responsiveSheet
  simp only [hindex, bind, Except.bind, hlength, if_neg hseveral, hdocument, hsections]
  exact congrArg Except.ok (Prod.ext (hparts _ _ _) rfl)

end Layout

/-- A single input and the default one among others that cannot be read print the same rules. The
single input prints each rule spelled out, with an empty line behind it; that is what is written for
the default one, with one line feed more behind it if there are rules, and nothing if there are none.
The default input among others prints the header, its comment, and then exactly those rules. -/
theorem rules_print_alike {c : Config} (hvalid : c.fault = none) (hmode : c.mode = .classes)
    (hdefault : c.defaultFile = 0) (x : Context) (name : Text) (document : Json) :
    let block := (ClassBlock.ofDocument c x document).1
    let after := (ClassBlock.ofDocument c x document).2
    (∀ sources, tryRender c x sources = classSheet c x sources) ∧
    classSheet c x [⟨name, some document⟩] = .ok (block.flatMap singleRule, after) ∧
    block.flatMap singleRule = (if block = [] then [] else block.write [] ++ ['\n']) ∧
    ∀ others : List Source, others ≠ [] → (∀ source ∈ others, source.document = none) →
      let label := baseLabel c (c.fileVariants (others.length + 1)) 0
      classSheet c x (⟨name, some document⟩ :: others) =
        .ok (sheetHeader c.responsive ++ ("/* Base styles - " ++ label ++ " */\n") ++ block.write [],
          after) := by
  intro block after
  have hpass (sources : List Source) : tryRender c x sources = classSheet c x sources := by
    unfold tryRender
    rw [hvalid, hmode]
  have hsingle := classSheet_of_single hdefault x name document
  exact ⟨hpass, hsingle, singleSheet_eq block, fun _ hsome hnone =>
    classSheet_of_readable_default hdefault x name document hsome hnone⟩

/-- Two classes print alike, by themselves and in front of an input that cannot be read. -/
theorem two_classes_print_alike :
    let token (value : Text) := Json.object [("$type", .string "color"), ("$value", .string value)]
    let document := Json.object [("card", .object [("color", token "red")]),
      ("box", .object [("color", token "blue")])]
    let first : Source := ⟨"desk.json", some document⟩
    let x := Context.of ⟨["color"]⟩ .defaults
    let rules : Text := ".card \x7b\n  color: red;\n\x7d\n\n.box \x7b\n  color: blue;\n\x7d\n"
    (classSheet .default x [first]).map Prod.fst = .ok (rules ++ ['\n']) ∧
      (classSheet .default x [first, ⟨"phone.json", none⟩]).map Prod.fst =
        .ok ("/* Resolution-responsive CSS */\n\n/* Base styles - 1440px and up */\n" ++ rules) := by
  intro token document first x rules
  obtain ⟨-, hsingle, hblock, hseveral⟩ := rules_print_alike (c := .default) (by decide) rfl rfl x
    "desk.json" document
  have hwrite : (ClassBlock.ofDocument .default x document).1.write [] = rules := by decide +kernel
  have hsome : (ClassBlock.ofDocument .default x document).1 ≠ [] := by decide +kernel
  have hlabel : baseLabel .default (Config.default.fileVariants 2) 0 = "1440px and up" := by decide
  rw [if_neg hsome, hwrite] at hblock
  rw [hblock] at hsingle
  have hboth := hseveral [⟨"phone.json", none⟩] (by simp) (by simp)
  rw [hwrite] at hboth
  refine ⟨by rw [hsingle]; rfl, ?_⟩
  rw [hboth]
  rfl

end DesignTokens
