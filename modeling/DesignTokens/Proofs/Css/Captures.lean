import DesignTokens.Proofs.Css.Scanning
import Mathlib.Data.List.Forall2

/-!
The patterns of rules and of declarations. Rules and declarations are described by two patterns

    rule          [^{}]+ \s* \{ \s* [^{}]* \s* \}
    declaration   [\w-]+ \s* : \s* [^;]+ ;?

and the scanner finds what they find: the bodies of the rules are what the fifth part of the first
one takes, and the names declared in a body are what the first part of the second one takes. Some
of the parts can take the same characters and may have to give them back. That changes nothing but
for a value of blanks, which is a value, as the blanks before it are given back to it.
-/

namespace DesignTokens

/-- A selector, and a body in braces. -/
def rulePattern : List Part :=
  [.some (!isBrace ·), .many isBlank, .one '{', .many isBlank, .many (!isBrace ·), .many isBlank,
    .one '}']

/-- A name, a colon, a value, and the semicolon behind it. -/
def declarationPattern : List Part :=
  [.some isNameChar, .many isBlank, .one ':', .many isBlank, .some (· != ';'), .optional ';']

/-! ### Declarations -/

/-- A value and the semicolon behind it. -/
theorem matchAt?_value (t : Text) :
    (matchAt? [.some (· != ';'), .optional ';'] t).map Prod.snd = pastValue? t := by
  obtain ⟨value, rest, rfl, hvalue, hrest⟩ := exists_run (· != ';') t
  rw [pastValue?_of_stop hvalue hrest]
  cases value with
  | nil =>
    rw [List.nil_append, matchAt?_of_other (p := .some (· != ';')) le_rfl hrest]
    rfl
  | cons c value =>
    have hend : ∀ d ∈ rest.head?, d = ';' := fun d hd => by simpa using hrest d hd
    rw [matchAt?_run_of_stop (p := .some (· != ';')) rfl (Nat.le_add_left 1 _) hvalue hrest
      (matchAt?_optional hend)]
    rfl

/-- A value that something is put in front of ends where it did. -/
theorem pastValue?_append {front t rest : Text} (hfront : ∀ c ∈ front, (c != ';') = true)
    (h : pastValue? t = some rest) : pastValue? (front ++ t) = some rest := by
  obtain ⟨value, behind, rfl, hvalue, hbehind⟩ := exists_run (· != ';') t
  rw [pastValue?_of_stop hvalue hbehind] at h
  rw [← List.append_assoc,
    pastValue?_of_stop (List.forall_mem_append.mpr ⟨hfront, hvalue⟩) hbehind]
  cases value with
  | nil => cases h
  | cons c value => simpa using h

/-- The blanks before a value are part of it if there is nothing else. -/
theorem matchAt?_blankValue (t : Text) :
    (matchAt? [.many isBlank, .some (· != ';'), .optional ';'] t).map Prod.snd = pastValue? t := by
  cases hfound : matchAt? [.many isBlank, .some (· != ';'), .optional ';'] t with
  | none =>
    have hnone := matchAt?_eq_none_iff.mp hfound 0
      (Part.mem_lengths.mpr ⟨Nat.zero_le _, Nat.zero_le _⟩)
    rw [← matchAt?_value, ← List.drop_zero (l := t), hnone]
  | some found =>
    obtain ⟨n, hn, behind, hbehind, rfl⟩ := exists_of_matchAt? hfound
    have hle : n ≤ (t.takeWhile isBlank).length :=
      (Part.mem_lengths.mp hn).2.trans (Part.longest_le_run _ t)
    have hfront : ∀ c ∈ t.take n, (c != ';') = true := by
      intro c hc
      have hblank := kind_of_mem_take hle hc
      refine bne_iff_ne.mpr fun heq => ?_
      rw [heq] at hblank
      exact absurd hblank (by decide)
    have hvalue : pastValue? (t.drop n) = some behind.2 := by
      rw [← matchAt?_value, hbehind]
      rfl
    have hwhole := pastValue?_append hfront hvalue
    rw [List.take_append_drop] at hwhole
    exact hwhole.symm

/-- Blanks give nothing back to a colon. -/
theorem matchAt?_colon {ps : List Part} (t : Text) :
    matchAt? (.many isBlank :: .one ':' :: ps) t =
      (matchAt? (.one ':' :: ps) (Text.trimStart t)).map (taking (t.takeWhile isBlank)) := by
  have hback : ∀ c v, isBlank c → matchAt? (.one ':' :: ps) (c :: v) = none := by
    intro c v hc
    refine matchAt?_one_of_ne fun d hd heq => ?_
    rw [Option.some.inj hd, heq] at hc
    exact absurd hc (by decide)
  exact matchAt?_run rfl (Nat.zero_le _) hback

/-- A declaration behind its name. -/
theorem matchAt?_pastName (t : Text) :
    (matchAt? [.many isBlank, .one ':', .many isBlank, .some (· != ';'), .optional ';'] t).map
      Prod.snd = pastDeclaration? t := by
  rw [matchAt?_colon]
  unfold pastDeclaration?
  split
  · next behind hcolon =>
    rw [hcolon, matchAt?_one, ← matchAt?_blankValue]
    cases matchAt? [.many isBlank, .some (· != ';'), .optional ';'] behind <;> rfl
  · next hother =>
    rw [matchAt?_one_of_ne]
    · rfl
    · rintro _ hcolon rfl
      obtain ⟨behind, hcolon⟩ := List.head?_eq_some_iff.mp hcolon
      exact hother behind hcolon

theorem pastDeclaration?_of_isNameChar {c : Char} (hc : isNameChar c) (t : Text) :
    pastDeclaration? (c :: t) = none := by
  have hblank : ¬isBlank c := fun hblank => by
    rw [isNameChar_of_isBlank hblank] at hc
    cases hc
  unfold pastDeclaration? Text.trimStart
  rw [List.dropWhile_cons_of_neg hblank]
  split
  · next heq =>
    rw [(List.cons.inj heq).1] at hc
    exact absurd hc (by decide)
  · rfl

/-- At a name there is a match if a declaration follows it. -/
theorem matchAt?_declaration {name rest : Text} (hname : IsPropertyName name)
    (hrest : ∀ c ∈ rest.head?, isNameChar c = false) :
    (matchAt? declarationPattern (name ++ rest)).map (fun found => (found.1.headD [], found.2)) =
      (pastDeclaration? rest).map (Prod.mk name) := by
  have hleast : 1 ≤ ((name ++ rest).takeWhile isNameChar).length := by
    rw [takeWhile_of_stop hname.nameChars hrest]
    exact List.length_pos_iff.mpr hname.nonempty
  have hback : ∀ c v, isNameChar c → matchAt?
      [.many isBlank, .one ':', .many isBlank, .some (· != ';'), .optional ';'] (c :: v) =
        none := by
    intro c v hc
    rw [← Option.map_eq_none_iff (f := Prod.snd), matchAt?_pastName]
    exact pastDeclaration?_of_isNameChar hc v
  rw [declarationPattern, matchAt?_run rfl hleast hback, ← matchAt?_pastName]
  show Option.map _ (Option.map (taking ((name ++ rest).takeWhile isNameChar))
    (matchAt? _ ((name ++ rest).dropWhile isNameChar))) = _
  rw [takeWhile_of_stop hname.nameChars hrest, dropWhile_of_stop hname.nameChars hrest,
    Option.map_map, Option.map_map]
  rfl

/-- Behind a name without a declaration, the pattern is looked for again. -/
theorem finds_pastName {name rest : Text} {found : List (List Text)}
    (hname : ∀ c ∈ name, isNameChar c) (hrest : ∀ c ∈ rest.head?, isNameChar c = false)
    (hpast : pastDeclaration? rest = none) (more : Finds declarationPattern rest found) :
    Finds declarationPattern (name ++ rest) found := by
  refine .skipAll (fun before c after hsplit => ?_) more
  have hsuffix : IsPropertyName (c :: after) :=
    ⟨List.cons_ne_nil _ _, fun d hd => hname d (by
      rw [hsplit]
      exact List.mem_append_right before hd)⟩
  have hmatch := matchAt?_declaration hsuffix hrest
  rw [hpast] at hmatch
  exact Option.map_eq_none_iff.mp hmatch

/-- The names declared in a text are what the first part of the pattern takes. -/
theorem finds_declarations (t : Text) :
    ∃ found, Finds declarationPattern t found ∧ found.map (·.headD []) = declaredNames t := by
  induction hlength : t.length using Nat.strongRecOn generalizing t with
  | ind n ih =>
    obtain ⟨name, rest, rfl, hchars, hrest⟩ := exists_run isNameChar t
    rw [List.length_append] at hlength
    by_cases hne : name = []
    · -- no name begins here
      have hnone : matchAt? declarationPattern rest = none :=
        matchAt?_of_other (p := .some isNameChar) le_rfl hrest
      rw [hne, List.nil_append]
      cases rest with
      | nil => exact ⟨[], .done hnone, rfl⟩
      | cons c rest =>
        rw [List.length_cons] at hlength
        obtain ⟨found, hfinds, hnames⟩ := ih rest.length (by omega) rest rfl
        exact ⟨found, .skip hnone hfinds,
          hnames.trans (declaredNames_cons (hrest c rfl) rest).symm⟩
    · have hname : IsPropertyName name := ⟨hne, hchars⟩
      have hpos := List.length_pos_iff.mpr hne
      have hmatch := matchAt?_declaration hname hrest
      rw [declaredNames_name hname hrest]
      cases hpast : pastDeclaration? rest with
      | none =>
        obtain ⟨found, hfinds, hnames⟩ := ih rest.length (by omega) rest rfl
        exact ⟨found, finds_pastName hchars hrest hpast hfinds, hnames⟩
      | some behind =>
        have hlt := length_lt_of_pastDeclaration? hpast
        obtain ⟨found, hfinds, hnames⟩ := ih behind.length (by omega) behind rfl
        rw [hpast] at hmatch
        obtain ⟨⟨captures, after⟩, hat, heq⟩ := Option.map_eq_some_iff.mp hmatch
        obtain ⟨hfirst, rfl⟩ := Prod.mk.inj heq
        exact ⟨captures :: found, .found hat hfinds, congrArg₂ List.cons hfirst hnames⟩

/-! ### Rules -/

theorem braceless_iff {t : Text} : t.Braceless ↔ ∀ c ∈ t, (!isBrace c) = true := by
  simp [Text.Braceless]

/-- No part before the opening brace takes a brace. -/
theorem kinds_before_opening : ∀ p ∈ [Part.some (!isBrace ·), .many isBlank],
    ∀ c, p.kind c → isBrace c = false :=
  List.forall_mem_cons.mpr ⟨fun c => (Bool.not_eq_true' (isBrace c)).mp,
    List.forall_mem_singleton.mpr fun _ => isBrace_of_isBlank⟩

/-- No part between the braces takes a brace. -/
theorem kinds_before_closing : ∀ p ∈ [Part.many isBlank, .many (!isBrace ·), .many isBlank],
    ∀ c, p.kind c → isBrace c = false :=
  List.forall_mem_cons.mpr ⟨fun _ => isBrace_of_isBlank,
    List.forall_mem_cons.mpr ⟨fun c => (Bool.not_eq_true' (isBrace c)).mp,
      List.forall_mem_singleton.mpr fun _ => isBrace_of_isBlank⟩⟩

/-- There is no rule if the first brace does not open one. -/
theorem matchAt?_rule_of_not_opening {t : Text}
    (ht : (t.dropWhile (!isBrace ·)).head? ≠ some '{') : matchAt? rulePattern t = none := by
  refine matchAt?_eq_none_of_stop kinds_before_opening rfl fun v hv => absurd ?_ ht
  rw [hv]
  rfl

/-- There is no rule if the second brace does not close it. -/
theorem matchAt?_rule_of_not_closing {t body : Text}
    (ht : t.dropWhile (!isBrace ·) = '{' :: body)
    (hbody : (body.dropWhile (!isBrace ·)).head? ≠ some '}') : matchAt? rulePattern t = none := by
  refine matchAt?_eq_none_of_stop kinds_before_opening rfl fun v hv => ?_
  obtain rfl := (List.cons.inj (ht.symm.trans hv)).2
  refine matchAt?_eq_none_of_stop kinds_before_closing rfl fun w hw => absurd ?_ hbody
  rw [hw]
  rfl

/-- No rule begins at a brace. -/
theorem finds_pastBrace {c : Char} (hc : isBrace c) {t : Text} {found : List (List Text)}
    (more : Finds rulePattern t found) : Finds rulePattern (c :: t) found := by
  refine .skip (matchAt?_of_other (p := .some (!isBrace ·)) le_rfl (stop_cons ?_ t)) more
  show (!isBrace c) = false
  rw [hc]
  rfl

/-- Behind a run without braces in which no rule begins, the pattern is looked for again. -/
theorem finds_pastRun {run t : Text} {found : List (List Text)} (hrun : ∀ c ∈ run, (!isBrace c))
    (ht : ∀ c ∈ t.head?, (!isBrace c) = false)
    (hnone : ∀ u : Text, u.dropWhile (!isBrace ·) = t → matchAt? rulePattern u = none)
    (more : Finds rulePattern t found) : Finds rulePattern (run ++ t) found := by
  refine .skipAll (fun before c after hsplit => hnone _ ?_) more
  rw [hsplit, List.forall_mem_append] at hrun
  exact dropWhile_of_stop hrun.2 ht

/-- A selector that is not empty and a body in braces are a match. -/
theorem matchAt?_rule {selector body : Text} (hne : selector ≠ [])
    (hselector : ∀ c ∈ selector, (!isBrace c)) (hbody : ∀ c ∈ body, (!isBrace c)) (rest : Text) :
    matchAt? rulePattern (selector ++ '{' :: (body ++ '}' :: rest)) =
      some ([selector, [], ['{'], body.takeWhile isBlank, Text.trimStart body, [], ['}']],
        rest) := by
  -- from the last part to the first
  have hstop : ∀ c ∈ ('}' :: rest).head?, isBlank c = false := stop_cons (by decide) rest
  have hclosing : matchAt? [.many isBlank, .one '}'] ('}' :: rest) = some ([[], ['}']], rest) :=
    matchAt?_run_of_empty (p := .many isBlank) rfl rfl hstop (matchAt?_one '}' rest)
  have htrimmed : ∀ c ∈ Text.trimStart body, (!isBrace c) := fun c hc =>
    hbody c ((List.dropWhile_sublist _).mem hc)
  have hbodyPart : matchAt? [.many (!isBrace ·), .many isBlank, .one '}']
      (Text.trimStart body ++ '}' :: rest) = some ([Text.trimStart body, [], ['}']], rest) :=
    matchAt?_run_of_stop (p := .many (!isBrace ·)) rfl (Nat.zero_le _) htrimmed
      (stop_cons (by decide) rest) hclosing
  have hstart : ∀ c ∈ (Text.trimStart body ++ '}' :: rest).head?, isBlank c = false := by
    have hbody := stop_dropWhile isBlank body
    rw [Text.trimStart]
    cases htrim : body.dropWhile isBlank with
    | nil => exact hstop
    | cons d t =>
      rw [htrim] at hbody
      exact stop_cons (hbody d rfl) _
  have hinner : matchAt? [.many isBlank, .many (!isBrace ·), .many isBlank, .one '}']
      (body ++ '}' :: rest) =
        some ([body.takeWhile isBlank, Text.trimStart body, [], ['}']], rest) := by
    have hrun : ∀ c ∈ body.takeWhile isBlank, isBlank c := fun _ => List.mem_takeWhile_imp
    have hsplit : body ++ '}' :: rest =
        body.takeWhile isBlank ++ (Text.trimStart body ++ '}' :: rest) := by
      rw [← List.append_assoc, Text.trimStart, List.takeWhile_append_dropWhile]
    rw [hsplit]
    exact matchAt?_run_of_stop (p := .many isBlank) rfl (Nat.zero_le _) hrun hstart hbodyPart
  have hopening : matchAt? (.one '{' :: [.many isBlank, .many (!isBrace ·), .many isBlank,
      .one '}']) ('{' :: (body ++ '}' :: rest)) =
        some ([['{'], body.takeWhile isBlank, Text.trimStart body, [], ['}']], rest) := by
    rw [matchAt?_one, hinner]
    rfl
  have hbraces := matchAt?_run_of_empty (p := .many isBlank) rfl rfl (stop_cons (by decide) _)
    hopening
  exact matchAt?_run_of_stop (p := .some (!isBrace ·)) rfl (List.length_pos_iff.mpr hne) hselector
    (stop_cons (by decide) _) hbraces

theorem brace_of_head? {c : Char} {t : Text} (h : ∀ d ∈ (c :: t).head?, (!isBrace d) = false) :
    c = '{' ∨ c = '}' := by
  have hbrace : isBrace c := by simpa using h c rfl
  exact isBrace_iff.mp hbrace

/-- A body that is not closed is none. -/
theorem bodiesFrom_of_not_closing {front rest : Text} (hfront : front.Braceless)
    (hrest : ∀ c ∈ rest.head?, (!isBrace c) = false) (hclosing : rest.head? ≠ some '}')
    (run : Bool) (body : Text) :
    bodiesFrom run (some body) (front ++ rest) = bodiesFrom run none (front ++ rest) := by
  rw [bodiesFrom_append hfront, bodiesFrom_append hfront]
  cases rest with
  | nil => rfl
  | cons c rest =>
    rcases brace_of_head? hrest with rfl | rfl
    · rfl
    · exact absurd rfl hclosing

/-- An opening brace without a selector, or without a closing brace, opens no body. -/
theorem bodiesFrom_of_not_rule {run body rest : Text} (hbody : body.Braceless)
    (hrest : ∀ c ∈ rest.head?, (!isBrace c) = false)
    (hrule : run ≠ [] → rest.head? ≠ some '}') :
    bodiesFrom (!run.isEmpty) none ('{' :: (body ++ rest)) = ruleBodies (body ++ rest) := by
  rw [bodiesFrom]
  cases run with
  | nil => rfl
  | cons c run => exact bodiesFrom_of_not_closing hbody hrest (hrule (List.cons_ne_nil _ _)) _ _

/-- The bodies of the rules of a sheet are what the fifth part of the pattern takes. -/
theorem finds_rules (css : Text) :
    ∃ found, Finds rulePattern css found ∧ found.map (·.getD 4 []) = ruleBodies css := by
  induction hlength : css.length using Nat.strongRecOn generalizing css with
  | ind n ih =>
    obtain ⟨run, t, rfl, hrun, ht⟩ := exists_run (!isBrace ·) css
    have hbodies : ruleBodies (run ++ t) = bodiesFrom (!run.isEmpty) none t :=
      bodiesFrom_append (braceless_iff.mpr hrun) false none t
    cases t with
    | nil =>
      refine ⟨[], finds_pastRun hrun ht (fun u hu => ?_) (.done ?_), hbodies.symm⟩
      · exact matchAt?_rule_of_not_opening (by rw [hu]; simp)
      · exact matchAt?_of_other (p := .some (!isBrace ·)) le_rfl ht
    | cons c t =>
      rw [List.length_append, List.length_cons] at hlength
      rcases brace_of_head? ht with rfl | rfl
      · obtain ⟨body, rest, rfl, hbody, hrest⟩ := exists_run (!isBrace ·) t
        by_cases hrule : run ≠ [] ∧ rest.head? = some '}'
        · obtain ⟨hne, hclosing⟩ := hrule
          obtain ⟨rest, rfl⟩ := List.head?_eq_some_iff.mp hclosing
          rw [List.length_append, List.length_cons] at hlength
          obtain ⟨found, hfinds, hfound⟩ := ih rest.length (by omega) rest rfl
          refine ⟨_ :: found, .found (matchAt?_rule hne hrun hbody rest) hfinds, ?_⟩
          rw [ruleBodies, bodiesFrom_rule hne (braceless_iff.mpr hrun) (braceless_iff.mpr hbody)]
          exact congrArg (_ :: ·) hfound
        · -- an opening brace without a selector or without a closing brace
          rw [not_and] at hrule
          obtain ⟨found, hfinds, hfound⟩ := ih _ (by omega) (body ++ rest) rfl
          have hbrace := finds_pastBrace (c := '{') rfl hfinds
          rw [hbodies, bodiesFrom_of_not_rule (braceless_iff.mpr hbody) hrest hrule]
          refine ⟨found, ?_, hfound⟩
          cases run with
          | nil => exact hbrace
          | cons d run =>
            refine finds_pastRun hrun ht (fun u hu => matchAt?_rule_of_not_closing hu ?_) hbrace
            rw [dropWhile_of_stop hbody hrest]
            exact hrule (List.cons_ne_nil _ _)
      · -- a closing brace without an opening one
        obtain ⟨found, hfinds, hfound⟩ := ih t.length (by omega) t rfl
        refine ⟨found, finds_pastRun hrun ht (fun u hu => ?_) (finds_pastBrace rfl hfinds), ?_⟩
        · exact matchAt?_rule_of_not_opening (by rw [hu]; simp)
        · exact hfound.trans hbodies.symm

/-! ### Reports -/

/-- What the patterns make of a sheet: each name that the one finds in what the other takes for a
body, if nothing is known of it, once and in the order in which they first occur. -/
def Detects (keywords : KeywordSet) (mappings : List Mapping) (css : Text) (reported : List Text) :
    Prop :=
  ∃ rules declarations, Finds rulePattern css rules ∧
    List.Forall₂ (fun rule found => Finds declarationPattern (rule.getD 4 []) found) rules
      declarations ∧
    reported = ((declarations.flatten.map (·.headD [])).filter
      fun name => Unlisted keywords mappings name).eraseDups

/-- The names found in the bodies of rules are those that are declared there. -/
theorem names_of_finds {rules : List (List Text)} {declarations : List (List (List Text))}
    (h : List.Forall₂ (fun rule found => Finds declarationPattern (rule.getD 4 []) found) rules
      declarations) :
    declarations.flatten.map (·.headD []) = (rules.map (·.getD 4 [])).flatMap declaredNames := by
  induction h with
  | nil => rfl
  | @cons rule found rules declarations hfound _ ih =>
    obtain ⟨found', hfound', hnames⟩ := finds_declarations (rule.getD 4 [])
    rw [List.flatten_cons, List.map_append, ih, hfound.unique hfound', hnames]
    rfl

/-- Detection reports what the patterns make of a sheet, and they make nothing else of it. -/
theorem detects_iff {keywords : KeywordSet} {mappings : List Mapping} {css : Text}
    {reported : List Text} :
    Detects keywords mappings css reported ↔ reported = detectCustom keywords mappings css := by
  obtain ⟨rules, hrules, hbodies⟩ := finds_rules css
  rw [detectCustom_eq, ← hbodies]
  constructor
  · rintro ⟨rules', declarations, hrules', hdeclarations, rfl⟩
    rw [names_of_finds hdeclarations, hrules.unique hrules']
  · rintro rfl
    choose found hfound _ using fun rule : List Text => finds_declarations (rule.getD 4 [])
    have hdeclarations : List.Forall₂
        (fun rule found => Finds declarationPattern (rule.getD 4 []) found) rules
          (rules.map found) :=
      List.forall₂_map_right_iff.mpr (List.forall₂_same.mpr fun rule _ => hfound rule)
    exact ⟨rules, rules.map found, hrules, hdeclarations, by rw [names_of_finds hdeclarations]⟩

end DesignTokens
