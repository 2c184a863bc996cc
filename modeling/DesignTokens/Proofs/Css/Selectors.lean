import DesignTokens.Proofs.Css.Expanding
import DesignTokens.Proofs.Css.FlatSheets

/-!
Expansion and selectors. A sheet of flat rules is told apart by its braces: a selector, a body, and
so on. Expansion does not look at braces. A body stays a body whatever is expanded in it, as a
declaration ends at the closing brace at the latest; but a selector can hold a name in front of a
colon, and then the declaration that is read runs into the body:

    .card:hover { color: red; }      card ─▶ left, right
     └────────┬─────────────┘
    .left: hover { color: red; right: hover { color: red; }

So selectors stay as they are where none of them holds a mapped name in front of a colon
(`foldl_expandMapping`), and one that does is rewritten.
-/

namespace DesignTokens

/-- What is returned for the sheet is a flat sheet with the same selectors. -/
def FlatSheet.SelectorsStay (mappings : List Mapping) (s : FlatSheet) : Prop :=
  ∃ after : FlatSheet, after.Flat ∧ after.selectors = s.selectors ∧
    expandCustom mappings s.text = after.text

/-- A text begins with a name, a colon and what a value can begin with. -/
def opensDeclaration (name t : Text) : Bool :=
  (Text.dropHead? name t).any fun rest =>
    match Text.trimStart rest with
    | ':' :: more => more.head?.all inValue
    | _ => false

/-- Whether a declaration of a name begins somewhere in a selector, be it at its start or behind a
character that no name holds; the flag says so of the place where the text begins. -/
def mentions (name : Text) : Bool → Text → Bool
  | _, [] => false
  | free, c :: rest =>
    (free && opensDeclaration name (c :: rest)) || mentions name (!isNameChar c) rest

theorem opensDeclaration_iff {name t : Text} :
    opensDeclaration name t ↔ ∃ gap more, t = name ++ (gap ++ ':' :: more) ∧
      (∀ c ∈ gap, isBlank c) ∧ ∀ c ∈ more.head?, inValue c := by
  rw [opensDeclaration, Option.any_eq_true]
  simp only [dropHead?_eq_some_iff]
  constructor
  · rintro ⟨rest, rfl, h⟩
    split at h
    · next more hcolon =>
      obtain ⟨gap, rfl, hgap⟩ := trimStart_eq_colon_iff.mp hcolon
      exact ⟨gap, more, rfl, hgap, fun c hc => (Option.all_eq_true _ _).mp h c hc⟩
    · cases h
  · rintro ⟨gap, more, rfl, hgap, hmore⟩
    refine ⟨_, rfl, ?_⟩
    rw [trimStart_eq_colon_iff.mpr ⟨gap, rfl, hgap⟩]
    exact (Option.all_eq_true _ _).mpr hmore

/-- In front of an opening brace, a declaration is read where one begins. -/
theorem opensDeclaration_of_read {name t rest value behind : Text} {ending : Char}
    (hname : IsPropertyName name)
    (h : readDeclaration? name (t ++ '{' :: rest) = some (value, ending, behind)) :
    opensDeclaration name t := by
  obtain ⟨gap, more, raw, rfl, hgap, hne, hraw, -, -, hmore⟩ :=
    exists_of_readDeclaration? hname divides_opening h
  refine opensDeclaration_iff.mpr ⟨gap, more, rfl, hgap, fun c hc => ?_⟩
  obtain ⟨d, raw, rfl⟩ := List.exists_cons_of_ne_nil hne
  obtain ⟨more, rfl⟩ := List.head?_eq_some_iff.mp hc
  rw [← (List.cons.inj hmore).1]
  exact hraw d List.mem_cons_self

theorem opensDeclaration_of_not_mentions {name t : Text} (h : mentions name true t = false) :
    opensDeclaration name t = false := by
  cases t with
  | nil =>
    refine Bool.eq_false_iff.mpr fun hopens => ?_
    obtain ⟨gap, more, hnil, -⟩ := opensDeclaration_iff.mp hopens
    simp at hnil
  | cons c rest =>
    rw [mentions, Bool.true_and, Bool.or_eq_false_iff] at h
    exact h.1

theorem mentions_of_append {name before after : Text} {c : Char} {free : Bool}
    (h : mentions name free (before ++ c :: after) = false) :
    mentions name (!isNameChar c) after = false := by
  induction before generalizing free with
  | nil => exact (Bool.or_eq_false_iff.mp h).2
  | cons d before ih => exact ih (Bool.or_eq_false_iff.mp h).2

/-! ### One pass over a rule -/

section Pass

variable {m : Mapping}

theorem readDeclaration?_of_not_opens {t : Text} (hname : IsPropertyName m.name)
    (h : opensDeclaration m.name t = false) (rest : Text) :
    readDeclaration? m.name (t ++ '{' :: rest) = none := by
  refine Option.eq_none_iff_forall_ne_some.mpr fun ⟨value, ending, behind⟩ hread => ?_
  rw [opensDeclaration_of_read hname hread] at h
  cases h

/-- A selector that does not mention the name is passed over. -/
theorem expandRest_selector {selector : Text} (hname : IsPropertyName m.name)
    (h : mentions m.name true selector = false) (rest : Text) :
    expandRest m (selector ++ '{' :: rest) = selector ++ expandRest m ('{' :: rest) := by
  refine expandRest_append fun before c after heq => ?_
  subst heq
  have hafter := mentions_of_append h
  cases hc : isNameChar c with
  | true => exact .inl rfl
  | false =>
    rw [hc] at hafter
    exact .inr (readDeclaration?_of_not_opens hname (opensDeclaration_of_not_mentions hafter) rest)

/-- Spread values hold no braces but the one that ends them. -/
theorem braceless_spread (hm : m.NamesProperties) {value : Text} (hvalue : value.Braceless) :
    (Text.join "; " (m.targets.map fun target => target ++ ": " ++ value)).Braceless := by
  refine Text.braceless_join (by decide) fun p hp => ?_
  obtain ⟨target, htarget, rfl⟩ := List.mem_map.mp hp
  have hname : target.Braceless := fun c hc =>
    isBrace_of_isNameChar ((hm.targets target htarget).nameChars c hc)
  exact Text.braceless_append.mpr ⟨Text.braceless_append.mpr ⟨hname, by decide⟩, hvalue⟩

/-- What follows a body is gone over from the closing brace on. -/
def StaysBody (m : Mapping) (rest body : Text) : Prop :=
  ∃ after : Text, after.Braceless ∧
    expandRest m (body ++ '}' :: rest) = after ++ '}' :: expandRest m rest

/-- If that holds of shorter bodies, it holds behind every character. -/
theorem exists_body_of_shorter (hm : m.NamesProperties) {c : Char} {body rest : Text}
    (hbody : body.Braceless)
    (hshorter : ∀ b : Text, b.length ≤ body.length → b.Braceless → StaysBody m rest b) :
    ∃ after : Text, after.Braceless ∧
      expandRest m (c :: (body ++ '}' :: rest)) = c :: (after ++ '}' :: expandRest m rest) := by
  by_cases hskip : isNameChar c ∨ readDeclaration? m.name (body ++ '}' :: rest) = none
  · obtain ⟨after, hafter, heq⟩ := hshorter body le_rfl hbody
    exact ⟨after, hafter, by rw [expandRest_skip hskip, heq]⟩
  · -- the declaration ends in the body or with it
    obtain ⟨hc, hread⟩ := not_or.mp hskip
    obtain ⟨⟨value, stop, behind⟩, hread⟩ := Option.ne_none_iff_exists'.mp hread
    obtain ⟨gap, more, raw, rfl, -, -, hraw, hstop, rfl, hmore⟩ :=
      exists_of_readDeclaration? hm.name (divides_of_inValue (by decide)) hread
    have hclosing : '}' ∉ raw := fun hmem => absurd (hraw '}' hmem) (by decide)
    obtain ⟨more, rfl, hbehind⟩ := exists_of_append_eq hclosing hmore
    simp only [Text.braceless_append, Text.braceless_cons] at hbody
    obtain ⟨-, -, -, hrawBraceless, hmoreBraceless⟩ := hbody
    have hspread := braceless_spread hm fun c hc => hrawBraceless c (mem_of_mem_trim hc)
    rw [expandRest_found (Bool.eq_false_iff.mpr hc) hread, spreadValue]
    cases more with
    | nil =>
      obtain ⟨rfl, rfl⟩ := List.cons.inj hbehind
      exact ⟨_, hspread, by simp⟩
    | cons d more =>
      rw [List.cons_append] at hbehind
      obtain ⟨rfl, rfl⟩ := List.cons.inj hbehind
      obtain ⟨hd, hmoreBraceless⟩ := Text.braceless_cons.mp hmoreBraceless
      obtain ⟨after, hafter, heq⟩ := hshorter more (by simp; omega) hmoreBraceless
      refine ⟨_ ++ stop :: after, Text.braceless_append.mpr ⟨hspread,
        Text.braceless_cons.mpr ⟨hd, hafter⟩⟩, ?_⟩
      rw [heq]
      simp

/-- A body stays a body, and what follows it is gone over as if nothing stood in front. -/
theorem staysBody (hm : m.NamesProperties) {rest : Text}
    (hrest : readDeclaration? m.name rest = none) {body : Text} (hbody : body.Braceless) :
    StaysBody m rest body := by
  induction hlength : body.length using Nat.strongRecOn generalizing body with
  | ind n ih =>
    cases body with
    | nil => exact ⟨[], List.forall_mem_nil _, expandRest_skip (.inr hrest)⟩
    | cons c body =>
      obtain ⟨hc, hbody⟩ := Text.braceless_cons.mp hbody
      rw [List.length_cons] at hlength
      obtain ⟨after, hafter, heq⟩ := exists_body_of_shorter hm hbody fun b hlength hb =>
        ih b.length (by omega) hb rfl
      exact ⟨c :: after, Text.braceless_cons.mpr ⟨hc, hafter⟩, heq⟩

/-- A rule whose selector does not mention the name stays a rule with that selector. -/
theorem expandRest_rule (hm : m.NamesProperties) {r : FlatRule} (hr : r.Flat)
    (hselector : mentions m.name true r.selector = false) {rest : Text}
    (hrest : readDeclaration? m.name rest = none) :
    ∃ body : Text, body.Braceless ∧
      expandRest m (r.text ++ rest) = FlatRule.text ⟨r.selector, body⟩ ++ expandRest m rest := by
  obtain ⟨body, hbody, heq⟩ := exists_body_of_shorter (c := '{') hm hr.body fun b _ hb =>
    staysBody hm hrest hb
  refine ⟨body, hbody, ?_⟩
  rw [FlatRule.text_append, expandRest_selector hm.name hselector, heq, FlatRule.text_append]

/-- No declaration begins where a rule begins, nor behind the last one. -/
theorem readDeclaration?_rules (hname : IsPropertyName m.name) {rules : List FlatRule}
    (hselectors : ∀ r ∈ rules, mentions m.name true r.selector = false) {tail : Text}
    (htail : ∀ c ∈ tail, isBlank c) :
    readDeclaration? m.name (FlatRule.textOf rules ++ tail) = none := by
  cases rules with
  | nil => exact readDeclaration?_of_no_colon (no_colon_of_blank htail)
  | cons r rules =>
    have hr := opensDeclaration_of_not_mentions (hselectors r List.mem_cons_self)
    rw [FlatRule.textOf_cons, FlatRule.text, List.append_assoc, List.append_assoc]
    exact readDeclaration?_of_not_opens hname hr _

/-- Rules whose selectors do not mention the name stay rules with these selectors. -/
theorem expandRest_rules (hm : m.NamesProperties) {rules : List FlatRule}
    (hrules : ∀ r ∈ rules, r.Flat)
    (hselectors : ∀ r ∈ rules, mentions m.name true r.selector = false) {tail : Text}
    (htail : ∀ c ∈ tail, isBlank c) :
    ∃ after : List FlatRule, (∀ r ∈ after, r.Flat) ∧
      after.map FlatRule.selector = rules.map FlatRule.selector ∧
      expandRest m (FlatRule.textOf rules ++ tail) = FlatRule.textOf after ++ tail := by
  induction rules with
  | nil =>
    exact ⟨[], List.forall_mem_nil _, rfl, expandRest_of_no_colon (no_colon_of_blank htail)⟩
  | cons r rules ih =>
    obtain ⟨hr, hrules⟩ := List.forall_mem_cons.mp hrules
    obtain ⟨hselector, hselectors⟩ := List.forall_mem_cons.mp hselectors
    obtain ⟨after, hafter, hsame, heq⟩ := ih hrules hselectors
    obtain ⟨body, hbody, hrule⟩ := expandRest_rule hm hr hselector
      (readDeclaration?_rules hm.name hselectors htail)
    refine ⟨⟨r.selector, body⟩ :: after,
      List.forall_mem_cons.mpr ⟨⟨hr.selector, hbody⟩, hafter⟩, congrArg (r.selector :: ·) hsame, ?_⟩
    rw [FlatRule.textOf_cons, List.append_assoc, hrule, heq, FlatRule.textOf_cons,
      List.append_assoc]

end Pass

/-! ### All passes -/

/-- Where no selector mentions a mapped name, the selectors stay as they are. -/
theorem foldl_expandMapping {mappings : List Mapping} (hms : ∀ m ∈ mappings, m.NamesProperties)
    {s : FlatSheet} (hs : s.Flat)
    (hselectors : ∀ m ∈ mappings, ∀ selector ∈ s.selectors,
      mentions m.name true selector = false) :
    ∃ after : FlatSheet, after.Flat ∧ after.selectors = s.selectors ∧
      mappings.foldl (fun t m => expandMapping m t) s.text = after.text := by
  induction mappings generalizing s with
  | nil => exact ⟨s, hs, rfl, rfl⟩
  | cons m mappings ih =>
    obtain ⟨hm, hms⟩ := List.forall_mem_cons.mp hms
    obtain ⟨hselector, hselectors⟩ := List.forall_mem_cons.mp hselectors
    have hrules : ∀ r ∈ s.rules, mentions m.name true r.selector = false := fun r hr =>
      hselector r.selector (List.mem_map_of_mem hr)
    obtain ⟨rules, hflat, hsame, heq⟩ := expandRest_rules hm hs.rules hrules hs.tail
    have hpass : expandMapping m s.text = FlatSheet.text ⟨rules, s.tail⟩ :=
      (expandMapping_of_none (readDeclaration?_rules hm.name hrules hs.tail)).trans heq
    rw [← show FlatSheet.selectors ⟨rules, s.tail⟩ = s.selectors from hsame] at hselectors ⊢
    rw [List.foldl_cons, hpass]
    exact ih hms ⟨hflat, hs.tail⟩ hselectors

/-! ### Selectors that are rewritten -/

section Rewriting

variable {m : Mapping}

/-- The first target of a mapping stands in front of everything that is spread. -/
theorem exists_spreadValue (hmapped : m.isMapped) (value : Text) (stop : Char) :
    ∃ target ∈ m.targets, ∃ more,
      spreadValue m.targets value stop = target ++ ':' :: ' ' :: more := by
  obtain ⟨target, targets, heq⟩ := List.exists_cons_of_ne_nil (Mapping.targets_ne_nil hmapped)
  refine ⟨target, heq ▸ List.mem_cons_self, ?_⟩
  rw [heq, spreadValue, List.map_cons]
  cases targets with
  | nil => exact ⟨value ++ [stop], by simp [Text.join]⟩
  | cons next targets => exact ⟨_, by rw [List.map_cons, Text.join_cons_cons]; simp; rfl⟩

/-- In front of a rule's braces, a declaration is read wherever one begins. -/
theorem exists_read_of_opens {t : Text} (h : opensDeclaration m.name t) (body rest : Text) :
    ∃ found, readDeclaration? m.name (t ++ '{' :: (body ++ '}' :: rest)) = some found := by
  obtain ⟨gap, more, rfl, hgap, hmore⟩ := opensDeclaration_iff.mp h
  obtain ⟨raw, behind, hsplit, hraw, hbehind⟩ :=
    exists_run inValue (more ++ '{' :: (body ++ '}' :: rest))
  have hne : raw ≠ [] := by
    rintro rfl
    rw [List.nil_append] at hsplit
    rw [← hsplit] at hbehind
    cases more with
    | nil => exact absurd (hbehind '{' rfl) (by decide)
    | cons c more => exact Bool.eq_false_iff.mp (hbehind c rfl) (hmore c rfl)
  cases behind with
  | nil =>
    have hmem : '}' ∈ raw := by
      rw [List.append_nil] at hsplit
      rw [← hsplit]
      simp
    exact absurd (hraw '}' hmem) (by decide)
  | cons stop behind =>
    refine ⟨(Text.trim raw, stop, behind), readDeclaration?_eq_some_iff.mpr
      ⟨gap, raw, ?_, hgap, hne, hraw, hbehind stop rfl, rfl⟩⟩
    rw [← hsplit]
    simp

/-- In a selector that mentions the name, the first declaration that begins there is spread. -/
theorem exists_spread_of_mentions {run : Text} {c : Char} (body rest : Text)
    (hname : IsPropertyName m.name) (h : mentions m.name (!isNameChar c) run) :
    ∃ before after value stop more, run = before ++ after ∧ opensDeclaration m.name after ∧
      expandRest m (c :: (run ++ '{' :: (body ++ '}' :: rest))) =
        c :: (before ++ (spreadValue m.targets value stop ++ more)) := by
  induction run generalizing c with
  | nil => cases h
  | cons d run ih =>
    by_cases hskip : isNameChar c ∨
        readDeclaration? m.name ((d :: run) ++ '{' :: (body ++ '}' :: rest)) = none
    · have hlater : mentions m.name (!isNameChar d) run := by
        rw [mentions, Bool.or_eq_true_iff, Bool.and_eq_true_iff] at h
        refine h.resolve_left fun ⟨hfree, hopens⟩ => ?_
        rcases hskip with hc | hnone
        · rw [hc] at hfree
          cases hfree
        · obtain ⟨found, hfound⟩ := exists_read_of_opens hopens body rest
          rw [hnone] at hfound
          cases hfound
      obtain ⟨before, after, value, stop, more, rfl, hopens, heq⟩ := ih hlater
      refine ⟨d :: before, after, value, stop, more, rfl, hopens, ?_⟩
      rw [expandRest_skip hskip, List.cons_append, heq]
      rfl
    · obtain ⟨hc, hread⟩ := not_or.mp hskip
      obtain ⟨⟨value, stop, behind⟩, hread⟩ := Option.ne_none_iff_exists'.mp hread
      exact ⟨[], d :: run, value, stop, expandRest m behind, rfl,
        opensDeclaration_of_read hname hread,
        expandRest_found (Bool.eq_false_iff.mpr hc) hread⟩

theorem expandMapping_of_mentions {selector : Text} (body rest : Text)
    (hname : IsPropertyName m.name) (h : mentions m.name true selector) :
    ∃ before after value stop more, selector = before ++ after ∧ opensDeclaration m.name after ∧
      expandMapping m (selector ++ '{' :: (body ++ '}' :: rest)) =
        before ++ (spreadValue m.targets value stop ++ more) := by
  have hfree : (!isNameChar '{') = true := by decide
  obtain ⟨before, after, value, stop, more, hsplit, hopens, heq⟩ :=
    exists_spread_of_mentions body rest hname (hfree.symm ▸ h)
  rw [expandRest_cons_eq (by decide)] at heq
  exact ⟨before, after, value, stop, more, hsplit, hopens, (List.cons.inj heq).2⟩

/-- A sheet begins with its first selector and a brace. -/
theorem exists_text_of_selectors {s : FlatSheet} {selector : Text} {selectors : List Text}
    (h : s.selectors = selector :: selectors) : ∃ more, s.text = selector ++ '{' :: more := by
  obtain ⟨r, rules, hrules, rfl, -⟩ := List.map_eq_cons_iff.mp h
  refine ⟨r.body ++ '}' :: (FlatRule.textOf rules ++ s.tail), ?_⟩
  rw [FlatSheet.text, hrules, FlatRule.textOf_cons, FlatRule.text]
  simp

/-- A selector that mentions the name is lost, unless the name is put in its own place. -/
theorem not_selectorsStay_of_mentions (hm : m.NamesProperties) (hmapped : m.isMapped)
    (hself : m.name ∉ m.targets) {r : FlatRule} (h : mentions m.name true r.selector) :
    ¬FlatSheet.SelectorsStay [m] ⟨[r], []⟩ := by
  rintro ⟨after, -, hsame, heq⟩
  obtain ⟨behind, hafter⟩ := exists_text_of_selectors hsame
  have htext : FlatSheet.text ⟨[r], []⟩ = r.selector ++ '{' :: (r.body ++ '}' :: []) := by
    simp [FlatSheet.text, FlatRule.textOf, FlatRule.text]
  have hpass : expandCustom [m] (FlatSheet.text ⟨[r], []⟩) =
      expandMapping m (FlatSheet.text ⟨[r], []⟩) := by
    rw [expandCustom, List.filter_cons_of_pos hmapped]
    rfl
  obtain ⟨before, rest, value, stop, more, hsplit, hopens, hread⟩ :=
    expandMapping_of_mentions r.body [] hm.name h
  obtain ⟨gap, colon, rfl, hgap, -⟩ := opensDeclaration_iff.mp hopens
  obtain ⟨target, htarget, spread, hspread⟩ := exists_spreadValue hmapped value stop
  -- in front of the declaration both texts are the same, so the names are, too
  rw [hpass, htext, hread, hafter, hsplit, hspread, List.append_assoc, List.append_assoc,
    List.append_cancel_left_eq] at heq
  rw [List.append_assoc, List.append_assoc, List.cons_append] at heq
  obtain ⟨rfl, -⟩ := eq_of_runs (hm.targets target htarget).nameChars hm.name.nameChars
    (stop_cons (by decide) _) (stop_gap hgap _) heq
  exact hself htarget

/-- A selector begins with a dot, a name, a colon and a blank. -/
def SpacedColon (t : Text) : Prop :=
  ∃ word more, IsPropertyName word ∧ t = '.' :: (word ++ ':' :: ' ' :: more)

theorem spacedColon_of_spread (hm : m.NamesProperties) (hmapped : m.isMapped) {rest : Text}
    {found : Text × Char × Text} (hread : readDeclaration? m.name rest = some found) :
    SpacedColon (expandRest m ('.' :: rest)) := by
  obtain ⟨value, stop, behind⟩ := found
  obtain ⟨target, htarget, more, hspread⟩ := exists_spreadValue hmapped value stop
  refine ⟨target, more ++ expandRest m behind, hm.targets target htarget, ?_⟩
  rw [expandRest_found (by decide) hread, hspread]
  simp

/-- A pass writes a colon and a blank behind every name that it puts there, and leaves those that it
does not replace. -/
theorem spacedColon_expandMapping (hm : m.NamesProperties) (hmapped : m.isMapped) {t : Text}
    (ht : SpacedColon t) : SpacedColon (expandMapping m t) := by
  obtain ⟨word, more, hword, rfl⟩ := ht
  rw [expandMapping_of_none (readDeclaration?_cons hm.name (by decide) _)]
  cases hread : readDeclaration? m.name (word ++ ':' :: ' ' :: more) with
  | some found => exact spacedColon_of_spread hm hmapped hread
  | none =>
    have hcolon : readDeclaration? m.name (' ' :: more) = none :=
      readDeclaration?_cons hm.name (by decide) more
    have hblank : ∃ rest, expandRest m (' ' :: more) = ' ' :: rest := by
      cases hmore : readDeclaration? m.name more with
      | none => exact ⟨_, expandRest_skip (.inr hmore)⟩
      | some found => exact ⟨_, expandRest_found (by decide) hmore⟩
    obtain ⟨rest, hblank⟩ := hblank
    refine ⟨word, rest, hword, ?_⟩
    rw [expandRest_skip (.inr hread), expandRest_nameChars hword.nameChars,
      expandRest_skip (.inr hcolon), hblank]

theorem spacedColon_foldl {mappings : List Mapping}
    (hms : ∀ m ∈ mappings, m.NamesProperties ∧ m.isMapped) {t : Text} (ht : SpacedColon t) :
    SpacedColon (mappings.foldl (fun t m => expandMapping m t) t) := by
  induction mappings generalizing t with
  | nil => exact ht
  | cons m mappings ih =>
    obtain ⟨⟨hm, hmapped⟩, hms⟩ := List.forall_mem_cons.mp hms
    exact ih hms (spacedColon_expandMapping hm hmapped ht)

/-- A rule whose selector is a class of the name with a pseudo-class. -/
def hoverRule (name : Text) : FlatRule := ⟨'.' :: (name ++ ":hover"), []⟩

theorem flat_hoverRule {name : Text} (hname : IsPropertyName name) : (hoverRule name).Flat := by
  have hword : name.Braceless := fun c hc => isBrace_of_isNameChar (hname.nameChars c hc)
  exact ⟨Text.braceless_cons.mpr ⟨by decide, Text.braceless_append.mpr ⟨hword, by decide⟩⟩,
    List.forall_mem_nil _⟩

/-- If anything is mapped, the first name that is takes a selector with it. -/
theorem not_selectorsStay_hoverRule {mappings : List Mapping}
    (hms : ∀ m ∈ mappings, m.isMapped → m.NamesProperties) {later : List Mapping}
    (hfirst : mappings.filter Mapping.isMapped = m :: later) :
    ¬FlatSheet.SelectorsStay mappings ⟨[hoverRule m.name], []⟩ := by
  rintro ⟨after, -, hsame, heq⟩
  obtain ⟨behind, hafter⟩ := exists_text_of_selectors hsame
  have hall : ∀ k ∈ m :: later, k.NamesProperties ∧ k.isMapped := fun k hk => by
    obtain ⟨hmem, hmapped⟩ := List.mem_filter.mp (hfirst ▸ hk)
    exact ⟨hms k hmem hmapped, hmapped⟩
  obtain ⟨⟨hm, hmapped⟩, hlater⟩ := List.forall_mem_cons.mp hall
  have htext : FlatSheet.text ⟨[hoverRule m.name], []⟩ =
      '.' :: ((m.name ++ ":hover") ++ '{' :: ([] ++ '}' :: [])) := by
    simp [FlatSheet.text, FlatRule.textOf, FlatRule.text, hoverRule]
  have hopens : opensDeclaration m.name (m.name ++ ":hover") :=
    opensDeclaration_iff.mpr ⟨[], "hover", rfl, List.forall_mem_nil _, by rintro _ ⟨⟩; decide⟩
  obtain ⟨found, hread⟩ := exists_read_of_opens hopens [] []
  have hpass : SpacedColon (expandMapping m (FlatSheet.text ⟨[hoverRule m.name], []⟩)) := by
    rw [htext, expandMapping_of_none (readDeclaration?_cons hm.name (by decide) _)]
    exact spacedColon_of_spread hm hmapped hread
  obtain ⟨word, more, hword, hend⟩ := spacedColon_foldl hlater hpass
  have hselector : (hoverRule m.name).selector ++ '{' :: behind =
      '.' :: (m.name ++ ':' :: ("hover" ++ '{' :: behind)) := by
    simp [hoverRule]
  rw [expandCustom, hfirst, List.foldl_cons, hend, hafter, hselector] at heq
  -- what was put there has a blank where the selector goes on with a letter
  obtain ⟨-, hcolon⟩ := eq_of_runs hword.nameChars hm.name.nameChars (stop_cons (by decide) _)
    (stop_cons (by decide) _) (List.cons.inj heq).2
  cases hcolon

end Rewriting

/-! ### When selectors stay -/

/-- Selectors in which no mapped name begins a declaration stay as they are. For one mapping that
does not put its name back, and a rule that stands alone, no other selectors do; and if anything is
mapped, there are sheets whose selectors do not stay. -/
theorem selectors_stay_iff {mappings : List Mapping}
    (hms : ∀ m ∈ mappings, m.isMapped → m.NamesProperties) :
    (∀ s : FlatSheet, s.Flat →
      (∀ m ∈ mappings, m.isMapped → ∀ selector ∈ s.selectors,
        mentions m.name true selector = false) → s.SelectorsStay mappings) ∧
    (∀ m ∈ mappings, m.isMapped → m.name ∉ m.targets → ∀ r : FlatRule, r.Flat →
      (FlatSheet.SelectorsStay [m] ⟨[r], []⟩ ↔ mentions m.name true r.selector = false)) ∧
    ((∀ s : FlatSheet, s.Flat → s.SelectorsStay mappings) ↔
      ∀ m ∈ mappings, m.isMapped = false) := by
  have hstay : ∀ ks : List Mapping, (∀ m ∈ ks, m.isMapped → m.NamesProperties) →
      ∀ s : FlatSheet, s.Flat → (∀ m ∈ ks, m.isMapped → ∀ selector ∈ s.selectors,
        mentions m.name true selector = false) → s.SelectorsStay ks := by
    intro ks hks s hs hselectors
    refine foldl_expandMapping (fun m hm => ?_) hs fun m hm => ?_
    · obtain ⟨hm, hmapped⟩ := List.mem_filter.mp hm
      exact hks m hm hmapped
    · obtain ⟨hm, hmapped⟩ := List.mem_filter.mp hm
      exact hselectors m hm hmapped
  refine ⟨hstay mappings hms, fun m hm hmapped hself r hr => ⟨fun hstays => ?_, fun hfree => ?_⟩,
    fun hall => ?_, fun hnone s hs => ?_⟩
  · exact Bool.eq_false_iff.mpr fun hmentions =>
      not_selectorsStay_of_mentions (hms m hm hmapped) hmapped hself hmentions hstays
  · refine hstay [m] (List.forall_mem_singleton.mpr (hms m hm)) ⟨[r], []⟩
      ⟨List.forall_mem_singleton.mpr hr, List.forall_mem_nil _⟩ ?_
    exact List.forall_mem_singleton.mpr fun _ => List.forall_mem_singleton.mpr hfree
  · cases hfirst : mappings.filter Mapping.isMapped with
    | nil => exact fun m hm => Bool.eq_false_iff.mpr (List.filter_eq_nil_iff.mp hfirst m hm)
    | cons m later =>
      have hm : m ∈ mappings.filter Mapping.isMapped := hfirst ▸ List.mem_cons_self
      obtain ⟨hmem, hmapped⟩ := List.mem_filter.mp hm
      refine absurd (hall _ ⟨List.forall_mem_singleton.mpr ?_, List.forall_mem_nil _⟩)
        (not_selectorsStay_hoverRule hms hfirst)
      exact flat_hoverRule (hms m hmem hmapped).name
  · refine hstay mappings hms s hs fun m hm hmapped => ?_
    rw [hnone m hm] at hmapped
    cases hmapped

/-- Pseudo-classes of other classes, longer names in front of colons and the mapped name without a
colon do no harm. -/
theorem selectors_stay_of_cards :
    let mappings := [Mapping.of "card" ["left", "right"] none, Mapping.of "gap" [] none]
    let s : FlatSheet := ⟨[⟨".card > a:hover", "card: 1px;\n"⟩, ⟨"\n.my-card:hover::after ", ""⟩,
      ⟨".card .gap:hover", " color: red; card :2px "⟩], "\n"⟩
    (∀ m ∈ mappings, m.isMapped → m.NamesProperties) ∧ s.Flat ∧
      (∀ m ∈ mappings, m.isMapped → ∀ selector ∈ s.selectors,
        mentions m.name true selector = false) ∧ s.SelectorsStay mappings := by
  intro mappings s
  have hms : ∀ m ∈ mappings, m.isMapped → m.NamesProperties := by decide
  have hs : s.Flat := by decide
  have hfree : ∀ m ∈ mappings, m.isMapped → ∀ selector ∈ s.selectors,
      mentions m.name true selector = false := by decide
  exact ⟨hms, hs, hfree, (selectors_stay_iff hms).1 s hs hfree⟩

/-- A class that is named like a mapped name, with a pseudo-class: the rule is taken for a
declaration. -/
theorem hover_rule_is_rewritten :
    let mappings := [Mapping.of "card" ["left", "right"] none]
    let s : FlatSheet := ⟨[⟨".card:hover ", " color: red; "⟩], []⟩
    let after : Text := ".left: hover \x7b color: red; right: hover \x7b color: red; \x7d"
    (∀ m ∈ mappings, m.NamesProperties) ∧ s.Flat ∧ s.text = ".card:hover \x7b color: red; \x7d" ∧
      expandCustom mappings s.text = after ∧ ¬s.SelectorsStay mappings := by
  intro mappings s after
  have hexpanded : expandCustom mappings s.text = after := by decide
  refine ⟨by decide, by decide, by decide, hexpanded, fun ⟨sheet, _, hsame, heq⟩ => ?_⟩
  obtain ⟨more, htext⟩ := exists_text_of_selectors hsame
  rw [hexpanded, htext] at heq
  have hsecond : some 'l' = some 'c' := congrArg (fun t : Text => t[1]?) heq
  cases hsecond

end DesignTokens
