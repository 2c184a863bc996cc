import DesignTokens.Css.Scan
import DesignTokens.Proofs.Text.Blanks
import DesignTokens.Proofs.Text.Patterns

/-!
How the scanner goes over a style sheet. What has no braces only matters by whether there is any of
it: in front of an opening brace it makes the rule, and behind one it is the body (`ruleBodies` of a
rule and of what follows it, `bodiesFrom_rule`). In a body the scanner goes from name to name. The
fuel never runs out, so `declaredNames` has equations without it: a character that no name holds is
passed over, and behind a name there is a declaration or there is none, which is settled by what
follows the name (`declaredNames_name`).
-/

namespace DesignTokens

/-! ### Characters of names -/

theorem isNameChar_of_isBlank {c : Char} (h : isBlank c) : isNameChar c = false := by
  have hall : ∀ n ∈ blankCodes, isNameChar (Char.ofNat n) = false := by decide +kernel
  simpa only [Char.ofNat_toNat] using hall c.toNat (toNat_mem_blankCodes h)

/-- No name begins behind blanks where none begins without them. -/
theorem stop_blanks {gap rest : Text} (hgap : ∀ c ∈ gap, isBlank c)
    (hrest : ∀ c ∈ rest.head?, isNameChar c = false) :
    ∀ c ∈ (gap ++ rest).head?, isNameChar c = false := by
  cases gap with
  | nil => exact hrest
  | cons c gap => exact stop_cons (isNameChar_of_isBlank (hgap c List.mem_cons_self)) _

/-- A name ends where blanks and a colon follow. -/
theorem stop_gap {gap : Text} (hgap : ∀ c ∈ gap, isBlank c) (rest : Text) :
    ∀ c ∈ (gap ++ ':' :: rest).head?, isNameChar c = false :=
  stop_blanks hgap (stop_cons (by decide) rest)

/-- A property name as the scanner reads it: characters of names, and at least one. -/
structure IsPropertyName (name : Text) : Prop where
  nonempty : name ≠ []
  nameChars : ∀ c ∈ name, isNameChar c

instance : DecidablePred IsPropertyName := fun name =>
  decidable_of_iff (name ≠ [] ∧ name.all isNameChar)
    ⟨fun h => ⟨h.1, List.all_eq_true.mp h.2⟩, fun h => ⟨h.1, List.all_eq_true.mpr h.2⟩⟩

/-! ### Braces -/

/-- Whether a character is a brace. -/
def isBrace (c : Char) : Bool := c == '{' || c == '}'

theorem isBrace_iff {c : Char} : isBrace c ↔ c = '{' ∨ c = '}' := by
  simp [isBrace]

theorem isBrace_of_isBlank {c : Char} (h : isBlank c) : isBrace c = false := by
  refine Bool.eq_false_iff.mpr fun hbrace => ?_
  rcases isBrace_iff.mp hbrace with rfl | rfl
  · exact absurd h (by decide)
  · exact absurd h (by decide)

theorem isBrace_of_isNameChar {c : Char} (h : isNameChar c) : isBrace c = false := by
  refine Bool.eq_false_iff.mpr fun hbrace => ?_
  rcases isBrace_iff.mp hbrace with rfl | rfl
  · exact absurd h (by decide)
  · exact absurd h (by decide)

namespace Text

/-- The text holds no brace. -/
def Braceless (t : Text) : Prop := ∀ c ∈ t, isBrace c = false

-- by the characters of the text: the instance that is found first goes through all there are
instance : DecidablePred Braceless := fun t => List.decidableBAll (fun c => isBrace c = false) t

theorem braceless_append {a b : Text} : Braceless (a ++ b) ↔ Braceless a ∧ Braceless b :=
  List.forall_mem_append

theorem braceless_cons {c : Char} {t : Text} :
    Braceless (c :: t) ↔ isBrace c = false ∧ Braceless t :=
  List.forall_mem_cons

theorem braceless_join {sep : Text} (hsep : sep.Braceless) :
    ∀ {pieces : List Text}, (∀ p ∈ pieces, p.Braceless) → (join sep pieces).Braceless
  | [], _ => List.forall_mem_nil _
  | [p], h => h p (List.mem_singleton_self p)
  | p :: q :: rest, h => by
    obtain ⟨hp, hrest⟩ := List.forall_mem_cons.mp h
    rw [join_cons_cons, braceless_append, braceless_append]
    exact ⟨⟨hp, hsep⟩, braceless_join hsep hrest⟩

end Text

/-! ### Bodies -/

theorem bodiesFrom_cons {c : Char} (hc : isBrace c = false) (run : Bool) (body : Option Text)
    (rest : Text) : bodiesFrom run body (c :: rest) = bodiesFrom true (body.map (c :: ·)) rest := by
  rw [Bool.eq_false_iff, ne_eq, isBrace_iff, not_or] at hc
  rw [bodiesFrom]
  · exact hc.1
  · exact hc.2

/-- Text without braces is part of the body, if there is one, and of the run. -/
theorem bodiesFrom_append {t : Text} (ht : t.Braceless) (run : Bool) (body : Option Text)
    (rest : Text) :
    bodiesFrom run body (t ++ rest) =
      bodiesFrom (run || !t.isEmpty) (body.map (t.reverse ++ ·)) rest := by
  induction t generalizing run body with
  | nil => cases body <;> simp
  | cons c t ih =>
    obtain ⟨hc, ht⟩ := List.forall_mem_cons.mp ht
    rw [List.cons_append, bodiesFrom_cons hc, ih ht]
    cases body <;> simp

/-- A selector that is not empty and a body in braces are a rule, whatever follows. -/
theorem bodiesFrom_rule {selector body : Text} (hne : selector ≠ [])
    (hselector : selector.Braceless) (hbody : body.Braceless) (run : Bool) (rest : Text) :
    bodiesFrom run none (selector ++ '{' :: (body ++ '}' :: rest)) =
      Text.trimStart body :: bodiesFrom false none rest := by
  have hrun : (run || !selector.isEmpty) = true := by simp [hne]
  rw [bodiesFrom_append hselector, hrun]
  simp only [bodiesFrom, bodiesFrom_append hbody, Option.map_none, Option.map_some, if_true,
    List.append_nil, List.reverse_reverse]

/-! ### Declarations -/

theorem pastValue?_of_stop {value rest : Text} (hvalue : ∀ c ∈ value, (c != ';') = true)
    (hrest : ∀ c ∈ rest.head?, (c != ';') = false) :
    pastValue? (value ++ rest) = if value.isEmpty then none else some (rest.drop 1) := by
  rw [pastValue?, takeWhile_of_stop hvalue hrest, dropWhile_of_stop hvalue hrest]

theorem length_lt_of_pastValue? {t rest : Text} (h : pastValue? t = some rest) :
    rest.length < t.length := by
  obtain ⟨value, behind, rfl, hvalue, hbehind⟩ := exists_run (· != ';') t
  rw [pastValue?_of_stop hvalue hbehind] at h
  cases value with
  | nil => cases h
  | cons c value =>
    cases h
    rw [List.length_drop, List.length_append, List.length_cons]
    omega

theorem length_lt_of_pastDeclaration? {t rest : Text} (h : pastDeclaration? t = some rest) :
    rest.length < t.length := by
  unfold pastDeclaration? at h
  split at h
  · next behind hcolon =>
    have hbehind := length_lt_of_pastValue? h
    have hstart := (List.dropWhile_suffix (l := t) isBlank).length_le
    rw [Text.trimStart] at hcolon
    rw [hcolon, List.length_cons] at hstart
    omega
  · cases h

theorem declaredNamesFrom_name {c : Char} (hc : isNameChar c) (fuel : Nat) (rest : Text) :
    declaredNamesFrom (fuel + 1) (c :: rest) =
      match pastDeclaration? (rest.dropWhile isNameChar) with
      | some behind => (c :: rest.takeWhile isNameChar) :: declaredNamesFrom fuel behind
      | none => declaredNamesFrom fuel (rest.dropWhile isNameChar) :=
  if_pos hc

theorem declaredNamesFrom_other {c : Char} (hc : isNameChar c = false) (fuel : Nat)
    (rest : Text) : declaredNamesFrom (fuel + 1) (c :: rest) = declaredNamesFrom fuel rest :=
  if_neg (Bool.eq_false_iff.mp hc)

/-- Fuel for every character is enough: more of it changes nothing. -/
theorem declaredNamesFrom_congr {m n : Nat} {t : Text} (hm : t.length ≤ m) (hn : t.length ≤ n) :
    declaredNamesFrom m t = declaredNamesFrom n t := by
  induction m generalizing n t with
  | zero =>
    rw [List.length_eq_zero_iff.mp (Nat.le_zero.mp hm)]
    cases n <;> rfl
  | succ m ih =>
    cases t with
    | nil => cases n <;> rfl
    | cons c rest =>
      obtain ⟨n, rfl⟩ : ∃ k, n = k + 1 := ⟨n - 1, by simp at hn; omega⟩
      rw [List.length_cons, Nat.add_le_add_iff_right] at hm hn
      have hdrop := (List.dropWhile_suffix (l := rest) isNameChar).length_le
      cases hc : isNameChar c with
      | false =>
        rw [declaredNamesFrom_other hc, declaredNamesFrom_other hc]
        exact ih hm hn
      | true =>
        rw [declaredNamesFrom_name hc, declaredNamesFrom_name hc]
        cases hpast : pastDeclaration? (rest.dropWhile isNameChar) with
        | none => exact ih (hdrop.trans hm) (hdrop.trans hn)
        | some behind =>
          have hbehind := (length_lt_of_pastDeclaration? hpast).le.trans hdrop
          exact congrArg (_ :: ·) (ih (hbehind.trans hm) (hbehind.trans hn))

/-- A character that no name holds is passed over. -/
theorem declaredNames_cons {c : Char} (hc : isNameChar c = false) (rest : Text) :
    declaredNames (c :: rest) = declaredNames rest := by
  rw [declaredNames, List.length_cons, declaredNamesFrom_other hc]
  rfl

theorem declaredNames_append {t : Text} (ht : ∀ c ∈ t, isNameChar c = false) (rest : Text) :
    declaredNames (t ++ rest) = declaredNames rest := by
  induction t with
  | nil => rfl
  | cons c t ih =>
    obtain ⟨hc, ht⟩ := List.forall_mem_cons.mp ht
    rw [List.cons_append, declaredNames_cons hc, ih ht]

theorem declaredNames_trimStart (t : Text) :
    declaredNames (Text.trimStart t) = declaredNames t := by
  have hblank : ∀ c ∈ t.takeWhile isBlank, isNameChar c = false := fun c hc =>
    isNameChar_of_isBlank (List.mem_takeWhile_imp hc)
  rw [← declaredNames_append hblank, Text.trimStart, List.takeWhile_append_dropWhile]

/-- Behind a name that ends where it stands, all depends on whether there is a declaration. -/
theorem declaredNames_name {name rest : Text} (hname : IsPropertyName name)
    (hrest : ∀ c ∈ rest.head?, isNameChar c = false) :
    declaredNames (name ++ rest) =
      match pastDeclaration? rest with
      | some behind => name :: declaredNames behind
      | none => declaredNames rest := by
  obtain ⟨c, word, rfl⟩ := List.exists_cons_of_ne_nil hname.nonempty
  obtain ⟨hc, hword⟩ := List.forall_mem_cons.mp hname.nameChars
  have hle : rest.length ≤ (word ++ rest).length := by simp
  rw [declaredNames, List.cons_append, List.length_cons, declaredNamesFrom_name hc,
    takeWhile_of_stop hword hrest, dropWhile_of_stop hword hrest]
  cases hpast : pastDeclaration? rest with
  | none => exact declaredNamesFrom_congr hle le_rfl
  | some behind =>
    have hbehind := (length_lt_of_pastDeclaration? hpast).le.trans hle
    exact congrArg (_ :: ·) (declaredNamesFrom_congr hbehind le_rfl)

/-- What is declared is named by names. -/
theorem isPropertyName_of_mem_declaredNamesFrom {fuel : Nat} {t name : Text}
    (h : name ∈ declaredNamesFrom fuel t) : IsPropertyName name := by
  induction fuel generalizing t with
  | zero => exact absurd h List.not_mem_nil
  | succ fuel ih =>
    cases t with
    | nil => exact absurd h List.not_mem_nil
    | cons c rest =>
      cases hc : isNameChar c with
      | false =>
        rw [declaredNamesFrom_other hc] at h
        exact ih h
      | true =>
        rw [declaredNamesFrom_name hc] at h
        split at h
        · rcases List.mem_cons.mp h with rfl | h
          · exact ⟨List.cons_ne_nil _ _,
              List.forall_mem_cons.mpr ⟨hc, fun _ hd => List.mem_takeWhile_imp hd⟩⟩
          · exact ih h
        · exact ih h

/-- A declaration gives its name and nothing else, whatever follows its semicolon: a colon in the
value begins no other one. -/
theorem declaredNames_declaration_of_stop {name gap value rest : Text} (hname : IsPropertyName name)
    (hgap : ∀ c ∈ gap, isBlank c) (hne : value ≠ []) (hvalue : ';' ∉ value)
    (hrest : ∀ c ∈ rest.head?, c = ';') :
    declaredNames (name ++ (gap ++ ':' :: (value ++ rest))) =
      name :: declaredNames (rest.drop 1) := by
  have hall : ∀ c ∈ value, (c != ';') = true := fun c hc =>
    bne_iff_ne.mpr fun heq => hvalue (heq ▸ hc)
  have hstop : ∀ c ∈ rest.head?, (c != ';') = false := fun c hc => by
    rw [hrest c hc]
    rfl
  have hpast : pastDeclaration? (gap ++ ':' :: (value ++ rest)) = some (rest.drop 1) := by
    have hcolon : Text.trimStart (gap ++ ':' :: (value ++ rest)) = ':' :: (value ++ rest) :=
      dropWhile_of_stop hgap (stop_cons (by decide) _)
    have hempty : ¬value.isEmpty := mt List.isEmpty_iff.mp hne
    rw [pastDeclaration?, hcolon]
    exact (pastValue?_of_stop hall hstop).trans (if_neg hempty)
  rw [declaredNames_name hname (stop_gap hgap _), hpast]

theorem declaredNames_declaration {name gap value : Text} (hname : IsPropertyName name)
    (hgap : ∀ c ∈ gap, isBlank c) (hne : value ≠ []) (hvalue : ';' ∉ value) (rest : Text) :
    declaredNames (name ++ (gap ++ ':' :: (value ++ ';' :: rest))) =
      name :: declaredNames rest :=
  declaredNames_declaration_of_stop hname hgap hne hvalue fun _ hc => (Option.some.inj hc).symm

/-! ### Reports -/

/-- Detection knows nothing of the name: it is no keyword, no custom property and, as it is spelled,
the name of no mapping. -/
structure Unlisted (keywords : KeywordSet) (mappings : List Mapping) (name : Text) : Prop where
  no_keyword : keywords.contains name = false
  no_custom : marker.isPrefixOf name = false
  no_mapping : ∀ m ∈ mappings, m.name ≠ name

instance (keywords : KeywordSet) (mappings : List Mapping) :
    DecidablePred (Unlisted keywords mappings) := fun name =>
  decidable_of_iff
    (keywords.contains name = false ∧ marker.isPrefixOf name = false ∧
      ∀ m ∈ mappings, m.name ≠ name)
    ⟨fun ⟨hkeyword, hcustom, hmapping⟩ => ⟨hkeyword, hcustom, hmapping⟩,
      fun h => ⟨h.no_keyword, h.no_custom, h.no_mapping⟩⟩

theorem detectCustom_eq (keywords : KeywordSet) (mappings : List Mapping) (css : Text) :
    detectCustom keywords mappings css =
      (((ruleBodies css).flatMap declaredNames).filter
        fun name => Unlisted keywords mappings name).eraseDups := by
  rw [detectCustom]
  refine congrArg List.eraseDups (List.filter_congr fun name _ => Bool.eq_iff_iff.mpr ?_)
  have hmapping : (!mappings.any (·.name == name)) = true ↔ ∀ m ∈ mappings, m.name ≠ name := by
    simp
  rw [Bool.and_eq_true, Bool.and_eq_true, Bool.not_eq_true', Bool.not_eq_true', hmapping,
    decide_eq_true_iff]
  exact ⟨fun ⟨⟨hkeyword, hcustom⟩, hmapping⟩ => ⟨hkeyword, hcustom, hmapping⟩,
    fun h => ⟨⟨h.no_keyword, h.no_custom⟩, h.no_mapping⟩⟩

theorem mem_detectCustom {keywords : KeywordSet} {mappings : List Mapping} {css name : Text} :
    name ∈ detectCustom keywords mappings css ↔
      name ∈ (ruleBodies css).flatMap declaredNames ∧ Unlisted keywords mappings name := by
  rw [detectCustom_eq, List.mem_eraseDups, List.mem_filter, decide_eq_true_iff]

end DesignTokens
