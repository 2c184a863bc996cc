import DesignTokens.Proofs.Css.ClassReferences
import DesignTokens.Proofs.Expression.Grammar

/-!
References among the values of tokens. A text is a reference exactly when it is a path of keys in
braces, the keys not empty and free of points and closing braces, and there is one such path then.
It is read in two places, as its keys and as the text between the braces, and there is a rule of the
grammar for each: rule by rule and reading by reading, all four agree.

    "{Font.Line Height}"  ── keys ──▶  [Font, Line Height]
            │                               ║ joined by points, split at points
            └────── between braces ──▶  Font.Line Height
-/

namespace DesignTokens

/-- The keys with points between them, in braces. -/
def braced (path : List Text) : Text := "\x7b" ++ Text.join ['.'] path ++ "\x7d"

/-- A path that a reference can have. -/
def IsReferencePath (path : List Text) : Prop := path ≠ [] ∧ ∀ key ∈ path, IsReferenceKey key

theorem IsReferencePath.splitOn_join {path : List Text} (h : IsReferencePath path) :
    Text.splitOn '.' (Text.join ['.'] path) = path :=
  Text.splitOn_join h.1 fun key hkey => (h.2 key hkey).no_point

/-- What stands between the braces of a reference is a path, its keys joined by points. -/
theorem exists_path_of_referenceBody? {t body : Text} (h : referenceBody? t = some body) :
    ∃ path, IsReferencePath path ∧ t = braced path ∧ body = Text.join ['.'] path := by
  unfold referenceBody? at h
  split at h
  · next rest =>
    split at h
    · next before hcut =>
      split at h
      · next hfull =>
        obtain rfl := Option.some.inj h
        obtain ⟨rfl, hbrace⟩ := Text.eq_of_cut? hcut
        refine ⟨Text.splitOn '.' before, ⟨Text.splitOn_ne_nil '.' before, ?_⟩, ?_, ?_⟩
        · intro key hkey
          refine ⟨?_, fun hpoint => ?_, fun hclose => hbrace ?_⟩
          · simpa using List.all_eq_true.mp hfull key hkey
          · exact (Text.of_mem_splitOn hkey hpoint).2 rfl
          · exact (Text.of_mem_splitOn hkey hclose).1
        · rw [braced, Text.join_splitOn]
          rfl
        · exact (Text.join_splitOn '.' before).symm
      · cases h
    · cases h
  · cases h

theorem referenceBody?_eq_some_iff {t body : Text} : referenceBody? t = some body ↔
    ∃ path, IsReferencePath path ∧ t = braced path ∧ body = Text.join ['.'] path := by
  constructor
  · exact exists_path_of_referenceBody?
  · rintro ⟨path, hpath, rfl, rfl⟩
    exact referenceBody?_braced hpath.1 hpath.2

/-- A text is read as a path just if it is that path in braces. -/
theorem reference?_eq_some_iff {t : Text} {path : List Text} :
    reference? t = some path ↔ IsReferencePath path ∧ t = braced path := by
  unfold reference?
  constructor
  · intro h
    obtain ⟨body, hbody, rfl⟩ := Option.map_eq_some_iff.mp h
    obtain ⟨keys, hkeys, ht, rfl⟩ := exists_path_of_referenceBody? hbody
    rw [hkeys.splitOn_join]
    exact ⟨hkeys, ht⟩
  · rintro ⟨hpath, rfl⟩
    rw [braced, referenceBody?_braced hpath.1 hpath.2, Option.map_some, hpath.splitOn_join]

theorem Expression.ofText_eq_reference_iff {t : Text} {path : List Text} :
    ofText t = .reference path ↔ reference? t = some path := by
  unfold ofText
  cases reference? t with
  | some keys => simp
  | none => cases Quantity.read? t <;> simp

/-! ### The rules for references -/

namespace Grammar

open DesignTokens.Parser

/-- The characters of segments. -/
def inSegment (c : Char) : Bool := c ≠ '}' && c ≠ '.'

theorem isReferenceKey_iff {key : Text} :
    IsReferenceKey key ↔ key ≠ [] ∧ ∀ c ∈ key, inSegment c := by
  constructor
  · rintro ⟨hne, hpoint, hbrace⟩
    refine ⟨hne, fun c hc => ?_⟩
    have hcpoint : c ≠ '.' := fun heq => hpoint (heq ▸ hc)
    have hcbrace : c ≠ '}' := fun heq => hbrace (heq ▸ hc)
    simp [inSegment, hcpoint, hcbrace]
  · rintro ⟨hne, hall⟩
    exact ⟨hne, fun h => absurd (hall _ h) (by decide), fun h => absurd (hall _ h) (by decide)⟩

theorem segmentChar_eq : segmentChar = charOf inSegment := by
  funext t
  show segmentChar.run t = (charOf inSegment).run t
  simp only [segmentChar, run_bind, run_absent]
  cases t with
  | nil => rfl
  | cons c t =>
    by_cases hbrace : c = '}'
    · simp [hbrace, inSegment, run_char_cons, run_charOf_cons]
    · by_cases hpoint : c = '.'
      · simp [hpoint, inSegment, run_char_cons, run_charOf_cons]
      · -- neither is next, so any character is taken
        have hany : anyChar.run (c :: t) = some (c, t) := rfl
        simp [hbrace, hpoint, inSegment, run_char_cons, run_charOf_cons, hany]

theorem run_segment (t : Text) : segment.run t =
    if t.takeWhile inSegment = [] then none
    else some (t.takeWhile inSegment, t.dropWhile inSegment) := by
  rw [segment, segmentChar_eq, run_captured_atLeastOne_charOf]

/-- A point and a key behind it are taken; nothing else is. -/
theorem run_point_segment_cons (c : Char) (t : Text) : (char '.' *> segment).run (c :: t) =
    if c = '.' then segment.run t else none := by
  show ((char '.').run (c :: t)).bind (fun r => segment.run r.2) = _
  rw [run_char_cons]
  split_ifs <;> rfl

/-- What is taken behind a point is a key. -/
theorem of_run_point_segment {t rest key : Text}
    (h : (char '.' *> segment).run t = some (key, rest)) :
    IsReferenceKey key ∧ t = '.' :: key ++ rest := by
  cases t with
  | nil => cases h
  | cons c t =>
    rw [run_point_segment_cons, run_segment] at h
    split_ifs at h with hpoint hnone
    obtain ⟨rfl, rfl⟩ : t.takeWhile inSegment = key ∧ t.dropWhile inSegment = rest := by
      simpa using h
    refine ⟨isReferenceKey_iff.mpr ⟨hnone, fun c hc => List.mem_takeWhile_imp hc⟩, ?_⟩
    rw [hpoint, List.cons_append, List.takeWhile_append_dropWhile]

theorem join_cons (key : Text) (keys : List Text) :
    Text.join ['.'] (key :: keys) = key ++ keys.flatMap ('.' :: ·) := by
  induction keys generalizing key with
  | nil => simp [Text.join]
  | cons next keys ih => rw [Text.join_cons_cons, ih, List.flatMap_cons]; simp

/-- Behind a key there is a point or the closing brace. -/
theorem stop_behind_key (keys : List Text) (rest : Text) :
    ∀ c ∈ (keys.flatMap ('.' :: ·) ++ '}' :: rest).head?, inSegment c = false := by
  cases keys with
  | nil => exact stop_cons (by decide) rest
  | cons next keys => exact stop_cons (by decide) _

theorem length_le_flatMap_point (keys : List Text) :
    keys.length ≤ (keys.flatMap ('.' :: ·)).length := by
  induction keys with
  | nil => exact Nat.zero_le _
  | cons key keys ih =>
    rw [List.flatMap_cons, List.length_append, List.length_cons, List.length_cons]
    omega

/-- Keys behind points are taken up to what is no point. -/
theorem run_manyUpTo_keys {keys : List Text} (hkeys : ∀ key ∈ keys, IsReferenceKey key)
    (rest : Text) : ∀ {fuel : ℕ}, keys.length ≤ fuel →
      (manyUpTo (char '.' *> segment) fuel).run (keys.flatMap ('.' :: ·) ++ '}' :: rest) =
        some (keys, '}' :: rest) := by
  induction keys with
  | nil =>
    intro fuel _
    cases fuel with
    | zero => rfl
    | succ fuel =>
      rw [run_manyUpTo_succ, List.flatMap_nil, List.nil_append, run_point_segment_cons]
      rfl
  | cons key keys ih =>
    intro fuel hfuel
    obtain ⟨hkey, hkeys⟩ := List.forall_mem_cons.mp hkeys
    obtain ⟨hne, hchars⟩ := isReferenceKey_iff.mp hkey
    cases fuel with
    | zero => simp at hfuel
    | succ fuel =>
      have hstop := stop_behind_key keys rest
      rw [run_manyUpTo_succ, List.flatMap_cons, List.append_assoc, List.cons_append,
        run_point_segment_cons, if_pos rfl, run_segment, takeWhile_of_stop hchars hstop,
        dropWhile_of_stop hchars hstop, if_neg hne]
      simp [ih hkeys (Nat.le_of_succ_le_succ hfuel)]

/-- What is taken are keys behind points. -/
theorem of_run_manyUpTo {fuel : ℕ} : ∀ {t rest : Text} {keys : List Text},
    (manyUpTo (char '.' *> segment) fuel).run t = some (keys, rest) →
      (∀ key ∈ keys, IsReferenceKey key) ∧ t = keys.flatMap ('.' :: ·) ++ rest := by
  induction fuel with
  | zero =>
    intro t rest keys h
    obtain ⟨rfl, rfl⟩ : [] = keys ∧ t = rest := by simpa [manyUpTo, run_pure] using h
    simp
  | succ fuel ih =>
    intro t rest keys h
    rw [run_manyUpTo_succ] at h
    cases hrun : (char '.' *> segment).run t with
    | none =>
      obtain ⟨rfl, rfl⟩ : [] = keys ∧ t = rest := by simpa [hrun] using h
      simp
    | some r =>
      obtain ⟨key, after⟩ := r
      rw [hrun] at h
      obtain ⟨⟨more, rest'⟩, hmore, heq⟩ := Option.map_eq_some_iff.mp h
      obtain ⟨rfl, rfl⟩ := Prod.mk.inj heq
      obtain ⟨hkey, rfl⟩ := of_run_point_segment hrun
      obtain ⟨hkeys, rfl⟩ := ih hmore
      exact ⟨List.forall_mem_cons.mpr ⟨hkey, hkeys⟩, by simp⟩

/-- A path in front of a closing brace is taken as its keys. -/
theorem run_path_join {path : List Text} (h : IsReferencePath path) (rest : Text) :
    (sepBy segment (char '.')).run (Text.join ['.'] path ++ '}' :: rest) =
      some (path, '}' :: rest) := by
  obtain ⟨key, keys, rfl⟩ := List.exists_cons_of_ne_nil h.1
  obtain ⟨hkey, hkeys⟩ := List.forall_mem_cons.mp h.2
  obtain ⟨hne, hchars⟩ := isReferenceKey_iff.mp hkey
  have hstop := stop_behind_key keys rest
  have hfuel : keys.length ≤ (keys.flatMap ('.' :: ·) ++ '}' :: rest).length := by
    rw [List.length_append]
    exact (length_le_flatMap_point keys).trans (Nat.le_add_right _ _)
  have hmany : (many (char '.' *> segment)).run (keys.flatMap ('.' :: ·) ++ '}' :: rest) =
      some (keys, '}' :: rest) := run_manyUpTo_keys hkeys rest hfuel
  rw [run_sepBy, join_cons, List.append_assoc, run_segment, takeWhile_of_stop hchars hstop,
    dropWhile_of_stop hchars hstop, if_neg hne, Option.bind_some, hmany]
  rfl

/-- What is taken as keys is their path. -/
theorem of_run_path {t rest : Text} {path : List Text}
    (h : (sepBy segment (char '.')).run t = some (path, rest)) :
    IsReferencePath path ∧ t = Text.join ['.'] path ++ rest := by
  rw [run_sepBy, run_segment] at h
  split_ifs at h with hnone
  · cases h
  · obtain ⟨⟨keys, rest'⟩, hmany, heq⟩ := Option.map_eq_some_iff.mp h
    obtain ⟨rfl, rfl⟩ : t.takeWhile inSegment :: keys = path ∧ rest' = rest := by simpa using heq
    obtain ⟨hkeys, hsplit⟩ := of_run_manyUpTo hmany
    have hkey : IsReferenceKey (t.takeWhile inSegment) :=
      isReferenceKey_iff.mpr ⟨hnone, fun c hc => List.mem_takeWhile_imp hc⟩
    refine ⟨⟨List.cons_ne_nil _ _, List.forall_mem_cons.mpr ⟨hkey, hkeys⟩⟩, ?_⟩
    rw [join_cons, List.append_assoc, ← hsplit, List.takeWhile_append_dropWhile]

/-- All of a text is something in braces just if it is that between them. -/
theorem whole?_inBraces_eq_some_iff {α : Type} {p : Parser α} {t : Text} {a : α} :
    (inBraces p).whole? t = some a ↔ ∃ rest, t = '{' :: rest ∧ p.run rest = some (a, ['}']) := by
  rw [whole?_eq_some_iff]
  simp only [inBraces, run_bind]
  constructor
  · intro h
    cases t with
    | nil => cases h
    | cons c rest =>
      rw [run_char_cons] at h
      split_ifs at h with hopen
      · refine ⟨rest, by rw [hopen], ?_⟩
        cases hrun : p.run rest with
        | none => simp [hrun] at h
        | some r =>
          obtain ⟨b, after⟩ := r
          simp only [hrun, Option.bind_some] at h
          cases after with
          | nil => simp [run_char_nil] at h
          | cons d after =>
            rw [run_char_cons] at h
            split_ifs at h with hclose
            · obtain ⟨rfl, rfl⟩ : b = a ∧ after = [] := by simpa [run_pure] using h
              rw [hclose]
            · cases h
      · cases h
  · rintro ⟨rest, rfl, hrun⟩
    simp [run_char_cons, hrun]

/-- The rule for references takes a text just if it is a path in braces. -/
theorem whole?_reference_eq_some_iff {t : Text} {path : List Text} :
    reference.whole? t = some path ↔ IsReferencePath path ∧ t = braced path := by
  rw [reference, whole?_inBraces_eq_some_iff]
  constructor
  · rintro ⟨rest, rfl, hrun⟩
    obtain ⟨hpath, rfl⟩ := of_run_path hrun
    exact ⟨hpath, rfl⟩
  · rintro ⟨hpath, rfl⟩
    exact ⟨Text.join ['.'] path ++ ['}'], rfl, run_path_join hpath []⟩

/-- So does the rule for what stands between the braces. -/
theorem whole?_referencePath_eq_some_iff {t body : Text} : referencePath.whole? t = some body ↔
    ∃ path, IsReferencePath path ∧ t = braced path ∧ body = Text.join ['.'] path := by
  rw [referencePath, whole?_inBraces_eq_some_iff]
  constructor
  · rintro ⟨rest, rfl, hrun⟩
    rw [run_captured] at hrun
    obtain ⟨⟨path, after⟩, htaken, heq⟩ := Option.map_eq_some_iff.mp hrun
    obtain ⟨hpath, rfl⟩ := of_run_path htaken
    obtain ⟨hbody, rfl⟩ := Prod.mk.inj heq
    exact ⟨path, hpath, rfl, by rw [← hbody]; simp⟩
  · rintro ⟨path, hpath, rfl, rfl⟩
    refine ⟨Text.join ['.'] path ++ ['}'], rfl, ?_⟩
    rw [run_captured, run_path_join hpath]
    simp

end Grammar

/-- A text is a reference exactly if it is a path in braces, and of this path only. A string of a
document has such a path between its braces exactly if it is a reference, and the path is what
splits at the points. The rules of the grammar take the same texts for the same paths. -/
theorem reference_grammar_exact (t : Text) :
    (∀ path, Expression.ofText t = .reference path ↔
      path ≠ [] ∧ (∀ key ∈ path, key ≠ [] ∧ '.' ∉ key ∧ '}' ∉ key) ∧
        t = "\x7b" ++ Text.join ['.'] path ++ "\x7d") ∧
      (∀ body, (Json.string t).referenceBody? = some body ↔
        ∃ path, Expression.ofText t = .reference path ∧ body = Text.join ['.'] path ∧
          path = Text.splitOn '.' body) ∧
      Grammar.reference.whole? t = reference? t ∧
      Grammar.referencePath.whole? t = (Json.string t).referenceBody? := by
  have hpath : ∀ path, Expression.ofText t = .reference path ↔
      IsReferencePath path ∧ t = braced path := by
    intro path
    rw [Expression.ofText_eq_reference_iff, reference?_eq_some_iff]
  have hjson : (Json.string t).referenceBody? = referenceBody? t := rfl
  refine ⟨fun path => ?_, fun body => ?_, ?_, ?_⟩
  · rw [hpath]
    constructor
    · rintro ⟨⟨hne, hkeys⟩, ht⟩
      exact ⟨hne, fun key hkey =>
        ⟨(hkeys key hkey).ne_nil, (hkeys key hkey).no_point, (hkeys key hkey).no_brace⟩, ht⟩
    · rintro ⟨hne, hkeys, ht⟩
      exact ⟨⟨hne, fun key hkey =>
        ⟨(hkeys key hkey).1, (hkeys key hkey).2.1, (hkeys key hkey).2.2⟩⟩, ht⟩
  · rw [hjson, referenceBody?_eq_some_iff]
    constructor
    · rintro ⟨path, hkeys, ht, rfl⟩
      exact ⟨path, (hpath path).mpr ⟨hkeys, ht⟩, rfl, hkeys.splitOn_join.symm⟩
    · rintro ⟨path, hread, hbody, -⟩
      obtain ⟨hkeys, ht⟩ := (hpath path).mp hread
      exact ⟨path, hkeys, ht, hbody⟩
  · refine Option.ext fun path => ?_
    rw [Grammar.whole?_reference_eq_some_iff, reference?_eq_some_iff]
  · refine Option.ext fun body => ?_
    rw [Grammar.whole?_referencePath_eq_some_iff, hjson, referenceBody?_eq_some_iff]

end DesignTokens
