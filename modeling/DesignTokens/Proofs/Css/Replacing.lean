import DesignTokens.Proofs.Css.Captures
import DesignTokens.Proofs.Css.Expanding
import DesignTokens.Proofs.Text.Trimming
import Mathlib.Data.List.GetD

/-!
The pattern of mapped declarations. For each mapped name, what is replaced is described by a pattern

    (^|[^\w-]) name \s* : \s* ([^;}]+) ([;}])

and expansion puts in the place of its matches what it is to put there, for one name after the
other: the start of the text or a character that no name holds stays, and what is behind it becomes
a declaration for each target (`expands_iff`). The blanks in front of a value go to the value if
there is nothing else; as values are trimmed, that makes no difference to what is put there.
-/

namespace DesignTokens

/-- A declaration of a name, to the character that ends it. -/
def mappedPattern (name : Text) : List Part :=
  name.map Part.one ++
    [.many isBlank, .one ':', .many isBlank, .some inValue, .oneOf (!inValue ·)]

/-- A declaration of a name behind a character that no name holds. -/
def laterPattern (name : Text) : List Part := .oneOf (!isNameChar ·) :: mappedPattern name

/-- What takes the place of a declaration, by what the parts of the pattern have taken: the part
behind the second run of blanks is the value, the last one the character that ends it. -/
def Mapping.replacement (m : Mapping) (captures : List Text) : Text :=
  let value := Text.trim (captures.getD (m.name.length + 3) [])
  Text.join "; " (m.targets.map fun target => target ++ ": " ++ value) ++
    captures.getD (m.name.length + 4) []

/-- A text with the matches behind its characters replaced. -/
inductive Replaces (m : Mapping) : Text → Text → Prop
  | done : Replaces m [] []
  | skip {c : Char} {t out : Text} (h : matchAt? (laterPattern m.name) (c :: t) = none)
      (more : Replaces m t out) : Replaces m (c :: t) (c :: out)
  | found {t rest out : Text} {captures : List Text}
      (h : matchAt? (laterPattern m.name) t = some (captures, rest)) (more : Replaces m rest out) :
      Replaces m t (captures.headD [] ++ (m.replacement captures.tail ++ out))

/-- A text with all matches replaced: one at its start comes first. -/
inductive ReplacesAll (m : Mapping) : Text → Text → Prop
  | start {t rest out : Text} {captures : List Text}
      (h : matchAt? (mappedPattern m.name) t = some (captures, rest)) (more : Replaces m rest out) :
      ReplacesAll m t (m.replacement captures ++ out)
  | behind {t out : Text} (h : matchAt? (mappedPattern m.name) t = none) (more : Replaces m t out) :
      ReplacesAll m t out

/-- What the patterns of mapped names make of a text, one after the other. -/
inductive Expands : List Mapping → Text → Text → Prop
  | done {t : Text} : Expands [] t t
  | unmapped {m : Mapping} {mappings : List Mapping} {t out : Text} (hm : m.isMapped = false)
      (more : Expands mappings t out) : Expands (m :: mappings) t out
  | pass {m : Mapping} {mappings : List Mapping} {t later out : Text} (hm : m.isMapped)
      (h : ReplacesAll m t later) (more : Expands mappings later out) :
      Expands (m :: mappings) t out

/-! ### Parts -/

section Parts

variable {ps : List Part} {t : Text}

/-- A word in front of a pattern is met character by character. -/
theorem matchAt?_word (word t : Text) :
    matchAt? (word.map Part.one ++ ps) (word ++ t) =
      (matchAt? ps t).map fun found => (word.map ([·]) ++ found.1, found.2) := by
  induction word with
  | nil => simp
  | cons c word ih =>
    rw [List.map_cons, List.cons_append, List.cons_append, matchAt?_one, ih, Option.map_map]
    rfl

theorem matchAt?_word_of_other {word : Text} (h : Text.dropHead? word t = none) :
    matchAt? (word.map Part.one ++ ps) t = none := by
  induction word generalizing t with
  | nil => simp [Text.dropHead?] at h
  | cons c word ih =>
    cases t with
    | nil => exact matchAt?_one_of_ne nofun
    | cons d t =>
      by_cases hd : d = c
      · subst hd
        have hword : Text.dropHead? word t = none := by
          simpa [Text.dropHead?] using h
        rw [List.map_cons, List.cons_append, matchAt?_one, ih hword]
        rfl
      · refine matchAt?_one_of_ne fun e he => ?_
        rw [← Option.some.inj he]
        exact hd

end Parts

/-! ### Values -/

/-- A value and what ends it. -/
structure Ended (t raw : Text) (stop : Char) (rest : Text) : Prop where
  split : t = raw ++ stop :: rest
  nonempty : raw ≠ []
  inside : ∀ c ∈ raw, inValue c
  ends : inValue stop = false

theorem inValue_of_isBlank {c : Char} (hc : isBlank c) : inValue c := by
  by_contra hstop
  rcases inValue_eq_false_iff.mp (Bool.eq_false_iff.mpr hstop) with rfl | rfl <;>
    exact absurd hc (by decide)

theorem Ended.append {front t raw rest : Text} {stop : Char} (hfront : ∀ c ∈ front, isBlank c)
    (h : Ended t raw stop rest) : Ended (front ++ t) (front ++ raw) stop rest where
  split := by rw [h.split, List.append_assoc]
  nonempty := List.append_ne_nil_of_right_ne_nil front h.nonempty
  inside := List.forall_mem_append.mpr ⟨fun c hc => inValue_of_isBlank (hfront c hc), h.inside⟩
  ends := h.ends

/-- A value is a match, with what ends it. -/
theorem matchAt?_of_ended {t raw rest : Text} {stop : Char} (h : Ended t raw stop rest) :
    matchAt? [.some inValue, .oneOf (!inValue ·)] t = some ([raw, [stop]], rest) := by
  have hends : (!inValue stop) = true := by rw [h.ends]; rfl
  rw [h.split]
  exact matchAt?_run_of_stop (p := .some inValue) rfl (List.length_pos_iff.mpr h.nonempty) h.inside
    (stop_cons h.ends rest) (matchAt?_oneOf hends rest)

/-- There are no other matches. -/
theorem exists_ended {t : Text} {found : List Text × Text}
    (h : matchAt? [.some inValue, .oneOf (!inValue ·)] t = some found) :
    ∃ raw stop rest, Ended t raw stop rest ∧ found = ([raw, [stop]], rest) := by
  obtain ⟨n, hn, behind, hbehind, rfl⟩ := exists_of_matchAt? h
  obtain ⟨stop, rest, _, hdrop, hstop, hdone, rfl⟩ := exists_of_matchAt?_oneOf hbehind
  obtain rfl := Option.some.inj hdone
  obtain ⟨hleast, hmost⟩ := Part.mem_lengths.mp hn
  have hle : n ≤ (t.takeWhile inValue).length := hmost.trans (Part.longest_le_run _ t)
  have hpos : 1 ≤ (t.take n).length := by
    rw [List.length_take]
    exact le_min hleast (hleast.trans (hle.trans (List.takeWhile_prefix inValue).length_le))
  refine ⟨t.take n, stop, rest, ?_, rfl⟩
  exact {
    split := by rw [← hdrop, List.take_append_drop]
    nonempty := List.length_pos_iff.mp hpos
    inside := fun c hc => kind_of_mem_take hle hc
    ends := by simpa using hstop }

/-- The blanks in front of a value are part of it if there is nothing else. -/
theorem exists_ended_of_blank {t : Text} {found : List Text × Text}
    (h : matchAt? [.many isBlank, .some inValue, .oneOf (!inValue ·)] t = some found) :
    ∃ space value raw stop rest, found = ([space, value, [stop]], rest) ∧
      Ended t raw stop rest ∧ Text.trim raw = Text.trim value := by
  obtain ⟨n, hn, behind, hbehind, rfl⟩ := exists_of_matchAt? h
  obtain ⟨value, stop, rest, hended, rfl⟩ := exists_ended hbehind
  have hle : n ≤ (t.takeWhile isBlank).length :=
    (Part.mem_lengths.mp hn).2.trans (Part.longest_le_run _ t)
  have hfront : ∀ c ∈ t.take n, isBlank c := fun _ => kind_of_mem_take hle
  have hwhole := hended.append hfront
  rw [List.take_append_drop] at hwhole
  exact ⟨t.take n, value, t.take n ++ value, stop, rest, rfl, hwhole,
    Text.trim_blank_append hfront value⟩

/-! ### Declarations -/

section Declarations

variable {m : Mapping} {name t : Text}

/-- What the pattern of a name makes of a declaration: only the value is left to be told. -/
theorem matchAt?_mappedPattern {gap : Text} (hgap : ∀ c ∈ gap, isBlank c) (more : Text) :
    matchAt? (mappedPattern name) (name ++ (gap ++ ':' :: more)) =
      (matchAt? [.many isBlank, .some inValue, .oneOf (!inValue ·)] more).map fun found =>
        (name.map ([·]) ++ gap :: [':'] :: found.1, found.2) := by
  have hstop : ∀ c ∈ (':' :: more).head?, isBlank c = false := stop_cons (by decide) more
  rw [mappedPattern, matchAt?_word, matchAt?_colon, Text.trimStart, dropWhile_of_stop hgap hstop,
    takeWhile_of_stop hgap hstop, matchAt?_one, Option.map_map, Option.map_map]
  rfl

/-- A match begins with the name, blanks and a colon. -/
theorem exists_colon_of_matchAt? {found : List Text × Text}
    (h : matchAt? (mappedPattern name) t = some found) :
    ∃ gap more, t = name ++ (gap ++ ':' :: more) ∧ ∀ c ∈ gap, isBlank c := by
  cases hname : Text.dropHead? name t with
  | none =>
    rw [mappedPattern, matchAt?_word_of_other hname] at h
    cases h
  | some behind =>
    obtain rfl := dropHead?_eq_some_iff.mp hname
    rw [mappedPattern, matchAt?_word, matchAt?_colon] at h
    by_cases hcolon : ∀ c ∈ (Text.trimStart behind).head?, c ≠ ':'
    · rw [matchAt?_one_of_ne hcolon] at h
      cases h
    · simp only [not_forall, not_not] at hcolon
      obtain ⟨_, hhead, rfl⟩ := hcolon
      obtain ⟨more, hmore⟩ := List.head?_eq_some_iff.mp hhead
      obtain ⟨gap, rfl, hgap⟩ := trimStart_eq_colon_iff.mp hmore
      exact ⟨gap, more, rfl, hgap⟩

/-- A match is a declaration of the name, and is replaced by what that is spread to. -/
theorem exists_declaration_of_matchAt? {captures : List Text} {rest : Text}
    (h : matchAt? (mappedPattern m.name) t = some (captures, rest)) :
    ∃ value stop, readDeclaration? m.name t = some (value, stop, rest) ∧
      m.replacement captures = spreadValue m.targets value stop := by
  obtain ⟨gap, more, rfl, hgap⟩ := exists_colon_of_matchAt? h
  rw [matchAt?_mappedPattern hgap, Option.map_eq_some_iff] at h
  obtain ⟨found, hfound, heq⟩ := h
  obtain ⟨space, value, raw, stop, rest, rfl, hended, htrim⟩ := exists_ended_of_blank hfound
  obtain ⟨rfl, rfl⟩ := Prod.mk.inj heq
  refine ⟨Text.trim raw, stop, readDeclaration?_eq_some_iff.mpr ⟨gap, raw, ?_, hgap,
    hended.nonempty, hended.inside, hended.ends, rfl⟩, ?_⟩
  · rw [hended.split]
  · have hpart : ∀ k, (m.name.map ([·]) ++ gap :: [':'] :: [space, value, [stop]]).getD
        (m.name.length + k) [] = [gap, [':'], space, value, [stop]].getD k [] := fun k => by
      rw [List.getD_append_right _ _ _ _ (by simp), List.length_map, Nat.add_sub_cancel_left]
    rw [Mapping.replacement, hpart, hpart, htrim]
    rfl

/-- Where a declaration of the name begins, there is a match. -/
theorem matchAt?_ne_none {value rest : Text} {stop : Char}
    (h : readDeclaration? name t = some (value, stop, rest)) :
    matchAt? (mappedPattern name) t ≠ none := by
  obtain ⟨gap, raw, rfl, hgap, hne, hraw, hstop, -⟩ := readDeclaration?_eq_some_iff.mp h
  rw [matchAt?_mappedPattern hgap, Ne, Option.map_eq_none_iff]
  intro hnone
  have hshortest := matchAt?_eq_none_iff.mp hnone 0
    (Part.mem_lengths.mpr ⟨Nat.zero_le _, Nat.zero_le _⟩)
  rw [List.drop_zero, matchAt?_of_ended ⟨rfl, hne, hraw, hstop⟩] at hshortest
  cases hshortest

theorem readDeclaration?_of_matchAt?_none (h : matchAt? (mappedPattern name) t = none) :
    readDeclaration? name t = none :=
  Option.eq_none_iff_forall_ne_some.mpr fun ⟨_, _, _⟩ hread => matchAt?_ne_none hread h

end Declarations

/-! ### Passes -/

section Passes

variable {m : Mapping} {t out : Text}

/-- A pass replaces the matches behind characters that no name holds. -/
theorem Replaces.eq (h : Replaces m t out) : out = expandRest m t := by
  induction h with
  | done => rfl
  | @skip c t out hnone more ih =>
    have hskip : isNameChar c ∨ readDeclaration? m.name t = none := by
      by_cases hc : isNameChar c
      · exact .inl hc
      · rw [laterPattern, matchAt?_oneOf (by simpa using hc), Option.map_eq_none_iff] at hnone
        exact .inr (readDeclaration?_of_matchAt?_none hnone)
    rw [expandRest_skip hskip, ih]
  | @found t rest out captures hmatch more ih =>
    obtain ⟨c, u, ⟨_, _⟩, rfl, hc, hdeclaration, heq⟩ := exists_of_matchAt?_oneOf hmatch
    obtain ⟨rfl, rfl⟩ := Prod.mk.inj heq
    obtain ⟨value, stop, hread, hspread⟩ := exists_declaration_of_matchAt? hdeclaration
    rw [expandRest_found (by simpa using hc) hread, ih]
    simp [hspread]

theorem exists_replaces (m : Mapping) (t : Text) : ∃ out, Replaces m t out := by
  induction hlength : t.length using Nat.strongRecOn generalizing t with
  | ind n ih =>
    cases hmatch : matchAt? (laterPattern m.name) t with
    | none =>
      cases t with
      | nil => exact ⟨[], .done⟩
      | cons c t =>
        obtain ⟨out, more⟩ := ih t.length (by simp at hlength; omega) t rfl
        exact ⟨c :: out, .skip hmatch more⟩
    | some found =>
      obtain ⟨c, u, ⟨captures, rest⟩, rfl, -, hdeclaration, rfl⟩ := exists_of_matchAt?_oneOf hmatch
      obtain ⟨value, stop, hread, -⟩ := exists_declaration_of_matchAt? hdeclaration
      have hlt := length_lt_of_readDeclaration? hread
      obtain ⟨out, more⟩ := ih rest.length (by simp at hlength; omega) rest rfl
      exact ⟨_, .found hmatch more⟩

theorem replaces_iff : Replaces m t out ↔ out = expandRest m t := by
  refine ⟨Replaces.eq, ?_⟩
  rintro rfl
  obtain ⟨out, h⟩ := exists_replaces m t
  exact h.eq ▸ h

/-- A pass replaces all matches. -/
theorem replacesAll_iff : ReplacesAll m t out ↔ out = expandMapping m t := by
  constructor
  · intro h
    cases h with
    | start hmatch more =>
      obtain ⟨value, stop, hread, hspread⟩ := exists_declaration_of_matchAt? hmatch
      rw [expandMapping_of_some hread, hspread, more.eq]
    | behind hnone more =>
      rw [expandMapping_of_none (readDeclaration?_of_matchAt?_none hnone), more.eq]
  · rintro rfl
    cases hmatch : matchAt? (mappedPattern m.name) t with
    | none =>
      rw [expandMapping_of_none (readDeclaration?_of_matchAt?_none hmatch)]
      exact .behind hmatch (replaces_iff.mpr rfl)
    | some found =>
      obtain ⟨captures, rest⟩ := found
      obtain ⟨value, stop, hread, hspread⟩ := exists_declaration_of_matchAt? hmatch
      rw [expandMapping_of_some hread, ← hspread]
      exact .start hmatch (replaces_iff.mpr rfl)

/-- Expansion gives what the patterns of the mapped names make of a text. -/
theorem expands_iff {mappings : List Mapping} :
    Expands mappings t out ↔ out = expandCustom mappings t := by
  induction mappings generalizing t out with
  | nil =>
    constructor
    · rintro ⟨⟩
      rfl
    · rintro rfl
      exact .done
  | cons m mappings ih =>
    constructor
    · intro h
      cases h with
      | unmapped hm more => rw [expandCustom_of_unmapped hm, ih.mp more]
      | pass hm hall more => rw [expandCustom_cons hm, ih.mp more, replacesAll_iff.mp hall]
    · rintro rfl
      cases hm : m.isMapped with
      | true =>
        rw [expandCustom_cons hm]
        exact .pass hm (replacesAll_iff.mpr rfl) (ih.mpr rfl)
      | false =>
        rw [expandCustom_of_unmapped hm]
        exact .unmapped hm (ih.mpr rfl)

end Passes

end DesignTokens
