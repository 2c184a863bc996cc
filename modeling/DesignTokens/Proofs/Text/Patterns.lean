import DesignTokens.Text.Basic
import Mathlib.Data.List.TakeWhile

/-!
Patterns that are sequences of runs. Each part of a pattern takes characters of one kind, as many as
it can; when the parts behind it fail, it gives back one character after the other. A pattern is
looked for from the left: the first place where it matches is taken, and what is looked for next
begins behind the match.
-/

namespace DesignTokens

/-- A part of a pattern: a run of characters of one kind, of at least `least` and, if there is a
bound, at most `most` of them. -/
structure Part where
  kind : Char → Bool
  least : Nat
  most : Option Nat

namespace Part

/-- Any number of characters. -/
def many (kind : Char → Bool) : Part := ⟨kind, 0, none⟩

/-- One character or more. -/
def some (kind : Char → Bool) : Part := ⟨kind, 1, none⟩

/-- One character. -/
def oneOf (kind : Char → Bool) : Part := ⟨kind, 1, .some 1⟩

/-- This character. -/
def one (c : Char) : Part := ⟨(· == c), 1, .some 1⟩

/-- This character, if it is there. -/
def optional (c : Char) : Part := ⟨(· == c), 0, .some 1⟩

/-- How many characters the part takes at most at the front of a text. -/
def longest (p : Part) (t : Text) : Nat :=
  let run := (t.takeWhile p.kind).length
  p.most.elim run (min · run)

/-- The lengths that the part can have at the front of a text, in the order in which they are
tried. -/
def lengths (p : Part) (t : Text) : List Nat :=
  ((List.range (p.longest t + 1)).filter fun n => p.least ≤ n).reverse

theorem mem_lengths {p : Part} {t : Text} {n : Nat} :
    n ∈ p.lengths t ↔ p.least ≤ n ∧ n ≤ p.longest t := by
  rw [lengths, List.mem_reverse, List.mem_filter, List.mem_range, decide_eq_true_iff,
    Nat.lt_succ_iff, and_comm]

/-- The longest length is tried first. -/
theorem lengths_eq_cons {p : Part} {t : Text} (h : p.least ≤ p.longest t) :
    ∃ shorter, p.lengths t = p.longest t :: shorter := by
  refine ⟨((List.range (p.longest t)).filter fun n => p.least ≤ n).reverse, ?_⟩
  rw [lengths, List.range_succ, List.filter_append, List.reverse_append,
    List.filter_cons_of_pos (by simpa using h)]
  rfl

/-- No part takes more than there is of its kind. -/
theorem longest_le_run (p : Part) (t : Text) : p.longest t ≤ (t.takeWhile p.kind).length := by
  unfold longest
  cases p.most with
  | none => exact le_rfl
  | some m => exact min_le_right m _

end Part

/-- What is found behind a part comes behind what the part takes. -/
def taking (taken : Text) (found : List Text × Text) : List Text × Text :=
  (taken :: found.1, found.2)

/-- How a pattern matches at the front of a text: what each part takes, and what is left. The first
choice of lengths that succeeds is the one. -/
def matchAt? : List Part → Text → Option (List Text × Text)
  | [], t => some ([], t)
  | p :: ps, t => (p.lengths t).findSome? fun n =>
    (matchAt? ps (t.drop n)).map (taking (t.take n))

/-- The matches of a pattern in a text from the left, none of which overlaps the one before, each
told by what the parts take. The pattern must not match the empty text. -/
inductive Finds (ps : List Part) : Text → List (List Text) → Prop
  | done (h : matchAt? ps [] = none) : Finds ps [] []
  | skip {c : Char} {t : Text} {found : List (List Text)} (h : matchAt? ps (c :: t) = none)
      (more : Finds ps t found) : Finds ps (c :: t) found
  | found {t rest : Text} {captures : List Text} {found : List (List Text)}
      (h : matchAt? ps t = some (captures, rest)) (more : Finds ps rest found) :
      Finds ps t (captures :: found)

variable {ps : List Part}

/-- There is one way to find matches only. -/
theorem Finds.unique {t : Text} {found found' : List (List Text)} (h : Finds ps t found)
    (h' : Finds ps t found') : found = found' := by
  induction h generalizing found' with
  | done hnone =>
    cases h' with
    | done => rfl
    | found hmatch => rw [hnone] at hmatch; cases hmatch
  | skip hnone _ ih =>
    cases h' with
    | skip _ more => exact ih more
    | found hmatch => rw [hnone] at hmatch; cases hmatch
  | found hmatch _ ih =>
    cases h' with
    | done hnone => rw [hnone] at hmatch; cases hmatch
    | skip hnone => rw [hnone] at hmatch; cases hmatch
    | found hmatch' more =>
      rw [hmatch] at hmatch'
      cases hmatch'
      rw [ih more]

/-- What no match begins in is passed over. -/
theorem Finds.skipAll {run t : Text} {found : List (List Text)}
    (hnone : ∀ before c after, run = before ++ c :: after → matchAt? ps (c :: (after ++ t)) = none)
    (more : Finds ps t found) : Finds ps (run ++ t) found := by
  induction run with
  | nil => exact more
  | cons c run ih =>
    refine .skip (hnone [] c run rfl) (ih fun before d after heq => ?_)
    exact hnone (c :: before) d after (by rw [heq]; rfl)

/-! ### Parts -/

/-- A part fails if what is behind it fails after every length. -/
theorem matchAt?_eq_none_iff {p : Part} {t : Text} :
    matchAt? (p :: ps) t = none ↔ ∀ n ∈ p.lengths t, matchAt? ps (t.drop n) = none := by
  rw [matchAt?, List.findSome?_eq_none_iff]
  simp only [Option.map_eq_none_iff]

/-- A match is one of what is behind a part after one of the lengths. -/
theorem exists_of_matchAt? {p : Part} {t : Text} {found : List Text × Text}
    (h : matchAt? (p :: ps) t = some found) :
    ∃ n ∈ p.lengths t, ∃ behind, matchAt? ps (t.drop n) = some behind ∧
      taking (t.take n) behind = found := by
  rw [matchAt?] at h
  obtain ⟨n, hn, hmatch⟩ := List.exists_of_findSome?_eq_some h
  exact ⟨n, hn, Option.map_eq_some_iff.mp hmatch⟩

/-- If what is behind a part succeeds when the part takes all it can, that is the match. -/
theorem matchAt?_of_longest {p : Part} {t : Text} {found : List Text × Text}
    (hleast : p.least ≤ p.longest t) (h : matchAt? ps (t.drop (p.longest t)) = some found) :
    matchAt? (p :: ps) t = some (taking (t.take (p.longest t)) found) := by
  obtain ⟨shorter, hlengths⟩ := Part.lengths_eq_cons hleast
  rw [matchAt?, hlengths, List.findSome?_cons, h]
  rfl

/-- If what is behind a part fails whenever the part gives something back, the part takes all it
can. -/
theorem matchAt?_of_shorter {p : Part} {t : Text} (hleast : p.least ≤ p.longest t)
    (hshorter : ∀ n < p.longest t, matchAt? ps (t.drop n) = none) :
    matchAt? (p :: ps) t =
      (matchAt? ps (t.drop (p.longest t))).map (taking (t.take (p.longest t))) := by
  cases h : matchAt? ps (t.drop (p.longest t)) with
  | some found => exact matchAt?_of_longest hleast h
  | none =>
    refine matchAt?_eq_none_iff.mpr fun n hn => ?_
    rcases Nat.lt_or_eq_of_le (Part.mem_lengths.mp hn).2 with hlt | rfl
    · exact hshorter n hlt
    · exact h

/-! ### Runs -/

section Runs

variable {p : Part} {t : Text}

theorem stop_cons {kind : Char → Bool} {c : Char} (hc : kind c = false) (t : Text) :
    ∀ d ∈ (c :: t).head?, kind d = false := by
  rintro d ⟨⟩
  exact hc

theorem stop_dropWhile (kind : Char → Bool) (t : Text) :
    ∀ c ∈ (t.dropWhile kind).head?, kind c = false := by
  intro c hc
  have hnot := List.head?_dropWhile_not kind t
  rwa [Option.mem_def.mp hc] at hnot

theorem takeWhile_of_stop {kind : Char → Bool} {run : Text} (hrun : ∀ c ∈ run, kind c)
    (ht : ∀ c ∈ t.head?, kind c = false) : (run ++ t).takeWhile kind = run := by
  have hnone : t.takeWhile kind = [] := by
    cases t with
    | nil => rfl
    | cons c t => exact List.takeWhile_cons_of_neg (Bool.eq_false_iff.mp (ht c rfl))
  rw [List.takeWhile_append_of_pos hrun, hnone, List.append_nil]

theorem dropWhile_of_stop {kind : Char → Bool} {run : Text} (hrun : ∀ c ∈ run, kind c)
    (ht : ∀ c ∈ t.head?, kind c = false) : (run ++ t).dropWhile kind = t := by
  rw [List.dropWhile_append_of_pos hrun]
  cases t with
  | nil => rfl
  | cons c t => exact List.dropWhile_cons_of_neg (Bool.eq_false_iff.mp (ht c rfl))

/-- A text is a run and what begins with another kind of character. -/
theorem exists_run (kind : Char → Bool) (t : Text) :
    ∃ run rest, t = run ++ rest ∧ (∀ c ∈ run, kind c) ∧ ∀ c ∈ rest.head?, kind c = false :=
  ⟨t.takeWhile kind, t.dropWhile kind, List.takeWhile_append_dropWhile.symm,
    fun _ => List.mem_takeWhile_imp, stop_dropWhile kind t⟩

/-- A run and what stops it are told apart. -/
theorem eq_of_runs {kind : Char → Bool} {a b s t : Text} (ha : ∀ c ∈ a, kind c)
    (hb : ∀ c ∈ b, kind c) (hs : ∀ c ∈ s.head?, kind c = false)
    (ht : ∀ c ∈ t.head?, kind c = false) (h : a ++ s = b ++ t) : a = b ∧ s = t := by
  have hrun := congrArg (List.takeWhile kind) h
  rw [takeWhile_of_stop ha hs, takeWhile_of_stop hb ht] at hrun
  subst hrun
  exact ⟨rfl, List.append_cancel_left h⟩

theorem take_run (kind : Char → Bool) (t : Text) :
    t.take (t.takeWhile kind).length = t.takeWhile kind := by
  calc t.take (t.takeWhile kind).length
      = (t.takeWhile kind ++ t.dropWhile kind).take (t.takeWhile kind).length := by
        rw [List.takeWhile_append_dropWhile]
    _ = t.takeWhile kind := List.take_left

theorem drop_run (kind : Char → Bool) (t : Text) :
    t.drop (t.takeWhile kind).length = t.dropWhile kind := by
  calc t.drop (t.takeWhile kind).length
      = (t.takeWhile kind ++ t.dropWhile kind).drop (t.takeWhile kind).length := by
        rw [List.takeWhile_append_dropWhile]
    _ = t.dropWhile kind := List.drop_left

theorem kind_of_mem_take {kind : Char → Bool} {n : Nat} (h : n ≤ (t.takeWhile kind).length)
    {c : Char} (hc : c ∈ t.take n) : kind c := by
  have htake : t.take n = (t.takeWhile kind).take n := by
    rw [← take_run kind t, List.take_take, min_eq_left h]
  rw [htake] at hc
  exact List.mem_takeWhile_imp (List.mem_of_mem_take hc)

theorem longest_of_unbounded (hmost : p.most = none) :
    p.longest t = (t.takeWhile p.kind).length := by
  rw [Part.longest, hmost]
  rfl

/-- An unbounded part takes all there is of its kind if what is behind it succeeds then. -/
theorem matchAt?_run_of_stop {run : Text} (hmost : p.most = none) (hleast : p.least ≤ run.length)
    (hrun : ∀ c ∈ run, p.kind c) (ht : ∀ c ∈ t.head?, p.kind c = false) {captures : List Text}
    {rest : Text} (h : matchAt? ps t = some (captures, rest)) :
    matchAt? (p :: ps) (run ++ t) = some (run :: captures, rest) := by
  have hlongest : p.longest (run ++ t) = run.length := by
    rw [longest_of_unbounded hmost, takeWhile_of_stop hrun ht]
  rw [matchAt?_of_longest (by rwa [hlongest]) (by rwa [hlongest, List.drop_left]), hlongest,
    List.take_left]
  rfl

/-- An unbounded part that nothing is there for takes nothing. -/
theorem matchAt?_run_of_empty (hmost : p.most = none) (hleast : p.least = 0)
    (ht : ∀ c ∈ t.head?, p.kind c = false) {captures : List Text} {rest : Text}
    (h : matchAt? ps t = some (captures, rest)) :
    matchAt? (p :: ps) t = some ([] :: captures, rest) := by
  have hnone : p.least ≤ ([] : Text).length := hleast.le
  exact matchAt?_run_of_stop hmost hnone (List.forall_mem_nil _) ht h

/-- An unbounded part takes all there is of its kind if what is behind it cannot begin with that. -/
theorem matchAt?_run (hmost : p.most = none) (hleast : p.least ≤ (t.takeWhile p.kind).length)
    (hkind : ∀ c v, p.kind c → matchAt? ps (c :: v) = none) :
    matchAt? (p :: ps) t =
      (matchAt? ps (t.dropWhile p.kind)).map (taking (t.takeWhile p.kind)) := by
  have hlongest := longest_of_unbounded (t := t) hmost
  rw [matchAt?_of_shorter (by rwa [hlongest]), hlongest, take_run, drop_run]
  intro n hn
  rw [hlongest] at hn
  have hdrop : t.drop n = (t.takeWhile p.kind).drop n ++ t.dropWhile p.kind := by
    rw [← List.drop_append_of_le_length hn.le, List.takeWhile_append_dropWhile]
  cases hback : (t.takeWhile p.kind).drop n with
  | nil => exact absurd (List.drop_eq_nil_iff.mp hback) (Nat.not_le.mpr hn)
  | cons c v =>
    have hc : c ∈ t.takeWhile p.kind := List.mem_of_mem_drop (hback ▸ List.mem_cons_self)
    rw [hdrop, hback]
    exact hkind c _ (List.mem_takeWhile_imp hc)

/-- A part that has to take something fails where nothing of its kind stands. -/
theorem matchAt?_of_other (hleast : 1 ≤ p.least) (ht : ∀ c ∈ t.head?, p.kind c = false) :
    matchAt? (p :: ps) t = none := by
  have hnone : t.takeWhile p.kind = [] := takeWhile_of_stop (List.forall_mem_nil _) ht
  refine matchAt?_eq_none_iff.mpr fun n hn => ?_
  obtain ⟨hmost, hle⟩ := Part.mem_lengths.mp hn
  have hzero := (hleast.trans hmost).trans (hle.trans (p.longest_le_run t))
  rw [hnone] at hzero
  exact absurd hzero (Nat.not_succ_le_zero 0)

end Runs

/-! ### Single characters -/

theorem matchAt?_oneOf {kind : Char → Bool} {c : Char} (hc : kind c) (t : Text) :
    matchAt? (Part.oneOf kind :: ps) (c :: t) = (matchAt? ps t).map (taking [c]) := by
  have hlongest : (Part.oneOf kind).longest (c :: t) = 1 := by
    simp [Part.longest, Part.oneOf, hc]
  have hlengths : (Part.oneOf kind).lengths (c :: t) = [1] := by
    rw [Part.lengths, hlongest]
    rfl
  rw [matchAt?, hlengths, List.findSome?_singleton]
  rfl

/-- A match of one character of a kind begins with such a character. -/
theorem exists_of_matchAt?_oneOf {kind : Char → Bool} {t : Text} {found : List Text × Text}
    (h : matchAt? (Part.oneOf kind :: ps) t = some found) :
    ∃ c rest behind, t = c :: rest ∧ kind c ∧ matchAt? ps rest = some behind ∧
      found = taking [c] behind := by
  by_cases hstop : ∀ c ∈ t.head?, kind c = false
  · rw [matchAt?_of_other (p := .oneOf kind) le_rfl hstop] at h
    cases h
  · simp only [not_forall, Bool.not_eq_false] at hstop
    obtain ⟨c, hhead, hc⟩ := hstop
    obtain ⟨rest, rfl⟩ := List.head?_eq_some_iff.mp hhead
    rw [matchAt?_oneOf hc] at h
    obtain ⟨behind, hbehind, rfl⟩ := Option.map_eq_some_iff.mp h
    exact ⟨c, rest, behind, rfl, hc, hbehind, rfl⟩

theorem matchAt?_one (c : Char) (t : Text) :
    matchAt? (Part.one c :: ps) (c :: t) = (matchAt? ps t).map (taking [c]) :=
  @matchAt?_oneOf ps (· == c) c (beq_self_eq_true c) t

/-- At the end of a pattern, a character that is there is taken. -/
theorem matchAt?_optional {c : Char} {t : Text} (h : ∀ d ∈ t.head?, d = c) :
    matchAt? [Part.optional c] t = some ([t.take 1], t.drop 1) := by
  cases t with
  | nil => rfl
  | cons d t =>
    obtain rfl := h d rfl
    have hlongest : (Part.optional d).longest (d :: t) = 1 := by
      simp [Part.longest, Part.optional]
    rw [matchAt?_of_longest (Nat.zero_le _) rfl, hlongest]
    rfl

theorem matchAt?_one_of_ne {c : Char} {t : Text} (h : ∀ d ∈ t.head?, d ≠ c) :
    matchAt? (Part.one c :: ps) t = none :=
  matchAt?_of_other le_rfl fun d hd => beq_eq_false_iff_ne.mpr (h d hd)

/-! ### Characters that have to be met -/

/-- A character that has to be met, and that no part before it takes, is met where such a character
stands first. So the pattern fails if what is behind it fails there. -/
theorem matchAt?_eq_none_of_stop {stop : Char → Bool} {parts : List Part}
    (hparts : ∀ p ∈ parts, ∀ c, p.kind c → stop c = false) {c : Char} (hc : stop c) {t : Text}
    (h : ∀ v, t.dropWhile (fun c => !stop c) = c :: v → matchAt? ps v = none) :
    matchAt? (parts ++ Part.one c :: ps) t = none := by
  induction parts generalizing t with
  | nil =>
    by_cases hhead : t.head? = some c
    · obtain ⟨v, rfl⟩ := List.head?_eq_some_iff.mp hhead
      rw [List.nil_append, matchAt?_one, h v (List.dropWhile_cons_of_neg (by simp [hc]))]
      rfl
    · exact matchAt?_one_of_ne fun d hd heq => hhead (heq ▸ hd)
  | cons p parts ih =>
    obtain ⟨hp, hparts⟩ := List.forall_mem_cons.mp hparts
    refine matchAt?_eq_none_iff.mpr fun n hn => ih hparts fun v hv => h v ?_
    have hle := (Part.mem_lengths.mp hn).2.trans (p.longest_le_run t)
    have htake : ∀ c ∈ t.take n, (!stop c) = true := fun c hc => by
      rw [hp c (kind_of_mem_take hle hc)]
      rfl
    have hdrop : (t.take n ++ t.drop n).dropWhile (fun c => !stop c) =
        (t.drop n).dropWhile fun c => !stop c := List.dropWhile_append_of_pos htake
    rw [← hv, ← hdrop, List.take_append_drop]

end DesignTokens
