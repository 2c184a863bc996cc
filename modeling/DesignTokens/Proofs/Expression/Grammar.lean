import DesignTokens.Expression
import DesignTokens.Proofs.Text.Patterns
import DesignTokens.Text.Parser

/-!
The grammar of token values as rules. A rule tries its parts from the left; each part takes as much
as it can and gives nothing back, of alternatives the first that succeeds is taken, and a part
that must be absent takes nothing:

    segment    =  ( not "}"  not "."  any )+
    reference  =  "{"  segment ( "." segment )*  "}"
    number     =  "-"?  ( digit+ ( "." digit* )?  or  "." digit+ )
    quantity   =  number  not ( digit or "." )  any*

The rules are parsers, so they stand here with what they take in one run; that the values of tokens
are read by them is proved where references and quantities are.
-/

namespace DesignTokens

namespace Parser

variable {α β : Type}

/-- One or more. -/
def atLeastOne (p : Parser α) : Parser (List α) := do
  let a ← p
  return a :: (← many p)

/-- Success, with nothing taken, where the parser fails. -/
def absent (p : Parser α) : Parser Unit := do
  if (p.run (← get)).isSome then failure else return ()

/-- The text that the parser takes. -/
def captured (p : Parser α) : Parser Text := do
  let t ← get
  let _ ← p
  return t.take (t.length - (← get).length)

end Parser

namespace Grammar

open DesignTokens.Parser

/-- A character of a segment. -/
def segmentChar : Parser Char := do
  absent (char '}')
  absent (char '.')
  anyChar

/-- A segment of a path. -/
def segment : Parser Text := captured (atLeastOne segmentChar)

/-- Something in braces. -/
def inBraces {α : Type} (p : Parser α) : Parser α := do
  char '{'
  let a ← p
  char '}'
  return a

/-- A path in braces, as its segments. -/
def reference : Parser (List Text) := inBraces (sepBy segment (char '.'))

/-- A path in braces, as the text between them. -/
def referencePath : Parser Text := inBraces (captured (sepBy segment (char '.')))

/-- A number without its sign. -/
def unsigned : Parser Unit :=
  (do
    let _ ← atLeastOne (charOf isDigit)
    let _ ← optional? (do char '.'; many (charOf isDigit))
    return ())
  <|> (do
    char '.'
    let _ ← atLeastOne (charOf isDigit)
    return ())

/-- The text of a number. -/
def number : Parser Text := captured do
  let _ ← optional? (char '-')
  unsigned

/-- What may stand behind a number. -/
def unit : Parser Text := captured do
  absent (charOf fun c => isDigit c || c == '.')
  many anyChar

/-- A number and what stands behind it. -/
def quantity : Parser (Text × Text) := do
  let n ← number
  let u ← unit
  return (n, u)

end Grammar

/-! ### Runs of parsers -/

namespace Parser

variable {α β : Type} {p : Parser α} {t : Text}

theorem run_bind (p : Parser α) (f : α → Parser β) (t : Text) :
    (p >>= f).run t = (p.run t).bind fun r => (f r.1).run r.2 := rfl

theorem run_pure (a : α) (t : Text) : (pure a : Parser α).run t = some (a, t) := rfl

theorem run_orElse (p q : Parser α) (t : Text) : (p <|> q).run t = (p.run t).or (q.run t) := by
  show ((p.run t) <|> (q.run t)) = _
  cases p.run t <;> rfl

theorem run_absent (p : Parser α) (t : Text) :
    (absent p).run t = if (p.run t).isSome then none else some ((), t) := by
  show (if (p.run t).isSome then failure else return () : Parser Unit).run t = _
  split_ifs <;> rfl

theorem run_captured (p : Parser α) (t : Text) : (captured p).run t =
    (p.run t).map fun r => (t.take (t.length - r.2.length), r.2) := by
  cases h : p.run t <;> simp [captured, h]

theorem run_charOf_nil (kind : Char → Bool) : (charOf kind).run [] = none := rfl

theorem run_charOf_cons (kind : Char → Bool) (c : Char) (t : Text) :
    (charOf kind).run (c :: t) = if kind c then some (c, t) else none := by
  show (if kind c then return c else failure : Parser Char).run t = _
  split_ifs <;> rfl

theorem run_char_nil (c : Char) : (char c).run [] = none := rfl

theorem run_char_cons (c d : Char) (t : Text) :
    (char c).run (d :: t) = if d = c then some ((), t) else none := by
  rw [char, run_bind, run_charOf_cons]
  by_cases h : d = c <;> simp [h]

theorem run_optional? (p : Parser α) (t : Text) :
    (optional? p).run t = some ((p.run t).elim (none, t) fun r => (some r.1, r.2)) := by
  rw [optional?, run_orElse]
  cases h : p.run t <;> simp [h]

theorem run_manyUpTo_succ (p : Parser α) (fuel : ℕ) (t : Text) :
    (manyUpTo p (fuel + 1)).run t =
      (p.run t).elim (some ([], t)) fun r =>
        ((manyUpTo p fuel).run r.2).map fun more => (r.1 :: more.1, more.2) := by
  rw [manyUpTo, run_bind, run_optional?]
  cases h : p.run t with
  | none => rfl
  | some r => simp

theorem run_atLeastOne (p : Parser α) (t : Text) : (atLeastOne p).run t =
    (p.run t).bind fun r => ((many p).run r.2).map fun more => (r.1 :: more.1, more.2) := by
  rw [atLeastOne, run_bind]
  cases p.run t with
  | none => rfl
  | some r => simp

theorem run_sepBy (p : Parser α) (separator : Parser Unit) (t : Text) :
    (sepBy p separator).run t = (p.run t).bind fun r =>
      ((many (separator *> p)).run r.2).map fun more => (r.1 :: more.1, more.2) := by
  rw [sepBy, run_bind]
  cases p.run t with
  | none => rfl
  | some r => simp

theorem whole?_eq_some_iff {a : α} : p.whole? t = some a ↔ p.run t = some (a, []) := by
  unfold whole?
  cases p.run t with
  | none => simp
  | some r =>
    obtain ⟨b, rest⟩ := r
    cases rest <;> simp

/-! ### Runs of characters of one kind -/

section Kind

variable (kind : Char → Bool) (t : Text)

theorem run_manyUpTo_charOf {fuel : ℕ} {t : Text} (h : t.length ≤ fuel) :
    (manyUpTo (charOf kind) fuel).run t = some (t.takeWhile kind, t.dropWhile kind) := by
  induction fuel generalizing t with
  | zero =>
    obtain rfl := List.length_eq_zero_iff.mp (Nat.le_zero.mp h)
    rfl
  | succ fuel ih =>
    rw [run_manyUpTo_succ]
    cases t with
    | nil => rfl
    | cons c t =>
      rw [run_charOf_cons]
      by_cases hc : kind c
      · simp [hc, ih (Nat.le_of_succ_le_succ h)]
      · simp [hc]

theorem run_many_charOf :
    (many (charOf kind)).run t = some (t.takeWhile kind, t.dropWhile kind) :=
  run_manyUpTo_charOf kind (le_refl _)

theorem run_atLeastOne_charOf : (atLeastOne (charOf kind)).run t =
    if t.takeWhile kind = [] then none else some (t.takeWhile kind, t.dropWhile kind) := by
  rw [run_atLeastOne]
  cases t with
  | nil => rfl
  | cons c t =>
    rw [run_charOf_cons]
    by_cases hc : kind c
    · simp [hc, run_many_charOf]
    · simp [hc]

theorem take_length_sub_dropWhile :
    t.take (t.length - (t.dropWhile kind).length) = t.takeWhile kind := by
  have hlength : t.length = (t.takeWhile kind).length + (t.dropWhile kind).length := by
    rw [← List.length_append, List.takeWhile_append_dropWhile]
  rw [hlength, Nat.add_sub_cancel, take_run]

theorem run_captured_atLeastOne_charOf : (captured (atLeastOne (charOf kind))).run t =
    if t.takeWhile kind = [] then none else some (t.takeWhile kind, t.dropWhile kind) := by
  rw [run_captured, run_atLeastOne_charOf]
  split_ifs
  · rfl
  · rw [Option.map_some, take_length_sub_dropWhile]

theorem anyChar_eq : anyChar = charOf fun _ => true := by
  funext t
  cases t with
  | nil => rfl
  | cons c t => exact (run_charOf_cons (fun _ => true) c t).symm

end Kind

end Parser

end DesignTokens
