import DesignTokens.Json.Printer
import DesignTokens.Proofs.Json.Numbers

/-!
Which lexemes a text spells. A piece of text spells lexemes when the walk finds them in it whatever
it has found before (`Spells`); only what follows matters, since a word goes on until a character
that is no part of words comes. Pieces that spell lexemes are put one behind the other:

    t spells ls      u spells ms, and does not go on with a word
    ────────────────────────────────────────────────────────────
                     t ++ u spells ls ++ ms

Blanks spell nothing, brackets, commas and colons spell themselves, and a text that is written in
quotes spells its characters, some control characters among them by their numbers.
-/

namespace DesignTokens

/-- A character as it is found in a text that was written in quotes. -/
def QuotedPart.written (c : Char) : QuotedPart :=
  if c.toNat < 0x20 ∧ c ∉ ['\n', '\r', '\t', '\x08', '\x0c'] then .unit c.toNat else .char c

namespace Lexeme

/-- All the lexemes when the walk goes through a text and ends with it. -/
def Walk.through? (w : Walk) (t : Text) : Option (List Lexeme) :=
  (t.foldlM step? w).bind finish?

/-- No word goes on into the text. -/
def Breaks (t : Text) : Prop := ∀ c ∈ t.head?, isWordPart c = false

/-- The walk finds the lexemes in the text, whatever it has found before. -/
def Spells (t : Text) (ls : List Lexeme) : Prop :=
  ∀ found rest, Breaks rest →
    Walk.through? ⟨found, .between⟩ (t ++ rest) = Walk.through? ⟨ls.reverse ++ found, .between⟩ rest

theorem breaks_nil : Breaks [] := fun _ h => absurd h (by simp)

theorem breaks_cons {c : Char} (hc : isWordPart c = false) (t : Text) : Breaks (c :: t) := by
  intro d hd
  obtain rfl : c = d := by simpa using hd
  exact hc

theorem Breaks.append {t u : Text} (ht : Breaks t) (hu : Breaks u) : Breaks (t ++ u) := by
  cases t with
  | nil => exact hu
  | cons c t => exact breaks_cons (ht c rfl) (t ++ u)

theorem Walk.through?_append {w w' : Walk} {t : Text} (h : t.foldlM step? w = some w')
    (rest : Text) : w.through? (t ++ rest) = w'.through? rest := by
  rw [through?, List.foldlM_append, h]
  rfl

theorem Walk.through?_cons {w w' : Walk} {c : Char} (h : w.step? c = some w') (rest : Text) :
    w.through? (c :: rest) = w'.through? rest := by
  rw [through?, List.foldlM_cons, h]
  rfl

/-- All lexemes are found when nothing follows. -/
theorem Spells.scan?_eq {t : Text} {ls : List Lexeme} (h : Spells t ls) : scan? t = some ls := by
  have hthrough := h [] [] breaks_nil
  rw [List.append_nil, List.append_nil] at hthrough
  rw [scan?, ← Walk.through?, hthrough]
  exact congrArg some ls.reverse_reverse

/-! ### Putting pieces together -/

theorem spells_nil : Spells [] [] := fun _ _ _ => rfl

theorem Spells.append {t u : Text} {ls ms : List Lexeme} (ht : Spells t ls) (hu : Spells u ms)
    (hbreaks : Breaks u) : Spells (t ++ u) (ls ++ ms) := by
  intro found rest hrest
  rw [List.append_assoc, ht found _ (hbreaks.append hrest), hu _ rest hrest, List.reverse_append,
    List.append_assoc]

theorem Spells.space {t : Text} {ls : List Lexeme} (ht : Spells t ls) : Spells (' ' :: t) ls := by
  intro found rest hrest
  rw [List.cons_append, Walk.through?_cons rfl]
  exact ht found rest hrest

theorem Spells.lineEnd {t : Text} {ls : List Lexeme} (ht : Spells t ls) :
    Spells ('\n' :: t) ls := by
  intro found rest hrest
  rw [List.cons_append, Walk.through?_cons rfl]
  exact ht found rest hrest

theorem Spells.mark {c : Char} {l : Lexeme} (hc : ofMark? c = some l) {t : Text} {ls : List Lexeme}
    (ht : Spells t ls) : Spells (c :: t) (l :: ls) := by
  intro found rest hrest
  have hstep : Walk.step? ⟨found, .between⟩ c = some ⟨l :: found, .between⟩ := by
    unfold ofMark? at hc
    split at hc <;> cases hc <;> rfl
  rw [List.cons_append, Walk.through?_cons hstep, List.reverse_cons, List.append_assoc]
  exact ht (l :: found) rest hrest

/-- What a text spells does not change when it is put on an indented line of its own. -/
theorem Spells.onNewLine {t : Text} {ls : List Lexeme} (ht : Spells t ls) (depth : Nat) :
    Spells (Json.newLine depth ++ t) ls := by
  have hspaces : ∀ n, Spells (List.replicate n ' ' ++ t) ls := by
    intro n
    induction n with
    | zero => exact ht
    | succ n ih => exact ih.space
  exact (hspaces (2 * depth)).lineEnd

/-! ### Words -/

theorem step?_of_isWordPart {c : Char} (hc : isWordPart c) (found : List Lexeme) :
    Walk.step? ⟨found, .between⟩ c = some ⟨found, .word [c]⟩ := by
  have hne : ∀ d : Char, isWordPart d = false → c ≠ d := by
    rintro d hd rfl
    rw [hc] at hd
    cases hd
  have hblank : (c = ' ' || c = '\t' || c = '\n' || c = '\r') = false := by
    simp [hne ' ' (by decide), hne '\t' (by decide), hne '\n' (by decide), hne '\r' (by decide)]
  show Walk.start? found c = _
  rw [Walk.start?, hblank, if_neg Bool.false_ne_true, if_neg (hne '"' (by decide)), if_pos hc]

theorem foldlM_word {t : Text} (ht : IsWord t) (found : List Lexeme) (gathered : Text) :
    t.foldlM Walk.step? ⟨found, .word gathered⟩ = some ⟨found, .word (t.reverse ++ gathered)⟩ := by
  induction t generalizing gathered with
  | nil => rfl
  | cons c t ih =>
    obtain ⟨hc, ht⟩ := List.forall_mem_cons.mp ht
    have hstep : Walk.step? ⟨found, .word gathered⟩ c = some ⟨found, .word (c :: gathered)⟩ :=
      if_pos hc
    rw [List.foldlM_cons, hstep, List.reverse_cons, List.append_assoc]
    exact ih ht (c :: gathered)

/-- A word spells the lexeme that it is. -/
theorem spells_word {w : Text} {l : Lexeme} (hw : IsWord w) (hl : ofWord? w = some l) :
    Spells w [l] := by
  intro found rest hrest
  cases w with
  | nil =>
    have hnone : ofWord? [] = none := by decide
    rw [hnone] at hl
    cases hl
  | cons c w =>
    obtain ⟨hc, hw⟩ := List.forall_mem_cons.mp hw
    have hgathered : (w.reverse ++ [c]).reverse = c :: w := by simp
    rw [List.cons_append, Walk.through?_cons (step?_of_isWordPart hc found),
      Walk.through?_append (foldlM_word hw found [c])]
    -- the word ends with the text or at the next character
    cases rest with
    | nil =>
      show (ofWord? _).map _ = _
      rw [hgathered, hl]
      rfl
    | cons d rest =>
      have hd : ¬isWordPart d := by simp [hrest d rfl]
      have hstep : Walk.step? ⟨found, .word (w.reverse ++ [c])⟩ d =
          Walk.step? ⟨l :: found, .between⟩ d := by
        show (if _ then _ else _) = _
        rw [if_neg hd, hgathered, hl]
        rfl
      rw [Walk.through?, List.foldlM_cons, hstep, ← List.foldlM_cons]
      rfl

/-! ### Quoted texts -/

theorem hexValue?_hexDigit : ∀ n < 16, hexValue? (hexDigit n) = some n := by decide

/-- Four hexadecimal digits are found as the unit of that number. -/
theorem foldlM_unit {n : Nat} (hn : n < 256) (found : List Lexeme) (gathered : List QuotedPart) :
    ("\\u00" ++ [hexDigit (n / 16), hexDigit (n % 16)]).foldlM Walk.step?
      ⟨found, .quoted gathered⟩ = some ⟨found, .quoted (.unit n :: gathered)⟩ := by
  have hhigh : hexValue? (hexDigit (n / 16)) = some (n / 16) := hexValue?_hexDigit _ (by omega)
  have hlow : hexValue? (hexDigit (n % 16)) = some (n % 16) := hexValue?_hexDigit _ (by omega)
  have hvalue : 16 * (n / 16) + n % 16 = n := by omega
  have hprefix : ("\\u00" : Text).foldlM Walk.step? ⟨found, .quoted gathered⟩ =
      some ⟨found, .hex gathered 2 0⟩ := rfl
  rw [List.foldlM_append, hprefix]
  simp [Walk.step?, hhigh, hlow, hvalue]

/-- What a character is written as inside quotes is found as one part. -/
theorem foldlM_escapeChar (found : List Lexeme) (gathered : List QuotedPart) (c : Char) :
    (Json.escapeChar c).foldlM Walk.step? ⟨found, .quoted gathered⟩ =
      some ⟨found, .quoted (.written c :: gathered)⟩ := by
  by_cases hquote : c = '"'
  · subst hquote; rfl
  by_cases hslash : c = '\\'
  · subst hslash; rfl
  by_cases hplain : 0x20 ≤ c.toNat
  · have hwritten : QuotedPart.written c = .char c := if_neg fun h => by omega
    have hstep : Walk.step? ⟨found, .quoted gathered⟩ c =
        some ⟨found, .quoted (.char c :: gathered)⟩ := by
      simp only [Walk.step?, if_neg hquote, if_neg hslash, if_neg (Nat.not_lt.mpr hplain)]
    rw [Json.escapeChar, if_neg hquote, if_neg hslash, if_pos hplain, hwritten, List.foldlM_cons,
      hstep]
    rfl
  by_cases hn : c = '\n'
  · subst hn; rfl
  by_cases hr : c = '\r'
  · subst hr; rfl
  by_cases ht : c = '\t'
  · subst ht; rfl
  by_cases hb : c = '\x08'
  · subst hb; rfl
  by_cases hf : c = '\x0c'
  · subst hf; rfl
  -- any other control character is written by its number
  have hwritten : QuotedPart.written c = .unit c.toNat :=
    if_pos ⟨by omega, by simp [hn, hr, ht, hb, hf]⟩
  have hb' : c.toNat ≠ 8 := fun h => hb (Char.toNat_inj.mp h)
  have hf' : c.toNat ≠ 12 := fun h => hf (Char.toNat_inj.mp h)
  rw [Json.escapeChar, if_neg hquote, if_neg hslash, if_neg hplain, if_neg hn, if_neg hr,
    if_neg ht, if_neg hb', if_neg hf', hwritten]
  exact foldlM_unit (by omega) found gathered

theorem foldlM_escaped (t : Text) (found : List Lexeme) (gathered : List QuotedPart) :
    (t.flatMap Json.escapeChar).foldlM Walk.step? ⟨found, .quoted gathered⟩ =
      some ⟨found, .quoted ((t.map .written).reverse ++ gathered)⟩ := by
  induction t generalizing gathered with
  | nil => rfl
  | cons c t ih =>
    rw [List.flatMap_cons, List.foldlM_append, foldlM_escapeChar, List.map_cons, List.reverse_cons,
      List.append_assoc]
    exact ih _

/-- A text in quotes spells its characters. -/
theorem spells_quote (t : Text) : Spells (Json.quote t) [.quoted (t.map .written)] := by
  intro found rest _
  have hparts : ((t.map QuotedPart.written).reverse ++ []).reverse = t.map .written := by simp
  have hclose : Walk.step? ⟨found, .quoted ((t.map .written).reverse ++ [])⟩ '"' =
      some ⟨.quoted (t.map .written) :: found, .between⟩ := by
    simp only [Walk.step?, if_pos, hparts]
  have hquote : Json.quote t ++ rest = '"' :: (t.flatMap Json.escapeChar ++ '"' :: rest) := by
    simp [Json.quote]
  rw [hquote, Walk.through?_cons rfl, Walk.through?_append (foldlM_escaped t found []),
    Walk.through?_cons hclose]
  rfl

end Lexeme

end DesignTokens
