import DesignTokens.Proofs.Mapping.Declarations
import DesignTokens.Proofs.Render.Sheets

/-!
Tokens grouped into classes. Every token writes its value under each of the outputs that its
property resolves to, in the class that it belongs to:

    card / Gap    4px             card     gap: 4px, left: 0, right: 8px
    card / Inset  0      ──▶
    card / Right  8px             (the inset wrote `left` and `right`, and lost `right` again)

What a class declares is told by two views, as for every ordered map: its properties are the outputs
of its tokens, each where it first occurs (`keys_declarationsOf`), and the value of a property is
that of the last token that has it among its outputs (`find?_declarationsOf`). No token is without
outputs, so nothing is lost but what a later token of the class writes over.
-/

namespace DesignTokens

theorem Resolution.outputs_ne_nil (r : Resolution) (name : Text) : r.outputs name ≠ [] := by
  cases r with
  | valid => exact List.cons_ne_nil _ _
  | custom targets | detected targets =>
    show (if targets.isEmpty then [name] else targets) ≠ []
    split
    · exact List.cons_ne_nil _ _
    · next h => exact fun hnil => h (List.isEmpty_iff.mpr hnil)

namespace ClassBlock

/-- What a class declares; nothing if it is not there. -/
def declarationsOf (block : ClassBlock) (name : Text) : Declarations :=
  (Assoc.find? name block).getD []

/-- Declaring writes in one class. -/
theorem declarationsOf_declare (block : ClassBlock) (name other : Text) (outputs : List Text)
    (value : Text) :
    (block.declare name outputs value).declarationsOf other =
      if name = other then
        outputs.foldl (fun m output => Assoc.insert output value m) (block.declarationsOf name)
      else block.declarationsOf other := by
  rw [declarationsOf, declare, Assoc.alter, Assoc.find?_insert]
  split <;> rfl

/-! ### All tokens -/

section

variable (c : Config) (answer : Text → Resolution)

/-- The output names of a token when a rule answers for its property. -/
def outputsOf (t : Token) : List Text :=
  (answer (propertyName c t.path)).outputs (propertyName c t.path)

theorem foldl_answeredStep_concat (tokens : List Token) (t : Token) :
    (tokens ++ [t]).foldl (answeredStep c answer) [] =
      (tokens.foldl (answeredStep c answer) []).declare (className c t.path) (outputsOf c answer t)
        (cssValue c t) := by
  rw [List.foldl_append]
  rfl

/-- The classes are those of the tokens, each where it first occurs. -/
theorem keys_foldl_answeredStep (tokens : List Token) :
    Assoc.keys (tokens.foldl (answeredStep c answer) []) =
      (tokens.map (className c ·.path)).eraseDups := by
  induction tokens using List.reverseRecOn with
  | nil => rfl
  | append_singleton tokens t ih =>
    rw [foldl_answeredStep_concat, declare, Assoc.alter, Assoc.keys_insert, ih, List.map_append,
      List.map_singleton, eraseDups_concat]
    simp only [List.mem_eraseDups]

/-- The properties of a class are the outputs of its tokens, each where it first occurs. -/
theorem keys_declarationsOf (tokens : List Token) (name : Text) :
    Assoc.keys ((tokens.foldl (answeredStep c answer) []).declarationsOf name) =
      ((tokens.filter (className c ·.path = name)).flatMap (outputsOf c answer)).eraseDups := by
  induction tokens using List.reverseRecOn with
  | nil => rfl
  | append_singleton tokens t ih =>
    rw [foldl_answeredStep_concat, declarationsOf_declare, List.filter_append, List.flatMap_append]
    by_cases hname : className c t.path = name
    · subst hname
      rw [if_pos rfl, keys_foldl_insert ih]
      simp
    · rw [if_neg hname, ih]
      simp [hname]

/-- The tokens of a class that have a property among their outputs. -/
def writers (tokens : List Token) (name property : Text) : List Token :=
  tokens.filter fun t => className c t.path = name ∧ property ∈ outputsOf c answer t

/-- The value of a property is that of the last token of the class that has it as an output. -/
theorem find?_declarationsOf (tokens : List Token) (name property : Text) :
    Assoc.find? property ((tokens.foldl (answeredStep c answer) []).declarationsOf name) =
      (writers c answer tokens name property).getLast?.map (cssValue c) := by
  induction tokens using List.reverseRecOn with
  | nil => rfl
  | append_singleton tokens t ih =>
    rw [foldl_answeredStep_concat, declarationsOf_declare, writers, List.filter_append]
    by_cases hname : className c t.path = name
    · subst hname
      rw [if_pos rfl, find?_foldl_insert]
      by_cases hproperty : property ∈ outputsOf c answer t
      · simp [hproperty]
      · rw [if_neg hproperty, ih]
        simp [hproperty, writers]
    · rw [if_neg hname, ih]
      simp [hname, writers]

/-- The last writer is the token, unless one behind it writes as well. -/
theorem getLast?_writers {before after : List Token} {t : Token} {property : Text}
    (hproperty : property ∈ outputsOf c answer t) :
    (writers c answer (before ++ t :: after) (className c t.path) property).getLast? = some t ∨
      ∃ later ∈ after, className c later.path = className c t.path ∧
        property ∈ outputsOf c answer later := by
  by_cases hlater : ∃ later ∈ after, className c later.path = className c t.path ∧
      property ∈ outputsOf c answer later
  · exact .inr hlater
  · refine .inl ?_
    have hafter : writers c answer after (className c t.path) property = [] := by
      refine List.filter_eq_nil_iff.mpr fun later hmem hwrites => hlater ⟨later, hmem, ?_⟩
      exact of_decide_eq_true hwrites
    rw [writers] at hafter ⊢
    rw [List.filter_append, List.filter_cons_of_pos (by simpa using hproperty), hafter,
      List.getLast?_concat]

end

/-- Grouping loses nothing but overrides. The classes are those of the tokens, where they first
occur; a class declares the outputs of its tokens, where they first occur, each with the value of
the last token that has it as an output. What a property resolves to does not depend on the tokens
in front, and it always resolves to something; so the value of a token stands under each of its
outputs that no later token of its class writes. -/
theorem grouping_loses_overrides_only (c : Config) (x : Context) (tokens : List Token) :
    let block := (collect c x tokens).1
    Assoc.keys block = (tokens.map (className c ·.path)).eraseDups ∧
      (∀ name declarations, Assoc.find? name block = some declarations →
        Assoc.keys declarations =
          ((tokens.filter (className c ·.path = name)).flatMap
            (outputsOf c x.answer)).eraseDups) ∧
      (∀ name property, (Assoc.find? name block).bind (Assoc.find? property) =
        (writers c x.answer tokens name property).getLast?.map (cssValue c)) ∧
      ∀ before t after, tokens = before ++ t :: after →
        (collect c x before).2.answer (propertyName c t.path) =
            x.answer (propertyName c t.path) ∧
          outputsOf c x.answer t ≠ [] ∧
          ∀ property ∈ outputsOf c x.answer t,
            (Assoc.find? (className c t.path) block).bind (Assoc.find? property) =
                some (cssValue c t) ∨
              ∃ later ∈ after, className c later.path = className c t.path ∧
                property ∈ outputsOf c x.answer later := by
  intro block
  have hblock : block = tokens.foldl (answeredStep c x.answer) [] :=
    congrArg Prod.fst (foldl_step c tokens [] x)
  have hvalues : ∀ name property, (Assoc.find? name block).bind (Assoc.find? property) =
      (writers c x.answer tokens name property).getLast?.map (cssValue c) := by
    intro name property
    rw [← find?_declarationsOf, ← hblock, declarationsOf]
    cases Assoc.find? name block <;> rfl
  refine ⟨?_, fun name declarations hfind => ?_, hvalues, ?_⟩
  · rw [hblock, keys_foldl_answeredStep]
  · rw [← keys_declarationsOf, ← hblock, declarationsOf, hfind]
    rfl
  · rintro before t after rfl
    refine ⟨?_, Resolution.outputs_ne_nil _ _, fun property hproperty => ?_⟩
    · rw [collect, foldl_step]
      exact x.answer_lookAll _ _
    · rw [hvalues]
      exact (getLast?_writers c x.answer hproperty).imp_left fun hlast => by
        rw [hlast]
        rfl

/-- The inset writes two properties, of which one is written again, and the other stays. -/
theorem grouping_of_inset :
    let token := fun (path : List Text) (value : Text) =>
      (⟨path, path, "dimension", .string value, none, none, [], false⟩ : Token)
    let x := Context.of ⟨["gap", "left", "right"]⟩
      ⟨[Mapping.of "inset-x" ["left", "right"] none]⟩
    let inset := token ["Card", "Inset X"] "0px"
    let tokens := [token ["Card", "Gap"] "4px", inset, token ["Card", "Right"] "8px",
      token ["Menu", "left"] "2px"]
    let block := (collect .default x tokens).1
    Assoc.keys block = ([("card" : Text), "menu"] : List Text) ∧
      (Assoc.find? ("card" : Text) block).bind (Assoc.find? ("left" : Text)) =
        some (cssValue .default inset) ∧
      (Assoc.find? ("card" : Text) block).bind (Assoc.find? ("right" : Text)) =
        some ("8px" : Text) := by
  intro token x inset tokens block
  obtain ⟨hkeys, -, hvalues, hkept⟩ := grouping_loses_overrides_only .default x tokens
  obtain ⟨-, -, hinset⟩ := hkept [tokens[0]] inset [tokens[2], tokens[3]] rfl
  refine ⟨hkeys.trans (by decide +kernel), ?_, (hvalues _ _).trans (by decide +kernel)⟩
  exact (hinset "left" (by decide +kernel)).resolve_right (by decide +kernel)

end ClassBlock

end DesignTokens
