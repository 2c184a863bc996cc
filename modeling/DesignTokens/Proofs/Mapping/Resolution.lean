import DesignTokens.Context
import DesignTokens.Proofs.Assoc

/-!
Resolving names, one after the other. The keywords and the registry settle most names; what they do
not settle is answered by a guess, which is kept from then on:

    verdict = some answer  ──▶ answer             nothing is written
    verdict = none         ──▶ detected guess     the guess becomes pending

Both facts about whole rows of names come from this picture. Resolving a name changes the answer to
no name, its own included (`answer_look`): what a mapper answers does not depend on what it was
asked before. And a name that was resolved once is settled, that is, resolving it again writes
nothing (`lookAll_lookAll`).
-/

namespace DesignTokens

/-- What the keywords and the registry say of a name, if they settle it. -/
def Registry.verdict? (r : Registry) (keywords : KeywordSet) (name : Text) : Option Resolution :=
  if isStandard keywords name then some .valid
  else match (r.find? name).filter Mapping.isMapped with
    | some mapping => some (.custom mapping.targets)
    | none => if isValid keywords r.entries name then some .valid else none

namespace Mapper

/-- The targets guessed for a name: those that are pending, or else a new suggestion. -/
def guess (m : Mapper) (name : Text) : List Text := (Assoc.find? name m.pending).getD (suggest name)

/-- The mapper in which the guess for a name is pending. -/
def note (m : Mapper) (name : Text) : Mapper :=
  { m with pending := Assoc.insert name (m.guess name) m.pending }

/-- The two ways of resolving: a verdict writes nothing, a guess is noted. -/
theorem resolve_eq (m : Mapper) (keywords : KeywordSet) (name : Text) :
    m.resolve keywords name =
      match m.registry.verdict? keywords name with
      | some answer => (answer, m)
      | none => (.detected (m.guess name), m.note name) := by
  unfold resolve Registry.verdict?
  split
  · rfl
  · cases (m.registry.find? name).filter Mapping.isMapped with
    | some mapping => rfl
    | none =>
      simp only
      split
      · rfl
      · cases h : Assoc.find? name m.pending with
        | none => simp only [guess, note, h, Option.getD_none]
        | some targets =>
          simp only [guess, note, h, Option.getD_some, Assoc.insert_of_find? h]

/-- Noting a guess changes the guess for no name. -/
theorem guess_note (m : Mapper) (name other : Text) :
    (m.note name).guess other = m.guess other := by
  unfold guess note
  rw [Assoc.find?_insert]
  split
  · next h => rw [h, Option.getD_some, guess]
  · rfl

/-- Noting a guess a second time, whatever was noted in between, changes nothing. -/
theorem note_of_find? {m : Mapper} {name : Text} {targets : List Text}
    (h : Assoc.find? name m.pending = some targets) : m.note name = m := by
  unfold note guess
  rw [h, Option.getD_some, Assoc.insert_of_find? h]

theorem find?_note (m : Mapper) (name : Text) :
    Assoc.find? name (m.note name).pending = some (m.guess name) := by
  rw [note, Assoc.find?_insert, if_pos rfl]

end Mapper

/-! ### Contexts that are asked for names -/

namespace Context

/-- What a context answers to a name. -/
def answer (x : Context) (name : Text) : Resolution := (x.mapper.resolve x.keywords name).1

/-- The context after it was asked for a name. -/
def look (x : Context) (name : Text) : Context :=
  { x with mapper := (x.mapper.resolve x.keywords name).2 }

/-- The context after it was asked for names, one after the other. -/
def lookAll (x : Context) (names : List Text) : Context := names.foldl look x

/-- Asking for the name again leaves the context as it is. -/
def Settled (x : Context) (name : Text) : Prop := x.look name = x

/-- The answer is the verdict, or the guess where there is none. -/
theorem answer_eq (x : Context) (name : Text) :
    x.answer name =
      (x.mapper.registry.verdict? x.keywords name).getD (.detected (x.mapper.guess name)) := by
  rw [answer, Mapper.resolve_eq]
  cases x.mapper.registry.verdict? x.keywords name <;> rfl

/-- A look writes the guess for a name without a verdict, and nothing else. -/
theorem look_eq (x : Context) (name : Text) :
    x.look name =
      match x.mapper.registry.verdict? x.keywords name with
      | some _ => x
      | none => { x with mapper := x.mapper.note name } := by
  rw [look, Mapper.resolve_eq]
  cases x.mapper.registry.verdict? x.keywords name <;> rfl

@[simp] theorem keywords_look (x : Context) (name : Text) : (x.look name).keywords = x.keywords :=
  rfl

@[simp] theorem registry_look (x : Context) (name : Text) :
    (x.look name).mapper.registry = x.mapper.registry := by
  rw [look_eq]
  cases x.mapper.registry.verdict? x.keywords name <;> rfl

/-- Being asked for one name changes the answer to no name. -/
@[simp] theorem answer_look (x : Context) (name other : Text) :
    (x.look name).answer other = x.answer other := by
  rw [answer_eq, answer_eq, registry_look, keywords_look, look_eq]
  cases x.mapper.registry.verdict? x.keywords name with
  | some _ => rfl
  | none => rw [Mapper.guess_note]

/-- A name is settled when it has a verdict or is pending. -/
theorem settled_iff {x : Context} {name : Text} :
    x.Settled name ↔ (x.mapper.registry.verdict? x.keywords name).isSome ∨
      (Assoc.find? name x.mapper.pending).isSome := by
  rw [Settled, look_eq]
  cases x.mapper.registry.verdict? x.keywords name with
  | some _ => simp
  | none =>
    constructor
    · intro h
      have hm : x.mapper.note name = x.mapper := congrArg Context.mapper h
      refine Or.inr ?_
      rw [← hm, Mapper.find?_note]
      rfl
    · rintro (h | h)
      · simp at h
      · obtain ⟨targets, ht⟩ := Option.isSome_iff_exists.mp h
        simp only [Mapper.note_of_find? ht]

theorem settled_look_self (x : Context) (name : Text) : (x.look name).Settled name := by
  rw [settled_iff, registry_look, keywords_look, look_eq]
  cases h : x.mapper.registry.verdict? x.keywords name with
  | some _ => exact Or.inl rfl
  | none => exact Or.inr (by rw [Mapper.find?_note]; rfl)

/-- What is settled stays settled while other names are asked for. -/
theorem Settled.look {x : Context} {name : Text} (h : x.Settled name) (other : Text) :
    (x.look other).Settled name := by
  rw [settled_iff] at h ⊢
  rw [registry_look, keywords_look]
  refine h.imp_right fun hp => ?_
  rw [look_eq]
  cases x.mapper.registry.verdict? x.keywords other with
  | some _ => exact hp
  | none =>
    rw [Mapper.note, Assoc.find?_insert]
    split
    · rfl
    · exact hp

/-! ### Rows of names -/

@[simp] theorem lookAll_cons (x : Context) (name : Text) (names : List Text) :
    x.lookAll (name :: names) = (x.look name).lookAll names := rfl

theorem lookAll_append (x : Context) (names more : List Text) :
    x.lookAll (names ++ more) = (x.lookAll names).lookAll more := List.foldl_append ..

@[simp] theorem keywords_lookAll (x : Context) (names : List Text) :
    (x.lookAll names).keywords = x.keywords := by
  induction names generalizing x with
  | nil => rfl
  | cons name names ih => rw [lookAll_cons, ih, keywords_look]

@[simp] theorem registry_lookAll (x : Context) (names : List Text) :
    (x.lookAll names).mapper.registry = x.mapper.registry := by
  induction names generalizing x with
  | nil => rfl
  | cons name names ih => rw [lookAll_cons, ih, registry_look]

@[simp] theorem answer_lookAll (x : Context) (names : List Text) (other : Text) :
    (x.lookAll names).answer other = x.answer other := by
  induction names generalizing x with
  | nil => rfl
  | cons name names ih => rw [lookAll_cons, ih, answer_look]

theorem Settled.lookAll {x : Context} {name : Text} (h : x.Settled name) (names : List Text) :
    (x.lookAll names).Settled name := by
  induction names generalizing x with
  | nil => exact h
  | cons other names ih => exact ih (h.look other)

/-- Every name of a row is settled once the row was asked for. -/
theorem settled_lookAll {x : Context} {names : List Text} {name : Text} (h : name ∈ names) :
    (x.lookAll names).Settled name := by
  induction names generalizing x with
  | nil => exact absurd h List.not_mem_nil
  | cons other names ih =>
    rcases List.mem_cons.mp h with rfl | h
    · exact (settled_look_self x name).lookAll names
    · exact ih h

theorem lookAll_of_settled {x : Context} {names : List Text} (h : ∀ name ∈ names, x.Settled name) :
    x.lookAll names = x := by
  induction names with
  | nil => rfl
  | cons name names ih =>
    rw [lookAll_cons, h name (List.mem_cons_self ..)]
    exact ih fun other ho => h other (List.mem_cons_of_mem _ ho)

/-- Asking for a row of names a second time writes nothing. -/
theorem lookAll_lookAll (x : Context) (names : List Text) :
    (x.lookAll names).lookAll names = x.lookAll names :=
  lookAll_of_settled fun _ h => settled_lookAll h

end Context

end DesignTokens
