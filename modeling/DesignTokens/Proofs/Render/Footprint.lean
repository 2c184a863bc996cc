import DesignTokens.Proofs.Mapping.Verdicts
import DesignTokens.Proofs.Render.Pass

/-!
What a pass leaves behind. A pass shares one context with its caller, and what it writes there stays
written when a later step fails; `passSteps` is the pass told in such steps. It turns out that a
pass fails before it writes anything, and that it writes guesses only, one for each name that
nothing settles, where the name is first met:

    pending before        a  c
    names of the pass     b  a  d  b  e          d has a verdict
    pending after         a  c  b  e             b and e with their suggestions

The pass that is run gives its context back only if it succeeds; by `outcome_passSteps` there is
nothing that a failure would have to give back.
-/

namespace DesignTokens

/-! ### Names that have to be guessed -/

namespace Context

/-- Whether a name has to be guessed: it is not pending, not standard, not mapped to any targets and
not valid for another reason. -/
def isUnknown (x : Context) (name : Text) : Bool :=
  !(Assoc.keys x.mapper.pending).contains name && !isStandard x.keywords name &&
    !(x.mapper.registry.find? name).any Mapping.isMapped &&
    !isValid x.keywords x.mapper.registry.entries name

/-- The guesses that a row of names leads to: one for each unknown name, where it first occurs. -/
def newGuesses (x : Context) (names : List Text) : Assoc Text (List Text) :=
  (names.filter x.isUnknown).eraseDups.map fun name => (name, suggest name)

variable {x : Context} {name : Text}

theorem isUnknown_iff : x.isUnknown name ↔
    Assoc.find? name x.mapper.pending = none ∧
      x.mapper.registry.verdict? x.keywords name = none := by
  rw [Assoc.find?_eq_none_iff, Registry.verdict?_eq_none_iff]
  have hmapped : (x.mapper.registry.find? name).any Mapping.isMapped = false ↔
      ∀ m, x.mapper.registry.find? name = some m → m.isMapped = false := by
    cases x.mapper.registry.find? name <;> simp
  simp [isUnknown, and_assoc, hmapped]

/-- Asking for an unknown name adds its suggestion at the end. -/
theorem look_of_isUnknown (h : x.isUnknown name) :
    x.look name =
      { x with mapper := { x.mapper with
          pending := x.mapper.pending ++ [(name, suggest name)] } } := by
  obtain ⟨hpending, hverdict⟩ := isUnknown_iff.mp h
  have hguess : x.mapper.guess name = suggest name := by
    rw [Mapper.guess, hpending, Option.getD_none]
  rw [look_eq, hverdict]
  simp only [Mapper.note, hguess]
  rw [Assoc.insert_of_notMem _ ((Assoc.find?_eq_none_iff name _).mp hpending)]

/-- Asking for any other name writes nothing. -/
theorem look_of_not_isUnknown (h : ¬x.isUnknown name) : x.look name = x := by
  refine settled_iff.mpr ?_
  by_contra hnot
  rw [not_or, Option.not_isSome_iff_eq_none, Option.not_isSome_iff_eq_none] at hnot
  exact h (isUnknown_iff.mpr hnot.symm)

/-- Once an unknown name was asked for, the others are still unknown. -/
theorem isUnknown_look (h : x.isUnknown name) (other : Text) :
    (x.look name).isUnknown other = (!other == name && x.isUnknown other) := by
  rw [look_of_isUnknown h]
  unfold isUnknown
  simp only [Assoc.keys, List.map_append, List.map_cons, List.map_nil, List.contains_append]
  simp [Bool.not_or, Bool.and_comm, Bool.and_left_comm, beq_eq_decide]

/-- Asking for a row of names adds the guesses that it leads to. -/
theorem pending_lookAll (x : Context) (names : List Text) :
    (x.lookAll names).mapper.pending = x.mapper.pending ++ x.newGuesses names := by
  induction names generalizing x with
  | nil => exact (List.append_nil _).symm
  | cons name names ih =>
    rw [lookAll_cons]
    by_cases h : x.isUnknown name
    · -- the name is new: it is guessed, and of the names behind it only others are
      have hrest : names.filter (x.look name).isUnknown =
          (names.filter x.isUnknown).filter fun other => !other == name := by
        rw [List.filter_filter]
        exact List.filter_congr fun other _ => isUnknown_look h other
      rw [ih, newGuesses, newGuesses, hrest, List.filter_cons_of_pos h, List.eraseDups_cons,
        List.map_cons, look_of_isUnknown h]
      simp only [List.append_assoc, List.singleton_append]
    · rw [look_of_not_isUnknown h, ih, newGuesses, newGuesses, List.filter_cons_of_neg h]

end Context

/-! ### Passes in steps -/

/-- Steps that share one context and may fail; a failure does not take back what was written. -/
abbrev PassSteps := ExceptT RenderError (StateM Context)

namespace PassSteps
variable {α β : Type}

/-- What steps come to from a context on, and the context as it is then. -/
def outcome (steps : PassSteps α) (x : Context) : Except RenderError α × Context :=
  Id.run (steps.run.run x)

/-- A step that may fail and does not touch the context. -/
def check (result : Except RenderError α) : PassSteps α := ExceptT.mk (pure result)

/-- A step that reads and writes the context and cannot fail. -/
def update (f : Context → α × Context) : PassSteps α := modifyGet f

theorem outcome_check (result : Except RenderError α) (x : Context) :
    (check result).outcome x = (result, x) := rfl

/-- Steps go on from where the ones before have left the context, unless those have failed. -/
theorem outcome_bind (steps : PassSteps α) (next : α → PassSteps β) (x : Context) :
    (steps >>= next).outcome x =
      match steps.outcome x with
      | (.ok a, y) => (next a).outcome y
      | (.error e, y) => (.error e, y) := by
  unfold outcome
  show Id.run ((ExceptT.bindCont next (steps.run.run x).1).run (steps.run.run x).2) = _
  rcases steps.run.run x with ⟨result, y⟩
  cases result <;> rfl

end PassSteps

open PassSteps

/-- The document of an input, where a pass cannot do without it. -/
def neededDocument (sources : List Source) (index : Nat) : Except RenderError Json :=
  (documentAt sources index).elim (.error .noInput) .ok

/-- A class pass in steps. -/
def classSteps (c : Config) (sources : List Source) : PassSteps Text := do
  let default ← check (defaultIndex c sources)
  if sources.length = 1 then
    let document ← check (neededDocument sources default)
    let block ← update fun x => ClassBlock.ofDocument c x document
    return singleSheet block
  else update fun x => responsiveSheet c x sources default

/-- A pass in steps. -/
def passSteps (c : Config) (sources : List Source) : PassSteps Text := do
  check (c.fault.elim (.ok ()) fun e => .error (.config e))
  match c.mode with
  | .classes => classSteps c sources
  | _ =>
    let default ← check (defaultIndex c sources)
    let document ← check (neededDocument sources default)
    let keywords ← update fun x => (x.keywords, x)
    return documentText c (Token.extract c.naming keywords document)

theorem outcome_classSteps (c : Config) (x : Context) (sources : List Source) :
    (classSteps c sources).outcome x =
      match classSheet c x sources with
      | .ok (text, y) => (.ok text, y)
      | .error e => (.error e, x) := by
  unfold classSteps classSheet
  rw [outcome_bind, outcome_check]
  cases defaultIndex c sources with
  | error e => rfl
  | ok default =>
    simp only [bind, Except.bind]
    split
    · unfold neededDocument
      cases documentAt sources default <;> rfl
    · rfl

/-- The pass that is run comes to what the steps come to: it gives the same text or the same error,
and the context that its caller goes on with is the one that the steps have left. -/
theorem outcome_passSteps (c : Config) (x : Context) (sources : List Source) :
    (passSteps c sources).outcome x =
      ((tryRender c x sources).map Prod.fst, (render c x sources).2) := by
  unfold passSteps render tryRender
  rw [outcome_bind, outcome_check]
  cases c.fault with
  | some e => rfl
  | none =>
    simp only [Option.elim_none]
    cases c.mode with
    | classes =>
      simp only [outcome_classSteps]
      cases classSheet c x sources <;> rfl
    | properties | references =>
      simp only [outcome_bind, outcome_check]
      cases defaultIndex c sources with
      | error e => rfl
      | ok default =>
        simp only [bind, Except.bind, neededDocument]
        cases documentAt sources default <;> rfl

/-- Only class passes ask for names. -/
theorem passNames_of_not_classes {c : Config} (h : c.mode ≠ .classes) (keywords : KeywordSet)
    (sources : List Source) : passNames c keywords sources = [] := by
  unfold passNames
  cases hm : c.mode with
  | classes => exact absurd hm h
  | properties | references => rfl

/-- A pass leaves guesses behind and nothing else. It never changes the keywords or the registry; if
it fails, or if it makes no classes, its context is as it was; and if a class pass succeeds, what
was pending is followed by a guess for each unknown name of its inputs, the default one first and
then the others in order, where the name first occurs. -/
theorem pass_leaves_guesses_only (c : Config) (x : Context) (sources : List Source) :
    let result := (passSteps c sources).outcome x
    result = ((tryRender c x sources).map Prod.fst, (render c x sources).2) ∧
      result.2.keywords = x.keywords ∧ result.2.mapper.registry = x.mapper.registry ∧
      (∀ e, result.1 = .error e → result.2 = x) ∧
      (c.mode ≠ .classes → result.2 = x) ∧
      (∀ text, c.mode = .classes → result.1 = .ok text →
        result.2.mapper.pending = x.mapper.pending ++
          x.newGuesses ((classDocuments c sources).flatMap (documentNames c x.keywords))) := by
  intro result
  have hresult : result = ((tryRender c x sources).map Prod.fst, (render c x sources).2) :=
    outcome_passSteps c x sources
  refine ⟨hresult, ?_⟩
  rw [hresult, render]
  cases h : tryRender c x sources with
  | error e => exact ⟨rfl, rfl, fun _ _ => rfl, fun _ => rfl, nofun⟩
  | ok pair =>
    obtain ⟨text, y⟩ := pair
    obtain rfl := context_of_tryRender h
    refine ⟨Context.keywords_lookAll x _, Context.registry_lookAll x _, nofun, fun hmode => ?_,
      fun _ hmode _ => ?_⟩
    · rw [passNames_of_not_classes hmode]
      rfl
    · rw [Context.pending_lookAll, passNames, hmode]

/-- Three inputs, of which one cannot be read: the pending guess stays in front, a name that is met
again is guessed once, and standard and registered names are not guessed at all. -/
theorem guesses_follow_first_occurrence :
    let token := Json.object [("$type", .string "dimension"), ("$value", .string "4px")]
    let sources : List Source :=
      [⟨"a.json", some (.object [("Glow", token), ("gap", token), ("Inset X", token)])⟩,
        ⟨"b.json", none⟩,
        ⟨"c.json", some (.object [("card gap", token), ("padding-vertical", token),
          ("GLOW", token)])⟩]
    let x : Context := ⟨⟨["gap"]⟩, ⟨.defaults, [("inset-x", [])]⟩⟩
    ((passSteps .default sources).outcome x).2.mapper.pending =
      ([("inset-x", []), ("glow", []), ("card-gap", ["gap"])] : List (Text × List Text)) := by
  intro token sources x
  obtain ⟨-, -, -, -, -, hpending⟩ := pass_leaves_guesses_only .default x sources
  rw [hpending _ rfl rfl]
  decide +kernel

end DesignTokens
