import DesignTokens.Proofs.Render.Checks

/-!
What can be in the way of a pass. There are four kinds of obstacles, looked for in this order:

    a separator that breaks the rule (three settings)   ──▶  the error of that setting
    no inputs                                           ──▶  no input
    a default index behind the last input               ──▶  that index and the number of inputs
    a default input that cannot be read, but is needed  ──▶  no input

The default input is needed where it is the only one to be used: in the modes that use one input, and
in a class pass over a single input. A class pass over several goes on without it. The first obstacle
that stands is the one reported (`firstObstacle`), and a pass fails just if there is one
(`pass_fails_exactly`).
-/

namespace DesignTokens

/-! ### Separators -/

namespace SeparatorField

/-- The separator that the setting holds. -/
def value (c : Config) : SeparatorField → Text
  | .separator => c.naming.separator
  | .blankReplacement => c.naming.blankReplacement
  | .pathSeparator => c.pathSeparator

/-- The rule for separators is broken: the separator is too long, or empty where it may not be. -/
def Breaks (c : Config) (field : SeparatorField) : Prop :=
  (field.value c = [] ∧ field ≠ .blankReplacement) ∨ mostSeparatorChars < (field.value c).length

instance (c : Config) : DecidablePred (Breaks c) := fun _ => inferInstanceAs (Decidable (_ ∨ _))

/-- What is said of a separator that breaks the rule. -/
def error (c : Config) (field : SeparatorField) : ConfigError :=
  if field.value c = [] then .emptySeparator field else .separatorTooLong field (field.value c)

/-- The settings in the order in which they are looked at. -/
def inOrder : List SeparatorField := [.separator, .blankReplacement, .pathSeparator]

/-- A separator has a fault just if it breaks the rule. -/
theorem separatorFault_eq (c : Config) (field : SeparatorField) :
    Config.separatorFault field (field.value c) (field = .blankReplacement) =
      if field.Breaks c then some (field.error c) else none := by
  unfold Config.separatorFault Breaks error
  by_cases hempty : field.value c = []
  · cases field <;> simp [hempty]
  · simp [hempty]

end SeparatorField

open SeparatorField

/-- The fault of the settings is the one of the first separator that breaks the rule. -/
theorem fault_eq (c : Config) :
    c.fault = (SeparatorField.inOrder.find? (·.Breaks c)).map (·.error c) := by
  have hseparator := separatorFault_eq c .separator
  have hblank := separatorFault_eq c .blankReplacement
  have hpath := separatorFault_eq c .pathSeparator
  simp only [value, reduceCtorEq, decide_true, decide_false] at hseparator hblank hpath
  rw [Config.fault, hseparator, hblank, hpath]
  unfold inOrder
  by_cases hs : Breaks c .separator
  · simp [hs]
  by_cases hb : Breaks c .blankReplacement
  · simp [hs, hb]
  by_cases hp : Breaks c .pathSeparator <;> simp [hs, hb, hp]

/-! ### Obstacles -/

/-- What can be in the way of a pass. -/
inductive Obstacle where
  /-- The setting breaks the rule for separators. -/
  | separator (field : SeparatorField)
  /-- There are no inputs. -/
  | noInputs
  /-- There is no input at the index of the default one. -/
  | noDefault
  /-- The default input has no document, and the pass cannot do without. -/
  | unreadable
  deriving DecidableEq

namespace Obstacle

/-- The obstacle is in the way. -/
def Stands (c : Config) (sources : List Source) : Obstacle → Prop
  | separator field => field.Breaks c
  | noInputs => sources = []
  | noDefault => sources.length ≤ c.defaultFile.toNat
  | unreadable => documentAt sources c.defaultFile.toNat = none ∧
      (c.mode = .properties ∨ c.mode = .references ∨ sources.length = 1)

instance (c : Config) (sources : List Source) : DecidablePred (Stands c sources)
  | separator field => inferInstanceAs (Decidable (field.Breaks c))
  | noInputs => inferInstanceAs (Decidable (sources = []))
  | noDefault => inferInstanceAs (Decidable (_ ≤ _))
  | unreadable => inferInstanceAs (Decidable (_ ∧ _))

/-- What is reported when the obstacle is met. -/
def error (c : Config) (sources : List Source) : Obstacle → RenderError
  | separator field => .config (field.error c)
  | noInputs | unreadable => .noInput
  | noDefault => .defaultOutOfRange c.defaultFile.toNat sources.length

/-- The obstacles in the order in which they are looked for. -/
def inOrder : List Obstacle :=
  SeparatorField.inOrder.map separator ++ [noInputs, noDefault, unreadable]

end Obstacle

/-- Every obstacle is looked for. -/
theorem Obstacle.mem_inOrder (o : Obstacle) : o ∈ inOrder := by
  cases o with
  | separator field => cases field <;> decide
  | noInputs | noDefault | unreadable => decide

/-- The first obstacle that is in the way. -/
def firstObstacle (c : Config) (sources : List Source) : Option Obstacle :=
  Obstacle.inOrder.find? (·.Stands c sources)

theorem exists_firstObstacle_iff {c : Config} {sources : List Source} :
    (∃ o, firstObstacle c sources = some o) ↔ ∃ o : Obstacle, o.Stands c sources := by
  rw [← Option.isSome_iff_exists, firstObstacle, List.find?_isSome]
  simp [Obstacle.mem_inOrder]

/-- Obstacles in the settings come before all others. -/
theorem firstObstacle_of_fault {c : Config} {e : ConfigError} (h : c.fault = some e)
    (sources : List Source) :
    ∃ o, firstObstacle c sources = some o ∧ o.error c sources = .config e := by
  rw [fault_eq, Option.map_eq_some_iff] at h
  obtain ⟨field, hfield, rfl⟩ := h
  refine ⟨.separator field, ?_, rfl⟩
  have hfirst : (SeparatorField.inOrder.map Obstacle.separator).find? (·.Stands c sources) =
      some (.separator field) := by
    rw [List.find?_map, Option.map_eq_some_iff]
    exact ⟨field, hfield, rfl⟩
  rw [firstObstacle, Obstacle.inOrder, List.find?_append, hfirst, Option.some_or]

/-- Behind good settings the inputs are looked at. -/
theorem firstObstacle_of_no_fault {c : Config} (h : c.fault = none) (sources : List Source) :
    firstObstacle c sources =
      [Obstacle.noInputs, .noDefault, .unreadable].find? (·.Stands c sources) := by
  rw [fault_eq, Option.map_eq_none_iff] at h
  have hnone : (SeparatorField.inOrder.map Obstacle.separator).find? (·.Stands c sources) = none := by
    rw [List.find?_map, Option.map_eq_none_iff]
    exact h
  rw [firstObstacle, Obstacle.inOrder, List.find?_append, hnone, Option.none_or]

/-! ### Passes -/

section Passes

variable {c : Config} {sources : List Source}

/-- Without a default input no pass can be made. -/
theorem tryRender_of_no_default (hvalid : c.fault = none) {e : RenderError}
    (h : defaultIndex c sources = .error e) (x : Context) : tryRender c x sources = .error e := by
  unfold tryRender classSheet
  rw [hvalid]
  cases c.mode <;> simp only [h] <;> rfl

/-- A default input that is needed and cannot be read is no input. -/
theorem tryRender_of_unreadable (hvalid : c.fault = none)
    (hindex : defaultIndex c sources = .ok c.defaultFile.toNat)
    (h : Obstacle.unreadable.Stands c sources) (x : Context) :
    tryRender c x sources = .error .noInput := by
  obtain ⟨hnone, hneeded⟩ := h
  unfold tryRender classSheet
  rw [hvalid]
  cases hmode : c.mode with
  | classes =>
    have hsingle : sources.length = 1 := by simpa [hmode] using hneeded
    simp only [hindex, bind, Except.bind, if_pos hsingle, hnone]
  | properties | references => simp only [hindex, bind, Except.bind, hnone]

/-- Otherwise a pass with a default input can be made. -/
theorem exists_tryRender_of_default (hvalid : c.fault = none)
    (hindex : defaultIndex c sources = .ok c.defaultFile.toNat)
    (h : ¬Obstacle.unreadable.Stands c sources) (x : Context) :
    ∃ result, tryRender c x sources = .ok result := by
  unfold tryRender classSheet
  rw [hvalid]
  cases hdocument : documentAt sources c.defaultFile.toNat with
  | some document =>
    cases c.mode with
    | classes =>
      simp only [hindex, bind, Except.bind, hdocument]
      split
      · exact ⟨_, rfl⟩
      · exact ⟨_, rfl⟩
    | properties | references =>
      simp only [hindex, bind, Except.bind, hdocument]
      exact ⟨_, rfl⟩
  | none =>
    -- only a class pass over several inputs is left
    have hneeded : ¬(c.mode = .properties ∨ c.mode = .references ∨ sources.length = 1) :=
      fun hneeded => h ⟨hdocument, hneeded⟩
    cases hmode : c.mode with
    | classes =>
      have hseveral : sources.length ≠ 1 := fun hsingle => hneeded (.inr (.inr hsingle))
      simp only [hindex, bind, Except.bind, if_neg hseveral]
      exact ⟨_, rfl⟩
    | properties => exact absurd (.inl hmode) hneeded
    | references => exact absurd (.inr (.inl hmode)) hneeded

/-- A pass fails with the error of the first obstacle, and can be made if there is none. -/
theorem tryRender_meets (c : Config) (x : Context) (sources : List Source) :
    match firstObstacle c sources with
    | some o => tryRender c x sources = .error (o.error c sources)
    | none => ∃ result, tryRender c x sources = .ok result := by
  cases hfault : c.fault with
  | some e =>
    obtain ⟨o, hfirst, herror⟩ := firstObstacle_of_fault hfault sources
    rw [hfirst]
    simp only [herror]
    rw [tryRender, hfault]
  | none =>
    rw [firstObstacle_of_no_fault hfault]
    by_cases hempty : sources = []
    · subst hempty
      exact tryRender_of_no_default hfault rfl x
    have hinputs : ¬Obstacle.noInputs.Stands c sources := hempty
    by_cases hdefault : Obstacle.noDefault.Stands c sources
    · simp only [List.find?_cons, hinputs, hdefault, decide_true, decide_false]
      exact tryRender_of_no_default hfault (defaultIndex_of_le hempty hdefault) x
    · have hindex : defaultIndex c sources = .ok c.defaultFile.toNat :=
        defaultIndex_of_lt (Nat.lt_of_not_le hdefault)
      by_cases hunreadable : Obstacle.unreadable.Stands c sources
      · simp only [List.find?_cons, hinputs, hdefault, hunreadable, decide_true, decide_false]
        exact tryRender_of_unreadable hfault hindex hunreadable x
      · simp only [List.find?_cons, List.find?_nil, hinputs, hdefault, hunreadable, decide_false]
        exact exists_tryRender_of_default hfault hindex hunreadable x

/-- A pass fails just if an obstacle is in its way, and reports the first one: a broken rule for
separators, the setting that is looked at first; no inputs; a default index behind the last input;
or a default input that is needed and cannot be read. A pass in which every position has to be in its
list, every slice in its path, and the writer may refuse, fails in the same cases with the same
errors and no others, and otherwise gives the same text and context. -/
theorem pass_fails_exactly (c : Config) (x : Context) (sources : List Source) :
    ((∃ e, tryRender c x sources = .error e) ↔ ∃ o : Obstacle, o.Stands c sources) ∧
    (∀ e, tryRender c x sources = .error e ↔
      ∃ o, firstObstacle c sources = some o ∧ o.error c sources = e) ∧
    (∀ fault, checkedPass c x sources = .error fault ↔
      ∃ o, firstObstacle c sources = some o ∧ fault = .reported (o.error c sources)) ∧
    ∀ result, checkedPass c x sources = .ok result ↔ tryRender c x sources = .ok result := by
  rw [checkedPass_eq, ← exists_firstObstacle_iff]
  have hmeets := tryRender_meets c x sources
  cases hfirst : firstObstacle c sources with
  | some o =>
    rw [hfirst] at hmeets
    simp only at hmeets
    rw [hmeets]
    exact ⟨by simp, fun e => by simp, fun fault => by simp [Except.mapError, eq_comm],
      fun result => by simp [Except.mapError]⟩
  | none =>
    rw [hfirst] at hmeets
    obtain ⟨result, hresult⟩ := hmeets
    rw [hresult]
    exact ⟨by simp, fun e => by simp, fun fault => by simp [Except.mapError],
      fun result => by simp [Except.mapError]⟩

-- a separator that is too long is reported before a default index behind the last input
example :
    let c := { Config.default with pathSeparator := "------", defaultFile := 3 }
    firstObstacle c [⟨"a.json", none⟩] = some (.separator .pathSeparator) := by decide

end Passes

end DesignTokens
