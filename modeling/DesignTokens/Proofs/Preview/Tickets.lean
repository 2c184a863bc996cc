import DesignTokens.Preview.Scheduler

/-!
The order of tickets. Tickets are handed out upwards, so the change that waits is newer than every
pass that was reported (`Ordered`). When it fires, its pass is therefore accepted: the branch that
turns stale passes away is never taken by a pass that was just fired (`complete_of_ordered`).
-/

namespace DesignTokens.Scheduler

/-- No ticket is ahead of the count, and what waits is newer than what is done. -/
structure Ordered (s : Scheduler) : Prop where
  applied_le : ∀ t ∈ s.applied, t ≤ s.issued
  waiting_le : ∀ w ∈ s.waiting, w.ticket ≤ s.issued
  applied_lt : ∀ w ∈ s.waiting, ∀ t ∈ s.applied, t < w.ticket

theorem ordered_start (delay : Nat) : (start delay).Ordered :=
  ⟨by simp [start], by simp [start], by simp [start]⟩

theorem Ordered.schedule {s : Scheduler} (h : s.Ordered) (now : Nat) :
    (s.schedule now).2.Ordered where
  applied_le t ht := Nat.le_succ_of_le (h.applied_le t ht)
  waiting_le w hw := by
    rw [← Option.some.inj hw]
    exact Nat.le_refl _
  applied_lt w hw t ht := by
    rw [← Option.some.inj hw]
    exact Nat.lt_succ_of_le (h.applied_le t ht)

/-- A waiting change whose time has come is taken out. -/
theorem fire_of_due {s : Scheduler} {w : Waiting} {now : Nat} (hw : s.waiting = some w)
    (hd : w.deadline ≤ now) : s.fire now = (some w.ticket, { s with waiting := none }) := by
  rw [fire, hw]
  exact if_pos hd

theorem fire_of_not_due {s : Scheduler} {now : Nat}
    (h : ∀ w ∈ s.waiting, now < w.deadline) : s.fire now = (none, s) := by
  unfold fire
  cases hw : s.waiting with
  | none => rfl
  | some w => exact if_neg (Nat.not_le.mpr (h w hw))

/-- A change waits and is due, or none is. -/
theorem due_or_not (s : Scheduler) (now : Nat) :
    (∃ w, s.waiting = some w ∧ w.deadline ≤ now) ∨ ∀ w ∈ s.waiting, now < w.deadline := by
  cases hw : s.waiting with
  | none => exact Or.inr (by simp)
  | some w =>
    rcases Nat.lt_or_ge now w.deadline with h | h
    · refine Or.inr fun w' hw' => ?_
      rw [← Option.some.inj hw']
      exact h
    · exact Or.inl ⟨w, rfl, h⟩

/-- The pass of the change that waited is newer than all passes reported before. -/
theorem complete_of_ordered {s : Scheduler} {w : Waiting} (h : s.Ordered)
    (hw : s.waiting = some w) :
    ({ s with waiting := none } : Scheduler).complete w.ticket =
      (true, { s with waiting := none, applied := some w.ticket }) := by
  have hnew : s.applied.any (w.ticket ≤ ·) = false := by
    cases ha : s.applied with
    | none => rfl
    | some t =>
      have hlt := h.applied_lt w hw t ha
      exact decide_eq_false (Nat.not_le.mpr hlt)
  rw [complete, if_neg (by rw [hnew]; decide)]

theorem Ordered.done {s : Scheduler} {w : Waiting} (h : s.Ordered) (hw : s.waiting = some w) :
    ({ s with waiting := none, applied := some w.ticket } : Scheduler).Ordered where
  applied_le t ht := by
    rw [← Option.some.inj ht]
    exact h.waiting_le w hw
  waiting_le w' hw' := by cases hw'
  applied_lt w' hw' := by cases hw'

end DesignTokens.Scheduler
