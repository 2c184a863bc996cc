import DesignTokens.Proofs.Preview.Calls

/-!
The newest pass wins. Passes are reported in any order: before the change has fired or after, more
than once, and with changes and fires in between. A report counts when it is newer than all reports
before it:

    reported    2   1   3   3   2
    accepted    ✓       ✓
    applied     2   2   3   3   3     the largest so far

So what is applied is the maximum of the tickets reported, which neither goes back nor depends on
their order.
-/

namespace DesignTokens.Scheduler

/-- The ticket that a call reports. -/
def Call.reported? : Call → Option Ticket
  | .complete ticket => some ticket
  | _ => none

/-- The tickets that calls report, in order. -/
def reported (calls : List Call) : List Ticket := calls.filterMap Call.reported?

theorem reported_concat (calls : List Call) (call : Call) :
    reported (calls ++ [call]) = reported calls ++ call.reported?.toList := by
  rw [reported, List.filterMap_append]
  cases call <;> rfl

/-! ### One report -/

/-- A report is accepted when it is newer than the one that is applied. -/
theorem complete_eq_true_iff {s : Scheduler} {ticket : Ticket} :
    (s.complete ticket).1 = true ↔ ∀ t ∈ s.applied, t < ticket := by
  unfold complete
  cases s.applied with
  | none => simp
  | some newest =>
    simp only [Option.any_some, decide_eq_true_eq, Option.mem_some_iff, forall_eq']
    split
    · next hold => simp [hold]
    · next hnew => simpa using hnew

/-- After a report the larger of the two tickets is applied. -/
theorem applied_complete (s : Scheduler) (ticket : Ticket) :
    (s.complete ticket).2.applied = some (s.applied.elim ticket (max · ticket)) := by
  unfold complete
  cases h : s.applied with
  | none => simp
  | some newest =>
    simp only [Option.any_some, decide_eq_true_eq, Option.elim_some]
    split
    · next hold => rw [h, Nat.max_eq_left hold]
    · next hnew => rw [Nat.max_eq_right (Nat.le_of_lt (Nat.not_le.mp hnew))]

@[simp] theorem applied_fire (s : Scheduler) (now : Nat) : (s.fire now).2.applied = s.applied := by
  unfold fire
  split
  · split <;> rfl
  · rfl

/-- Only a report changes what is applied. -/
theorem applied_after (s : Scheduler) (call : Call) :
    (s.after call).applied =
      call.reported?.elim s.applied fun ticket => some (s.applied.elim ticket (max · ticket)) := by
  cases call with
  | schedule now => rfl
  | fire now => exact applied_fire s now
  | remaining now => rfl
  | complete ticket => exact applied_complete s ticket

/-! ### The newest of many -/

/-- One ticket more: the maximum is the larger of it and of the maximum before. -/
theorem max?_concat (tickets : List Ticket) (ticket : Ticket) :
    (tickets ++ [ticket]).max? = some (tickets.max?.elim ticket (max · ticket)) := by
  cases tickets with
  | nil => rfl
  | cons first rest =>
    rw [List.cons_append, List.max?_cons', List.max?_cons', List.foldl_append]
    rfl

/-- The maximum is at least as large as each ticket. -/
theorem exists_max?_ge {tickets : List Ticket} {t : Ticket} (ht : t ∈ tickets) :
    ∃ u, tickets.max? = some u ∧ t ≤ u := by
  cases hmax : tickets.max? with
  | none =>
    rw [List.max?_eq_none_iff.mp hmax] at ht
    exact absurd ht List.not_mem_nil
  | some u => exact ⟨u, rfl, (List.max?_eq_some_iff.mp hmax).2 t ht⟩

/-- The same tickets have the same maximum, in any order and however often they are repeated. -/
theorem max?_congr {tickets others : List Ticket} (h : ∀ t, t ∈ others ↔ t ∈ tickets) :
    others.max? = tickets.max? := by
  refine Option.ext fun t => ?_
  simp only [List.max?_eq_some_iff, h]

/-! ### Runs -/

/-- What is applied is the newest ticket that was reported. -/
theorem applied_run (delay : Nat) (calls : List Call) :
    ((start delay).run calls).applied = (reported calls).max? := by
  induction calls using List.reverseRecOn with
  | nil => rfl
  | append_singleton calls call ih =>
    rw [run_concat, applied_after, ih, reported_concat]
    cases call.reported? with
    | none => rw [Option.elim_none, Option.toList_none, List.append_nil]
    | some ticket => exact (max?_concat _ ticket).symm

/-- Further calls can only make what is applied newer. -/
theorem exists_applied_ge (delay : Nat) (calls more : List Call) {t : Ticket}
    (ht : t ∈ ((start delay).run calls).applied) :
    ∃ u ∈ ((start delay).run (calls ++ more)).applied, t ≤ u := by
  rw [applied_run] at ht ⊢
  refine exists_max?_ge ?_
  rw [reported, List.filterMap_append]
  exact List.mem_append_left _ (List.max?_mem ht)

/-- In every run the newest report wins: a report is accepted exactly when it is newer than all
reports before it, what is applied is the newest ticket reported so far and never goes back, and
another run in which the same tickets were reported, in whatever order and between whatever other
calls, ends with the same ticket applied. -/
theorem newest_report_wins (delay : Nat) (calls : List Call) :
    let s := (start delay).run calls
    (∀ ticket, (s.complete ticket).1 = true ↔ ∀ t ∈ reported calls, t < ticket) ∧
      s.applied = (reported calls).max? ∧
      (∀ more, ∀ t ∈ s.applied, ∃ u ∈ (s.run more).applied, t ≤ u) ∧
      ∀ delay' calls', (∀ t, t ∈ reported calls' ↔ t ∈ reported calls) →
        ((start delay').run calls').applied = s.applied := by
  intro s
  have hs : s.applied = (reported calls).max? := applied_run delay calls
  refine ⟨fun ticket => ?_, hs, fun more t ht => ?_, fun delay' calls' h => ?_⟩
  · rw [complete_eq_true_iff, hs]
    constructor
    · intro hnewer t ht
      obtain ⟨u, hu, hle⟩ := exists_max?_ge ht
      exact Nat.lt_of_le_of_lt hle (hnewer u hu)
    · intro hall t ht
      exact hall t (List.max?_mem ht)
  · rw [← run_append]
    exact exists_applied_ge delay calls more ht
  · rw [applied_run, hs, max?_congr h]

/-- Two passes are reported in either order, between other calls or not: the second one is applied,
and the first one is not accepted any more. -/
theorem newest_of_two_reports_wins :
    let early := (start 500).run [.schedule 0, .schedule 0, .complete 1, .complete 2]
    let late := (start 500).run [.schedule 0, .schedule 0, .complete 2, .fire 500, .complete 1]
    (late.complete 1).1 = false ∧ late.applied = early.applied ∧ early.applied = some 2 := by
  intro early late
  obtain ⟨haccepted, -, -, -⟩ :=
    newest_report_wins 500 [.schedule 0, .schedule 0, .complete 2, .fire 500, .complete 1]
  obtain ⟨-, happlied, -, hsame⟩ :=
    newest_report_wins 500 [.schedule 0, .schedule 0, .complete 1, .complete 2]
  refine ⟨?_, hsame 500 _ fun t => ?_, happlied⟩
  · refine Bool.eq_false_iff.mpr fun h => ?_
    exact absurd ((haccepted 1).mp h 2 (by decide)) (by decide)
  · simp [reported, Call.reported?, or_comm]

end DesignTokens.Scheduler
