import Orchestrate.Ledger.Moves

namespace Ledger

open Effect

variable {α : Type} {cap : Int} {s s' : State α} {m : Move α}

/-- What the counter should show: the slots held, those about to be undone included, less the drained
    items that nobody has counted yet. -/
def State.balance (s : State α) : Int :=
  s.running + s.number .releasing + s.number .admitted + s.number .overCap - s.number .uncounted

/-- Items that run, and callers that are bound to place one. -/
def State.committed (s : State α) : Int :=
  s.running + s.number .releasing + s.number .admitted + s.number .carrying

/-- Items that still have a release to come, or callers that place one or pop the waiting list. -/
def State.drainers (s : State α) : Int :=
  s.running + s.number .releasing + s.number .popping + s.number .carrying + s.number .admitted

def State.Quiet (s : State α) : Prop := ∀ role ∈ s.callers, role = .idle

theorem State.Quiet.number {s : State α} (quiet : s.Quiet) {role : Role} (busy : role ≠ .idle) :
    s.number role = 0 := by
  have absent : role ∉ s.callers := fun member => busy (quiet role member)
  simp [State.number, List.count_eq_zero.mpr absent]

def NoExpiry (_ : State α) (m : Move α) : Prop := m ≠ .expire

/-- A reset overwrites no positive counter. -/
def ResetClean (s : State α) : Move α → Prop
  | .reset _ => s.counter ≤ 0
  | _ => True

/-- A slot is taken only if one is left once the pending callers have settled the counter. -/
def SlotLeft (cap : Int) (s : State α) : Move α → Prop
  | .grant _ | .pop _ => s.counter + s.number .carrying + s.number .uncounted - s.number .overCap < cap
  | _ => True

/-- An item is parked, or a drain is given up, only while some other drain is still to come. -/
def DrainLeft (s : State α) : Move α → Prop
  | .push _ _ => 0 < s.drainers
  | .corrupt _ => s.waiting = [] ∨ 1 < s.drainers
  | _ => True

/-- A decrement happens only while the uncounted items are fewer than the slots held. -/
def Settled (s : State α) : Move α → Prop
  | .giveBack _ | .corrupt _ | .undo _ =>
    s.number .uncounted < s.running + s.number .releasing + s.number .admitted + s.number .overCap
  | _ => True

instance (s : State α) (m : Move α) : Decidable (ResetClean s m) := by
  unfold ResetClean
  split <;> infer_instance

instance (cap : Int) (s : State α) (m : Move α) : Decidable (SlotLeft cap s m) := by
  unfold SlotLeft
  split <;> infer_instance

instance [DecidableEq α] (s : State α) (m : Move α) : Decidable (DrainLeft s m) := by
  unfold DrainLeft
  split <;> infer_instance

instance (s : State α) (m : Move α) : Decidable (Settled s m) := by
  unfold Settled
  split <;> infer_instance

/-- The counter is never negative, and exact whenever no call is under way. -/
def State.Accurate (s : State α) : Prop := 0 ≤ s.counter ∧ (s.Quiet → s.counter = s.running)

/-- The cap is kept by every run that takes slots only while the settled counter leaves one, and
    resets no positive counter. -/
theorem committed_le_cap (nonneg : 0 ≤ cap) {visited : List (State α × Move α)}
    (run : (machine cap).Run .empty visited s) (alive : Machine.Guarded NoExpiry visited)
    (clean : Machine.Guarded ResetClean visited) (left : Machine.Guarded (SlotLeft cap) visited) :
    s.committed ≤ cap := by
  have guarded : Machine.Guarded (fun s m => NoExpiry s m ∧ ResetClean s m ∧ SlotLeft cap s m) visited :=
    fun v member => ⟨alive v member, clean v member, left v member⟩
  have kept : s.balance ≤ s.counter ∧ s.committed ≤ cap := by
    refine run.invariant (fun s => s.balance ≤ s.counter ∧ s.committed ≤ cap) guarded
      ⟨Int.le_refl 0, by simpa [State.committed, State.empty, State.number] using nonneg⟩ ?_
    rintro s m s' ⟨covered, bounded⟩ ⟨alive, clean, left⟩ moved
    obtain ⟨test, present, number, counter, running, waiting⟩ := step_effects moved
    simp only [State.balance, State.committed, number, counter, running] at covered bounded ⊢
    cases m <;>
      simp [Move.leaves, Move.enters, Move.counterAfter, Move.runningAfter, NoExpiry, ResetClean,
        SlotLeft] at * <;> omega
  exact kept.2

/-- Whoever waits can still be drained, in every run that parks items and gives drains up only while
    another drain is to come. The counter plays no part, so it may expire. -/
theorem waiting_drainable {visited : List (State α × Move α)}
    (run : (machine cap).Run .empty visited s) (left : Machine.Guarded DrainLeft visited)
    (waits : s.waiting ≠ []) : 0 < s.drainers := by
  refine run.invariant (fun s => s.waiting ≠ [] → 0 < s.drainers) left
    (fun waits => absurd rfl waits) ?_ waits
  intro s m s' drainable left moved waits
  obtain ⟨test, present, number, counter, running, waiting⟩ := step_effects moved
  rw [waiting] at waits
  simp only [State.drainers, number, running] at drainable ⊢
  cases m <;>
    simp [Move.leaves, Move.enters, Move.runningAfter, Move.waitingAfter, Move.Test, DrainLeft,
      State.drainers] at * <;>
    grind

theorem quiet_drainers (quiet : s.Quiet) : s.drainers = s.running := by
  simp [State.drainers, quiet.number]

structure State.Exact (s : State α) : Prop where
  balanced : s.counter = s.balance
  noReset : s.number .resetting = 0
  nonneg : 0 ≤ s.counter

theorem exact_empty : (State.empty : State α).Exact := ⟨rfl, rfl, Int.le_refl 0⟩

theorem exact_step (exact : s.Exact) (alive : NoExpiry s m) (settled : Settled s m)
    (moved : step cap s m = some s') : s'.Exact := by
  obtain ⟨balanced, noReset, nonneg⟩ := exact
  obtain ⟨test, present, number, counter, running, waiting⟩ := step_effects moved
  constructor
  all_goals
    simp only [State.balance, number, counter, running] at balanced ⊢
    cases m <;>
      simp [Move.leaves, Move.enters, Move.counterAfter, Move.runningAfter, Move.Test, Settled,
        NoExpiry] at * <;> omega

theorem State.Exact.accurate {s : State α} (exact : s.Exact) : s.Accurate := by
  refine ⟨exact.nonneg, fun quiet => ?_⟩
  simpa [State.balance, quiet.number] using exact.balanced

theorem settled_of_nonneg (exact : s.Exact) (moved : step cap s m = some s')
    (nonneg : 0 ≤ s'.counter) : Settled s m := by
  have balanced := exact.balanced
  rw [(step_effects moved).counter] at nonneg
  unfold State.balance at balanced
  cases m <;> simp only [Move.counterAfter, Settled] at nonneg ⊢ <;> omega

/-- The counter is nowhere negative in a run exactly if every decrement is settled. -/
theorem nonneg_iff {visited : List (State α × Move α)} (run : (machine cap).Run .empty visited s)
    (alive : Machine.Guarded NoExpiry visited) :
    ((∀ v ∈ visited, 0 ≤ v.1.counter) ∧ 0 ≤ s.counter) ↔ Machine.Guarded Settled visited := by
  refine run.stays_iff State.Exact (fun s => 0 ≤ s.counter) alive exact_empty (Int.le_refl 0) ?_ ?_
  · intro s m s' exact alive moved settled
    have exact' := exact_step exact alive settled moved
    exact ⟨exact', exact'.nonneg⟩
  · intro s m s' exact alive moved nonneg
    exact settled_of_nonneg exact moved nonneg

/-- It is exact then. -/
theorem exact_throughout {visited : List (State α × Move α)} (run : (machine cap).Run .empty visited s)
    (alive : Machine.Guarded NoExpiry visited) (settled : Machine.Guarded Settled visited) :
    (∀ v ∈ visited, v.1.Exact) ∧ s.Exact := by
  have guarded : Machine.Guarded (fun s m => NoExpiry s m ∧ Settled s m) visited :=
    fun v member => ⟨alive v member, settled v member⟩
  apply run.throughout State.Exact guarded exact_empty
  intro s m s' exact both moved
  exact exact_step exact both.1 both.2 moved

end Ledger
