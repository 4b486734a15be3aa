import Mathlib.Tactic.SplitIfs
import Orchestrate.Effect.Machine

namespace Ledger

open Effect

/-- Where a caller stands who takes or gives back a slot of a shared counter in several steps. -/
inductive Role : Type where
  | idle | admitted | overCap | pushing | releasing | resetting | popping | carrying | uncounted
  deriving DecidableEq, Repr

/-- A counter of slots with a waiting list; `running` items hold a slot of their own. -/
structure State (α : Type) where
  counter : Int
  waiting : List α
  running : Nat
  callers : List Role
  deriving DecidableEq

inductive Move (α : Type) : Type where
  | stutter | arrive | beginRelease | expire
  | grant (i : Nat) | overflow (i : Nat) | place (i : Nat) | undo (i : Nat) | push (i : Nat) (item : α)
  | giveBack (i : Nat) | corrupt (i : Nat) | reset (i : Nat)
  | popNone (i : Nat) | pop (i : Nat) | placeDrained (i : Nat) | countDrained (i : Nat)
  deriving DecidableEq

variable {α : Type}

namespace State

def empty : State α := { counter := 0, waiting := [], running := 0, callers := [] }

def number (s : State α) (role : Role) : Int := s.callers.count role

/-- Let the caller at `i`, standing at `old`, go on to `new`. -/
def advance (s : State α) (i : Nat) (old new : Role) (next : State α) : Option (State α) :=
  if s.callers[i]? = some old then some { next with callers := s.callers.set i new } else none

end State

/-- The moves under a cap. `grant` and `overflow` compare the counter after the increment, `giveBack`
    and `corrupt` after the decrement; a drained item is placed first and counted later. -/
def step (cap : Int) (s : State α) : Move α → Option (State α)
  | .stutter => some s
  | .arrive => some { s with callers := s.callers ++ [.idle] }
  | .beginRelease =>
    if 0 < s.running then
      some { s with running := s.running - 1, callers := s.callers ++ [.releasing] }
    else none
  | .expire => some { s with counter := 0 }
  | .grant i =>
    if s.counter + 1 ≤ cap then
      s.advance i .idle .admitted { s with counter := s.counter + 1 }
    else none
  | .overflow i =>
    if s.counter + 1 ≤ cap then none
    else s.advance i .idle .overCap { s with counter := s.counter + 1 }
  | .place i => s.advance i .admitted .idle { s with running := s.running + 1 }
  | .undo i => s.advance i .overCap .pushing { s with counter := s.counter - 1 }
  | .push i item => s.advance i .pushing .idle { s with waiting := s.waiting ++ [item] }
  | .giveBack i =>
    if s.counter - 1 < 0 then none
    else s.advance i .releasing .popping { s with counter := s.counter - 1 }
  | .corrupt i =>
    if s.counter - 1 < 0 then
      s.advance i .releasing .resetting { s with counter := s.counter - 1 }
    else none
  | .reset i => s.advance i .resetting .idle { s with counter := 0 }
  | .popNone i => if s.waiting = [] then s.advance i .popping .idle s else none
  | .pop i =>
    match s.waiting with
    | [] => none
    | _ :: rest => s.advance i .popping .carrying { s with waiting := rest }
  | .placeDrained i => s.advance i .carrying .uncounted { s with running := s.running + 1 }
  | .countDrained i => s.advance i .uncounted .idle { s with counter := s.counter + 1 }

def machine (cap : Int) : Machine (State α) (Move α) := ⟨step cap⟩

theorem State.advance_eq_some {s next s' : State α} {i : Nat} {old new : Role} :
    s.advance i old new next = some s' ↔
      s.callers[i]? = some old ∧ s' = { next with callers := s.callers.set i new } := by
  unfold State.advance
  split
  · rename_i at_i
    simp only [at_i, true_and, Option.some.injEq]
    exact eq_comm
  · rename_i absent
    simp [absent]

theorem State.number_nonneg (s : State α) (role : Role) : 0 ≤ s.number role := Int.natCast_nonneg _

/-- The role a caller leaves, and the role it enters, by a move. -/
def Move.leaves : Move α → Option Role
  | .stutter | .arrive | .beginRelease | .expire => none
  | .grant _ | .overflow _ => some .idle
  | .place _ => some .admitted
  | .undo _ => some .overCap
  | .push _ _ => some .pushing
  | .giveBack _ | .corrupt _ => some .releasing
  | .reset _ => some .resetting
  | .popNone _ | .pop _ => some .popping
  | .placeDrained _ => some .carrying
  | .countDrained _ => some .uncounted

def Move.enters : Move α → Option Role
  | .stutter | .expire => none
  | .arrive | .place _ | .push _ _ | .reset _ | .popNone _ | .countDrained _ => some .idle
  | .beginRelease => some .releasing
  | .grant _ => some .admitted
  | .overflow _ => some .overCap
  | .undo _ => some .pushing
  | .giveBack _ => some .popping
  | .corrupt _ => some .resetting
  | .pop _ => some .carrying
  | .placeDrained _ => some .uncounted

def Move.counterAfter (counter : Int) : Move α → Int
  | .grant _ | .overflow _ | .countDrained _ => counter + 1
  | .undo _ | .giveBack _ | .corrupt _ => counter - 1
  | .reset _ | .expire => 0
  | _ => counter

def Move.runningAfter (running : Int) : Move α → Int
  | .place _ | .placeDrained _ => running + 1
  | .beginRelease => running - 1
  | _ => running

def Move.waitingAfter (waiting : List α) : Move α → List α
  | .push _ item => waiting ++ [item]
  | .pop _ => waiting.tail
  | _ => waiting

/-- The test a move makes on the shared part before it goes on. -/
def Move.Test (cap : Int) (s : State α) : Move α → Prop
  | .beginRelease => 0 < s.running
  | .grant _ => s.counter + 1 ≤ cap
  | .overflow _ => cap < s.counter + 1
  | .giveBack _ => 0 ≤ s.counter - 1
  | .corrupt _ => s.counter - 1 < 0
  | .popNone _ => s.waiting = []
  | .pop _ => s.waiting ≠ []
  | _ => True

variable {cap : Int} {s s' : State α} {m : Move α}

/-- All that a move can do, apart from the places of the callers in their list. -/
structure Effects (cap : Int) (s : State α) (m : Move α) (s' : State α) : Prop where
  test : m.Test cap s
  present : ∀ role, m.leaves = some role → 0 < s.number role
  number : ∀ role, s'.number role =
    s.number role - (if m.leaves = some role then 1 else 0) + if m.enters = some role then 1 else 0
  counter : s'.counter = m.counterAfter s.counter
  running : (s'.running : Int) = m.runningAfter s.running
  waiting : s'.waiting = m.waitingAfter s.waiting

theorem advance_effects {next : State α} {i : Nat} {old new : Role}
    (leaves : m.leaves = some old) (enters : m.enters = some new)
    (moved : s.advance i old new next = some s') (test : m.Test cap s)
    (counter : next.counter = m.counterAfter s.counter)
    (running : (next.running : Int) = m.runningAfter s.running)
    (waiting : next.waiting = m.waitingAfter s.waiting) : Effects cap s m s' := by
  obtain ⟨at_i, rfl⟩ := State.advance_eq_some.mp moved
  refine ⟨test, ?_, ?_, counter, running, waiting⟩
  · intro role same
    obtain rfl : old = role := Option.some.inj (leaves.symm.trans same)
    exact Int.natCast_pos.mpr (count_pos_of_getElem? at_i)
  · intro role
    simp only [leaves, enters, Option.some.injEq]
    exact count_set at_i new role

theorem append_effects (next : State α) {new : Role}
    (leaves : m.leaves = none) (enters : m.enters = some new)
    (moved : s' = { next with callers := s.callers ++ [new] }) (test : m.Test cap s)
    (counter : next.counter = m.counterAfter s.counter)
    (running : (next.running : Int) = m.runningAfter s.running)
    (waiting : next.waiting = m.waitingAfter s.waiting) : Effects cap s m s' := by
  subst moved
  refine ⟨test, ?_, ?_, counter, running, waiting⟩
  · intro role impossible
    rw [leaves] at impossible
    cases impossible
  · intro role
    simp only [State.number, leaves, enters, List.count_append, List.count_singleton, beq_iff_eq,
      Option.some.injEq]
    split <;> simp

theorem step_effects (moved : step cap s m = some s') : Effects cap s m s' := by
  cases m with
  | stutter =>
    obtain rfl : s = s' := Option.some.inj moved
    exact ⟨trivial, by simp [Move.leaves], by simp [Move.leaves, Move.enters], rfl, rfl, rfl⟩
  | expire =>
    obtain rfl := Option.some.inj moved
    exact ⟨trivial, by simp [Move.leaves], by simp [Move.leaves, Move.enters, State.number], rfl, rfl, rfl⟩
  | arrive =>
    exact append_effects s rfl rfl (Option.some.inj moved).symm trivial rfl rfl rfl
  | beginRelease =>
    simp only [step] at moved
    split at moved
    · rename_i positive
      refine append_effects { s with running := s.running - 1 } rfl rfl
        (Option.some.inj moved).symm positive rfl ?_ rfl
      simp only [Move.runningAfter]
      omega
    · cases moved
  | grant i =>
    simp only [step] at moved
    split at moved
    · exact advance_effects rfl rfl moved ‹_› rfl rfl rfl
    · cases moved
  | overflow i =>
    simp only [step] at moved
    split at moved
    · cases moved
    · refine advance_effects rfl rfl moved ?_ rfl rfl rfl
      simp only [Move.Test]
      omega
  | place i => exact advance_effects rfl rfl moved trivial rfl rfl rfl
  | undo i => exact advance_effects rfl rfl moved trivial rfl rfl rfl
  | push i item => exact advance_effects rfl rfl moved trivial rfl rfl rfl
  | giveBack i =>
    simp only [step] at moved
    split at moved
    · cases moved
    · refine advance_effects rfl rfl moved ?_ rfl rfl rfl
      simp only [Move.Test]
      omega
  | corrupt i =>
    simp only [step] at moved
    split at moved
    · exact advance_effects rfl rfl moved ‹_› rfl rfl rfl
    · cases moved
  | reset i => exact advance_effects rfl rfl moved trivial rfl rfl rfl
  | popNone i =>
    simp only [step] at moved
    split at moved
    · exact advance_effects rfl rfl moved ‹_› rfl rfl rfl
    · cases moved
  | pop i =>
    simp only [step] at moved
    split at moved
    · cases moved
    · rename_i rest waiting
      refine advance_effects rfl rfl moved ?_ rfl rfl ?_
      · simp [Move.Test, waiting]
      · simp [Move.waitingAfter, waiting]
  | placeDrained i => exact advance_effects rfl rfl moved trivial rfl rfl rfl
  | countDrained i => exact advance_effects rfl rfl moved trivial rfl rfl rfl

end Ledger
