import Mathlib.Data.List.Basic

namespace Ledger

/-- A server with a number of slots, and a line of the items that found none free. -/
structure Fifo (α : Type) where
  arrived : List α
  started : List α
  waiting : List α
  finished : Nat
  slots : Int

inductive FifoMove (α : Type) : Type where
  | arrive (item : α)
  | finish
  | stutter

namespace Fifo

variable {α : Type} {cap : Nat} {s s' : Fifo α}

def empty : Fifo α := { arrived := [], started := [], waiting := [], finished := 0, slots := 0 }

/-- An item starts if a slot is free and else joins the line; the slot of a finished item goes to the head of the line. -/
def step (cap : Nat) (s : Fifo α) : FifoMove α → Option (Fifo α)
  | .arrive item =>
    if s.slots + 1 ≤ cap then
      some { s with arrived := s.arrived ++ [item], started := s.started ++ [item], slots := s.slots + 1 }
    else some { s with arrived := s.arrived ++ [item], waiting := s.waiting ++ [item] }
  | .finish =>
    if s.finished < s.started.length then
      match s.waiting with
      | [] => some { s with finished := s.finished + 1, slots := s.slots - 1 }
      | item :: rest => some { s with finished := s.finished + 1, started := s.started ++ [item], waiting := rest }
    else none
  | .stutter => some s

/-- No slot is idle while an item waits. -/
structure Conserving (cap : Nat) (s : Fifo α) : Prop where
  order : s.arrived = s.started ++ s.waiting
  slots : s.slots = s.started.length - s.finished
  within : s.started.length ≤ cap + s.finished
  busy : s.waiting ≠ [] → s.started.length = cap + s.finished

theorem conserving_empty : (empty : Fifo α).Conserving cap where
  order := rfl
  slots := rfl
  within := Nat.zero_le _
  busy := fun waits => absurd rfl waits

theorem Conserving.arrive {item : α} (conserving : s.Conserving cap) (step : s.step cap (.arrive item) = some s') :
    s'.Conserving cap := by
  have slots := conserving.slots
  have within := conserving.within
  simp only [Fifo.step] at step
  split at step
  · rename_i free
    cases step
    have idle : s.waiting = [] := by
      by_contra waits
      have full := conserving.busy waits
      omega
    constructor
    · simp [conserving.order, idle]
    · simp only [List.length_append, List.length_singleton]
      omega
    · simp only [List.length_append, List.length_singleton]
      omega
    · exact fun waits => absurd idle waits
  · rename_i full
    cases step
    constructor
    · simp [conserving.order]
    · exact slots
    · exact within
    · intro _
      dsimp only
      omega

theorem Conserving.finish (conserving : s.Conserving cap) (step : s.step cap .finish = some s') :
    s'.Conserving cap := by
  have slots := conserving.slots
  have within := conserving.within
  simp only [Fifo.step] at step
  split at step
  · split at step
    · rename_i idle
      cases step
      constructor
      · exact conserving.order
      · dsimp only
        omega
      · dsimp only
        omega
      · exact fun waits => absurd idle waits
    · rename_i item rest waits
      cases step
      have full := conserving.busy (by simp [waits])
      constructor
      · simp [conserving.order, waits]
      · simp only [List.length_append, List.length_singleton]
        omega
      · simp only [List.length_append, List.length_singleton]
        omega
      · intro _
        simp only [List.length_append, List.length_singleton]
        omega
  · cases step

theorem conserving_step {m : FifoMove α} (conserving : s.Conserving cap) (step : s.step cap m = some s') :
    s'.Conserving cap := by
  cases m with
  | arrive item => exact conserving.arrive step
  | finish => exact conserving.finish step
  | stutter =>
    cases step
    exact conserving

theorem Conserving.length (conserving : s.Conserving cap) :
    s.started.length = min s.arrived.length (cap + s.finished) := by
  have within := conserving.within
  have count := congrArg List.length conserving.order
  rw [List.length_append] at count
  by_cases idle : s.waiting = []
  · rw [idle, List.length_nil] at count
    omega
  · have full := conserving.busy idle
    omega

theorem Conserving.started_eq (conserving : s.Conserving cap) :
    s.started = s.arrived.take (min s.arrived.length (cap + s.finished)) := by
  rw [← conserving.length, conserving.order, List.take_left]

theorem Conserving.waiting_eq (conserving : s.Conserving cap) :
    s.waiting = s.arrived.drop (min s.arrived.length (cap + s.finished)) := by
  rw [← conserving.length, conserving.order, List.drop_left]

end Fifo
end Ledger
