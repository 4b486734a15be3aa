import Orchestrate.Effect.Trace

namespace Effect

open Program

variable {S : Signature} {ε σ : Type}

/-- The attempts of a task from the attempt numbered `made` on, until one returns or no other is left: a
    throwing one is followed by another while there are fewer than `limit`. Each attempt is given by the
    calls it made. -/
inductive Attempts (h : Handler S ε σ) (limit : Nat) (task : Nat → Program S ε Unit) :
    Nat → σ → List (List (σ × S.Call)) → σ → Prop where
  | returns {made : Nat} {s s' : σ} (ran : run h (task made) s = (.ok (), s')) :
    Attempts h limit task made s [visited h (task made) s] s'
  | exhausted {made : Nat} {s s' : σ} {error : ε} (ran : run h (task made) s = (.thrown error, s'))
    (last : limit ≤ made + 1) : Attempts h limit task made s [visited h (task made) s] s'
  | again {made : Nat} {s s₁ s' : σ} {error : ε} {later : List (List (σ × S.Call))}
    (ran : run h (task made) s = (.thrown error, s₁)) (more : made + 1 < limit)
    (rest : Attempts h limit task (made + 1) s₁ later s') :
    Attempts h limit task made s (visited h (task made) s :: later) s'

/-- Runs of a program one after another, each from the state that the one before it left, however that one ended. -/
inductive Repeated {α : Type} (h : Handler S ε σ) (program : Program S ε α) : σ → List (List (σ × S.Call)) → σ → Prop where
  | never {s : σ} : Repeated h program s [] s
  | again {s s₁ s' : σ} {outcome : Outcome ε α} {later : List (List (σ × S.Call))}
    (ran : run h program s = (outcome, s₁)) (ended : outcome ≠ .hung) (rest : Repeated h program s₁ later s') :
    Repeated h program s (visited h program s :: later) s'

namespace Attempts

variable {h : Handler S ε σ} {limit made : Nat} {task : Nat → Program S ε Unit} {s s' : σ}
  {tries : List (List (σ × S.Call))}

theorem ne_nil (concluded : Attempts h limit task made s tries s') : tries ≠ [] := by
  cases concluded <;> simp

theorem linked (concluded : Attempts h limit task made s tries s') : Linked h s tries.flatten s' := by
  have path {made : Nat} {s s' : σ} {outcome : Outcome ε Unit} (ran : run h (task made) s = (outcome, s')) :
      Linked h s (visited h (task made) s) s' := by
    have walked := linked_visited h (task made) s
    rwa [ran] at walked
  induction concluded with
  | returns ran | exhausted ran =>
    rw [List.flatten_singleton]
    exact path ran
  | again ran more rest ih => exact (path ran).append ih

end Attempts

namespace Repeated

variable {α : Type} {h : Handler S ε σ} {program : Program S ε α} {s s' : σ} {tries : List (List (σ × S.Call))}

/-- An invariant that each run keeps, as long as its calls are answered as assumed. -/
theorem safe {assumed allowed : σ → S.Call → Prop} {invariant : σ → Prop}
    (each : ∀ s, invariant s →
      Safe h assumed allowed (fun _ s => invariant s) (fun _ s => invariant s) program s)
    (repeated : Repeated h program s tries s') (initial : invariant s)
    (answers : ∀ v ∈ tries.flatten, assumed v.1 v.2) : invariant s' ∧ ∀ v ∈ tries.flatten, allowed v.1 v.2 := by
  induction repeated with
  | never => exact ⟨initial, fun v member => (List.not_mem_nil member).elim⟩
  | @again s s₁ s' outcome later ran ended rest ih =>
    rw [List.flatten_cons] at answers ⊢
    obtain ⟨first, others⟩ := List.forall_mem_append.mp answers
    have safe := each s initial
    have kept : invariant s₁ := by
      cases outcome with
      | ok value => exact safe.returns first ran
      | thrown error => exact safe.rethrows first ran
      | hung => exact absurd rfl ended
    obtain ⟨holds, allowed⟩ := ih kept others
    exact ⟨holds, List.forall_mem_append.mpr ⟨safe.visited first, allowed⟩⟩

/-- What each run reveals, all of them do, an invariant of the calls being kept. -/
theorem reveals {kept asked : σ → S.Call → Prop} {invariant : σ → Prop}
    (each : ∀ s, invariant s → Reveals h kept asked program s)
    (keep : ∀ s c, invariant s → invariant (h s c).2) (repeated : Repeated h program s tries s') (initial : invariant s)
    (keeps : ∀ v ∈ tries.flatten, kept v.1 v.2) : ∀ v ∈ tries.flatten, asked v.1 v.2 := by
  induction repeated with
  | never => exact fun v member => (List.not_mem_nil member).elim
  | @again s s₁ s' outcome later ran ended rest ih =>
    rw [List.flatten_cons] at keeps ⊢
    obtain ⟨first, others⟩ := List.forall_mem_append.mp keeps
    have kept := run_preserves h keep program s initial
    rw [ran] at kept
    exact List.forall_mem_append.mpr ⟨each s initial first, ih kept others⟩

end Repeated
end Effect
