import Orchestrate.Effect.Trace

namespace Effect

/-- How a call throws: before it has taken effect, or after. -/
inductive Fault (ε : Type) : Type where
  | refused (error : ε)
  | lost (error : ε)
  deriving DecidableEq, Repr

namespace Fault

def error {ε : Type} : Fault ε → ε
  | .refused error | .lost error => error

/-- The call has taken effect. -/
def took {ε : Type} : Fault ε → Bool
  | .refused _ => false
  | .lost _ => true

end Fault

namespace Program

variable {S : Signature} {ε α β σ : Type}

/-- One call fails, the one that so many others are made before; or none does. -/
def faulty (h : Handler S ε σ) : Handler S ε (Option (Nat × Fault ε) × σ)
  | (some (0, fault), s), c => (.error fault.error, none, if fault.took then (h s c).2 else s)
  | (some (n + 1, fault), s), c => ((h s c).1, some (n, fault), (h s c).2)
  | (none, s), c => ((h s c).1, none, (h s c).2)

/-- The calls that can fail do so as a plan says, call by call, and the environment may be another one at each. -/
def planned (fallible : S.Call → Bool) (plan : Nat → Option (Fault ε)) (h : Nat → Handler S ε σ) : Handler S ε (Nat × σ)
  | (n, s), c =>
    match fallible c, plan n with
    | true, some fault => (.error fault.error, n + 1, if fault.took then (h n s c).2 else s)
    | _, _ => ((h n s c).1, n + 1, (h n s c).2)

/-- A run that goes to its end by exactly so many calls, each answered; an error of one of them would be thrown. -/
def Straight (h : Handler S ε σ) : Nat → Program S ε α → σ → Prop
  | 0, .done _, _ => True
  | n + 1, .call c next, s =>
    (∀ error, next (.error error) = .throws error) ∧ (h s c).1.toBool = true ∧ Straight h n (next (h s c).1) (h s c).2
  | _, _, _ => False

/-- A call is answered, or it fails as planned. -/
theorem planned_cases (fallible : S.Call → Bool) (plan : Nat → Option (Fault ε)) (h : Nat → Handler S ε σ) (n : Nat)
    (s : σ) (c : S.Call) :
    planned fallible plan h (n, s) c = ((h n s c).1, n + 1, (h n s c).2) ∨
      ∃ fault, plan n = some fault ∧ fallible c = true ∧
        planned fallible plan h (n, s) c = (.error fault.error, n + 1, if fault.took then (h n s c).2 else s) := by
  cases sure : fallible c with
  | false => exact .inl (by simp only [planned, sure])
  | true =>
    cases fails : plan n with
    | none => exact .inl (by simp only [planned, sure, fails])
    | some fault => exact .inr ⟨fault, rfl, rfl, by simp only [planned, sure, fails]⟩

/-- What a call keeps, it keeps also where it fails. -/
theorem planned_keeps (invariant : σ → Prop) {fallible : S.Call → Bool} {plan : Nat → Option (Fault ε)}
    {h : Nat → Handler S ε σ} {s : Nat × σ} {c : S.Call} (initial : invariant s.2)
    (kept : invariant (h s.1 s.2 c).2) : invariant (planned fallible plan h s c).2.2 := by
  rcases planned_cases fallible plan h s.1 s.2 c with answer | ⟨fault, _, _, answer⟩
  · rw [answer]
    exact kept
  · rw [answer]
    dsimp only
    split
    · exact kept
    · exact initial

variable {h : Handler S ε σ} {program : Program S ε α} {m n : Nat} {s s' : σ} {value : α}

theorem straight_await {c : S.Call} (answers : (h s c).1.toBool = true) : Straight h 1 (await c) s := by
  refine ⟨fun _ => rfl, answers, ?_⟩
  cases answer : (h s c).1 with
  | ok reply => trivial
  | error error => simp [answer, Except.toBool] at answers

theorem Straight.bind {next : α → Program S ε β} (first : Straight h m program s)
    (ran : run h program s = (.ok value, s')) (rest : Straight h n (next value) s') :
    Straight h (m + n) (program.bind next) s := by
  induction program generalizing m s with
  | done value =>
    obtain ⟨rfl, rfl⟩ : _ = _ ∧ _ = _ := by simpa using ran
    cases m with
    | zero => simpa using rest
    | succ m => exact first.elim
  | throws error => cases m <;> exact first.elim
  | hangs => cases m <;> exact first.elim
  | call c later ih =>
    cases m with
    | zero => exact first.elim
    | succ m =>
      obtain ⟨rethrows, answers, going⟩ := first
      rw [Nat.add_right_comm]
      refine ⟨fun error => ?_, answers, ih _ going ran⟩
      dsimp only
      rw [rethrows error, bind_throws]

theorem Straight.returns (straight : Straight h n program s) : ∃ value s', run h program s = (.ok value, s') := by
  induction program generalizing n s with
  | done value => exact ⟨value, s, rfl⟩
  | throws error => cases n <;> exact straight.elim
  | hangs => cases n <;> exact straight.elim
  | call c next ih =>
    cases n with
    | zero => exact straight.elim
    | succ n => exact ih _ straight.2.2

theorem run_faulty_none (h : Handler S ε σ) (program : Program S ε α) (s : σ) :
    run (faulty h) program (none, s) = ((run h program s).1, none, (run h program s).2) := by
  induction program generalizing s with
  | done value => rfl
  | throws error => rfl
  | hangs => rfl
  | call c next ih => exact ih _ _

/-- A fault that comes after the calls of a run leaves it alone. -/
theorem Straight.run_before (straight : Straight h m program s) (fault : Fault ε) (later : m ≤ n) :
    run (faulty h) program (some (n, fault), s) = ((run h program s).1, some (n - m, fault), (run h program s).2) := by
  induction program generalizing m n s with
  | done value =>
    cases m with
    | zero => rfl
    | succ m => exact straight.elim
  | throws error => cases m <;> exact straight.elim
  | hangs => cases m <;> exact straight.elim
  | call c next ih =>
    cases m with
    | zero => exact straight.elim
    | succ m =>
      obtain ⟨n, rfl⟩ := Nat.exists_eq_add_of_le' later
      have rest := ih _ straight.2.2 (Nat.le_add_left m n)
      rw [Nat.add_sub_cancel] at rest ⊢
      exact rest

/-- A fault among the calls of a run is thrown. -/
theorem Straight.run_within (straight : Straight h m program s) (fault : Fault ε) (within : n < m) :
    ∃ s', run (faulty h) program (some (n, fault), s) = (.thrown fault.error, none, s') := by
  induction program generalizing m n s with
  | done value =>
    cases m with
    | zero => omega
    | succ m => exact straight.elim
  | throws error => cases m <;> exact straight.elim
  | hangs => cases m <;> exact straight.elim
  | call c next ih =>
    cases m with
    | zero => exact straight.elim
    | succ m =>
      cases n with
      | zero =>
        refine ⟨if fault.took then (h s c).2 else s, ?_⟩
        rw [run_call]
        show run (faulty h) (next (.error fault.error)) _ = _
        rw [straight.1]
        rfl
      | succ n => exact ih _ straight.2.2 (by omega)

/-- A fault, seen from one call earlier. -/
def deferred (fault : Option (Nat × Fault ε)) : Option (Nat × Fault ε) := fault.map fun at_ => (at_.1 + 1, at_.2)

theorem hit_or_deferred (fault : Option (Nat × Fault ε)) : (∃ kind, fault = some (0, kind)) ∨ ∃ later, fault = deferred later := by
  rcases fault with _ | ⟨_ | n, kind⟩
  · exact .inr ⟨none, rfl⟩
  · exact .inl ⟨kind, rfl⟩
  · exact .inr ⟨some (n, kind), rfl⟩

theorem run_await_deferred {c : S.Call} {reply : S.Reply c} (answer : h s c = (.ok reply, s')) (fault : Option (Nat × Fault ε)) :
    run (faulty h) (await c) (deferred fault, s) = (.ok reply, fault, s') := by
  rcases fault with _ | ⟨n, kind⟩ <;> simp [deferred, run_await, faulty, answer]

theorem run_await_hit (h : Handler S ε σ) (c : S.Call) (fault : Fault ε) (s : σ) :
    run (faulty h) (await c) (some (0, fault), s) = (.thrown fault.error, none, if fault.took then (h s c).2 else s) := rfl

/-- What the calls of a program keep, it keeps also where one of them fails. -/
theorem Only.run_faulty {allowed : S.Call → Prop} {invariant : σ → Prop} (only : program.Only allowed)
    (keep : ∀ s c, allowed c → invariant s → invariant (h s c).2) (at_ : Option (Nat × Fault ε)) (initial : invariant s) :
    invariant (run (faulty h) program (at_, s)).2.2 := by
  induction program generalizing at_ s with
  | done value => exact initial
  | throws error => exact initial
  | hangs => exact initial
  | call c next ih =>
    rw [run_call]
    refine ih _ (only.2 _) _ ?_
    rcases at_ with _ | ⟨_ | n, fault⟩
    · exact keep s c only.1 initial
    · show invariant (if fault.took then (h s c).2 else s)
      split
      · exact keep s c only.1 initial
      · exact initial
    · exact keep s c only.1 initial

end Program
end Effect
