import Orchestrate.Effect.Trace

namespace Effect

def Outcome.map {ε α γ : Type} (f : α → γ) : Outcome ε α → Outcome ε γ
  | .ok value => .ok (f value)
  | .thrown error => .thrown error
  | .hung => .hung

end Effect

namespace Effect.Program

variable {S : Signature} {ε α β σ τ : Type}

/-- Two runs of a program, each in its own environment, end alike and leave related states. -/
def Coupled (h : Handler S ε σ) (h' : Handler S ε τ) (related : σ → τ → Prop) (program : Program S ε α) (s : σ) (s' : τ) :
    Prop :=
  (run h program s).1 = (run h' program s').1 ∧ related (run h program s).2 (run h' program s').2

section Rules

variable {h : Handler S ε σ} {h' : Handler S ε τ} {related between : σ → τ → Prop} {program : Program S ε α}
  {s : σ} {s' : τ}

theorem coupled_done (value : α) (same : related s s') : Coupled h h' related (.done value) s s' := ⟨rfl, same⟩

theorem coupled_throws (error : ε) (same : related s s') : Coupled h h' related (.throws error : Program S ε α) s s' :=
  ⟨rfl, same⟩

theorem coupled_ofExcept (result : Except ε α) (same : related s s') :
    Coupled h h' related (.ofExcept result : Program S ε α) s s' := by
  cases result with
  | ok value => exact coupled_done value same
  | error error => exact coupled_throws error same

theorem coupled_await {c : S.Call} (answers : (h s c).1 = (h' s' c).1) (same : related (h s c).2 (h' s' c).2) :
    Coupled h h' related (await c) s s' := by
  unfold Coupled await
  rw [run_call, run_call, answers]
  cases (h' s' c).1 with
  | ok reply => exact ⟨rfl, same⟩
  | error error => exact ⟨rfl, same⟩

/-- The rule of sequencing; a first part that does not return need only leave states related in the end. -/
theorem Coupled.bind {next : α → Program S ε β} (first : Coupled h h' between program s s')
    (weaker : ∀ t t', between t t' → related t t')
    (rest : ∀ value t t', between t t' → Coupled h h' related (next value) t t') :
    Coupled h h' related (program.bind next) s s' := by
  obtain ⟨ends, left⟩ := first
  unfold Coupled
  rw [run_bind, run_bind]
  cases ran : run h program s with
  | mk outcome t =>
    cases ran' : run h' program s' with
    | mk outcome' t' =>
      rw [ran, ran'] at ends left
      dsimp only at ends left
      subst ends
      cases outcome with
      | ok value => exact rest value t t' left
      | thrown error => exact ⟨rfl, weaker t t' left⟩
      | hung => exact ⟨rfl, weaker t t' left⟩

/-- Where each call that the second run makes is answered alike and keeps the states related. -/
theorem coupled_visited (quiet : S.Call → Prop)
    (keeps : ∀ c t t', quiet c → related t t' → (h t c).1 = (h' t' c).1 ∧ related (h t c).2 (h' t' c).2)
    (start : related s s') (quietly : ∀ v ∈ visited h' program s', quiet v.2) : Coupled h h' related program s s' := by
  induction program generalizing s s' with
  | done value => exact coupled_done value start
  | throws error => exact coupled_throws error start
  | hangs => exact ⟨rfl, start⟩
  | call c next ih =>
    obtain ⟨first, later⟩ := List.forall_mem_cons.mp quietly
    obtain ⟨answers, left⟩ := keeps c s s' first start
    unfold Coupled
    rw [run_call, run_call, answers]
    exact ih _ left later

/-- The second environment has a choice that shows only in its loud calls. Where its runs make at most one of these, the
    choice can be made for this one. -/
theorem coupled_chosen {κ : Type} [Inhabited κ] {chosen : κ → Handler S ε τ} (loud : S.Call → Bool) (allowed : S.Call → Prop)
    (between : σ → τ → Prop) (weaker : ∀ t t', between t t' → related t t')
    (same : ∀ c k k' t', loud c = false → chosen k t' c = chosen k' t' c)
    (before : ∀ c k t t', loud c = false → between t t' →
      (h t c).1 = (chosen k t' c).1 ∧ between (h t c).2 (chosen k t' c).2)
    (after : ∀ c k t t', loud c = false → related t t' →
      (h t c).1 = (chosen k t' c).1 ∧ related (h t c).2 (chosen k t' c).2)
    (choose : ∀ c t t', loud c = true → allowed c → between t t' →
      ∃ k, (h t c).1 = (chosen k t' c).1 ∧ related (h t c).2 (chosen k t' c).2)
    (start : between s s')
    (few : ∀ k, (visited (chosen k) program s').countP (fun v => loud v.2) ≤ 1 ∧
      ∀ v ∈ visited (chosen k) program s', loud v.2 = true → allowed v.2) :
    ∃ k, Coupled h (chosen k) related program s s' := by
  induction program generalizing s s' with
  | done value => exact ⟨default, coupled_done value (weaker s s' start)⟩
  | throws error => exact ⟨default, coupled_throws error (weaker s s' start)⟩
  | hangs => exact ⟨default, rfl, weaker s s' start⟩
  | call c next ih =>
    cases sound : loud c with
    | false =>
      obtain ⟨answers, left⟩ := before c default s s' sound start
      have rest (k : κ) : visited (chosen k) (.call c next) s' =
          (s', c) :: visited (chosen k) (next (chosen default s' c).1) (chosen default s' c).2 := by
        rw [visited, same c k default s' sound]
      obtain ⟨k, ends, related⟩ := ih (chosen default s' c).1 left fun k => by
        obtain ⟨once, permitted⟩ := few k
        rw [rest, List.countP_cons_of_neg (by simp [sound])] at once
        rw [rest] at permitted
        exact ⟨once, (List.forall_mem_cons.mp permitted).2⟩
      refine ⟨k, ?_⟩
      unfold Coupled
      rw [run_call, run_call, same c k default s' sound, answers]
      exact ⟨ends, related⟩
    | true =>
      have permitted : allowed c := (few default).2 (s', c) List.mem_cons_self sound
      obtain ⟨k, answers, left⟩ := choose c s s' sound permitted start
      have once := (few k).1
      rw [visited, List.countP_cons_of_pos (by simpa using sound)] at once
      have none : (visited (chosen k) (next (chosen k s' c).1) (chosen k s' c).2).countP (fun v => loud v.2) = 0 := by omega
      have quietly : ∀ v ∈ visited (chosen k) (next (chosen k s' c).1) (chosen k s' c).2, loud v.2 = false := by
        intro v member
        simpa using List.countP_eq_zero.mp none v member
      refine ⟨k, ?_⟩
      unfold Coupled
      rw [run_call, run_call, answers]
      exact coupled_visited (fun c => loud c = false) (fun c => after c k) left quietly

end Rules

/-- Two programs end alike, up to what `erase` drops of a value, and leave the same state. -/
def Agree {γ : Type} (h : Handler S ε σ) (erase : α → γ) (program other : Program S ε α) : Prop :=
  ∀ s, (run h program s).1.map erase = (run h other s).1.map erase ∧ (run h program s).2 = (run h other s).2

section Agree

variable {γ : Type} {h : Handler S ε σ} {erase : β → γ}

theorem Agree.refl (program : Program S ε β) : Agree h erase program program := fun _ => ⟨rfl, rfl⟩

theorem agree_bind {program : Program S ε α} {next other : α → Program S ε β}
    (rest : ∀ value, Agree h erase (next value) (other value)) : Agree h erase (program.bind next) (program.bind other) := by
  intro s
  rw [run_bind, run_bind]
  cases run h program s with
  | mk outcome s' =>
    cases outcome with
    | ok value => exact rest value s'
    | thrown error => exact ⟨rfl, rfl⟩
    | hung => exact ⟨rfl, rfl⟩

theorem Agree.eq {program other : Program S ε β} (agree : Agree h id program other) (s : σ) :
    run h program s = run h other s := by
  obtain ⟨ends, left⟩ := agree s
  have same (outcome : Outcome ε β) : outcome.map id = outcome := by cases outcome <;> rfl
  rw [same, same] at ends
  exact Prod.ext ends left

theorem agree_ite {condition : Prop} [Decidable condition] {program other program' other' : Program S ε β}
    (holds : Agree h erase program program') (fails : Agree h erase other other') :
    Agree h erase (if condition then program else other) (if condition then program' else other') := by
  split
  · exact holds
  · exact fails

end Agree
end Effect.Program
