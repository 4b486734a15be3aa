import Mathlib.Logic.Function.Basic
import Orchestrate.Effect.Cooperative

namespace Effect.Cooperation

variable {S : Signature} {ε σ E Q : Type} {C : Cooperation S ε σ E} {D : Discipline S ε Q σ E}

/-- The stages of threads by their numbers; a thread that has not begun is at its first stage. -/
def stageAt (first : Q) (stages : List Q) (i : Nat) : Q := stages[i]?.getD first

variable {first old new stage : Q} {stages : List Q} {i : Nat} {c : S.Call} {threads : List (Program S ε Unit)}
  {thread : Program S ε Unit}

theorem stageAt_of_getElem? (at_i : stages[i]? = some stage) : stageAt first stages i = stage := by
  rw [stageAt, at_i, Option.getD_some]

theorem stageAt_length : stageAt first stages stages.length = first := by simp [stageAt]

theorem stageAt_append (new : Q) :
    stageAt first (stages ++ [new]) = Function.update (stageAt first stages) stages.length new := by
  funext j
  by_cases last : j = stages.length
  · rw [last, Function.update_self, stageAt_of_getElem? List.getElem?_concat_length]
  · rw [Function.update_of_ne last, stageAt, stageAt, List.getElem?_append]
    split
    · rfl
    · have out : stages[j]? = none := List.getElem?_eq_none (by omega)
      have past : [new][j - stages.length]? = none := List.getElem?_eq_none (by simp; omega)
      rw [out, past]

theorem stageAt_set (at_i : stages[i]? = some old) (new : Q) :
    stageAt first (stages.set i new) = Function.update (stageAt first stages) i new := by
  have bound : i < stages.length := (List.getElem?_eq_some_iff.mp at_i).1
  funext j
  by_cases here : j = i
  · rw [here, Function.update_self, stageAt_of_getElem? (List.getElem?_set_self bound)]
  · rw [Function.update_of_ne here, stageAt, stageAt, List.getElem?_set_ne (Ne.symm here)]

/-- The call that a thread awaits is one of a stage in the list. -/
theorem awaited_mem (waits : List.Forall₂ (C.Waits D) stages threads) (member : thread ∈ threads)
    (next : thread.awaits = some c) : ∃ stage ∈ stages, D.awaited stage c := by
  obtain ⟨i, at_i⟩ := List.getElem?_of_mem member
  obtain ⟨stage, finds, waiting⟩ := waits_thread waits at_i
  refine ⟨stage, List.mem_of_getElem? finds, ?_⟩
  cases thread with
  | call own later =>
    obtain rfl := Option.some.inj next
    exact waiting.1
  | done value => cases next
  | throws error => cases next
  | hangs => cases next

/-- The call that a thread awaits is one of its stage. -/
theorem awaited_stageAt (waits : List.Forall₂ (C.Waits D) stages threads) (member : thread ∈ threads)
    (next : thread.awaits = some c) : ∃ i, D.awaited (stageAt first stages i) c := by
  obtain ⟨stage, within, awaits⟩ := awaited_mem waits member next
  obtain ⟨i, at_i⟩ := List.getElem?_of_mem within
  refine ⟨i, ?_⟩
  rw [stageAt_of_getElem? at_i]
  exact awaits

/-- A thread that awaits nothing has ended as its stage says. -/
theorem Waits.ended (waits : C.Waits D stage thread) (ended : thread.awaits = none) :
    ∃ outcome, thread.ended = some outcome ∧ D.ended stage outcome := by
  cases thread with
  | call c next => cases ended
  | done value => exact ⟨_, rfl, waits⟩
  | throws error => exact ⟨_, rfl, waits⟩
  | hangs => exact ⟨_, rfl, waits⟩

/-- Which thread takes a turn: a new one, or the one that is resumed at its call. -/
inductive Acts (D : Discipline S ε Q σ E) (first : Q) (pool : Pool S ε σ) (stages : Nat → Q) : Turn → Nat → Prop where
  | starts {i : Nat} (fresh : pool.threads.length = i) (rest : stages i = first) : Acts D first pool stages .start i
  | resumes {i : Nat} {c : S.Call} {next : Except ε (S.Reply c) → Program S ε Unit}
      (waiting : pool.threads[i]? = some (.call c next)) (fits : D.awaited (stages i) c) :
      Acts D first pool stages (.resume i) i

/-- The run rule: an invariant of the state and of the list of stages, with the turns taken, that each turn keeps. -/
theorem took_run {main : E → Program S ε Unit} {start : σ}
    (keeps : ∀ e s, C.Completes D (main e) { stage := first, start := s, env := e, state := s })
    (invariant : List (Pool S ε σ × Turn × E) → σ → List Q → Prop) (initial : invariant [] start [])
    (keep : ∀ visited (pool pool' : Pool S ε σ) turn e s stages stages',
      List.Forall₂ (C.Waits D) stages pool.threads → List.Forall₂ (C.Waits D) stages' pool'.threads →
      invariant visited pool.state stages → (C.machine main).step pool (turn, e) = some pool' →
      C.arrive e pool.state = some s → Took D first pool pool' e s stages turn stages' →
      invariant (visited ++ [(pool, turn, e)]) pool'.state stages')
    {visited : List (Pool S ε σ × Turn × E)} {pool : Pool S ε σ}
    (run : (C.machine main).Run { state := start, threads := [] } visited pool) :
    ∃ stages, List.Forall₂ (C.Waits D) stages pool.threads ∧ invariant visited pool.state stages := by
  induction run with
  | nil => exact ⟨[], .nil, initial⟩
  | @snoc visited pool pool' event before step ih =>
    obtain ⟨stages, waits, holds⟩ := ih
    obtain ⟨turn, e⟩ := event
    obtain ⟨s, stages', arrived, took, waits'⟩ := step_took (fun e s => keeps e s) waits step
    exact ⟨stages', waits', keep visited pool pool' turn e s stages stages' waits waits' holds step arrived took⟩

/-- The run rule for an invariant of the stages by their threads' numbers. -/
theorem stages_run {main : E → Program S ε Unit} {start : σ}
    (keeps : ∀ e s, C.Completes D (main e) { stage := first, start := s, env := e, state := s })
    (invariant : List (Pool S ε σ × Turn × E) → σ → (Nat → Q) → Prop) (initial : invariant [] start fun _ => first)
    (keep : ∀ visited (pool pool' : Pool S ε σ) turn e s stages i new,
      List.Forall₂ (C.Waits D) stages pool.threads → invariant visited pool.state (stageAt first stages) →
      (C.machine main).step pool (turn, e) = some pool' → C.arrive e pool.state = some s →
      Acts D first pool (stageAt first stages) turn i →
      D.moves { stage := stageAt first stages i, start := s, env := e, state := pool'.state } new →
      invariant (visited ++ [(pool, turn, e)]) pool'.state (Function.update (stageAt first stages) i new))
    {visited : List (Pool S ε σ × Turn × E)} {pool : Pool S ε σ}
    (run : (C.machine main).Run { state := start, threads := [] } visited pool) :
    ∃ stages, List.Forall₂ (C.Waits D) stages pool.threads ∧ invariant visited pool.state (stageAt first stages) := by
  refine took_run keeps (fun visited s stages => invariant visited s (stageAt first stages)) initial ?_ run
  intro visited pool pool' turn e s stages stages' waits _ holds step arrived took
  cases took with
  | @start stage moved =>
    rw [stageAt_append]
    refine keep visited pool pool' .start e s _ _ stage waits holds step arrived ?_ ?_
    · exact .starts waits.length_eq.symm stageAt_length
    · rw [stageAt_length]
      exact moved
  | @resume i old new c next waiting at_i fits moved =>
    rw [stageAt_set at_i]
    have stage : stageAt first stages i = old := stageAt_of_getElem? at_i
    refine keep visited pool pool' (.resume i) e s _ i new waits holds step arrived ?_ ?_
    · exact .resumes waiting (stage.symm ▸ fits)
    · rw [stage]
      exact moved

/-- Threads are counted by the calls that they await as their stages are. -/
theorem waits_countP {p : Q → Bool} {q : S.Call → Bool} (calls : ∀ stage c, D.awaited stage c → p stage = q c)
    (ends : ∀ stage outcome, D.ended stage outcome → p stage = false) {threads : List (Program S ε Unit)}
    (waits : List.Forall₂ (C.Waits D) stages threads) :
    stages.countP p = threads.countP fun thread => thread.awaits.any q := by
  induction waits with
  | nil => rfl
  | @cons stage thread stages threads ready rest ih =>
    have same : p stage = thread.awaits.any q := by
      cases thread with
      | call c next => exact calls stage c ready.1
      | done value => exact ends stage _ ready
      | throws error => exact ends stage _ ready
      | hangs => exact ends stage _ ready
    rw [List.countP_cons, List.countP_cons, ih, same]

/-- The call whose reply a turn brings. -/
def resumed (pool : Pool S ε σ) : Turn → Option S.Call
  | .start => none
  | .resume i => pool.threads[i]?.bind Program.awaits

/-- What one turn does to the stages: one of them changes, or a first one is added. -/
theorem Took.changes {pool pool' : Pool S ε σ} {e : E} {s : σ} {turn : Turn} {stages' : List Q} {p : Q → Bool}
    (idle : p first = false) (took : Took D first pool pool' e s stages turn stages') :
    ∃ old new, D.moves { stage := old, start := s, env := e, state := pool'.state } new ∧
      (old ∈ stages ∨ old = first) ∧ (∀ stage ∈ stages', stage ∈ stages ∨ stage = new) ∧
      stages'.countP p + (if p old then 1 else 0) = stages.countP p + (if p new then 1 else 0) ∧
      ((old = first ∧ resumed pool turn = none) ∨ ∃ c, resumed pool turn = some c ∧ D.awaited old c) := by
  cases took with
  | @start stage moved =>
    refine ⟨first, stage, moved, .inr rfl, fun other member => ?_, ?_, .inl ⟨rfl, rfl⟩⟩
    · exact (List.mem_append.mp member).imp_right List.mem_singleton.mp
    · rw [List.countP_append, List.countP_singleton, idle]
      rfl
  | @resume i old new c next waiting at_i fits moved =>
    refine ⟨old, new, moved, .inl (List.mem_of_getElem? at_i), fun other member => ?_, countP_set p at_i new, ?_⟩
    · exact (List.mem_or_eq_of_mem_set member)
    · exact .inr ⟨c, by simp [resumed, waiting, Program.awaits], fits⟩

end Effect.Cooperation
