import Orchestrate.Effect.Interleave
import Orchestrate.Effect.Machine

namespace Effect

/-- How threads that share a state run: `sync` calls return before any other thread has its turn. In a turn the
    environment first changes the state, if the turn is possible, and then answers the calls. -/
structure Cooperation (S : Signature) (ε σ E : Type) where
  sync : S.Call → Bool
  arrive : E → σ → Option σ
  answer : E → Handler S ε σ

/-- The threads, each at a call that others may run before, or at its end. -/
structure Pool (S : Signature) (ε σ : Type) where
  state : σ
  threads : List (Program S ε Unit)

inductive Turn : Type where
  | start
  | resume (thread : Nat)
  deriving DecidableEq, Repr

/-- A segment of a thread: the stage and the state it began in, the environment, and the state now. -/
structure Segment (Q σ E : Type) where
  stage : Q
  start : σ
  env : E
  state : σ

/-- What segments do, with the stages they lead from and to, and the stages in which a call may be awaited or a
    thread may end, and how. -/
structure Discipline (S : Signature) (ε Q σ E : Type) where
  moves : Segment Q σ E → Q → Prop
  awaited : Q → S.Call → Prop
  ended : Q → Outcome ε Unit → Prop

variable {S : Signature} {ε σ E Q α β : Type}

namespace Program

/-- A program runs up to its next call that others may run before. -/
def segment (sync : S.Call → Bool) (h : Handler S ε σ) : Program S ε α → σ → Program S ε α × σ
  | .call c next, s => if sync c then segment sync h (next (h s c).1) (h s c).2 else (.call c next, s)
  | .done value, s => (.done value, s)
  | .throws error, s => (.throws error, s)
  | .hangs, s => (.hangs, s)

end Program

namespace Cooperation

variable (C : Cooperation S ε σ E)

/-- The machine whose events start `main` as another thread or resume a thread at its call. -/
def machine (main : E → Program S ε Unit) : Machine (Pool S ε σ) (Turn × E) where
  step pool event :=
    (C.arrive event.2 pool.state).bind fun s =>
      match event.1 with
      | .start =>
        let ran := (main event.2).segment C.sync (C.answer event.2) s
        some { state := ran.2, threads := pool.threads ++ [ran.1] }
      | .resume i =>
        match pool.threads[i]? with
        | some (.call c next) =>
          let reply := C.answer event.2 s c
          let ran := (next reply.1).segment C.sync (C.answer event.2) reply.2
          some { state := ran.2, threads := pool.threads.set i ran.1 }
        | _ => none

variable (D : Discipline S ε Q σ E)

/-- The end of a thread is the end of its last segment. -/
def Closes (outcome : Outcome ε Unit) (now : Segment Q σ E) : Prop := ∃ stage, D.moves now stage ∧ D.ended stage outcome

/-- The rest of a segment and all later segments keep to the discipline. A program that returns or throws in a
    segment leaves it to what follows. -/
def Proceeds (post : α → Segment Q σ E → Prop) (thrown : ε → Segment Q σ E → Prop) :
    Program S ε α → Segment Q σ E → Prop
  | .done value, now => post value now
  | .throws error, now => thrown error now
  | .hangs, now => Closes D .hung now
  | .call c next, now =>
    if C.sync c then
      Proceeds post thrown (next (C.answer now.env now.state c).1) { now with state := (C.answer now.env now.state c).2 }
    else ∃ stage, D.moves now stage ∧ D.awaited stage c ∧ ∀ env s,
      Proceeds post thrown (next (C.answer env s c).1)
        { stage := stage, start := s, env := env, state := (C.answer env s c).2 }

/-- A thread keeps to the discipline to its end. -/
def Completes (program : Program S ε Unit) (now : Segment Q σ E) : Prop :=
  C.Proceeds D (fun value => Closes D (.ok value)) (fun error => Closes D (.thrown error)) program now

/-- A thread awaits its call in a stage, and will proceed from there. -/
def Waits (stage : Q) : Program S ε Unit → Prop
  | .call c next => D.awaited stage c ∧ ∀ env s,
      C.Completes D (next (C.answer env s c).1)
        { stage := stage, start := s, env := env, state := (C.answer env s c).2 }
  | .done value => D.ended stage (.ok value)
  | .throws error => D.ended stage (.thrown error)
  | .hangs => D.ended stage .hung

variable {C} {D} {post : α → Segment Q σ E → Prop} {thrown : ε → Segment Q σ E → Prop} {now : Segment Q σ E}

@[simp] theorem proceeds_done (value : α) : C.Proceeds D post thrown (.done value) = post value := rfl

@[simp] theorem proceeds_throws (error : ε) :
    C.Proceeds D post thrown (.throws error : Program S ε α) = thrown error := rfl

theorem proceeds_bind (program : Program S ε β) (next : β → Program S ε α) :
    C.Proceeds D post thrown (program.bind next) =
      C.Proceeds D (fun value => C.Proceeds D post thrown (next value)) thrown program := by
  funext now
  induction program generalizing now with
  | done value => rfl
  | throws error => rfl
  | hangs => rfl
  | call c rest ih => simp only [Program.bind_call, Proceeds, ih]

theorem proceeds_catching (program : Program S ε α) (handler : ε → Program S ε α) :
    C.Proceeds D post thrown (program.catching handler) =
      C.Proceeds D post (fun error => C.Proceeds D post thrown (handler error)) program := by
  funext now
  induction program generalizing now with
  | done value => rfl
  | throws error => rfl
  | hangs => rfl
  | call c rest ih => simp only [Program.catching, Proceeds, ih]

theorem proceeds_capture (program : Program S ε β) {post : Except ε β → Segment Q σ E → Prop} :
    C.Proceeds D post thrown program.capture =
      C.Proceeds D (fun value => post (.ok value)) (fun error => post (.error error)) program := by
  rw [Program.capture, proceeds_catching, proceeds_bind]
  rfl

theorem proceeds_await {c : S.Call} (other : C.sync c = false) {post : S.Reply c → Segment Q σ E → Prop} :
    C.Proceeds D post thrown (Program.await c) = fun now =>
      ∃ stage, D.moves now stage ∧ D.awaited stage c ∧ ∀ env s,
        C.Proceeds D post thrown (.ofExcept (C.answer env s c).1)
          { stage := stage, start := s, env := env, state := (C.answer env s c).2 } := by
  funext now
  simp only [Program.await, Proceeds, other, Bool.false_eq_true, if_false, eq_iff_iff]
  refine exists_congr fun stage => and_congr_right fun _ => and_congr_right fun _ =>
    forall_congr' fun env => forall_congr' fun s => ?_
  cases (C.answer env s c).1 <;> rfl

theorem proceeds_await_own {c : S.Call} (own : C.sync c = true) {post : S.Reply c → Segment Q σ E → Prop} :
    C.Proceeds D post thrown (Program.await c) = fun now =>
      C.Proceeds D post thrown (.ofExcept (C.answer now.env now.state c).1)
        { now with state := (C.answer now.env now.state c).2 } := by
  funext now
  simp only [Program.await, Proceeds, own, if_true]
  cases (C.answer now.env now.state c).1 <;> rfl

theorem Proceeds.mono {post' : α → Segment Q σ E → Prop} {thrown' : ε → Segment Q σ E → Prop}
    {program : Program S ε α} (proceeds : C.Proceeds D post thrown program now)
    (returns : ∀ value now, post value now → post' value now) (throws : ∀ error now, thrown error now → thrown' error now) :
    C.Proceeds D post' thrown' program now := by
  induction program generalizing now with
  | done value => exact returns value now proceeds
  | throws error => exact throws error now proceeds
  | hangs => exact proceeds
  | call c rest ih =>
    simp only [Proceeds] at proceeds ⊢
    split at proceeds
    · rename_i own
      rw [if_pos own]
      exact ih _ proceeds
    · rename_i other
      rw [if_neg other]
      obtain ⟨stage, moved, fits, later⟩ := proceeds
      exact ⟨stage, moved, fits, fun env s => ih _ (later env s)⟩

/-- The loop rule. -/
theorem proceeds_forEach (items : List β) (body : β → Program S ε Unit) (invariant : Segment Q σ E → Prop)
    (initial : invariant now)
    (keep : ∀ item ∈ items, ∀ now, invariant now → C.Proceeds D (fun _ => invariant) thrown (body item) now) :
    C.Proceeds D (fun _ => invariant) thrown (Program.forEach items body) now := by
  induction items generalizing now with
  | nil => exact initial
  | cons item rest ih =>
    rw [Program.forEach, proceeds_bind]
    refine (keep item List.mem_cons_self now initial).mono (fun _ now holds => ?_) fun _ _ => id
    exact ih holds fun other member => keep other (List.mem_cons_of_mem item member)

/-- A segment ends at a call that the thread waits at, or with the thread. -/
theorem Completes.segment {program : Program S ε Unit} (proceeds : C.Completes D program now) :
    ∃ stage, D.moves { now with state := (program.segment C.sync (C.answer now.env) now.state).2 } stage ∧
      C.Waits D stage (program.segment C.sync (C.answer now.env) now.state).1 := by
  induction program generalizing now with
  | done value => exact proceeds
  | throws error => exact proceeds
  | hangs => exact proceeds
  | call c rest ih =>
    simp only [Completes, Proceeds] at proceeds
    simp only [Program.segment]
    by_cases own : C.sync c = true
    · rw [if_pos own] at proceeds ⊢
      exact ih _ proceeds
    · rw [if_neg own] at proceeds ⊢
      obtain ⟨stage, moved, fits, later⟩ := proceeds
      exact ⟨stage, moved, fits, later⟩

/-- One turn: some thread's segment, with the stages before and after it. -/
inductive Took (D : Discipline S ε Q σ E) (first : Q) (pool pool' : Pool S ε σ) (e : E) (s : σ) (stages : List Q) :
    Turn → List Q → Prop where
  | start {stage : Q}
      (moved : D.moves { stage := first, start := s, env := e, state := pool'.state } stage) :
      Took D first pool pool' e s stages .start (stages ++ [stage])
  | resume {i : Nat} {old new : Q} {c : S.Call} {next : Except ε (S.Reply c) → Program S ε Unit}
      (waiting : pool.threads[i]? = some (.call c next)) (at_i : stages[i]? = some old) (fits : D.awaited old c)
      (moved : D.moves { stage := old, start := s, env := e, state := pool'.state } new) :
      Took D first pool pool' e s stages (.resume i) (stages.set i new)

/-- A thread at a stage where threads do not end awaits a call. -/
theorem Waits.awaits {stage : Q} {thread : Program S ε Unit} (waits : C.Waits D stage thread) (open_ : ∀ outcome, ¬ D.ended stage outcome) :
    ∃ c, thread.awaits = some c ∧ D.awaited stage c := by
  cases thread with
  | call c next => exact ⟨c, rfl, waits.1⟩
  | done value => exact absurd waits (open_ _)
  | throws error => exact absurd waits (open_ _)
  | hangs => exact absurd waits (open_ _)

theorem waits_thread {stages : List Q} {threads : List (Program S ε Unit)} {i : Nat} {thread : Program S ε Unit}
    (waits : List.Forall₂ (C.Waits D) stages threads) (at_i : threads[i]? = some thread) :
    ∃ stage, stages[i]? = some stage ∧ C.Waits D stage thread := by
  induction waits generalizing i with
  | nil => simp at at_i
  | cons first rest ih =>
    cases i with
    | zero =>
      obtain rfl := Option.some.inj at_i
      exact ⟨_, rfl, first⟩
    | succ i => exact ih at_i

theorem waits_stage {stages : List Q} {threads : List (Program S ε Unit)} {i : Nat} {stage : Q}
    (waits : List.Forall₂ (C.Waits D) stages threads) (at_i : stages[i]? = some stage) :
    ∃ thread ∈ threads, C.Waits D stage thread := by
  induction waits generalizing i with
  | nil => simp at at_i
  | @cons _ thread _ _ first rest ih =>
    cases i with
    | zero =>
      obtain rfl := Option.some.inj at_i
      exact ⟨thread, List.mem_cons_self, first⟩
    | succ i =>
      obtain ⟨later, member, ready⟩ := ih at_i
      exact ⟨later, List.mem_cons_of_mem thread member, ready⟩

/-- The step lemma: a turn of threads that keep to a discipline, and where it leaves them. -/
theorem step_took {first : Q} {main : E → Program S ε Unit}
    (keeps : ∀ env s, C.Completes D (main env)
      { stage := first, start := s, env := env, state := s })
    {pool pool' : Pool S ε σ} {turn : Turn} {e : E} {stages : List Q}
    (waits : List.Forall₂ (C.Waits D) stages pool.threads)
    (step : (C.machine main).step pool (turn, e) = some pool') :
    ∃ s stages', C.arrive e pool.state = some s ∧ Took D first pool pool' e s stages turn stages' ∧
      List.Forall₂ (C.Waits D) stages' pool'.threads := by
  obtain ⟨s, arrived, step⟩ := Option.bind_eq_some_iff.mp step
  cases turn with
  | start =>
    obtain rfl := Option.some.inj step
    obtain ⟨stage, moved, later⟩ := (keeps e s).segment
    exact ⟨s, stages ++ [stage], arrived, .start moved, List.rel_append waits (.cons later .nil)⟩
  | resume i =>
    cases at_i : pool.threads[i]? with
    | none => simp [at_i] at step
    | some thread =>
      cases thread with
      | done value => simp [at_i] at step
      | throws error => simp [at_i] at step
      | hangs => simp [at_i] at step
      | call c next =>
        simp only [at_i, Option.some.injEq] at step
        subst step
        obtain ⟨old, finds, ready⟩ := waits_thread waits at_i
        obtain ⟨stage, moved, later⟩ := (ready.2 e s).segment
        exact ⟨s, stages.set i stage, arrived, .resume at_i finds ready.1 moved, forall₂_set waits i later⟩
where
  forall₂_set {stages : List Q} {threads : List (Program S ε Unit)} (waits : List.Forall₂ (C.Waits D) stages threads)
      (i : Nat) {stage : Q} {thread : Program S ε Unit} (ready : C.Waits D stage thread) :
      List.Forall₂ (C.Waits D) (stages.set i stage) (threads.set i thread) := by
    induction waits generalizing i with
    | nil => exact .nil
    | cons first rest ih =>
      cases i with
      | zero => exact .cons ready rest
      | succ i => exact .cons first (ih i)

end Cooperation
end Effect
