namespace Effect

/-- The calls a program may await, each with the type of its reply. -/
structure Signature where
  Call : Type
  Reply : Call → Type

/-- A program is the tree of its awaited calls. A call continues with its reply or with the
    error it threw; `hangs` is a computation that never reaches another call. -/
inductive Program (S : Signature) (ε α : Type) : Type where
  | done (value : α)
  | throws (error : ε)
  | hangs
  | call (c : S.Call) (next : Except ε (S.Reply c) → Program S ε α)

inductive Outcome (ε α : Type) : Type where
  | ok (value : α)
  | thrown (error : ε)
  | hung
  deriving DecidableEq, Repr

/-- How an environment with state `σ` answers a call. -/
abbrev Handler (S : Signature) (ε σ : Type) : Type :=
  σ → (c : S.Call) → Except ε (S.Reply c) × σ

namespace Program

variable {S : Signature} {ε α β γ σ : Type}

def bind (program : Program S ε α) (next : α → Program S ε β) : Program S ε β :=
  match program with
  | .done value => next value
  | .throws error => .throws error
  | .hangs => .hangs
  | .call c rest => .call c fun reply => (rest reply).bind next

def catching (program : Program S ε α) (handler : ε → Program S ε α) : Program S ε α :=
  match program with
  | .done value => .done value
  | .throws error => handler error
  | .hangs => .hangs
  | .call c rest => .call c fun reply => (rest reply).catching handler

instance : Monad (Program S ε) where
  pure := .done
  bind := .bind

/-- `await c`: an error of the call is rethrown at the point of the call. -/
def await (c : S.Call) : Program S ε (S.Reply c) :=
  .call c fun
    | .ok reply => .done reply
    | .error error => .throws error

def ofExcept : Except ε α → Program S ε α
  | .ok value => .done value
  | .error error => .throws error

/-- The outcome of a program as a value, so that what follows runs on both paths. -/
def capture (program : Program S ε α) : Program S ε (Except ε α) :=
  (program.bind fun value => .done (.ok value)).catching fun error => .done (.error error)

def forEach (items : List α) (body : α → Program S ε Unit) : Program S ε Unit :=
  match items with
  | [] => .done ()
  | item :: rest => (body item).bind fun _ => forEach rest body

/-- Execute a program to its end, with no other step in between. -/
def run (h : Handler S ε σ) : Program S ε α → σ → Outcome ε α × σ
  | .done value, s => (.ok value, s)
  | .throws error, s => (.thrown error, s)
  | .hangs, s => (.hung, s)
  | .call c next, s => run h (next (h s c).1) (h s c).2

@[simp] theorem pure_eq_done (value : α) : (pure value : Program S ε α) = .done value := rfl

@[simp] theorem bind_eq (program : Program S ε α) (next : α → Program S ε β) :
    program >>= next = program.bind next := rfl

@[simp] theorem bind_done (value : α) (next : α → Program S ε β) :
    (Program.done value : Program S ε α).bind next = next value := rfl

@[simp] theorem bind_throws (error : ε) (next : α → Program S ε β) :
    (Program.throws error : Program S ε α).bind next = .throws error := rfl

@[simp] theorem bind_hangs (next : α → Program S ε β) :
    (Program.hangs : Program S ε α).bind next = .hangs := rfl

@[simp] theorem bind_call (c : S.Call) (rest : Except ε (S.Reply c) → Program S ε α)
    (next : α → Program S ε β) :
    (Program.call c rest).bind next = .call c fun reply => (rest reply).bind next := rfl

theorem bind_assoc (program : Program S ε α) (first : α → Program S ε β)
    (second : β → Program S ε γ) :
    (program.bind first).bind second = program.bind fun value => (first value).bind second := by
  induction program with
  | done value => rfl
  | throws error => rfl
  | hangs => rfl
  | call c rest ih =>
    simp only [bind_call]
    congr 1
    funext reply
    exact ih reply

theorem bind_done_right (program : Program S ε α) : program.bind .done = program := by
  induction program with
  | done value => rfl
  | throws error => rfl
  | hangs => rfl
  | call c rest ih =>
    simp only [bind_call]
    congr 1
    funext reply
    exact ih reply

instance : LawfulMonad (Program S ε) :=
  LawfulMonad.mk' (Program S ε) bind_done_right (fun _ _ => rfl) bind_assoc

variable (h : Handler S ε σ)

@[simp] theorem run_done (value : α) (s : σ) : run h (.done value) s = (.ok value, s) := rfl

@[simp] theorem run_throws (error : ε) (s : σ) :
    run h (.throws error : Program S ε α) s = (.thrown error, s) := rfl

@[simp] theorem run_hangs (s : σ) : run h (.hangs : Program S ε α) s = (.hung, s) := rfl

@[simp] theorem run_call (c : S.Call) (next : Except ε (S.Reply c) → Program S ε α) (s : σ) :
    run h (.call c next) s = run h (next (h s c).1) (h s c).2 := rfl

/-- Sequencing: what follows runs from the state the first part left. -/
theorem run_bind (program : Program S ε α) (next : α → Program S ε β) (s : σ) :
    run h (program.bind next) s =
      match run h program s with
      | (.ok value, s') => run h (next value) s'
      | (.thrown error, s') => (.thrown error, s')
      | (.hung, s') => (.hung, s') := by
  induction program generalizing s with
  | done value => rfl
  | throws error => rfl
  | hangs => rfl
  | call c rest ih => exact ih _ _

theorem run_bind_ok {program : Program S ε α} {next : α → Program S ε β} {s s' : σ} {value : α}
    (first : run h program s = (.ok value, s')) :
    run h (program.bind next) s = run h (next value) s' := by
  rw [run_bind, first]

theorem run_bind_thrown {program : Program S ε α} {next : α → Program S ε β} {s s' : σ} {error : ε}
    (first : run h program s = (.thrown error, s')) :
    run h (program.bind next) s = (.thrown error, s') := by
  rw [run_bind, first]

theorem run_bind_hung {program : Program S ε α} {next : α → Program S ε β} {s s' : σ}
    (first : run h program s = (.hung, s')) :
    run h (program.bind next) s = (.hung, s') := by
  rw [run_bind, first]

theorem run_catching (program : Program S ε α) (handler : ε → Program S ε α) (s : σ) :
    run h (program.catching handler) s =
      match run h program s with
      | (.ok value, s') => (.ok value, s')
      | (.thrown error, s') => run h (handler error) s'
      | (.hung, s') => (.hung, s') := by
  induction program generalizing s with
  | done value => rfl
  | throws error => rfl
  | hangs => rfl
  | call c rest ih => exact ih _ _

theorem run_capture (program : Program S ε α) (s : σ) :
    run h program.capture s =
      match run h program s with
      | (.ok value, s') => (.ok (.ok value), s')
      | (.thrown error, s') => (.ok (.error error), s')
      | (.hung, s') => (.hung, s') := by
  rw [capture, run_catching, run_bind]
  cases result : run h program s with
  | mk outcome s' => cases outcome <;> rfl

theorem run_await (c : S.Call) (s : σ) :
    run h (await c) s =
      match h s c with
      | (.ok reply, s') => (.ok reply, s')
      | (.error error, s') => (.thrown error, s') := by
  unfold await
  rw [run_call]
  cases reply : h s c with
  | mk result s' => cases result <;> rfl

theorem run_await_ok {c : S.Call} {s s' : σ} {reply : S.Reply c} (answer : h s c = (.ok reply, s')) :
    run h (await c) s = (.ok reply, s') := by
  rw [run_await, answer]

/-- The loop rule: an invariant about the items already visited, and what holds where an item throws. -/
theorem run_forEach_or (items : List α) (body : α → Program S ε Unit) {s : σ} (invariant : List α → σ → Prop)
    (broken : ε → σ → Prop) (initial : invariant [] s)
    (keep : ∀ visited item s, item ∈ items → invariant visited s →
      (∃ s', run h (body item) s = (.ok (), s') ∧ invariant (visited ++ [item]) s') ∨
        ∃ error s', run h (body item) s = (.thrown error, s') ∧ broken error s') :
    (∃ s', run h (forEach items body) s = (.ok (), s') ∧ invariant items s') ∨
      ∃ error s', run h (forEach items body) s = (.thrown error, s') ∧ broken error s' := by
  have fromHere (rest visited : List α) (s : σ) (within : ∀ item ∈ rest, item ∈ items)
      (holds : invariant visited s) :
      (∃ s', run h (forEach rest body) s = (.ok (), s') ∧ invariant (visited ++ rest) s') ∨
        ∃ error s', run h (forEach rest body) s = (.thrown error, s') ∧ broken error s' := by
    induction rest generalizing visited s with
    | nil => exact .inl ⟨s, rfl, by simpa using holds⟩
    | cons item rest ih =>
      rcases keep visited item s (within item List.mem_cons_self) holds with
        ⟨s', first, holds'⟩ | ⟨error, s', first, breaks⟩
      · rw [forEach, run_bind_ok h first]
        have later := ih (visited ++ [item]) s'
          (fun other member => within other (List.mem_cons_of_mem item member)) holds'
        simpa using later
      · rw [forEach, run_bind_thrown h first]
        exact .inr ⟨error, s', rfl, breaks⟩
  simpa using fromHere items [] s (fun _ member => member) initial

/-- The loop rule for a body that throws nothing. -/
theorem run_forEach (items : List α) (body : α → Program S ε Unit) {s : σ} (invariant : List α → σ → Prop)
    (initial : invariant [] s)
    (keep : ∀ visited item s, item ∈ items → invariant visited s →
      ∃ s', run h (body item) s = (.ok (), s') ∧ invariant (visited ++ [item]) s') :
    ∃ s', run h (forEach items body) s = (.ok (), s') ∧ invariant items s' := by
  rcases run_forEach_or h items body invariant (fun _ _ => False) initial
    (fun visited item s member holds => .inl (keep visited item s member holds)) with done | ⟨_, _, _, impossible⟩
  · exact done
  · exact impossible.elim

/-- A property that every call keeps is kept by every program. -/
theorem run_preserves {invariant : σ → Prop} (keep : ∀ s c, invariant s → invariant (h s c).2)
    (program : Program S ε α) (s : σ) (initial : invariant s) : invariant (run h program s).2 := by
  induction program generalizing s with
  | done value => exact initial
  | throws error => exact initial
  | hangs => exact initial
  | call c next ih => exact ih _ _ (keep s c initial)

/-- The run returns the value, in a state as required. -/
def Returns (h : Handler S ε σ) (program : Program S ε α) (s : σ) (value : α) (post : σ → Prop) : Prop :=
  ∃ s', run h program s = (.ok value, s') ∧ post s'

section Returns

variable {h} {program : Program S ε α} {s : σ} {value : α} {post mid : σ → Prop}

theorem returns_done (holds : post s) : Returns h (.done value) s value post := ⟨s, rfl, holds⟩

theorem returns_await {c : S.Call} {reply : S.Reply c} {s' : σ} (answer : h s c = (.ok reply, s')) (holds : post s') :
    Returns h (await c) s reply post := ⟨s', run_await_ok h answer, holds⟩

theorem Returns.bind {next : α → Program S ε β} {result : β} (first : Returns h program s value mid)
    (rest : ∀ s', mid s' → Returns h (next value) s' result post) : Returns h (program.bind next) s result post := by
  obtain ⟨s', ran, holds⟩ := first
  obtain ⟨s'', later, ends⟩ := rest s' holds
  exact ⟨s'', by rw [run_bind_ok h ran, later], ends⟩

theorem Returns.catching (first : Returns h program s value post) (handler : ε → Program S ε α) :
    Returns h (program.catching handler) s value post := by
  obtain ⟨s', ran, holds⟩ := first
  exact ⟨s', by rw [run_catching, ran], holds⟩

theorem returns_caught {handler : ε → Program S ε α} {error : ε} {s' : σ} (threw : run h program s = (.thrown error, s'))
    (handled : Returns h (handler error) s' value post) : Returns h (program.catching handler) s value post := by
  obtain ⟨s'', ran, holds⟩ := handled
  refine ⟨s'', ?_, holds⟩
  rw [run_catching, threw]
  exact ran

end Returns

end Program
end Effect
