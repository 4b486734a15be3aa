import Orchestrate.Effect.Program

namespace Effect.Program

variable {S : Signature} {ε α β σ : Type}

/-- Each call that a program can make is allowed. -/
def Only (allowed : S.Call → Prop) : Program S ε α → Prop
  | .done _ | .throws _ | .hangs => True
  | .call c next => allowed c ∧ ∀ reply, (next reply).Only allowed

/-- The calls of a run, each with the state it is made in. -/
def visited (h : Handler S ε σ) : Program S ε α → σ → List (σ × S.Call)
  | .done _, _ | .throws _, _ | .hangs, _ => []
  | .call c next, s => (s, c) :: visited h (next (h s c).1) (h s c).2

/-- Each call is made in the state that the one before it left. -/
def Linked (h : Handler S ε σ) : σ → List (σ × S.Call) → σ → Prop
  | s, [], s' => s = s'
  | s, v :: later, s' => v.1 = s ∧ Linked h (h v.1 v.2).2 later s'

/-- The call throws in the state it is made in. -/
def Throws (h : Handler S ε σ) (v : σ × S.Call) : Prop := (h v.1 v.2).1.toBool = false

instance (h : Handler S ε σ) (v : σ × S.Call) : Decidable (Throws h v) := inferInstanceAs (Decidable (_ = _))

/-- The fallible calls fail as a list says, without effect; when the list is used up none fails. -/
def failing (fallible : S.Call → Bool) (h : Handler S ε σ) : Handler S ε (List (Option ε) × σ)
  | (faults, s), c =>
    match fallible c, faults with
    | true, some error :: later => (.error error, later, s)
    | true, none :: later => ((h s c).1, later, (h s c).2)
    | _, faults => ((h s c).1, faults, (h s c).2)

/-- A program that throws what its calls throw, and nothing else. -/
def Calm : Program S ε α → Prop
  | .done _ => True
  | .throws _ | .hangs => False
  | .call _ next => (∀ error, next (.error error) = .throws error) ∧ ∀ reply, (next (.ok reply)).Calm

/-- Whatever the replies are, the program does not hang. -/
def Ends : Program S ε α → Prop
  | .done _ | .throws _ => True
  | .hangs => False
  | .call _ next => ∀ reply, (next reply).Ends

/-- Whatever the replies are, a value that the program returns is as required. -/
def Yields (required : α → Prop) : Program S ε α → Prop
  | .done value => required value
  | .throws _ | .hangs => True
  | .call _ next => ∀ reply, (next reply).Yields required

/-- As long as the environment answers as assumed, each call of a run is allowed in the state it is made in, and
    a run that ends does so as required. -/
def Safe (h : Handler S ε σ) (assumed allowed : σ → S.Call → Prop) (ok : α → σ → Prop) (thrown : ε → σ → Prop) :
    Program S ε α → σ → Prop
  | .done value, s => ok value s
  | .throws error, s => thrown error s
  | .hangs, _ => True
  | .call c next, s =>
    assumed s c → allowed s c ∧ Safe h assumed allowed ok thrown (next (h s c).1) (h s c).2

/-- From what each call of a run keeps it follows that each is as asked. -/
def Reveals (h : Handler S ε σ) (kept asked : σ → S.Call → Prop) (program : Program S ε α) (s : σ) : Prop :=
  (∀ v ∈ visited h program s, kept v.1 v.2) → ∀ v ∈ visited h program s, asked v.1 v.2

theorem failing_passes {fallible : S.Call → Bool} {c : S.Call} (sure : fallible c = false) (h : Handler S ε σ)
    (s : List (Option ε) × σ) : failing fallible h s c = ((h s.2 c).1, s.1, (h s.2 c).2) := by
  obtain ⟨faults, s⟩ := s
  simp [failing, sure]

/-- A call is answered, or it throws without effect. -/
theorem failing_cases (fallible : S.Call → Bool) (h : Handler S ε σ) (s : List (Option ε) × σ) (c : S.Call) :
    (∃ later, failing fallible h s c = ((h s.2 c).1, later, (h s.2 c).2)) ∨
      ∃ error later, failing fallible h s c = (.error error, later, s.2) := by
  obtain ⟨faults, s⟩ := s
  cases sure : fallible c with
  | false => exact .inl ⟨faults, failing_passes sure h (faults, s)⟩
  | true =>
    rcases faults with _ | ⟨_ | error, later⟩
    · exact .inl ⟨[], by simp [failing, sure]⟩
    · exact .inl ⟨later, by simp [failing, sure]⟩
    · exact .inr ⟨error, later, by simp [failing, sure]⟩

section Only

variable {allowed allowed' : S.Call → Prop} {program : Program S ε α}

@[simp] theorem only_done (value : α) : (.done value : Program S ε α).Only allowed := trivial

@[simp] theorem only_throws (error : ε) : (.throws error : Program S ε α).Only allowed := trivial

theorem Only.bind {next : α → Program S ε β} (first : program.Only allowed)
    (rest : ∀ value, (next value).Only allowed) : (program.bind next).Only allowed := by
  induction program with
  | done value => exact rest value
  | throws error => trivial
  | hangs => trivial
  | call c next ih => exact ⟨first.1, fun reply => ih reply (first.2 reply)⟩

theorem Only.catching {handler : ε → Program S ε α} (first : program.Only allowed)
    (rest : ∀ error, (handler error).Only allowed) : (program.catching handler).Only allowed := by
  induction program with
  | done value => trivial
  | throws error => exact rest error
  | hangs => trivial
  | call c next ih => exact ⟨first.1, fun reply => ih reply (first.2 reply)⟩

theorem Only.capture (first : program.Only allowed) : program.capture.Only allowed :=
  Only.catching (first.bind fun _ => trivial) fun _ => trivial

theorem only_await {c : S.Call} (permitted : allowed c) : (await c : Program S ε _).Only allowed :=
  ⟨permitted, fun reply => by cases reply <;> trivial⟩

theorem only_ofExcept (result : Except ε α) : (ofExcept result : Program S ε α).Only allowed := by
  cases result <;> trivial

theorem only_forEach {items : List α} {body : α → Program S ε Unit}
    (each : ∀ item ∈ items, (body item).Only allowed) : (forEach items body).Only allowed := by
  induction items with
  | nil => trivial
  | cons item rest ih =>
    have first := each item List.mem_cons_self
    exact first.bind fun _ => ih fun other member => each other (List.mem_cons_of_mem item member)

theorem Only.mono (only : program.Only allowed) (weaker : ∀ c, allowed c → allowed' c) :
    program.Only allowed' := by
  induction program with
  | done value => trivial
  | throws error => trivial
  | hangs => trivial
  | call c next ih => exact ⟨weaker c only.1, fun reply => ih reply (only.2 reply)⟩

theorem Only.and (first : program.Only allowed) (second : program.Only allowed') :
    program.Only fun c => allowed c ∧ allowed' c := by
  induction program with
  | done value => trivial
  | throws error => trivial
  | hangs => trivial
  | call c next ih => exact ⟨⟨first.1, second.1⟩, fun reply => ih reply (first.2 reply) (second.2 reply)⟩

theorem Only.visited (only : program.Only allowed) (h : Handler S ε σ) (s : σ) :
    ∀ v ∈ visited h program s, allowed v.2 := by
  induction program generalizing s with
  | done value => simp [Program.visited]
  | throws error => simp [Program.visited]
  | hangs => simp [Program.visited]
  | call c next ih =>
    intro v member
    rcases List.mem_cons.mp member with rfl | later
    · exact only.1
    · exact ih _ (only.2 _) _ v later

end Only

section Visited

variable (h : Handler S ε σ) {program : Program S ε α} {s s' : σ} {value : α} {error : ε}

theorem visited_bind (program : Program S ε α) (next : α → Program S ε β) (s : σ) :
    visited h (program.bind next) s = visited h program s ++
      match run h program s with
      | (.ok value, s') => visited h (next value) s'
      | (.thrown _, _) | (.hung, _) => [] := by
  induction program generalizing s with
  | done value => rfl
  | throws error => rfl
  | hangs => rfl
  | call c rest ih =>
    simp only [bind_call, visited, run_call, List.cons_append]
    rw [ih]

theorem visited_bind_ok {next : α → Program S ε β} (first : run h program s = (.ok value, s')) :
    visited h (program.bind next) s = visited h program s ++ visited h (next value) s' := by
  rw [visited_bind, first]

theorem visited_bind_thrown {next : α → Program S ε β} (first : run h program s = (.thrown error, s')) :
    visited h (program.bind next) s = visited h program s := by
  rw [visited_bind, first, List.append_nil]

theorem visited_bind_hung {next : α → Program S ε β} (first : run h program s = (.hung, s')) :
    visited h (program.bind next) s = visited h program s := by
  rw [visited_bind, first, List.append_nil]

theorem visited_catching (program : Program S ε α) (handler : ε → Program S ε α) (s : σ) :
    visited h (program.catching handler) s = visited h program s ++
      match run h program s with
      | (.thrown error, s') => visited h (handler error) s'
      | (.ok _, _) | (.hung, _) => [] := by
  induction program generalizing s with
  | done value => rfl
  | throws error => rfl
  | hangs => rfl
  | call c rest ih =>
    simp only [catching, visited, run_call, List.cons_append]
    rw [ih]

theorem visited_capture (program : Program S ε α) (s : σ) :
    visited h program.capture s = visited h program s := by
  rw [capture, visited_catching, visited_bind, run_bind]
  cases result : run h program s with
  | mk outcome s' => cases outcome <;> simp [visited]

theorem visited_await (c : S.Call) (s : σ) : visited h (await c) s = [(s, c)] := by
  simp only [await, visited]
  cases (h s c).1 <;> rfl

theorem run_capture_await (c : S.Call) (s : σ) :
    run h (await c).capture s = (.ok (h s c).1, (h s c).2) := by
  rw [run_capture, run_await]
  cases answer : h s c with
  | mk reply s' => cases reply <;> rfl

/-- `await c`, captured: what follows is given the reply or the error. -/
theorem visited_capture_await (c : S.Call) (next : Except ε (S.Reply c) → Program S ε β) (s : σ) :
    visited h ((await c).capture.bind next) s = (s, c) :: visited h (next (h s c).1) (h s c).2 := by
  rw [visited_bind_ok h (run_capture_await h c s), visited_capture, visited_await]
  rfl

end Visited

section Linked

variable {h : Handler S ε σ} {s s₁ s' : σ} {calls more : List (σ × S.Call)}

theorem linked_visited (h : Handler S ε σ) (program : Program S ε α) (s : σ) :
    Linked h s (visited h program s) (run h program s).2 := by
  induction program generalizing s with
  | done value => rfl
  | throws error => rfl
  | hangs => rfl
  | call c next ih => exact ⟨rfl, ih _ _⟩

theorem Linked.append (first : Linked h s calls s₁) (second : Linked h s₁ more s') : Linked h s (calls ++ more) s' := by
  induction calls generalizing s with
  | nil =>
    obtain rfl : s = s₁ := first
    exact second
  | cons v later ih => exact ⟨first.1, ih first.2⟩

/-- What holds at first and is kept by each call holds before each call. -/
theorem Linked.always (invariant : σ → Prop) (linked : Linked h s calls s') (initial : invariant s)
    (keep : ∀ v ∈ calls, invariant v.1 → invariant (h v.1 v.2).2) : ∀ v ∈ calls, invariant v.1 := by
  induction calls generalizing s with
  | nil => simp
  | cons v later ih =>
    obtain ⟨rfl, rest⟩ := linked
    obtain ⟨first, others⟩ := List.forall_mem_cons.mp keep
    exact List.forall_mem_cons.mpr ⟨initial, ih rest (first initial) others⟩

end Linked

section Calm

variable {h : Handler S ε σ} {program : Program S ε α}

theorem Calm.bind {next : α → Program S ε β} (first : program.Calm) (rest : ∀ value, (next value).Calm) :
    (program.bind next).Calm := by
  induction program with
  | done value => exact rest value
  | throws error => exact first.elim
  | hangs => exact first.elim
  | call c next ih =>
    refine ⟨fun error => ?_, fun reply => ih (.ok reply) (first.2 reply)⟩
    dsimp only
    rw [first.1 error, bind_throws]

theorem calm_await (c : S.Call) : (await c : Program S ε _).Calm := ⟨fun _ => rfl, fun _ => trivial⟩

@[simp] theorem calm_done (value : α) : (.done value : Program S ε α).Calm := trivial

/-- It returns exactly if no call throws. -/
theorem Calm.cases (calm : program.Calm) (s : σ) :
    ((∃ value s', run h program s = (.ok value, s')) ∧ ∀ v ∈ visited h program s, ¬ Throws h v) ∨
      (∃ error s', run h program s = (.thrown error, s')) ∧ ∃ v ∈ visited h program s, Throws h v := by
  induction program generalizing s with
  | done value => exact .inl ⟨⟨value, s, rfl⟩, by simp [visited]⟩
  | throws error => exact calm.elim
  | hangs => exact calm.elim
  | call c next ih =>
    rw [run_call, visited]
    cases answer : (h s c).1 with
    | error error =>
      rw [calm.1 error]
      refine .inr ⟨⟨error, _, rfl⟩, (s, c), List.mem_cons_self, ?_⟩
      simp [Throws, answer, Except.toBool]
    | ok reply =>
      have answered : ¬ Throws h (s, c) := by simp [Throws, answer, Except.toBool]
      rcases ih (.ok reply) (calm.2 reply) (h s c).2 with ⟨returns, none⟩ | ⟨throws, v, member, threw⟩
      · exact .inl ⟨returns, List.forall_mem_cons.mpr ⟨answered, none⟩⟩
      · exact .inr ⟨throws, v, List.mem_cons_of_mem _ member, threw⟩

theorem Calm.returns (calm : program.Calm) {s : σ} (answered : ∀ v ∈ visited h program s, ¬ Throws h v) :
    ∃ value s', run h program s = (.ok value, s') := by
  rcases calm.cases s with ⟨done, _⟩ | ⟨_, v, member, threw⟩
  · exact done
  · exact absurd threw (answered v member)

end Calm

section Safe

variable {h : Handler S ε σ} {assumed allowed allowed' : σ → S.Call → Prop} {ok ok' : α → σ → Prop}
  {thrown thrown' : ε → σ → Prop} {program : Program S ε α} {s : σ}

theorem Safe.mono (safe : Safe h assumed allowed ok thrown program s)
    (weaker : ∀ s c, allowed s c → allowed' s c) (returns : ∀ value s, ok value s → ok' value s)
    (throws : ∀ error s, thrown error s → thrown' error s) : Safe h assumed allowed' ok' thrown' program s := by
  induction program generalizing s with
  | done value => exact returns value s safe
  | throws error => exact throws error s safe
  | hangs => trivial
  | call c next ih =>
    intro answers
    obtain ⟨permitted, rest⟩ := safe answers
    exact ⟨weaker s c permitted, ih _ rest⟩

/-- The rule of sequencing. -/
theorem Safe.bind {next : α → Program S ε β} {ok : β → σ → Prop}
    (first : Safe h assumed allowed (fun value s => Safe h assumed allowed ok thrown (next value) s) thrown program s) :
    Safe h assumed allowed ok thrown (program.bind next) s := by
  induction program generalizing s with
  | done value => exact first
  | throws error => exact first
  | hangs => trivial
  | call c rest ih =>
    intro answers
    obtain ⟨permitted, later⟩ := first answers
    exact ⟨permitted, ih _ later⟩

/-- The rule of sequencing, with what holds in between. -/
theorem Safe.seq {next : α → Program S ε β} {between : α → σ → Prop} {ok : β → σ → Prop}
    (first : Safe h assumed allowed between thrown program s)
    (rest : ∀ value s', between value s' → Safe h assumed allowed ok thrown (next value) s') :
    Safe h assumed allowed ok thrown (program.bind next) s :=
  Safe.bind (first.mono (fun _ _ permitted => permitted) rest fun _ _ threw => threw)

/-- The rule of `catch`. -/
theorem Safe.catching {handler : ε → Program S ε α}
    (first : Safe h assumed allowed ok (fun error s => Safe h assumed allowed ok thrown (handler error) s) program s) :
    Safe h assumed allowed ok thrown (program.catching handler) s := by
  induction program generalizing s with
  | done value => exact first
  | throws error => exact first
  | hangs => trivial
  | call c rest ih =>
    intro answers
    obtain ⟨permitted, later⟩ := first answers
    exact ⟨permitted, ih _ later⟩

theorem Safe.capture {ok : Except ε α → σ → Prop}
    (first : Safe h assumed allowed (fun value s => ok (.ok value) s) (fun error s => ok (.error error) s) program s) :
    Safe h assumed allowed ok thrown program.capture s := by
  apply Safe.catching
  exact Safe.bind first

theorem safe_await {c : S.Call} {ok : S.Reply c → σ → Prop} (permitted : assumed s c → allowed s c)
    (replied : assumed s c → ∀ reply, (h s c).1 = .ok reply → ok reply (h s c).2)
    (failed : assumed s c → ∀ error, (h s c).1 = .error error → thrown error (h s c).2) :
    Safe h assumed allowed ok thrown (await c) s := by
  intro answers
  refine ⟨permitted answers, ?_⟩
  cases answer : (h s c).1 with
  | ok reply => exact replied answers reply answer
  | error error => exact failed answers error answer

/-- The rule of loops. -/
theorem safe_forEach {items : List α} {body : α → Program S ε Unit} {invariant : σ → Prop}
    (each : ∀ item ∈ items, ∀ s, invariant s →
      Safe h assumed allowed (fun _ s => invariant s) thrown (body item) s) (initial : invariant s) :
    Safe h assumed allowed (fun _ s => invariant s) thrown (forEach items body) s := by
  induction items generalizing s with
  | nil => exact initial
  | cons item rest ih =>
    apply Safe.bind
    refine (each item List.mem_cons_self s initial).mono (fun _ _ same => same) (fun _ s' holds => ?_)
      fun _ _ same => same
    exact ih (fun other member => each other (List.mem_cons_of_mem item member)) holds

theorem Safe.visited (safe : Safe h assumed allowed ok thrown program s)
    (answers : ∀ v ∈ visited h program s, assumed v.1 v.2) : ∀ v ∈ visited h program s, allowed v.1 v.2 := by
  induction program generalizing s with
  | done value => simp [Program.visited]
  | throws error => simp [Program.visited]
  | hangs => simp [Program.visited]
  | call c next ih =>
    obtain ⟨answer, later⟩ := List.forall_mem_cons.mp answers
    obtain ⟨permitted, rest⟩ := safe answer
    exact List.forall_mem_cons.mpr ⟨permitted, ih _ rest later⟩

theorem Safe.returns {s' : σ} {value : α} (safe : Safe h assumed allowed ok thrown program s)
    (answers : ∀ v ∈ Program.visited h program s, assumed v.1 v.2) (ran : run h program s = (.ok value, s')) :
    ok value s' := by
  induction program generalizing s with
  | done value =>
    obtain ⟨rfl, rfl⟩ : _ = _ ∧ _ = _ := by simpa using ran
    exact safe
  | throws error => simp at ran
  | hangs => simp at ran
  | call c next ih =>
    obtain ⟨answer, later⟩ := List.forall_mem_cons.mp answers
    exact ih _ (safe answer).2 later ran

theorem Safe.rethrows {s' : σ} {error : ε} (safe : Safe h assumed allowed ok thrown program s)
    (answers : ∀ v ∈ Program.visited h program s, assumed v.1 v.2) (ran : run h program s = (.thrown error, s')) :
    thrown error s' := by
  induction program generalizing s with
  | done value => simp at ran
  | throws error =>
    obtain ⟨rfl, rfl⟩ : _ = _ ∧ _ = _ := by simpa using ran
    exact safe
  | hangs => simp at ran
  | call c next ih =>
    obtain ⟨answer, later⟩ := List.forall_mem_cons.mp answers
    exact ih _ (safe answer).2 later ran

/-- The calls are also of the kind that the program makes at all. -/
theorem Safe.only {kept : S.Call → Prop} (safe : Safe h assumed allowed ok thrown program s) (only : program.Only kept) :
    Safe h assumed (fun s c => allowed s c ∧ kept c) ok thrown program s := by
  induction program generalizing s with
  | done value => exact safe
  | throws error => exact safe
  | hangs => trivial
  | call c next ih =>
    intro answers
    obtain ⟨permitted, rest⟩ := safe answers
    exact ⟨⟨permitted, only.1⟩, ih _ rest (only.2 _)⟩

/-- What the allowed calls keep holds throughout. -/
theorem Safe.keeping (invariant : σ → Prop) (safe : Safe h assumed allowed ok thrown program s)
    (keep : ∀ s c, allowed s c → invariant s → invariant (h s c).2) (initial : invariant s) :
    Safe h assumed (fun s c => allowed s c ∧ invariant s) (fun value s => ok value s ∧ invariant s)
      (fun error s => thrown error s ∧ invariant s) program s := by
  induction program generalizing s with
  | done value => exact ⟨safe, initial⟩
  | throws error => exact ⟨safe, initial⟩
  | hangs => trivial
  | call c next ih =>
    intro answers
    obtain ⟨permitted, rest⟩ := safe answers
    exact ⟨⟨permitted, initial⟩, ih _ rest (keep s c permitted initial)⟩

/-- What the allowed calls keep holds where the run stops. -/
theorem Safe.run_preserves (invariant : σ → Prop) (safe : Safe h assumed allowed ok thrown program s)
    (answers : ∀ s c, assumed s c) (keep : ∀ s c, allowed s c → invariant s → invariant (h s c).2)
    (initial : invariant s) : invariant (run h program s).2 := by
  induction program generalizing s with
  | done value => exact initial
  | throws error => exact initial
  | hangs => exact initial
  | call c next ih =>
    obtain ⟨permitted, rest⟩ := safe (answers s c)
    exact ih _ rest (keep s c permitted initial)

/-- A program whose calls all keep an invariant. -/
theorem Only.safe {kept : S.Call → Prop} {invariant : σ → Prop} (only : program.Only kept)
    (keep : ∀ s c, kept c → invariant s → invariant (h s c).2) (permitted : ∀ s c, kept c → invariant s → allowed s c)
    (initial : invariant s) :
    Safe h assumed allowed (fun _ s => invariant s) (fun _ s => invariant s) program s := by
  induction program generalizing s with
  | done value => exact initial
  | throws error => exact initial
  | hangs => trivial
  | call c next ih =>
    exact fun _ => ⟨permitted s c only.1 initial, ih _ (only.2 _) (keep s c only.1 initial)⟩

end Safe
section Ends

variable {program : Program S ε α}

theorem Ends.bind {next : α → Program S ε β} (first : program.Ends) (rest : ∀ value, (next value).Ends) :
    (program.bind next).Ends := by
  induction program with
  | done value => exact rest value
  | throws error => trivial
  | hangs => exact first
  | call c later ih => exact fun reply => ih reply (first reply)

theorem Ends.catching {handler : ε → Program S ε α} (ends : program.Ends) (handled : ∀ error, (handler error).Ends) :
    (program.catching handler).Ends := by
  induction program with
  | done value => trivial
  | throws error => exact handled error
  | hangs => exact ends
  | call c later ih => exact fun reply => ih reply (ends reply)

theorem ends_ofExcept (result : Except ε α) : (ofExcept result : Program S ε α).Ends := by
  cases result <;> trivial

theorem ends_await (c : S.Call) : (await c : Program S ε _).Ends := fun reply => by cases reply <;> trivial

theorem ends_forEach {items : List α} {body : α → Program S ε Unit} (each : ∀ item ∈ items, (body item).Ends) :
    (forEach items body).Ends := by
  induction items with
  | nil => trivial
  | cons item rest ih =>
    have first := each item List.mem_cons_self
    exact first.bind fun _ => ih fun other member => each other (List.mem_cons_of_mem item member)

theorem Ends.run (ends : program.Ends) (h : Handler S ε σ) (s : σ) : (run h program s).1 ≠ .hung := by
  induction program generalizing s with
  | done value => intro hung; cases hung
  | throws error => intro hung; cases hung
  | hangs => exact ends.elim
  | call c next ih => exact ih _ (ends _) _

end Ends

section Yields

variable {required between : α → Prop} {allowed : S.Call → Prop} {program : Program S ε α}

theorem yields_any (program : Program S ε α) : program.Yields fun _ => True := by
  induction program with
  | done value => trivial
  | throws error => trivial
  | hangs => trivial
  | call c next ih => exact ih

theorem Yields.bind {next : α → Program S ε β} {required : β → Prop} (first : program.Yields between)
    (rest : ∀ value, between value → (next value).Yields required) : (program.bind next).Yields required := by
  induction program with
  | done value => exact rest value first
  | throws error => trivial
  | hangs => trivial
  | call c later ih => exact fun reply => ih reply (first reply)

theorem Yields.run (yields : program.Yields required) {h : Handler S ε σ} {s s' : σ} {value : α}
    (ran : run h program s = (.ok value, s')) : required value := by
  induction program generalizing s with
  | done other =>
    obtain ⟨rfl, rfl⟩ : _ = _ ∧ _ = _ := by simpa using ran
    exact yields
  | throws error => simp at ran
  | hangs => simp at ran
  | call c next ih => exact ih _ (yields _) ran

theorem Yields.capture (yields : program.Yields required) :
    program.capture.Yields fun result => ∀ value, result = .ok value → required value := by
  induction program with
  | done value =>
    rintro other own
    obtain rfl := Except.ok.inj own
    exact yields
  | throws error =>
    rintro other own
    cases own
  | hangs => trivial
  | call c next ih => exact fun reply => ih reply (yields reply)

theorem yields_ofExcept {result : Except ε α} (holds : ∀ value, result = .ok value → required value) :
    (ofExcept result : Program S ε α).Yields required := by
  cases result with
  | ok value => exact holds value rfl
  | error error => trivial

/-- Sequencing: what follows a value needs only to keep to the calls for the values that the first part returns. -/
theorem Only.seq {next : α → Program S ε β} (only : program.Only allowed) (yields : program.Yields between)
    (rest : ∀ value, between value → (next value).Only allowed) : (program.bind next).Only allowed := by
  induction program with
  | done value => exact rest value yields
  | throws error => trivial
  | hangs => trivial
  | call c later ih => exact ⟨only.1, fun reply => ih reply (only.2 reply) (yields reply)⟩

end Yields

section Reveals

variable {h : Handler S ε σ} {kept asked : σ → S.Call → Prop} {program : Program S ε α} {s : σ}

theorem reveals_of_only (only : program.Only fun c => ∀ s, asked s c) : Reveals h kept asked program s :=
  fun _ v member => only.visited h s v member v.1

theorem Reveals.bind {next : α → Program S ε β} (first : Reveals h kept asked program s)
    (rest : ∀ value s', run h program s = (.ok value, s') → Reveals h kept asked (next value) s') :
    Reveals h kept asked (program.bind next) s := by
  intro keeps
  rw [visited_bind] at keeps ⊢
  obtain ⟨before, after⟩ := List.forall_mem_append.mp keeps
  refine List.forall_mem_append.mpr ⟨first before, ?_⟩
  cases ran : run h program s with
  | mk outcome s' =>
    rw [ran] at after
    cases outcome with
    | ok value => exact rest value s' ran after
    | thrown error | hung => exact fun v member => (List.not_mem_nil member).elim

/-- A call that is as asked, unless what follows breaks something. -/
theorem reveals_await {c : S.Call} {next : S.Reply c → Program S ε β} {reply : S.Reply c} {s' : σ}
    (answer : h s c = (.ok reply, s')) (called : (∀ v ∈ visited h (next reply) s', kept v.1 v.2) → asked s c)
    (rest : Reveals h kept asked (next reply) s') : Reveals h kept asked ((await c).bind next) s := by
  intro keeps
  rw [visited_bind_ok h (run_await_ok h answer), visited_await] at keeps ⊢
  have after := (List.forall_mem_cons.mp keeps).2
  exact List.forall_mem_cons.mpr ⟨called after, rest after⟩

end Reveals
end Effect.Program
