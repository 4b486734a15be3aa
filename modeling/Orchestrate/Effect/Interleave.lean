import Orchestrate.Effect.Trace

namespace Effect.Program

variable {S : Signature} {ε α β σ Q : Type}

/-- The next call of a program. -/
def awaits : Program S ε α → Option S.Call
  | .call c _ => some c
  | .done _ | .throws _ | .hangs => none

/-- How a program ended that makes no other call. -/
def ended : Program S ε α → Option (Outcome ε α)
  | .done value => some (.ok value)
  | .throws error => some (.thrown error)
  | .hangs => some .hung
  | .call _ _ => none

/-- A program makes its next call, and others may have their turn before the one after it. -/
def turn (h : Handler S ε σ) (s : σ) : Program S ε α → Option (Program S ε α × σ)
  | .call c next => some (next (h s c).1, (h s c).2)
  | .done _ | .throws _ | .hangs => none

/-- Whichever of the possible replies it gets, the program makes a wanted call before it returns. -/
def Owes (possible : (c : S.Call) → Except ε (S.Reply c) → Prop) (wanted : S.Call → Prop) : Program S ε α → Prop
  | .done _ => False
  | .throws _ | .hangs => True
  | .call c next => wanted c ∨ ∀ reply, possible c reply → (next reply).Owes possible wanted

/-- Whatever the replies are, the calls are those that a protocol allows from a stage on. -/
def Obeys (protocol : Q → S.Call → Option Q) : Q → Program S ε α → Prop
  | _, .done _ | _, .throws _ | _, .hangs => True
  | stage, .call c next => ∃ stage', protocol stage c = some stage' ∧ ∀ reply, (next reply).Obeys protocol stage'

/-- As `Obeys`, along the replies that are possible only. -/
def Follows (possible : (c : S.Call) → Except ε (S.Reply c) → Prop) (protocol : Q → S.Call → Option Q) :
    Q → Program S ε α → Prop
  | _, .done _ | _, .throws _ | _, .hangs => True
  | stage, .call c next => ∃ stage', protocol stage c = some stage' ∧
      ∀ reply, possible c reply → (next reply).Follows possible protocol stage'

theorem turn_cases {h : Handler S ε σ} {s s' : σ} {program program' : Program S ε α}
    (moved : program.turn h s = some (program', s')) :
    ∃ c next, program = .call c next ∧ program' = next (h s c).1 ∧ s' = (h s c).2 := by
  cases program with
  | call c next =>
    obtain ⟨rfl, rfl⟩ := Prod.mk.inj (Option.some.inj moved)
    exact ⟨c, next, rfl, rfl, rfl⟩
  | done value => cases moved
  | throws error => cases moved
  | hangs => cases moved

section Owes

variable {possible : (c : S.Call) → Except ε (S.Reply c) → Prop} {wanted : S.Call → Prop} {program : Program S ε α}

theorem Owes.bind (owes : program.Owes possible wanted) (next : α → Program S ε β) :
    (program.bind next).Owes possible wanted := by
  induction program with
  | done value => exact owes.elim
  | throws error => trivial
  | hangs => trivial
  | call c rest ih => exact owes.imp_right fun later reply answer => ih reply (later reply answer)

theorem owes_bind (program : Program S ε α) {next : α → Program S ε β}
    (owes : ∀ value, (next value).Owes possible wanted) : (program.bind next).Owes possible wanted := by
  induction program with
  | done value => exact owes value
  | throws error => trivial
  | hangs => trivial
  | call c rest ih => exact .inr fun reply _ => ih reply

theorem owes_await (c : S.Call) {next : S.Reply c → Program S ε β}
    (owes : ∀ reply, possible c (.ok reply) → (next reply).Owes possible wanted) :
    ((await c).bind next).Owes possible wanted := by
  right
  intro reply answer
  cases reply with
  | error error => trivial
  | ok value => exact owes value answer

theorem owes_wanted {c : S.Call} (meets : wanted c) : (await c : Program S ε _).Owes possible wanted := .inl meets

theorem owes_forEach {items : List α} {item : α} (member : item ∈ items) {body : α → Program S ε Unit}
    (owes : (body item).Owes possible wanted) : (forEach items body).Owes possible wanted := by
  induction items with
  | nil => cases member
  | cons head rest ih =>
    rcases List.mem_cons.mp member with rfl | later
    · exact owes.bind _
    · exact owes_bind _ fun _ => ih later

end Owes

section Obeys

variable {protocol : Q → S.Call → Option Q} {stage stage' : Q} {program : Program S ε α}

theorem Obeys.bind (stays : program.Only fun c => protocol stage c = some stage) {next : α → Program S ε β}
    (obeys : ∀ value, (next value).Obeys protocol stage) : (program.bind next).Obeys protocol stage := by
  induction program with
  | done value => exact obeys value
  | throws error => trivial
  | hangs => trivial
  | call c rest ih => exact ⟨stage, stays.1, fun reply => ih reply (stays.2 reply)⟩

theorem obeys_await {c : S.Call} (allowed : protocol stage c = some stage') {next : S.Reply c → Program S ε β}
    (obeys : ∀ reply, (next reply).Obeys protocol stage') : ((await c).bind next).Obeys protocol stage := by
  refine ⟨stage', allowed, fun reply => ?_⟩
  cases reply with
  | error error => trivial
  | ok value => exact obeys value

end Obeys

section Follows

variable {possible : (c : S.Call) → Except ε (S.Reply c) → Prop} {protocol : Q → S.Call → Option Q} {stage stage' : Q}
  {program : Program S ε α}

theorem Follows.bind (stays : program.Only fun c => protocol stage c = some stage) {next : α → Program S ε β}
    (follows : ∀ value, (next value).Follows possible protocol stage) :
    (program.bind next).Follows possible protocol stage := by
  induction program with
  | done value => exact follows value
  | throws error => trivial
  | hangs => trivial
  | call c rest ih => exact ⟨stage, stays.1, fun reply _ => ih reply (stays.2 reply)⟩

/-- What follows may do so from any stage. -/
theorem Follows.andThen (follows : program.Follows possible protocol stage) {next : α → Program S ε β}
    (rest : ∀ value stage, (next value).Follows possible protocol stage) :
    (program.bind next).Follows possible protocol stage := by
  induction program generalizing stage with
  | done value => exact rest value stage
  | throws error => trivial
  | hangs => trivial
  | call c later ih =>
    obtain ⟨stage', allowed, follows⟩ := follows
    exact ⟨stage', allowed, fun reply answer => ih reply (follows reply answer)⟩

theorem follows_of_only (stays : program.Only fun c => protocol stage c = some stage) :
    program.Follows possible protocol stage := by
  rw [← bind_done_right program]
  exact Follows.bind stays fun _ => trivial

theorem follows_await {c : S.Call} (allowed : protocol stage c = some stage') {next : S.Reply c → Program S ε β}
    (follows : ∀ reply, possible c (.ok reply) → (next reply).Follows possible protocol stage') :
    ((await c).bind next).Follows possible protocol stage := by
  refine ⟨stage', allowed, fun reply answer => ?_⟩
  cases reply with
  | error error => trivial
  | ok value => exact follows value answer

end Follows
end Effect.Program
