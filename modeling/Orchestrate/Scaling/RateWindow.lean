import Orchestrate.Model.RateLimit

namespace OrchestrateModel

open Effect Cooperation

/-- Where an attempt stands with the limiter: before it, past it unlimited, stopped without a number, or with a key
    and the number of its `INCR`, at the `EXPIRE` of the first one or at its end. -/
inductive LimitStage : Type where
  | fresh
  | free
  | failed
  | expiring (key : String)
  | got (key : String) (current : Int)
  deriving DecidableEq, Repr

/-- The number that an attempt got at a key. -/
def LimitStage.number (key : String) : LimitStage → Option Int
  | .fresh | .free | .failed => none
  | .expiring own => if own = key then some 1 else none
  | .got own current => if own = key then some current else none

def RateTurn.key (turn : RateTurn) : String := BaseWorker.redisKey turn.job.data.tenantId turn.now

/-- What a segment can do, with the stages before and after it. -/
inductive LimitMove : LimitStage → RateStore → RateTurn → RateStore → LimitStage → Prop where
  | passes {s : RateStore} {turn : RateTurn} (unlimited : turn.job.data.tenantId = "") : LimitMove .fresh s turn s .free
  | fails {s : RateStore} {turn : RateTurn} : LimitMove .fresh s turn s .failed
  | counts {s : RateStore} {turn : RateTurn} {entry : RateEntry} (result : s.incremented turn.key turn.now = entry) :
      LimitMove .fresh s turn (s.setEntry turn.key entry) (.got turn.key entry.count)
  | begins {s : RateStore} {turn : RateTurn} {entry : RateEntry} (result : s.incremented turn.key turn.now = entry)
      (first : entry.count = 1) : LimitMove .fresh s turn (s.setEntry turn.key entry) (.expiring turn.key)
  | keeps {s : RateStore} {turn : RateTurn} {key : String} : LimitMove (.expiring key) s turn s (.got key 1)
  | expires {s : RateStore} {turn : RateTurn} {key : String} :
      LimitMove (.expiring key) s turn (s.expire key 60 turn.now) (.got key 1)

def LimitStage.awaits : LimitStage → HostCall → Prop
  | .fresh, _ | .free, _ | .failed, _ | .got _ _, _ => False
  | .expiring key, call => call = .expire key 60

/-- How attempts leave the limiter: a numbered one passes only within the limit. -/
def LimitStage.ends (limit : Int) : LimitStage → Outcome Err Unit → Prop
  | .fresh, _ | .expiring _, _ => False
  | .free, _ => True
  | .failed, outcome => outcome ≠ .ok ()
  | .got _ current, outcome => outcome = .ok () → current ≤ limit

def limitDiscipline (limit : Int) : Discipline hostSignature Err LimitStage RateStore RateTurn where
  moves segment stage := LimitMove segment.stage segment.start segment.env segment.state stage
  awaited := LimitStage.awaits
  ended := LimitStage.ends limit

section Attempt

variable {limit : Int} {post : Unit → Segment LimitStage RateStore RateTurn → Prop}
  {thrown : Err → Segment LimitStage RateStore RateTurn → Prop} {now : Segment LimitStage RateStore RateTurn}

theorem proceeds_clock {post : Nat → Segment LimitStage RateStore RateTurn → Prop} :
    rateLoop.Proceeds (limitDiscipline limit) post thrown (onWorker (onServices clock)) = fun now =>
      post now.env.now now :=
  rfl

theorem proceeds_incr {key : String} {post : Int → Segment LimitStage RateStore RateTurn → Prop} :
    rateLoop.Proceeds (limitDiscipline limit) post thrown (awaitHost (.incr key)) = fun now =>
      rateLoop.Proceeds (limitDiscipline limit) post thrown (.ofExcept (now.state.answer now.env (.incr key)).1)
        { now with state := (now.state.answer now.env (.incr key)).2 } :=
  proceeds_await_own rfl

theorem proceeds_expire {key : String} :
    rateLoop.Proceeds (limitDiscipline limit) post thrown (awaitHost (.expire key 60)) = fun now =>
      ∃ stage, LimitMove now.stage now.start now.env now.state stage ∧ stage.awaits (.expire key 60) ∧ ∀ turn s,
        rateLoop.Proceeds (limitDiscipline limit) post thrown (.ofExcept (RateStore.answer turn s (.expire key 60)).1)
          ⟨stage, s, turn, (RateStore.answer turn s (.expire key 60)).2⟩ :=
  proceeds_await rfl

theorem completes_judgeRate {tenantId : TenantId} {current : Int} {key : String}
    (moved : LimitMove now.stage now.start now.env now.state (.got key current)) :
    rateLoop.Completes (limitDiscipline limit) (BaseWorker.judgeRate limit tenantId current) now := by
  unfold BaseWorker.judgeRate
  split
  · exact ⟨_, moved, fun passed => by cases passed⟩
  · rename_i within
    exact ⟨_, moved, fun _ => Int.not_lt.mp within⟩

theorem completes_renewRate {tenantId : TenantId} {time : Nat} {current : Int}
    (counts : LimitMove now.stage now.start now.env now.state (.got (BaseWorker.redisKey tenantId time) current))
    (begins : current = 1 →
      LimitMove now.stage now.start now.env now.state (.expiring (BaseWorker.redisKey tenantId time))) :
    rateLoop.Completes (limitDiscipline limit)
      ((BaseWorker.renewRate tenantId time current).bind fun _ => BaseWorker.judgeRate limit tenantId current) now := by
  unfold BaseWorker.renewRate
  split
  · rename_i first
    rw [Completes, proceeds_bind, proceeds_expire]
    refine ⟨_, begins first, rfl, fun turn s => ?_⟩
    subst first
    cases ended : turn.expire with
    | replied =>
      simp only [RateStore.answer, ended]
      exact completes_judgeRate .expires
    | failed error =>
      simp only [RateStore.answer, ended]
      exact ⟨_, .keeps, fun passed => by cases passed⟩
    | lost error =>
      simp only [RateStore.answer, ended]
      exact ⟨_, .expires, fun passed => by cases passed⟩
  · exact completes_judgeRate counts

/-- The step lemma of an attempt. -/
theorem completes_limitRate (positive : 0 < limit) (turn : RateTurn) (s : RateStore) :
    rateLoop.Completes (limitDiscipline limit) (BaseWorker.limitRate (some limit) turn.job) ⟨.fresh, s, turn, s⟩ := by
  by_cases limited : limit > 0 ∧ turn.job.data.tenantId ≠ ""
  · rw [BaseWorker.limitRate_eq limited, Completes, proceeds_bind, proceeds_clock]
    show rateLoop.Proceeds _ _ _ ((awaitHost (.incr turn.key)).bind _) _
    rw [proceeds_bind, proceeds_incr]
    show rateLoop.Proceeds (Q := LimitStage) _ _ _ (.ofExcept (RateStore.answer turn s (.incr turn.key)).1)
      ⟨.fresh, s, turn, (RateStore.answer turn s (.incr turn.key)).2⟩
    cases ended : turn.incr with
    | replied =>
      simp only [RateStore.answer, ended]
      exact completes_renewRate (.counts rfl) (.begins rfl)
    | failed error =>
      simp only [RateStore.answer, ended]
      exact ⟨.failed, .fails, fun passed => by cases passed⟩
    | lost error =>
      simp only [RateStore.answer, ended]
      exact ⟨_, .counts rfl, fun passed => by cases passed⟩
  · have unlimited : turn.job.data.tenantId = "" := by
      by_contra named
      exact limited ⟨positive, named⟩
    have program : BaseWorker.limitRate (some limit) turn.job = .done () := by
      rw [BaseWorker.limitRate, if_neg limited, Program.pure_eq_done]
    rw [program]
    exact ⟨.free, .passes unlimited, trivial⟩

end Attempt

section Keys

/-- The digits at the end of a key are those of its minute. -/
theorem redisKey_minute {tenantId other : TenantId} {now later : Nat}
    (same : BaseWorker.redisKey tenantId now = BaseWorker.redisKey other later) : now / 60000 = later / 60000 := by
  have digits (tenantId : TenantId) (now : Nat) :
      (BaseWorker.redisKey tenantId now).toList.reverse.takeWhile Char.isDigit = (Nat.toDigits 10 (now / 60000)).reverse := by
    have split : (BaseWorker.redisKey tenantId now).toList =
        ("jobs:".toList ++ tenantId.toList) ++ ':' :: Nat.toDigits 10 (now / 60000) := by
      simp [BaseWorker.redisKey]
    rw [split, List.reverse_append, List.reverse_cons, List.append_assoc, List.takeWhile_append_of_pos]
    · simp
    · intro c member
      exact Nat.isDigit_of_mem_toDigits (by decide) (by decide) (List.mem_reverse.mp member)
  have sides := digits tenantId now
  rw [same, digits other later] at sides
  have own := List.reverse_injective sides.symm
  calc now / 60000 = Nat.ofDigitChars 10 (Nat.toDigits 10 (now / 60000)) 0 :=
        (Nat.ofDigitChars_toDigits (by decide) (by decide)).symm
    _ = Nat.ofDigitChars 10 (Nat.toDigits 10 (later / 60000)) 0 := by rw [own]
    _ = later / 60000 := Nat.ofDigitChars_toDigits (by decide) (by decide)

theorem redisKey_eq {tenantId : TenantId} {now minute : Nat} (inside : now / 60000 = minute) :
    BaseWorker.redisKey tenantId now = BaseWorker.redisKey tenantId (60000 * minute) := by
  rw [BaseWorker.redisKey, BaseWorker.redisKey, inside, Nat.mul_div_cancel_left minute (by decide)]

end Keys

namespace RateStore

variable {s : RateStore} {key other : String} {entry : RateEntry} {seconds now : Nat}

@[simp] theorem setEntry_clock : (s.setEntry key entry).clock = s.clock := rfl

@[simp] theorem setEntry_entries_self : (s.setEntry key entry).entries key = some entry := if_pos rfl

theorem setEntry_entries_of_ne (apart : key ≠ other) : (s.setEntry key entry).entries other = s.entries other :=
  if_neg apart.symm

theorem incremented_of_none (absent : s.entries key = none) :
    s.incremented key now = { count := 1, expiresAt := none } := by
  simp [incremented, live, absent]

theorem incremented_of_alive (present : s.entries key = some entry) (alive : entry.alive now = true) :
    s.incremented key now = { entry with count := entry.count + 1 } := by
  have live : s.live key now = some entry := Option.filter_eq_some_iff.mpr ⟨present, alive⟩
  rw [RateStore.incremented, live]

/-- What `EXPIRE` changes. -/
theorem expire_cases : s.expire key seconds now = s ∨ ∃ entry, s.entries key = some entry ∧
    s.expire key seconds now = s.setEntry key { entry with expiresAt := some (now + seconds * 1000) } := by
  unfold expire
  cases live : s.live key now with
  | none => exact .inl rfl
  | some entry => exact .inr ⟨entry, (Option.filter_eq_some_iff.mp live).1, rfl⟩

end RateStore

/-- The attempts got the numbers up to `count` at a key of a minute, and its counter is there until the minute ends. -/
structure Counted (key : String) (minute count : Nat) (s : RateStore) (stages : List LimitStage) : Prop where
  numbers : stages.filterMap (LimitStage.number key) = (List.range count).map fun i : Nat => (i : Int) + 1
  begun : 0 < count → 60000 * minute ≤ s.clock
  absent : count = 0 → s.clock < 60000 * (minute + 1) → s.entries key = none
  present : 0 < count → s.clock < 60000 * (minute + 1) → ∃ entry, s.entries key = some entry ∧
    entry.count = count ∧ ∀ time, entry.expiresAt = some time → 60000 * (minute + 1) ≤ time

namespace Counted

variable {key : String} {minute count : Nat} {s : RateStore} {stages : List LimitStage} {turn : RateTurn}

theorem arrive (counted : Counted key minute count s stages) (forward : s.clock ≤ turn.now) :
    Counted key minute count { s with clock := turn.now } stages := by
  refine ⟨counted.numbers, fun some => (counted.begun some).trans forward, fun none inside => ?_, fun some inside => ?_⟩
  · exact counted.absent none (Nat.lt_of_le_of_lt forward inside)
  · exact counted.present some (Nat.lt_of_le_of_lt forward inside)

/-- A counter that is there has not expired. -/
theorem alive (counted : Counted key minute count s stages) (inside : s.clock < 60000 * (minute + 1)) {entry : RateEntry}
    (there : s.entries key = some entry) : entry.alive s.clock = true := by
  rcases Nat.eq_zero_or_pos count with none | some
  · rw [counted.absent none inside] at there
    cases there
  · obtain ⟨own, present, _, lasts⟩ := counted.present some inside
    obtain rfl := Option.some.inj (present.symm.trans there)
    unfold RateEntry.alive
    split
    · rfl
    · rename_i time expires
      exact decide_eq_true (Nat.lt_of_lt_of_le inside (lasts time expires))

/-- The next `INCR` in the minute gets the next number. -/
theorem incremented (counted : Counted key minute count s stages) (inside : s.clock < 60000 * (minute + 1)) :
    (s.incremented key s.clock).count = (count : Int) + 1 ∧
      ∀ time, (s.incremented key s.clock).expiresAt = some time → 60000 * (minute + 1) ≤ time := by
  rcases Nat.eq_zero_or_pos count with none | some
  · rw [RateStore.incremented_of_none (counted.absent none inside)]
    simp [none]
  · obtain ⟨own, present, number, lasts⟩ := counted.present some inside
    rw [RateStore.incremented_of_alive present (counted.alive inside present)]
    exact ⟨by rw [number], lasts⟩

/-- An attempt that got its number at another key, or none. -/
theorem other {stage : LimitStage} {s' : RateStore} (counted : Counted key minute count s stages)
    (unnumbered : stage.number key = none) (entries : s'.entries key = s.entries key) (clock : s'.clock = s.clock) :
    Counted key minute count s' (stages ++ [stage]) := by
  refine ⟨?_, ?_, ?_, ?_⟩
  · rw [List.filterMap_append, counted.numbers]
    simp [unnumbered]
  · rw [clock]
    exact counted.begun
  · rw [clock, entries]
    exact counted.absent
  · rw [clock, entries]
    exact counted.present

/-- The attempt that gets the next number. -/
theorem next {stage : LimitStage} (counted : Counted key minute count s stages) (inside : s.clock / 60000 = minute)
    (numbered : stage.number key = some (s.incremented key s.clock).count) :
    Counted key minute (count + 1) (s.setEntry key (s.incremented key s.clock)) (stages ++ [stage]) := by
  obtain ⟨number, lasts⟩ := counted.incremented (by omega)
  refine ⟨?_, fun _ => ?_, fun none => absurd none (Nat.succ_ne_zero count), fun _ _ => ?_⟩
  · rw [List.filterMap_append, counted.numbers, List.range_succ, List.map_append]
    simp [numbered, number]
  · rw [RateStore.setEntry_clock]
    omega
  · refine ⟨_, RateStore.setEntry_entries_self, ?_, lasts⟩
    rw [number]
    push_cast
    rfl

/-- An attempt that starts. -/
theorem start {stage : LimitStage} {s' : RateStore} (counted : Counted key minute count s stages)
    (same : ∀ now, turn.key = key → now = turn.now → now / 60000 = minute) (told : s.clock = turn.now)
    (moved : LimitMove .fresh s turn s' stage) : ∃ count', Counted key minute count' s' (stages ++ [stage]) := by
  have counts (stage : LimitStage)
      (number : stage.number key = if turn.key = key then some (s.incremented turn.key turn.now).count else none) :
      ∃ count', Counted key minute count' (s.setEntry turn.key (s.incremented turn.key turn.now)) (stages ++ [stage]) := by
    by_cases own : turn.key = key
    · rw [if_pos own, ← told, own] at number
      rw [← told, own]
      exact ⟨count + 1, counted.next (same s.clock own told) number⟩
    · rw [if_neg own] at number
      exact ⟨count, counted.other number (RateStore.setEntry_entries_of_ne own) rfl⟩
  cases moved with
  | passes unlimited => exact ⟨count, counted.other rfl rfl rfl⟩
  | fails => exact ⟨count, counted.other rfl rfl rfl⟩
  | counts result =>
    subst result
    exact counts _ rfl
  | begins result first =>
    subst result
    apply counts
    rw [first]
    rfl

/-- An attempt whose `EXPIRE` ends: the counter is to last for a minute from now on. -/
theorem resume {i : Nat} {old stage : LimitStage} {s' : RateStore} {own : String}
    (counted : Counted key minute count s stages) (told : s.clock = turn.now) (at_i : stages[i]? = some old)
    (fits : old.awaits (.expire own 60)) (moved : LimitMove old s turn s' stage) :
    Counted key minute count s' (stages.set i stage) := by
  have kept (entries : s'.entries key = s.entries key) (clock : s'.clock = s.clock)
      (number : stage.number key = old.number key) : Counted key minute count s' (stages.set i stage) := by
    refine ⟨(filterMap_set_of_eq at_i number).trans counted.numbers, ?_, ?_, ?_⟩
    · rw [clock]
      exact counted.begun
    · rw [clock, entries]
      exact counted.absent
    · rw [clock, entries]
      exact counted.present
  cases moved with
  | passes => cases fits
  | fails => cases fits
  | counts => cases fits
  | begins => cases fits
  | keeps => exact kept rfl rfl rfl
  | @expires _ _ target =>
    rcases @RateStore.expire_cases s target 60 turn.now with nothing | ⟨entry, there, expires⟩
    · rw [nothing] at kept ⊢
      exact kept rfl rfl rfl
    · rw [expires] at kept ⊢
      by_cases here : target = key
      · subst here
        have positive : 0 < count := by
          rcases Nat.eq_zero_or_pos count with none | some
          · have numbered : (1 : Int) ∈ stages.filterMap (LimitStage.number target) :=
              List.mem_filterMap.mpr ⟨_, List.mem_of_getElem? at_i, if_pos rfl⟩
            rw [counted.numbers, none] at numbered
            cases numbered
          · exact some
        have numbers := filterMap_set_of_eq at_i (show LimitStage.number target (.got target 1) = _ from rfl)
        refine ⟨numbers.trans counted.numbers, counted.begun, fun none => absurd none positive.ne', fun _ inside => ?_⟩
        obtain ⟨earlier, present, number, _⟩ := counted.present positive inside
        obtain rfl := Option.some.inj (present.symm.trans there)
        refine ⟨_, RateStore.setEntry_entries_self, number, fun time lasts => ?_⟩
        obtain rfl := Option.some.inj lasts
        have begun := counted.begun positive
        omega
      · exact kept (RateStore.setEntry_entries_of_ne here) rfl rfl

end Counted

/-- The attempts that have started, in order. -/
def attempts (visited : List (Pool hostSignature Err RateStore × (Turn × RateTurn))) : List RateTurn :=
  visited.filterMap fun v => if v.2.1 = .start then some v.2.2 else none

/-- The attempt is past the limiter. -/
def reachesExecute : HostProgram Unit → Bool
  | .done _ => true
  | .call _ _ | .throws _ | .hangs => false

/-- The attempts of a tenant whose `INCR` was in a minute and that got past the limiter. -/
def passedOf (tenantId : TenantId) (minute : Nat) (visited : List (Pool hostSignature Err RateStore × (Turn × RateTurn)))
    (pool : Pool hostSignature Err RateStore) : Nat :=
  ((attempts visited).zip pool.threads).countP fun attempt =>
    attempt.1.job.data.tenantId = tenantId && attempt.1.now / 60000 = minute && reachesExecute attempt.2

/-- A limited attempt failed at its `INCR`, or it stands at its own key. -/
def Keyed (turn : RateTurn) : LimitStage → Prop
  | .fresh => False
  | .free => turn.job.data.tenantId = ""
  | .failed => True
  | .expiring own | .got own _ => own = turn.key

section Runs

variable {limit : Int} {tenantId : TenantId} {start pool pool' : Pool hostSignature Err RateStore}
  {event : Turn × RateTurn} {visited : List (Pool hostSignature Err RateStore × (Turn × RateTurn))}
  {stages : List LimitStage}

/-- What holds of the attempts, the stages they are in and the counters of a tenant. -/
structure Limited (limit : Int) (tenantId : TenantId) (stages : List LimitStage)
    (visited : List (Pool hostSignature Err RateStore × (Turn × RateTurn))) (pool : Pool hostSignature Err RateStore) :
    Prop where
  waits : List.Forall₂ (rateLoop.Waits (limitDiscipline limit)) stages pool.threads
  keyed : List.Forall₂ Keyed (attempts visited) stages
  counted : ∀ minute, ∃ count, Counted (BaseWorker.redisKey tenantId (60000 * minute)) minute count pool.state stages

theorem keyed_of_moved {s s' : RateStore} {turn : RateTurn} {stage : LimitStage}
    (moved : LimitMove .fresh s turn s' stage) : Keyed turn stage := by
  cases moved with
  | passes unlimited => exact unlimited
  | fails => trivial
  | counts => rfl
  | begins => rfl

theorem keyed_of_awaited {s s' : RateStore} {turn other : RateTurn} {old new : LimitStage} {call : HostCall}
    (fits : old.awaits call) (moved : LimitMove old s turn s' new) (keyed : Keyed other old) : Keyed other new := by
  cases moved with
  | passes => cases fits
  | fails => cases fits
  | counts => cases fits
  | begins => cases fits
  | keeps => exact keyed
  | expires => exact keyed

theorem forall₂_keyed_set {turns : List RateTurn} {i : Nat} {old new : LimitStage}
    (keyed : List.Forall₂ Keyed turns stages) (at_i : stages[i]? = some old)
    (stays : ∀ turn, Keyed turn old → Keyed turn new) : List.Forall₂ Keyed turns (stages.set i new) := by
  induction keyed generalizing i with
  | nil => exact .nil
  | @cons turn stage turns stages first rest ih =>
    cases i with
    | zero =>
      obtain rfl := Option.some.inj at_i
      exact .cons (stays turn first) rest
    | succ i => exact .cons first (ih at_i)

/-- The step lemma of the limiter. -/
theorem Limited.step (positive : 0 < limit) (limited : Limited limit tenantId stages visited pool)
    (step : (rateLimiter limit).step pool event = some pool') :
    ∃ stages', Limited limit tenantId stages' (visited ++ [(pool, event)]) pool' := by
  obtain ⟨turn, e⟩ := event
  obtain ⟨s, stages', arrived, took, waits⟩ := step_took (completes_limitRate positive) limited.waits step
  simp only [rateLoop] at arrived
  split at arrived
  case isFalse => cases arrived
  rename_i forward
  obtain rfl := Option.some.inj arrived
  refine ⟨stages', waits, ?_, fun minute => ?_⟩
  · rw [attempts, List.filterMap_append]
    cases took with
    | start moved => exact List.rel_append limited.keyed (.cons (keyed_of_moved moved) .nil)
    | @resume i _ _ _ _ waiting at_i fits moved =>
      have none : [(pool, Turn.resume i, e)].filterMap (fun v => if v.2.1 = .start then some v.2.2 else none) = [] := rfl
      rw [none, List.append_nil]
      exact forall₂_keyed_set limited.keyed at_i fun turn => keyed_of_awaited fits moved
  · obtain ⟨count, counted⟩ := limited.counted minute
    have counted := counted.arrive forward
    cases took with
    | start moved =>
      refine counted.start (fun now own told => ?_) rfl moved
      have minutes := redisKey_minute own
      rw [told, minutes, Nat.mul_div_cancel_left minute (by decide)]
    | @resume i old new c next waiting at_i fits moved =>
      cases old with
      | fresh => cases fits
      | free => cases fits
      | failed => cases fits
      | got => cases fits
      | expiring own => exact ⟨count, counted.resume rfl at_i rfl moved⟩

/-- The run lemma: the invariant to the end, and no counter that expired before its minute's end on the way. -/
theorem limited_run (positive : 0 < limit)
    (unused : ∀ now, start.state.entries (BaseWorker.redisKey tenantId now) = none) (idle : start.threads = [])
    (run : (rateLimiter limit).Run start visited pool) :
    (∃ stages, Limited limit tenantId stages visited pool) ∧
      ∀ v ∈ visited, ∀ entry, v.1.state.entries (BaseWorker.redisKey tenantId v.2.2.now) = some entry →
        entry.alive v.2.2.now = true := by
  induction run with
  | nil =>
    refine ⟨⟨[], by rw [idle]; exact .nil, .nil, fun minute => ⟨0, rfl, ?_, ?_, ?_⟩⟩, by simp⟩
    · simp
    · exact fun _ _ => unused (60000 * minute)
    · simp
  | @snoc visited pool pool' event before step ih =>
    obtain ⟨⟨stages, limited⟩, earlier⟩ := ih
    refine ⟨limited.step positive step, fun v member entry there => ?_⟩
    rcases List.mem_append.mp member with old | new
    · exact earlier v old entry there
    · obtain rfl := List.mem_singleton.mp new
      obtain ⟨s, arrived, _⟩ := Option.bind_eq_some_iff.mp step
      simp only [rateLoop] at arrived
      split at arrived
      case isFalse => cases arrived
      rename_i forward
      obtain ⟨count, counted⟩ := limited.counted (event.2.now / 60000)
      rw [redisKey_eq rfl] at there
      exact (counted.arrive forward).alive (by show event.2.now < _; omega) there

/-- An attempt that passed has a number within the limit. -/
theorem number_of_passed {turn : RateTurn} {stage : LimitStage} {thread : HostProgram Unit} (keyed : Keyed turn stage)
    (ready : rateLoop.Waits (limitDiscipline limit) stage thread) (named : turn.job.data.tenantId ≠ "")
    (passed : reachesExecute thread = true) : ∃ current, stage.number turn.key = some current ∧ current ≤ limit := by
  cases thread with
  | call c next => cases passed
  | throws error => cases passed
  | hangs => cases passed
  | done value =>
    cases stage with
    | fresh => exact absurd keyed id
    | free => exact absurd keyed named
    | failed => exact absurd rfl ready
    | expiring own => exact absurd ready id
    | got own current =>
      obtain rfl : own = turn.key := keyed
      exact ⟨current, if_pos rfl, ready rfl⟩

theorem passed_le {minute : Nat} {turns : List RateTurn} {threads : List (HostProgram Unit)} (named : tenantId ≠ "")
    (keyed : List.Forall₂ Keyed turns stages)
    (waits : List.Forall₂ (rateLoop.Waits (limitDiscipline limit)) stages threads) :
    ((turns.zip threads).countP fun attempt => attempt.1.job.data.tenantId = tenantId &&
        attempt.1.now / 60000 = minute && reachesExecute attempt.2) ≤
      (stages.filterMap (LimitStage.number (BaseWorker.redisKey tenantId (60000 * minute)))).countP fun number =>
        number ≤ limit := by
  induction keyed generalizing threads with
  | nil => simp
  | @cons turn stage turns stages first rest ih =>
    cases waits with
    | @cons _ thread _ threads ready later =>
      have others := ih later
      rw [List.zip_cons_cons, List.countP_cons, List.filterMap_cons]
      split
      · rename_i passes
        simp only [Bool.and_eq_true, decide_eq_true_eq] at passes
        obtain ⟨⟨own, inside⟩, passed⟩ := passes
        subst own
        obtain ⟨current, number, within⟩ := number_of_passed first ready named passed
        rw [RateTurn.key, redisKey_eq inside] at number
        simp only [number]
        rw [List.countP_cons, if_pos (decide_eq_true within)]
        omega
      · split
        · omega
        · rw [List.countP_cons]
          omega

/-- Of the numbers from 1 on, no more are within the limit than it says. -/
theorem countP_numbers (limit : Int) (nonneg : 0 ≤ limit) (count : Nat) :
    ((((List.range count).map fun i : Nat => (i : Int) + 1).countP fun number => number ≤ limit : Nat) : Int) ≤ limit := by
  induction count with
  | zero => exact nonneg
  | succ count ih =>
    have most := List.countP_le_length (p := fun number : Int => decide (number ≤ limit))
      (l := (List.range count).map fun i : Nat => (i : Int) + 1)
    rw [List.length_map, List.length_range] at most
    rw [List.range_succ, List.map_append, List.countP_append, List.map_singleton, List.countP_singleton]
    split
    · rename_i within
      have within := of_decide_eq_true within
      omega
    · omega

/-- Of the attempts whose `INCR` falls into a minute, no more than the limit pass, and no counter expires before its
    minute is over. -/
theorem rateLimiter_window (tenantId : TenantId) (positive : 0 < limit) (named : tenantId ≠ "")
    (unused : ∀ now, start.state.entries (BaseWorker.redisKey tenantId now) = none) (idle : start.threads = [])
    (run : (rateLimiter limit).Run start visited pool) :
    (∀ minute, (passedOf tenantId minute visited pool : Int) ≤ limit) ∧
      ∀ v ∈ visited, ∀ entry, v.1.state.entries (BaseWorker.redisKey tenantId v.2.2.now) = some entry →
        entry.alive v.2.2.now = true := by
  obtain ⟨⟨stages, limited⟩, alive⟩ := limited_run positive unused idle run
  refine ⟨fun minute => ?_, alive⟩
  obtain ⟨count, counted⟩ := limited.counted minute
  have most : passedOf tenantId minute visited pool ≤ _ := passed_le named limited.keyed limited.waits
  rw [counted.numbers] at most
  calc (passedOf tenantId minute visited pool : Int) ≤ _ := Int.ofNat_le.mpr most
    _ ≤ limit := countP_numbers limit positive.le count

def limitedPayload : JobQueuePayload := { jobId := 0, jobType := "send_email", tenantId := "t", queueName := "email-jobs" }

/-- A turn in which every command is answered. -/
def promptTurn (now : Nat) : RateTurn :=
  { now := now
    job := { data := limitedPayload, opts := jobsOptions limitedPayload, attemptsMade := 0, queueName := "email-jobs",
             timestamp := 0 }
    incr := .replied, expire := .replied }

def noAttempts : Pool hostSignature Err RateStore := { state := { entries := fun _ => none, clock := 0 }, threads := [] }

/-- Two attempts in a minute with a lost `EXPIRE`, and one in the next minute. -/
def threeAttempts : List (Turn × RateTurn) :=
  [(.start, promptTurn 1000), (.start, promptTurn 2000),
    (.resume 0, { promptTurn 3000 with expire := .failed { message := "Connection is closed." } }),
    (.start, promptTurn 61000), (.resume 2, promptTurn 61500)]

theorem rateLimiter_window_three :
    ∃ pool, (rateLimiter 1).exec noAttempts threeAttempts = some pool ∧
      (passedOf "t" 0 ((rateLimiter 1).trace noAttempts threeAttempts) pool : Int) ≤ 1 ∧
      passedOf "t" 1 ((rateLimiter 1).trace noAttempts threeAttempts) pool = 1 := by
  have ends : ((rateLimiter 1).exec noAttempts threeAttempts).map
      (fun pool => passedOf "t" 1 ((rateLimiter 1).trace noAttempts threeAttempts) pool) = some 1 := by decide +kernel
  obtain ⟨pool, ran, passed⟩ := Option.map_eq_some_iff.mp ends
  exact ⟨pool, ran, (rateLimiter_window "t" (by decide) (by decide) (fun _ => rfl) rfl (Machine.run_of_exec ran)).1 0, passed⟩

/-- A turn after which one more attempt is past the limiter. -/
def letsPass (limit : Int) (v : Pool hostSignature Err RateStore × (Turn × RateTurn)) : Bool :=
  ((rateLimiter limit).step v.1 v.2).any fun next =>
    v.1.threads.countP reachesExecute < next.threads.countP reachesExecute

/-- The first attempt's `EXPIRE` is answered in the next minute, where another attempt passes too. -/
def lateExpire : List (Turn × RateTurn) :=
  [(.start, promptTurn 59000), (.resume 0, promptTurn 60000), (.start, promptTurn 61000), (.resume 1, promptTurn 61500)]

theorem lateExpire_passes :
    ∃ pool visited, (rateLimiter 1).Run noAttempts visited pool ∧ noAttempts.threads = [] ∧
      (∀ key, noAttempts.state.entries key = none) ∧ (∀ v ∈ visited, v.2.2.job.data.tenantId = "t") ∧
      ¬ visited.countP (fun v => v.2.2.now / 60000 = 1 && letsPass 1 v) ≤ 1 := by
  have ends : ((rateLimiter 1).exec noAttempts lateExpire).isSome = true := by decide +kernel
  obtain ⟨pool, ran⟩ := Option.isSome_iff_exists.mp ends
  refine ⟨pool, _, Machine.run_of_exec ran, rfl, fun _ => rfl, ?_, ?_⟩
  · decide +kernel
  · decide +kernel

end Runs
end OrchestrateModel
