import Mathlib.Data.List.Chain
import Orchestrate.Admission.Isolation
import Orchestrate.Model.TenantMetrics

namespace OrchestrateModel

open Effect Program TenantCapService TenantMetricsCollector

/-- An iteration of `SCAN` from a cursor to its end, with the keys that it returns. -/
inductive Iteration (scan : String → String × List String) : String → List String → Prop where
  | last {cursor : String} (ends : (scan cursor).1 = "0") : Iteration scan cursor (scan cursor).2
  | more {cursor : String} {keys : List String} (goesOn : (scan cursor).1 ≠ "0")
      (rest : Iteration scan (scan cursor).1 keys) : Iteration scan cursor ((scan cursor).2 ++ keys)

/-- What `SCAN` guarantees while nothing changes: every key with the beginning of the pattern is returned, and no other. -/
structure ScansAll (redis : Redis) (turn : PollTurn) : Prop where
  matching : ∀ keys, Iteration (turn.scan "tenant:inflight:*") "0" keys → ∀ key ∈ keys,
    ∃ tenantId, key = inflightKey tenantId
  inflight : ∀ keys, Iteration (turn.scan "tenant:inflight:*") "0" keys → ∀ tenantId,
    inflightKey tenantId ∈ keys ↔ redis.counters (inflightKey tenantId) ≠ none
  matching' : ∀ keys, Iteration (turn.scan "tenant:staging:*") "0" keys → ∀ key ∈ keys,
    ∃ tenantId, key = stagingKey tenantId
  staged : ∀ keys, Iteration (turn.scan "tenant:staging:*") "0" keys → ∀ tenantId,
    stagingKey tenantId ∈ keys ↔ redis.lists (stagingKey tenantId) ≠ []

section Keys

theorem removeFirst_append (pattern text : String) (some : pattern.toList ≠ []) :
    removeFirst (pattern ++ text) pattern = text := by
  have cut : cutFirst pattern.toList (pattern.toList ++ text.toList) = text.toList := by
    cases letters : pattern.toList with
    | nil => exact absurd letters some
    | cons c rest =>
      rw [List.cons_append, cutFirst, if_pos (by simp), ← List.cons_append, List.drop_left]
  rw [removeFirst, String.toList_append, cut, String.ofList_toList]

@[simp] theorem removeFirst_inflightKey (tenantId : TenantId) :
    removeFirst (inflightKey tenantId) "tenant:inflight:" = tenantId :=
  removeFirst_append _ _ (by decide)

@[simp] theorem removeFirst_stagingKey (tenantId : TenantId) :
    removeFirst (stagingKey tenantId) "tenant:staging:" = tenantId :=
  removeFirst_append _ _ (by decide)

end Keys

section Poll

variable {redis : Redis} {turn : PollTurn} {s s' : TenantGauges} {keys : List String} {snapshot : TenantSnapShot}

/-- A scan hangs, or it returns what it had and the keys of an iteration. -/
theorem run_scanKeys (pattern cursor : String) (rounds : Nat) (held : List String) :
    (scanKeys pattern rounds cursor held).run (TenantGauges.answer redis turn) s = (.hung, s) ∨
      ∃ found, Iteration (turn.scan pattern) cursor found ∧
        (scanKeys pattern rounds cursor held).run (TenantGauges.answer redis turn) s = (.ok (held ++ found), s) := by
  induction rounds generalizing cursor held with
  | zero => exact .inl rfl
  | succ rounds ih =>
    have replied : (Collector.scan cursor pattern 100).run (TenantGauges.answer redis turn) s =
        (.ok (turn.scan pattern cursor), s) := rfl
    rw [scanKeys, bind_eq, run_bind_ok _ replied]
    by_cases ends : (turn.scan pattern cursor).1 = "0"
    · rw [if_neg (not_not_intro ends)]
      exact .inr ⟨_, .last ends, rfl⟩
    · rw [if_pos ends]
      rcases ih (turn.scan pattern cursor).1 (held ++ (turn.scan pattern cursor).2) with hung | ⟨found, iteration, ran⟩
      · exact .inl hung
      · exact .inr ⟨_, .more ends iteration, by rw [ran, List.append_assoc]⟩

@[simp] theorem entry_set (snapshot : TenantSnapShot) (tenantId other : TenantId) (usage : TenantUsage) :
    (snapshot.set tenantId usage).entry other = if other = tenantId then usage else snapshot.entry other := by
  by_cases own : other = tenantId
  · subst own
    simp [TenantSnapShot.set, TenantSnapShot.entry]
  · simp [TenantSnapShot.set, TenantSnapShot.entry, own]

/-- One round of the loop over the counters. -/
theorem run_readInflight_cons (tenantId : TenantId) (keys : List String) (snapshot : TenantSnapShot) (s : TenantGauges) :
    (readInflight (inflightKey tenantId :: keys) snapshot).run (TenantGauges.answer redis turn) s =
      (readInflight keys (snapshot.set tenantId
          { snapshot.entry tenantId with inflight := redis.count (inflightKey tenantId) })).run
        (TenantGauges.answer redis turn)
        { s with tenantInflight :=
            Function.update s.tenantInflight tenantId (some (redis.count (inflightKey tenantId))) } := by
  rw [readInflight, removeFirst_inflightKey]
  rfl

theorem run_readStaged_cons (tenantId : TenantId) (keys : List String) (snapshot : TenantSnapShot) (s : TenantGauges) :
    (readStaged (stagingKey tenantId :: keys) snapshot).run (TenantGauges.answer redis turn) s =
      (readStaged keys (snapshot.set tenantId
          { snapshot.entry tenantId with staged := (redis.lists (stagingKey tenantId)).length })).run
        (TenantGauges.answer redis turn)
        { s with tenantStaged :=
            Function.update s.tenantStaged tenantId (some (redis.lists (stagingKey tenantId)).length) } := by
  rw [readStaged, removeFirst_stagingKey]
  rfl

/-- The inflight gauges and the snapshot after the loop over the counters. -/
theorem run_readInflight (tenants : List TenantId) (snapshot : TenantSnapShot) (s : TenantGauges) :
    ∃ snapshot' s', (readInflight (tenants.map inflightKey) snapshot).run (TenantGauges.answer redis turn) s =
        (.ok snapshot', s') ∧
      s'.tenantStaged = s.tenantStaged ∧
      (∀ tenantId, s'.tenantInflight tenantId =
        if tenantId ∈ tenants then some (redis.count (inflightKey tenantId)) else s.tenantInflight tenantId) ∧
      ∀ tenantId, (snapshot'.entry tenantId).staged = (snapshot.entry tenantId).staged ∧
        (snapshot'.entry tenantId).inflight =
          if tenantId ∈ tenants then redis.count (inflightKey tenantId) else (snapshot.entry tenantId).inflight := by
  induction tenants generalizing snapshot s with
  | nil => exact ⟨snapshot, s, rfl, rfl, by simp, by simp⟩
  | cons first rest ih =>
    rw [List.map_cons, run_readInflight_cons]
    obtain ⟨snapshot', s', ran, staged, gauges, entries⟩ := ih (snapshot.set first
      { snapshot.entry first with inflight := redis.count (inflightKey first) })
      { s with tenantInflight := Function.update s.tenantInflight first (some (redis.count (inflightKey first))) }
    refine ⟨snapshot', s', ran, staged, fun tenantId => ?_, fun tenantId => ?_⟩
    · rw [gauges]
      by_cases own : tenantId = first
      · simp [own]
      · simp [own]
    · rw [(entries tenantId).1, (entries tenantId).2, entry_set]
      by_cases own : tenantId = first
      · simp [own]
      · simp [own]

/-- The gauges of staged jobs and the snapshot after the loop over the lists. -/
theorem run_readStaged (tenants : List TenantId) (snapshot : TenantSnapShot) (s : TenantGauges) :
    ∃ snapshot' s', (readStaged (tenants.map stagingKey) snapshot).run (TenantGauges.answer redis turn) s =
        (.ok snapshot', s') ∧
      s'.tenantInflight = s.tenantInflight ∧
      (∀ tenantId, s'.tenantStaged tenantId =
        if tenantId ∈ tenants then some (redis.lists (stagingKey tenantId)).length else s.tenantStaged tenantId) ∧
      ∀ tenantId, (snapshot'.entry tenantId).inflight = (snapshot.entry tenantId).inflight ∧
        (snapshot'.entry tenantId).staged =
          if tenantId ∈ tenants then (redis.lists (stagingKey tenantId)).length else (snapshot.entry tenantId).staged := by
  induction tenants generalizing snapshot s with
  | nil => exact ⟨snapshot, s, rfl, rfl, by simp, by simp⟩
  | cons first rest ih =>
    rw [List.map_cons, run_readStaged_cons]
    obtain ⟨snapshot', s', ran, inflight, gauges, entries⟩ := ih (snapshot.set first
      { snapshot.entry first with staged := (redis.lists (stagingKey first)).length })
      { s with tenantStaged := Function.update s.tenantStaged first (some (redis.lists (stagingKey first)).length) }
    refine ⟨snapshot', s', ran, inflight, fun tenantId => ?_, fun tenantId => ?_⟩
    · rw [gauges]
      by_cases own : tenantId = first
      · simp [own]
      · simp [own]
    · rw [(entries tenantId).1, (entries tenantId).2, entry_set]
      by_cases own : tenantId = first
      · simp [own]
      · simp [own]

/-- What a poll leaves: a gauge is set where there is a key, and the snapshot is a new one. -/
structure Polled (redis : Redis) (s s' : TenantGauges) : Prop where
  inflight : ∀ tenantId, s'.tenantInflight tenantId =
    if redis.counters (inflightKey tenantId) ≠ none then some (redis.count (inflightKey tenantId))
    else s.tenantInflight tenantId
  staged : ∀ tenantId, s'.tenantStaged tenantId =
    if redis.lists (stagingKey tenantId) ≠ [] then some (redis.lists (stagingKey tenantId)).length
    else s.tenantStaged tenantId
  snapshot : ∀ tenantId, s'.tenantSnapShot.entry tenantId =
    { inflight := redis.count (inflightKey tenantId), staged := (redis.lists (stagingKey tenantId)).length }

/-- Keys of one form, as the keys of some tenants. -/
theorem exists_tenants {key : TenantId → String} (matching : ∀ k ∈ keys, ∃ tenantId, k = key tenantId) :
    ∃ tenants : List TenantId, keys = tenants.map key := by
  induction keys with
  | nil => exact ⟨[], rfl⟩
  | cons first rest ih =>
    obtain ⟨tenantId, own⟩ := matching first List.mem_cons_self
    obtain ⟨tenants, others⟩ := ih fun k member => matching k (List.mem_cons_of_mem first member)
    exact ⟨tenantId :: tenants, by rw [List.map_cons, own, others]⟩

/-- The spec lemma of a poll that completes. -/
theorem poll_spec {rounds : Nat} (scans : ScansAll redis turn)
    (done : (poll rounds).run (TenantGauges.answer redis turn) s = (.ok (), s')) : Polled redis s s' := by
  rw [poll, run_catching] at done
  simp only [bind_eq] at done
  rcases @run_scanKeys redis turn s "tenant:inflight:*" "0" rounds [] with hung | ⟨found, iteration, ran⟩
  · rw [run_bind_hung _ hung] at done
    cases done
  rw [run_bind_ok _ ran] at done
  rcases @run_scanKeys redis turn s "tenant:staging:*" "0" rounds [] with hung | ⟨found', iteration', ran'⟩
  · rw [run_bind_hung _ hung] at done
    cases done
  rw [run_bind_ok _ ran', List.nil_append, List.nil_append] at done
  obtain ⟨tenants, rfl⟩ := exists_tenants (scans.matching found iteration)
  obtain ⟨staging, rfl⟩ := exists_tenants (scans.matching' found' iteration')
  have counters (tenantId : TenantId) : tenantId ∈ tenants ↔ redis.counters (inflightKey tenantId) ≠ none := by
    rw [← scans.inflight _ iteration tenantId]
    simp
  have lists (tenantId : TenantId) : tenantId ∈ staging ↔ redis.lists (stagingKey tenantId) ≠ [] := by
    rw [← scans.staged _ iteration' tenantId]
    simp
  obtain ⟨snapshot₁, s₁, ran₁, kept₁, gauges₁, entries₁⟩ := @run_readInflight redis turn tenants (fun _ => none) s
  obtain ⟨snapshot₂, s₂, ran₂, kept₂, gauges₂, entries₂⟩ := @run_readStaged redis turn staging snapshot₁ s₁
  rw [run_bind_ok _ ran₁, run_bind_ok _ ran₂] at done
  obtain ⟨-, rfl⟩ := Prod.mk.inj done
  refine ⟨fun tenantId => ?_, fun tenantId => ?_, fun tenantId => ?_⟩
  · show s₂.tenantInflight tenantId = _
    rw [kept₂, gauges₁]
    exact if_congr (counters tenantId) rfl rfl
  · show s₂.tenantStaged tenantId = _
    rw [gauges₂, kept₁]
    exact if_congr (lists tenantId) rfl rfl
  · have inflight : (snapshot₂.entry tenantId).inflight = redis.count (inflightKey tenantId) := by
      rw [(entries₂ tenantId).1, (entries₁ tenantId).2]
      split
      · rfl
      · rename_i absent
        rw [counters, not_not] at absent
        simp [Redis.count, absent, TenantSnapShot.entry]
    have staged : (snapshot₂.entry tenantId).staged = (redis.lists (stagingKey tenantId)).length := by
      rw [(entries₂ tenantId).2, (entries₁ tenantId).1]
      split
      · rfl
      · rename_i absent
        rw [lists, not_not] at absent
        simp [absent, TenantSnapShot.entry]
    show TenantUsage.mk (snapshot₂.entry tenantId).inflight (snapshot₂.entry tenantId).staged = _
    rw [inflight, staged]

end Poll

namespace TenantGauges

/-- The gauges and the snapshot say what Redis holds; a gauge that was never set reads 0. -/
structure Follows (s : TenantGauges) (redis : Redis) : Prop where
  inflight : ∀ tenantId, (s.tenantInflight tenantId).getD 0 = redis.count (inflightKey tenantId)
  staged : ∀ tenantId, (s.tenantStaged tenantId).getD 0 = (redis.lists (stagingKey tenantId)).length
  snapshot : ∀ tenantId, s.tenantSnapShot.entry tenantId =
    { inflight := (s.tenantInflight tenantId).getD 0, staged := (s.tenantStaged tenantId).getD 0 }

/-- The gauges show what Redis held at a poll, if there was one. -/
def Shows (s : TenantGauges) (last : Option Redis) : Prop :=
  ∀ tenantId, (s.tenantInflight tenantId).getD 0 = last.elim 0 (fun redis => redis.count (inflightKey tenantId)) ∧
    (s.tenantStaged tenantId).getD 0 = last.elim 0 fun redis => (redis.lists (stagingKey tenantId)).length

end TenantGauges

/-- No counter above or below 0 and no list with payloads has lost its key. -/
structure StillThere (before after : Redis) : Prop where
  counters : ∀ tenantId, before.count (inflightKey tenantId) ≠ 0 → after.counters (inflightKey tenantId) ≠ none
  lists : ∀ tenantId, before.lists (stagingKey tenantId) ≠ [] → after.lists (stagingKey tenantId) ≠ []

section Follow

variable {redis : Redis} {last : Option Redis} {s s' : TenantGauges}

/-- An absent key reads 0. -/
theorem count_absent {key : String} (absent : redis.counters key = none) : redis.count key = 0 := by
  simp [Redis.count, absent]

/-- A poll leaves wrong only the gauges of keys that are gone. -/
theorem follows_iff (polled : Polled redis s s') (shows_ : s.Shows last) :
    s'.Follows redis ↔ ∀ before ∈ last, StillThere before redis := by
  constructor
  · rintro follows before rfl
    refine ⟨fun tenantId held absent => held ?_, fun tenantId held absent => held ?_⟩
    · have gauge := follows.inflight tenantId
      rw [polled.inflight, if_neg (not_not_intro absent), (shows_ tenantId).1, count_absent absent] at gauge
      exact gauge
    · have gauge := follows.staged tenantId
      rw [polled.staged, if_neg (not_not_intro absent), (shows_ tenantId).2, absent] at gauge
      exact List.length_eq_zero_iff.mp gauge
  · intro there
    have inflight (tenantId : TenantId) : (s'.tenantInflight tenantId).getD 0 = redis.count (inflightKey tenantId) := by
      rw [polled.inflight]
      split
      · rfl
      · rename_i absent
        have absent := not_not.mp absent
        rw [(shows_ tenantId).1, count_absent absent]
        cases last with
        | none => rfl
        | some before =>
          by_contra held
          exact (there before rfl).counters tenantId held absent
    have staged (tenantId : TenantId) : (s'.tenantStaged tenantId).getD 0 = (redis.lists (stagingKey tenantId)).length := by
      rw [polled.staged]
      split
      · rfl
      · rename_i absent
        have absent := not_not.mp absent
        rw [(shows_ tenantId).2, absent]
        cases last with
        | none => rfl
        | some before =>
          by_contra held
          exact (there before rfl).lists tenantId (fun empty => held (by simp [empty])) absent
    exact ⟨inflight, staged, fun tenantId => by rw [polled.snapshot, inflight, staged]⟩

/-- Gauges that follow Redis show it. -/
theorem TenantGauges.Follows.shows (follows : s.Follows redis) : s.Shows (some redis) :=
  fun tenantId => ⟨follows.inflight tenantId, follows.staged tenantId⟩

end Follow

section Runs

variable {σ ε : Type} {host : Machine σ ε} {redis : σ → Redis} {start s : σ × TenantGauges}
  {visited : List ((σ × TenantGauges) × PollingEvent ε)}

/-- Redis at the polls of a run. -/
def polledStates (redis : σ → Redis) (visited : List ((σ × TenantGauges) × PollingEvent ε)) : List Redis :=
  visited.filterMap fun v =>
    match v.2 with
    | .host _ => none
    | .poll _ => some (redis v.1.1)

/-- After each poll of a run the gauges and the snapshot say what Redis holds. -/
def FollowsThroughout (host : Machine σ ε) (redis : σ → Redis)
    (visited : List ((σ × TenantGauges) × PollingEvent ε)) : Prop :=
  ∀ v ∈ visited, ∀ turn next, v.2 = .poll turn → (polling host redis).step v.1 v.2 = some next →
    next.2.Follows (redis next.1)

/-- Each scan of a run returns the keys that Redis holds. -/
def Scanned (redis : σ → Redis) (s : σ × TenantGauges) : PollingEvent ε → Prop
  | .host _ => True
  | .poll turn => ScansAll (redis s.1) turn

/-- The step lemma of a poll. -/
theorem polling_poll {turn : PollTurn} {s' : σ × TenantGauges} (scans : ScansAll (redis s.1) turn)
    (step : (polling host redis).step s (.poll turn) = some s') : s'.1 = s.1 ∧ Polled (redis s.1) s.2 s'.2 := by
  simp only [polling] at step
  split at step
  · rename_i gauges ran
    obtain rfl := Option.some.inj step
    exact ⟨rfl, poll_spec scans ran⟩
  · cases step
  · cases step

theorem followsThroughout_snoc {v : (σ × TenantGauges) × PollingEvent ε} :
    FollowsThroughout host redis (visited ++ [v]) ↔ FollowsThroughout host redis visited ∧
      ∀ turn next, v.2 = .poll turn → (polling host redis).step v.1 v.2 = some next →
        next.2.Follows (redis next.1) := by
  simp only [FollowsThroughout, List.forall_mem_append, List.forall_mem_singleton]

/-- The gauges follow Redis exactly if at each poll every key is still there that the poll before it saw with
    a value. -/
theorem gauges_follow_iff (host : Machine σ ε) (redis : σ → Redis) (fresh : start.2 = .empty)
    (run : (polling host redis).Run start visited s) (scans : Machine.Guarded (Scanned redis) visited) :
    FollowsThroughout host redis visited ↔ (polledStates redis visited).IsChain StillThere := by
  have both : (FollowsThroughout host redis visited ↔ (polledStates redis visited).IsChain StillThere) ∧
      (FollowsThroughout host redis visited → s.2.Shows (polledStates redis visited).getLast?) := by
    induction run with
    | nil =>
      refine ⟨by simp [FollowsThroughout, polledStates], fun _ => ?_⟩
      rw [fresh]
      exact fun _ => ⟨rfl, rfl⟩
    | @snoc visited s s' e before step ih =>
      obtain ⟨earlier, last⟩ := Machine.guarded_snoc.mp scans
      obtain ⟨same, shows_⟩ := ih earlier
      rw [followsThroughout_snoc]
      cases e with
      | host event =>
        obtain ⟨next, _, rfl⟩ := Option.map_eq_some_iff.mp step
        have states : polledStates redis (visited ++ [(s, .host event)]) = polledStates redis visited := by
          simp [polledStates]
        rw [states, same]
        refine ⟨⟨fun both => both.1, fun chain => ⟨chain, fun turn next own => by cases own⟩⟩, fun both => ?_⟩
        exact shows_ (same.mpr both.1)
      | poll turn =>
        obtain ⟨host', polled⟩ := polling_poll last step
        have states : polledStates redis (visited ++ [(s, .poll turn)]) = polledStates redis visited ++ [redis s.1] := by
          simp [polledStates]
        have here : (∀ turn' next, (PollingEvent.poll turn : PollingEvent ε) = .poll turn' →
            (polling host redis).step s (.poll turn) = some next → next.2.Follows (redis next.1)) ↔
            s'.2.Follows (redis s.1) := by
          constructor
          · intro follows
            rw [← host']
            exact follows turn s' rfl step
          · intro follows turn' next _ taken
            obtain rfl := Option.some.inj (step.symm.trans taken)
            rw [host']
            exact follows
        have chain : (polledStates redis visited ++ [redis s.1]).IsChain StillThere ↔
            (polledStates redis visited).IsChain StillThere ∧
              ∀ before ∈ (polledStates redis visited).getLast?, StillThere before (redis s.1) := by
          simp [List.isChain_append]
        rw [states, chain, here, List.getLast?_concat]
        refine ⟨?_, fun both => both.2.shows⟩
        rw [← same]
        exact and_congr_right fun follows => follows_iff polled (shows_ follows)
  exact both.1

end Runs

section Overlapping

/-- A tenant for which no call was made has no keys. -/
def Overlap.Unheard (s : Overlap) : Prop :=
  ∀ tenantId, (∀ thread ∈ s.calls, thread.tenantId ≠ tenantId) →
    s.redis.counters (inflightKey tenantId) = none ∧ s.redis.lists (stagingKey tenantId) = []

theorem Overlap.Unheard.step {s s' : Overlap} {event : OverlapEvent} (unheard : s.Unheard)
    (step : overlap.step s event = some s') : s'.Unheard := by
  intro tenantId others
  cases event with
  | submit payload =>
    obtain rfl := Option.some.inj step
    exact unheard tenantId fun thread member => others thread (List.mem_append_left _ member)
  | release owner =>
    obtain rfl := Option.some.inj step
    exact unheard tenantId fun thread member => others thread (List.mem_append_left _ member)
  | advance i =>
    obtain ⟨thread, at_i, step⟩ := Option.bind_eq_some_iff.mp step
    obtain ⟨c, next, rfl⟩ := Option.map_eq_some_iff.mp step
    have bound := (List.getElem?_eq_some_iff.mp at_i).1
    have apart : thread.tenantId ≠ tenantId := by
      have resumed := others _ (List.mem_set bound _)
      rwa [Thread.resume_tenantId] at resumed
    have before (other : Thread) (member : other ∈ s.calls) : other.tenantId ≠ tenantId := by
      obtain ⟨j, at_j⟩ := List.mem_iff_getElem?.mp member
      by_cases same : i = j
      · subst same
        obtain rfl := Option.some.inj (at_i.symm.trans at_j)
        exact apart
      · have stays : (s.calls.set i (thread.resume s.redis))[j]? = some other := by
          rw [List.getElem?_set_ne same, at_j]
        exact others other (List.mem_of_getElem? stays)
    obtain ⟨absent, empty⟩ := unheard tenantId before
    have kept := Thread.keys_other next apart s.redis
    simp only [Thread.keys, Prod.mk.injEq] at kept
    exact ⟨kept.2.1.trans absent, kept.2.2.trans empty⟩
  | tick =>
    obtain rfl := Option.some.inj step
    exact unheard tenantId others
  | expire owner =>
    obtain ⟨redis, expired, rfl⟩ := Option.map_eq_some_iff.mp step
    obtain ⟨absent, empty⟩ := unheard tenantId others
    rw [Redis.expireKey_eq_some expired]
    refine ⟨?_, empty⟩
    by_cases own : inflightKey tenantId = inflightKey owner
    · simp [own]
    · exact (Function.update_of_ne own _ _).trans absent

/-- What a scan of the keys of the only tenant `t` replies. -/
def repliesOne (s : Overlap) (turn : PollTurn) : Bool :=
  turn.scan "tenant:inflight:*" "0" = ("0", if s.redis.counters (inflightKey "t") = none then [] else [inflightKey "t"]) &&
    turn.scan "tenant:staging:*" "0" = ("0", if s.redis.lists (stagingKey "t") = [] then [] else [stagingKey "t"]) &&
    s.calls.all fun thread => thread.tenantId = "t"

theorem iteration_single {scan : String → String × List String} {batch keys : List String} {cursor : String}
    (replies : scan cursor = ("0", batch)) (iteration : Iteration scan cursor keys) : keys = batch := by
  cases iteration with
  | last ends => rw [replies]
  | more goesOn rest => exact absurd (congrArg Prod.fst replies) goesOn

theorem scansAll_of_one {s : Overlap} {turn : PollTurn} (unheard : s.Unheard) (replies : repliesOne s turn = true) :
    ScansAll s.redis turn := by
  simp only [repliesOne, Bool.and_eq_true, decide_eq_true_eq, List.all_eq_true] at replies
  obtain ⟨⟨inflight, staging⟩, only⟩ := replies
  have other (tenantId : TenantId) (apart : tenantId ≠ "t") : s.redis.counters (inflightKey tenantId) = none ∧
      s.redis.lists (stagingKey tenantId) = [] :=
    unheard tenantId fun thread member own => apart (own.symm.trans (only thread member))
  have single (p : Prop) [Decidable p] (key other : String) :
      other ∈ (if p then [] else [key]) ↔ ¬ p ∧ other = key := by
    by_cases holds : p
    · simp [holds]
    · simp [holds]
  refine ⟨fun keys iteration key member => ?_, fun keys iteration tenantId => ?_, fun keys iteration key member => ?_,
    fun keys iteration tenantId => ?_⟩
  · rw [iteration_single inflight iteration, single] at member
    exact ⟨"t", member.2⟩
  · rw [iteration_single inflight iteration, single, inflightKey_inj]
    by_cases own : tenantId = "t"
    · simp [own]
    · simp [own, (other tenantId own).1]
  · rw [iteration_single staging iteration, single] at member
    exact ⟨"t", member.2⟩
  · rw [iteration_single staging iteration, single, stagingKey_inj]
    by_cases own : tenantId = "t"
    · simp [own]
    · simp [own, (other tenantId own).2]

/-- A scan that finds the counter of `t`, and its list if `staged` says so. -/
def scanOf (staged : Bool) : PollTurn :=
  { scan := fun pattern _ =>
      ("0", if pattern = "tenant:inflight:*" then [inflightKey "t"] else if staged then [stagingKey "t"] else [])
    rounds := 1 }

/-- Each scan replies the keys of the only tenant. -/
def repliesAll (visited : List ((Overlap × TenantGauges) × PollingEvent OverlapEvent)) : Bool :=
  visited.all fun v =>
    match v.2 with
    | .host _ => true
    | .poll turn => repliesOne v.1.1 turn

theorem unheard_throughout {s : Overlap × TenantGauges} {visited : List ((Overlap × TenantGauges) × PollingEvent OverlapEvent)}
    (run : (polling overlap Overlap.redis).Run (.empty, .empty) visited s) : ∀ v ∈ visited, v.1.1.Unheard := by
  have unguarded : Machine.Guarded (fun _ _ => True) visited := fun _ _ => trivial
  refine (run.throughout (fun s => s.1.Unheard) unguarded (fun _ _ => ⟨rfl, rfl⟩) ?_).1
  intro s e s' unheard _ step
  cases e with
  | host event =>
    obtain ⟨next, stepped, rfl⟩ := Option.map_eq_some_iff.mp step
    exact unheard.step stepped
  | poll turn =>
    simp only [polling] at step
    split at step
    · obtain rfl := Option.some.inj step
      exact unheard
    · cases step
    · cases step

theorem scanned_of_repliesAll {s : Overlap × TenantGauges} {visited : List ((Overlap × TenantGauges) × PollingEvent OverlapEvent)}
    (run : (polling overlap Overlap.redis).Run (.empty, .empty) visited s) (replies : repliesAll visited = true) :
    Machine.Guarded (Scanned Overlap.redis) visited := by
  have unheard := unheard_throughout run
  intro v member
  have own := List.all_eq_true.mp replies v member
  obtain ⟨s, e⟩ := v
  cases e with
  | host event => trivial
  | poll turn => exact scansAll_of_one (unheard _ member) own

/-- The keys of `t` that were there are still there. -/
def StillOne (before after : Redis) : Prop :=
  (before.count (inflightKey "t") ≠ 0 → after.counters (inflightKey "t") ≠ none) ∧
    (before.lists (stagingKey "t") ≠ [] → after.lists (stagingKey "t") ≠ [])

instance : DecidableRel StillOne := fun _ _ => inferInstanceAs (Decidable (_ ∧ _))

/-- The other tenants have no keys to lose. -/
theorem stillThere_of_one {s : Overlap × TenantGauges} {visited : List ((Overlap × TenantGauges) × PollingEvent OverlapEvent)}
    (run : (polling overlap Overlap.redis).Run (.empty, .empty) visited s) (replies : repliesAll visited = true)
    (one : (polledStates Overlap.redis visited).IsChain StillOne) :
    (polledStates Overlap.redis visited).IsChain StillThere := by
  have alone {redis : Redis} (polled : redis ∈ polledStates Overlap.redis visited) (tenantId : TenantId)
      (apart : tenantId ≠ "t") : redis.count (inflightKey tenantId) = 0 ∧ redis.lists (stagingKey tenantId) = [] := by
    obtain ⟨⟨⟨host, gauges⟩, event⟩, member, found⟩ := List.mem_filterMap.mp polled
    cases event with
    | host event => cases found
    | poll turn =>
      obtain rfl := Option.some.inj found
      have own := List.all_eq_true.mp replies _ member
      simp only [repliesOne, Bool.and_eq_true, decide_eq_true_eq, List.all_eq_true] at own
      obtain ⟨absent, empty⟩ := unheard_throughout run _ member tenantId fun thread called same =>
        apart (same.symm.trans (own.2 thread called))
      exact ⟨count_absent absent, empty⟩
  refine one.imp_of_mem_imp fun before after polled _ still => ⟨fun tenantId => ?_, fun tenantId => ?_⟩
  · by_cases own : tenantId = "t"
    · exact own ▸ still.1
    · exact fun held => absurd (alone polled tenantId own).1 held
  · by_cases own : tenantId = "t"
    · exact own ▸ still.2
    · exact fun held => absurd (alone polled tenantId own).2 held

/-- A poll after the first job and one after the second. -/
def secondBetween : List (PollingEvent OverlapEvent) :=
  (OverlapEvent.submit Admission.sample :: List.replicate 4 (OverlapEvent.advance 0)).map .host ++ [.poll (scanOf false)] ++
    (OverlapEvent.submit Admission.sample :: List.replicate 3 (OverlapEvent.advance 1)).map .host ++ [.poll (scanOf false)]

theorem gauges_follow_iff_secondBetween :
    ∃ s, (polling overlap Overlap.redis).exec (.empty, .empty) secondBetween = some s ∧ s.2.tenantInflight "t" = some 2 ∧
      FollowsThroughout overlap Overlap.redis ((polling overlap Overlap.redis).trace (.empty, .empty) secondBetween) := by
  have ends : ((polling overlap Overlap.redis).exec (.empty, .empty) secondBetween).map
      (fun s => s.2.tenantInflight "t") = some (some 2) := by decide +kernel
  have replies : repliesAll ((polling overlap Overlap.redis).trace (.empty, .empty) secondBetween) = true := by
    decide +kernel
  have one : (polledStates Overlap.redis
      ((polling overlap Overlap.redis).trace (.empty, .empty) secondBetween)).IsChain StillOne := by decide +kernel
  obtain ⟨s, ran, gauge⟩ := Option.map_eq_some_iff.mp ends
  have run := Machine.run_of_exec ran
  exact ⟨s, ran, gauge, (gauges_follow_iff overlap Overlap.redis rfl run (scanned_of_repliesAll run replies)).mpr
    (stillThere_of_one run replies one)⟩

/-- Five jobs take the slots and the sixth one is staged; after a poll a release drains the list. -/
def drainedBetween : List (PollingEvent OverlapEvent) :=
  (OverlapEvent.submit Admission.sample :: List.replicate 4 (OverlapEvent.advance 0)).map .host ++
    ((List.range 4).flatMap fun i =>
      OverlapEvent.submit Admission.sample :: List.replicate 3 (OverlapEvent.advance (i + 1))).map .host ++
    (OverlapEvent.submit Admission.sample :: List.replicate 6 (OverlapEvent.advance 5)).map .host ++
    [.poll (scanOf true)] ++
    (OverlapEvent.release "t" :: List.replicate 9 (OverlapEvent.advance 6)).map .host ++ [.poll (scanOf false)]

/-- A poll that leaves a wrong gauge of staged jobs of `t`. -/
def leavesWrong (v : (Overlap × TenantGauges) × PollingEvent OverlapEvent) : Bool :=
  match v.2 with
  | .host _ => false
  | .poll _ => ((polling overlap Overlap.redis).step v.1 v.2).any fun next =>
      (next.2.tenantStaged "t").getD 0 ≠ (next.1.redis.lists (stagingKey "t")).length

/-- The gauge of staged jobs keeps its value when the list is gone. -/
theorem staged_gauge_stale :
    ∃ s visited, (polling overlap Overlap.redis).Run (.empty, .empty) visited s ∧
      Machine.Guarded (Scanned Overlap.redis) visited ∧ s.1.redis.lists (stagingKey "t") = [] ∧
      s.2.tenantStaged "t" = some 1 ∧ s.2.tenantSnapShot "t" = some { inflight := 5, staged := 0 } ∧
      ¬ FollowsThroughout overlap Overlap.redis visited := by
  have ends : ((polling overlap Overlap.redis).exec (.empty, .empty) drainedBetween).map (fun s =>
      (s.1.redis.lists (stagingKey "t"), s.2.tenantStaged "t", s.2.tenantSnapShot "t")) =
      some ([], some 1, some { inflight := 5, staged := 0 }) := by decide +kernel
  have replies : repliesAll ((polling overlap Overlap.redis).trace (.empty, .empty) drainedBetween) = true := by
    decide +kernel
  obtain ⟨s, ran, parts⟩ := Option.map_eq_some_iff.mp ends
  simp only [Prod.mk.injEq] at parts
  obtain ⟨list, gauge, entry⟩ := parts
  have run := Machine.run_of_exec ran
  refine ⟨s, _, run, scanned_of_repliesAll run replies, list, gauge, entry, fun follows => ?_⟩
  have wrong : ((polling overlap Overlap.redis).trace (.empty, .empty) drainedBetween).any leavesWrong = true := by
    decide +kernel
  obtain ⟨⟨before, event⟩, member, leaves⟩ := List.any_eq_true.mp wrong
  cases event with
  | host event => cases leaves
  | poll turn =>
    obtain ⟨next, step, differs⟩ := (Option.any_eq_true _ _).mp leaves
    exact absurd ((follows _ member turn next rfl step).staged "t") (of_decide_eq_true differs)

end Overlapping
end OrchestrateModel
