import Mathlib.Algebra.BigOperators.Group.List.Basic
import Mathlib.Algebra.Ring.Int.Defs

namespace Effect

/-- A system that takes one event at a time; an event that is not possible has no successor. -/
structure Machine (σ ε : Type) where
  step : σ → ε → Option σ

namespace Machine

variable {σ τ ε δ : Type} {M : Machine σ ε} {start s s' : σ} {e : ε} {visited : List (σ × ε)}

/-- A run from `start`, with each event paired with the state it was taken in. -/
inductive Run (M : Machine σ ε) (start : σ) : List (σ × ε) → σ → Prop where
  | nil : Run M start [] start
  | snoc {visited : List (σ × ε)} {s s' : σ} {e : ε} (before : Run M start visited s)
      (step : M.step s e = some s') : Run M start (visited ++ [(s, e)]) s'

def exec (M : Machine σ ε) : σ → List ε → Option σ
  | s, [] => some s
  | s, e :: rest => (M.step s e).bind fun s' => M.exec s' rest

/-- The states and events that `exec` passes through. -/
def trace (M : Machine σ ε) : σ → List ε → List (σ × ε)
  | _, [] => []
  | s, e :: rest => (s, e) :: ((M.step s e).elim [] fun s' => M.trace s' rest)

/-- Each step of the run was taken in a state that allows its event. -/
def Guarded (guard : σ → ε → Prop) (visited : List (σ × ε)) : Prop :=
  ∀ v ∈ visited, guard v.1 v.2

instance (guard : σ → ε → Prop) [∀ s e, Decidable (guard s e)] (visited : List (σ × ε)) :
    Decidable (Guarded guard visited) :=
  inferInstanceAs (Decidable (∀ v ∈ visited, guard v.1 v.2))

theorem guarded_snoc {guard : σ → ε → Prop} :
    Guarded guard (visited ++ [(s, e)]) ↔ Guarded guard visited ∧ guard s e := by
  simp [Guarded, or_imp, forall_and]

theorem Run.append {visited later : List (σ × ε)} (first : M.Run start visited s)
    (second : M.Run s later s') : M.Run start (visited ++ later) s' := by
  induction second with
  | nil => simpa using first
  | snoc before step ih =>
    rw [← List.append_assoc]
    exact .snoc ih step

theorem Run.cons {later : List (σ × ε)} (step : M.step start e = some s)
    (rest : M.Run s later s') : M.Run start ((start, e) :: later) s' :=
  Run.append (.snoc .nil step) rest

theorem run_of_exec {events : List ε} (done : M.exec start events = some s) :
    M.Run start (M.trace start events) s := by
  induction events generalizing start with
  | nil =>
    obtain rfl : start = s := Option.some.inj done
    exact .nil
  | cons e rest ih =>
    obtain ⟨next, step, later⟩ := Option.bind_eq_some_iff.mp done
    simp only [trace, step, Option.elim_some]
    exact .cons step (ih later)

/-- The invariant rule for runs whose every step meets a guard. -/
theorem Run.invariant {guard : σ → ε → Prop} (invariant : σ → Prop)
    (run : M.Run start visited s) (guarded : Guarded guard visited) (initial : invariant start)
    (keep : ∀ s e s', invariant s → guard s e → M.step s e = some s' → invariant s') :
    invariant s := by
  induction run with
  | nil => exact initial
  | snoc before step ih =>
    obtain ⟨earlier, last⟩ := guarded_snoc.mp guarded
    exact keep _ _ _ (ih earlier) last step

/-- The invariant holds in every state of such a run. -/
theorem Run.throughout {guard : σ → ε → Prop} (invariant : σ → Prop)
    (run : M.Run start visited s) (guarded : Guarded guard visited) (initial : invariant start)
    (keep : ∀ s e s', invariant s → guard s e → M.step s e = some s' → invariant s') :
    (∀ v ∈ visited, invariant v.1) ∧ invariant s := by
  induction run with
  | nil => exact ⟨fun v member => (List.not_mem_nil member).elim, initial⟩
  | snoc before step ih =>
    obtain ⟨earlier, last⟩ := guarded_snoc.mp guarded
    obtain ⟨all, holds⟩ := ih earlier
    refine ⟨fun v member => ?_, keep _ _ _ holds last step⟩
    rcases List.mem_append.mp member with old | new
    · exact all v old
    · obtain rfl := List.mem_singleton.mp new
      exact holds

/-- The invariant rule for all runs. -/
theorem Run.always (invariant : σ → Prop) (run : M.Run start visited s) (initial : invariant start)
    (keep : ∀ s e s', invariant s → M.step s e = some s' → invariant s') : invariant s := by
  have unguarded : Guarded (fun _ _ => True) visited := fun _ _ => trivial
  exact run.invariant invariant unguarded initial fun s e s' holds _ step => keep s e s' holds step

/-- Where the steps that advance lower the rank by one and no other step that is allowed changes it, and a state short
    of the goal allows an advance, the goal is reached after as many advances as the rank falls, whatever else is
    done between them. -/
theorem concludes {guard advance : σ → ε → Prop} [∀ s e, Decidable (advance s e)] (invariant goal : σ → Prop)
    (rank : σ → Nat) (allowed : ∀ s e, advance s e → guard s e)
    (keep : ∀ s e s', invariant s → guard s e → M.step s e = some s' →
      invariant s' ∧ rank s' + (if advance s e then 1 else 0) = rank s)
    (progress : ∀ s, invariant s → goal s ∨ ∃ e s', advance s e ∧ M.step s e = some s') (initial : invariant start) :
    (∃ visited s, M.Run start visited s ∧ Guarded advance visited ∧ goal s) ∧
    ∀ visited s, M.Run start visited s → Guarded guard visited →
      visited.countP (fun v => advance v.1 v.2) + rank s = rank start ∧
        (goal s ∨ ∃ e s', advance s e ∧ M.step s e = some s') := by
  constructor
  · -- by induction on the rank
    generalize bound : rank start = n
    induction n using Nat.strong_induction_on generalizing start with
    | _ n ih =>
      rcases progress start initial with reached | ⟨e, s, advances, step⟩
      · exact ⟨[], start, .nil, fun v member => (List.not_mem_nil member).elim, reached⟩
      · obtain ⟨holds, lower⟩ := keep start e s initial (allowed start e advances) step
        rw [if_pos advances] at lower
        obtain ⟨later, s', run, guarded, reached⟩ := ih (rank s) (by omega) holds rfl
        refine ⟨(start, e) :: later, s', .cons step run, ?_, reached⟩
        intro v member
        rcases List.mem_cons.mp member with rfl | old
        · exact advances
        · exact guarded v old
  · intro visited s run guarded
    have holds : invariant s ∧ visited.countP (fun v => advance v.1 v.2) + rank s = rank start := by
      induction run with
      | nil => exact ⟨initial, Nat.zero_add _⟩
      | @snoc visited s s' e before step ih =>
        obtain ⟨earlier, allowed⟩ := guarded_snoc.mp guarded
        obtain ⟨here, count⟩ := ih earlier
        obtain ⟨next, lower⟩ := keep s e s' here allowed step
        refine ⟨next, ?_⟩
        rw [List.countP_append, List.countP_singleton]
        simp only [decide_eq_true_eq]
        omega
    exact ⟨holds.2, progress s holds.1⟩

/-- When a guard is what a step needs to keep a property, a run stays within the property exactly
    if every step meets the guard. -/
theorem Run.stays_iff {domain guard : σ → ε → Prop} (invariant good : σ → Prop)
    (run : M.Run start visited s) (within : Guarded domain visited)
    (initial : invariant start) (goodStart : good start)
    (keep : ∀ s e s', invariant s → domain s e → M.step s e = some s' → guard s e →
      invariant s' ∧ good s')
    (needed : ∀ s e s', invariant s → domain s e → M.step s e = some s' → good s' → guard s e) :
    ((∀ v ∈ visited, good v.1) ∧ good s) ↔ Guarded guard visited := by
  have both : (((∀ v ∈ visited, good v.1) ∧ good s) ↔ Guarded guard visited) ∧
      (Guarded guard visited → invariant s) := by
    induction run with
    | nil => exact ⟨by simp [Guarded, goodStart], fun _ => initial⟩
    | @snoc visited s s' e before step ih =>
      obtain ⟨earlier, inDomain⟩ := guarded_snoc.mp within
      obtain ⟨same, holds⟩ := ih earlier
      rw [guarded_snoc, ← same]
      simp only [List.forall_mem_append, List.forall_mem_singleton]
      refine ⟨⟨?_, ?_⟩, ?_⟩
      · rintro ⟨all, last⟩
        exact ⟨all, needed s e s' (holds (same.mp all)) inDomain step last⟩
      · rintro ⟨all, allowed⟩
        exact ⟨all, (keep s e s' (holds (same.mp all)) inDomain step allowed).2⟩
      · rintro ⟨all, allowed⟩
        exact (keep s e s' (holds (same.mp all)) inDomain step allowed).1
  exact both.1

/-- When a guard is what a step needs to keep a property and to be fine itself, a run is fine exactly if every step
    meets the guard. -/
theorem Run.fine_iff {fine guard : σ → ε → Prop} (good : σ → Prop) (run : M.Run start visited s)
    (goodStart : good start)
    (exact_ : ∀ s e s', good s → M.step s e = some s' → (guard s e ↔ good s' ∧ fine s e)) :
    ((∀ v ∈ visited, good v.1) ∧ good s ∧ Guarded fine visited) ↔ Guarded guard visited := by
  induction run with
  | nil => simp [Guarded, goodStart]
  | @snoc visited s s' e before step ih =>
    rw [guarded_snoc, guarded_snoc, ← ih]
    simp only [List.forall_mem_append, List.forall_mem_singleton]
    constructor
    · rintro ⟨⟨all, goodHere⟩, goodNext, fineAll, fineHere⟩
      exact ⟨⟨all, goodHere, fineAll⟩, (exact_ s e s' goodHere step).mpr ⟨goodNext, fineHere⟩⟩
    · rintro ⟨⟨all, goodHere, fineAll⟩, allowed⟩
      obtain ⟨goodNext, fineHere⟩ := (exact_ s e s' goodHere step).mp allowed
      exact ⟨⟨all, goodHere⟩, goodNext, fineAll, fineHere⟩

/-- A functional simulation under an invariant: the image of each step is a step of the other
    machine. -/
def Simulates (M : Machine σ ε) (N : Machine τ δ) (invariant : σ → Prop) (view : σ → τ)
    (label : σ → ε → δ) : Prop :=
  ∀ s e s', invariant s → M.step s e = some s' →
    invariant s' ∧ N.step (view s) (label s e) = some (view s')

theorem Simulates.run {N : Machine τ δ} {invariant : σ → Prop} {view : σ → τ} {label : σ → ε → δ}
    (simulates : Simulates M N invariant view label) (initial : invariant start)
    (run : M.Run start visited s) :
    N.Run (view start) (visited.map fun v => (view v.1, label v.1 v.2)) (view s) := by
  have both : invariant s ∧
      N.Run (view start) (visited.map fun v => (view v.1, label v.1 v.2)) (view s) := by
    induction run with
    | nil => exact ⟨initial, .nil⟩
    | snoc before step ih =>
      obtain ⟨holds, image⟩ := ih
      obtain ⟨holds', step'⟩ := simulates _ _ _ holds step
      rw [List.map_append]
      exact ⟨holds', .snoc image step'⟩
  exact both.2

theorem Guarded.map (guard : τ → δ → Prop) {view : σ → τ} {label : σ → ε → δ}
    (guarded : Guarded (fun s e => guard (view s) (label s e)) visited) :
    Guarded guard (visited.map fun v => (view v.1, label v.1 v.2)) := by
  intro w member
  obtain ⟨v, earlier, rfl⟩ := List.mem_map.mp member
  exact guarded v earlier

/-- A refinement: an internal step of a run leaves the abstract state as it is, and any other step is matched by a step
    of the second machine. -/
theorem Run.refines {N : Machine τ δ} {start' : τ} {R : σ → τ → Prop} {internal : ε → Bool}
    {matched : σ → ε → τ → δ → Prop} (run : M.Run start visited s) (initial : R start start')
    (hidden : ∀ s e s' t, R s t → M.step s e = some s' → internal e = true → R s' t)
    (visible : ∀ s e s' t, R s t → M.step s e = some s' → internal e = false →
      ∃ e' t', N.step t e' = some t' ∧ matched s e t e' ∧ R s' t') :
    ∃ visited' t, N.Run start' visited' t ∧ R s t ∧
      List.Forall₂ (fun v w => matched v.1 v.2 w.1 w.2) (visited.filter fun v => !internal v.2) visited' := by
  induction run with
  | nil => exact ⟨[], start', .nil, initial, .nil⟩
  | @snoc visited s s' e before step ih =>
    obtain ⟨visited', t, run', agree, pairs⟩ := ih
    rw [List.filter_append]
    cases inside : internal e with
    | true =>
      refine ⟨visited', t, run', hidden s e s' t agree step inside, ?_⟩
      simpa [inside] using pairs
    | false =>
      obtain ⟨e', t', step', same, agree'⟩ := visible s e s' t agree step inside
      refine ⟨visited' ++ [(t, e')], t', .snoc run' step', agree', ?_⟩
      rw [List.filter_cons_of_pos (by simp [inside]), List.filter_nil]
      exact List.rel_append pairs (.cons same .nil)

/-- A simulation that erases the steps without a label: the run with the other steps is one of the second machine. -/
theorem Run.erase {N : Machine τ δ} {start' : τ} {R : σ → τ → Prop} {l : σ → ε → Option δ}
    (run : M.Run start visited s) (initial : R start start')
    (erased : ∀ s e s' t, R s t → M.step s e = some s' → l s e = none → R s' t)
    (kept : ∀ s e s' t e', R s t → M.step s e = some s' → l s e = some e' →
      ∃ t', N.step t e' = some t' ∧ R s' t') :
    ∃ visited' t, N.Run start' visited' t ∧ R s t ∧
      List.Forall₂ (fun v w => R v.1 w.1 ∧ l v.1 v.2 = some w.2)
        (visited.filter fun v => (l v.1 v.2).isSome) visited' := by
  induction run with
  | nil => exact ⟨[], start', .nil, initial, .nil⟩
  | @snoc visited s s' e before step ih =>
    obtain ⟨visited', t, run', agree, pairs⟩ := ih
    cases named : l s e with
    | none =>
      refine ⟨visited', t, run', erased s e s' t agree step named, ?_⟩
      rw [List.filter_append]
      simpa [named] using pairs
    | some e' =>
      obtain ⟨t', step', agree'⟩ := kept s e s' t e' agree step named
      refine ⟨visited' ++ [(t, e')], t', .snoc run' step', agree', ?_⟩
      rw [List.filter_append]
      have last : List.Forall₂ (fun v w => R v.1 w.1 ∧ l v.1 v.2 = some w.2)
          ([(s, e)].filter fun v => (l v.1 v.2).isSome) [(t, e')] := by
        simp [named, agree]
      exact List.rel_append pairs last

end Machine

section Callers

variable {L : Type}

/-- Replacing one caller changes a count by what the two contribute. -/
theorem count_set [DecidableEq L] {callers : List L} {i : Nat} {old : L}
    (at_i : callers[i]? = some old) (new kind : L) :
    ((callers.set i new).count kind : Int) =
      callers.count kind - (if old = kind then 1 else 0) + if new = kind then 1 else 0 := by
  induction callers generalizing i with
  | nil => simp at at_i
  | cons head tail ih =>
    cases i with
    | zero =>
      obtain rfl : head = old := by simpa using at_i
      simp only [List.set_cons_zero, List.count_cons, beq_iff_eq]
      split <;> split <;> simp_all
    | succ i =>
      have later := ih (by simpa using at_i)
      simp only [List.set_cons_succ, List.count_cons, beq_iff_eq]
      split
      · simp_all
        omega
      · simp_all

/-- Replacing one caller changes a sum by what the two contribute. -/
theorem sum_set (f : L → Int) {callers : List L} {i : Nat} {old : L} (at_i : callers[i]? = some old) (new : L) :
    ((callers.set i new).map f).sum = (callers.map f).sum - f old + f new := by
  induction callers generalizing i with
  | nil => simp at at_i
  | cons head tail ih =>
    cases i with
    | zero =>
      obtain rfl : head = old := by simpa using at_i
      simp only [List.set_cons_zero, List.map_cons, List.sum_cons]
      omega
    | succ i =>
      have later := ih (by simpa using at_i)
      simp only [List.set_cons_succ, List.map_cons, List.sum_cons, later]
      omega

theorem countP_set (p : L → Bool) {callers : List L} {i : Nat} {old : L} (at_i : callers[i]? = some old) (new : L) :
    (callers.set i new).countP p + (if p old then 1 else 0) = callers.countP p + if p new then 1 else 0 := by
  induction callers generalizing i with
  | nil => simp at at_i
  | cons head tail ih =>
    cases i with
    | zero =>
      obtain rfl : head = old := by simpa using at_i
      rw [List.set_cons_zero, List.countP_cons, List.countP_cons]
      omega
    | succ i =>
      have later := ih (by simpa using at_i)
      rw [List.set_cons_succ, List.countP_cons, List.countP_cons]
      omega

/-- The callers of one kind, as a list of their own. -/
theorem filter_set_of_pos {p : L → Bool} {callers : List L} {i : Nat} {old new : L} (at_i : callers[i]? = some old)
    (was : p old = true) (stays : p new = true) :
    (callers.set i new).filter p = (callers.filter p).set ((callers.take i).countP p) new ∧
      (callers.filter p)[(callers.take i).countP p]? = some old := by
  induction callers generalizing i with
  | nil => simp at at_i
  | cons head tail ih =>
    cases i with
    | zero =>
      obtain rfl : head = old := by simpa using at_i
      simp [was, stays]
    | succ i =>
      obtain ⟨sets, finds⟩ := ih (by simpa using at_i)
      rw [List.set_cons_succ, List.take_succ_cons, List.countP_cons]
      cases own : p head with
      | true => simp [own, sets, finds]
      | false => simp [own, sets, finds]

/-- Replacing a caller by one that looks the same leaves what is seen of the callers. -/
theorem filterMap_set_of_eq {τ : Type} {f : L → Option τ} {callers : List L} {i : Nat} {old new : L}
    (at_i : callers[i]? = some old) (same : f new = f old) : (callers.set i new).filterMap f = callers.filterMap f := by
  induction callers generalizing i with
  | nil => simp at at_i
  | cons head tail ih =>
    cases i with
    | zero =>
      obtain rfl : head = old := by simpa using at_i
      rw [List.set_cons_zero, List.filterMap_cons, List.filterMap_cons, same]
    | succ i => rw [List.set_cons_succ, List.filterMap_cons, List.filterMap_cons, ih (by simpa using at_i)]

theorem filter_set_of_neg {p : L → Bool} {callers : List L} {i : Nat} {old new : L} (at_i : callers[i]? = some old)
    (was : p old = false) (stays : p new = false) : (callers.set i new).filter p = callers.filter p := by
  induction callers generalizing i with
  | nil => simp at at_i
  | cons head tail ih =>
    cases i with
    | zero =>
      obtain rfl : head = old := by simpa using at_i
      simp [was, stays]
    | succ i =>
      rw [List.set_cons_succ, List.filter_cons, List.filter_cons, ih (by simpa using at_i)]

/-- Two callers of one kind are counted twice. -/
theorem two_le_countP {p : L → Bool} {callers : List L} {i j : Nat} {a b : L} (apart : i ≠ j)
    (at_i : callers[i]? = some a) (at_j : callers[j]? = some b) (first : p a = true) (second : p b = true) :
    2 ≤ callers.countP p := by
  induction callers generalizing i j with
  | nil => simp at at_i
  | cons head tail ih =>
    cases i with
    | zero =>
      obtain rfl : head = a := by simpa using at_i
      cases j with
      | zero => exact absurd rfl apart
      | succ j =>
        have later : 0 < tail.countP p := List.countP_pos_iff.mpr ⟨b, List.mem_of_getElem? (by simpa using at_j), second⟩
        rw [List.countP_cons_of_pos first]
        omega
    | succ i =>
      cases j with
      | zero =>
        obtain rfl : head = b := by simpa using at_j
        have later : 0 < tail.countP p := List.countP_pos_iff.mpr ⟨a, List.mem_of_getElem? (by simpa using at_i), first⟩
        rw [List.countP_cons_of_pos second]
        omega
      | succ j =>
        have later := ih (i := i) (j := j) (by omega) (by simpa using at_i) (by simpa using at_j)
        rw [List.countP_cons]
        omega

theorem count_pos_of_getElem? [DecidableEq L] {callers : List L} {i : Nat} {kind : L}
    (at_i : callers[i]? = some kind) : 0 < callers.count kind :=
  List.count_pos_iff.mpr (List.mem_of_getElem? at_i)

end Callers
end Effect
