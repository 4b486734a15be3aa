import Mathlib.Data.List.Sort

namespace Sorting

variable {α : Type} {r : α → α → Prop} [DecidableRel r]

theorem orderedInsert_of_forall {a : α} {items : List α} (first : ∀ b ∈ items, r a b) :
    items.orderedInsert r a = a :: items := by
  cases items with
  | nil => rfl
  | cons b rest => exact List.orderedInsert_cons_of_le r rest (first b List.mem_cons_self)

variable [IsTrans α r] (p : α → Bool)

theorem filter_orderedInsert (a : α) {items : List α} (sorted : items.Pairwise r) :
    (items.orderedInsert r a).filter p = if p a then (items.filter p).orderedInsert r a else items.filter p := by
  induction items with
  | nil =>
    rw [List.orderedInsert_nil, List.filter_singleton]
    cases p a <;> rfl
  | cons b rest ih =>
    obtain ⟨least, sorted⟩ := List.pairwise_cons.mp sorted
    by_cases before : r a b
    · have all : ∀ c ∈ (b :: rest).filter p, r a c := by
        intro c member
        rcases List.mem_cons.mp (List.mem_of_mem_filter member) with rfl | later
        · exact before
        · exact IsTrans.trans _ _ _ before (least c later)
      rw [List.orderedInsert_cons_of_le r rest before, List.filter_cons, orderedInsert_of_forall all]
    · rw [List.orderedInsert_of_not_le r rest before, List.filter_cons, List.filter_cons, ih sorted]
      cases p b with
      | true =>
        cases p a with
        | true => simp [List.orderedInsert_of_not_le r _ before]
        | false => rfl
      | false => rfl

variable [Std.Total r]

/-- What is kept of a sorted list is sorted by itself. -/
theorem filter_insertionSort (items : List α) : (items.insertionSort r).filter p = (items.filter p).insertionSort r := by
  induction items with
  | nil => rfl
  | cons a rest ih =>
    rw [List.insertionSort_cons, filter_orderedInsert p a (List.pairwise_insertionSort r rest), ih, List.filter_cons]
    cases p a <;> rfl

/-- The same items by ascending rank; those of one rank keep their order. -/
structure StablySorted (rank : α → Nat) (items sorted : List α) : Prop where
  perm : sorted.Perm items
  ascending : sorted.Pairwise fun a b => rank a ≤ rank b
  stable : ∀ n, sorted.filter (fun a => rank a = n) = items.filter fun a => rank a = n

theorem stablySorted_insertionSort (rank : α → Nat) (items : List α) :
    StablySorted rank items (items.insertionSort fun a b => rank a ≤ rank b) := by
  let below (a b : α) : Prop := rank a ≤ rank b
  have : IsTrans α below := ⟨fun _ _ _ => Nat.le_trans⟩
  have : Std.Total below := ⟨fun a b => Nat.le_total (rank a) (rank b)⟩
  refine ⟨List.perm_insertionSort below items, List.pairwise_insertionSort below items, fun n => ?_⟩
  have level : (items.filter fun a => rank a = n).Pairwise below := by
    refine List.pairwise_of_forall_mem_list fun a first b second => ?_
    have ranks := And.intro (List.mem_filter.mp first).2 (List.mem_filter.mp second).2
    simp only [decide_eq_true_eq] at ranks
    exact (ranks.1.trans ranks.2.symm).le
  show (items.insertionSort below).filter _ = _
  rw [filter_insertionSort, level.insertionSort_eq]

end Sorting
