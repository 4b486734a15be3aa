import Mathlib.Data.Finset.Card
import Mathlib.Logic.Relation

namespace Search

/-- How a depth-first search judges a node: take it, give its siblings up, look below it, or go on. -/
inductive Verdict : Type where
  | take | block | descend | pass
  deriving DecidableEq, Repr

variable {α : Type}

/-- A search that goes on with the next one if it finds nothing; none does not end. -/
def andThen (first next : Option (Option α)) : Option (Option α) :=
  match first with
  | none => none
  | some (some found) => some (some found)
  | some none => next

@[simp] theorem andThen_hung (next : Option (Option α)) : andThen none next = none := rfl

@[simp] theorem andThen_found (found : α) (next : Option (Option α)) :
    andThen (some (some found)) next = some (some found) := rfl

@[simp] theorem andThen_nothing (next : Option (Option α)) : andThen (some none) next = next := rfl

section Definitions

variable (verdict : α → Verdict) (children : α → List α)

/-- The search among siblings; none if the search below some of them does not end. -/
def level (deeper : α → Option (Option α)) : List α → Option (Option α)
  | [] => some none
  | a :: rest =>
    match verdict a with
    | .take => some (some a)
    | .block => some none
    | .pass => level deeper rest
    | .descend => andThen (deeper a) (level deeper rest)

/-- The search below a node, to a given depth. -/
def below : Nat → α → Option (Option α)
  | 0, _ => none
  | depth + 1, a => level verdict (below depth) (children a)

end Definitions

variable {verdict : α → Verdict} {children : α → List α} {deeper : α → Option (Option α)} {nodes before after : List α} {a : α}

/-- A search that finds nothing has taken no node before the first that blocks. -/
theorem level_none (nothing : level verdict deeper (before ++ a :: after) = some none)
    (open_ : ∀ b ∈ before, verdict b ≠ .block) :
    verdict a ≠ .take ∧ (verdict a = .descend → deeper a = some none) := by
  induction before with
  | nil =>
    simp only [List.nil_append, level] at nothing
    cases judged : verdict a with
    | take => simp [judged] at nothing
    | block => simp
    | pass => simp
    | descend =>
      simp only [judged] at nothing
      refine ⟨by simp, fun _ => ?_⟩
      cases result : deeper a with
      | none => simp [result] at nothing
      | some found =>
        cases found with
        | none => rfl
        | some b => simp [result] at nothing
  | cons b rest ih =>
    have further := fun nothing => ih nothing fun c member => open_ c (List.mem_cons_of_mem b member)
    simp only [List.cons_append, level] at nothing
    cases judged : verdict b with
    | take => simp [judged] at nothing
    | block => exact absurd judged (open_ b List.mem_cons_self)
    | pass =>
      simp only [judged] at nothing
      exact further nothing
    | descend =>
      simp only [judged] at nothing
      cases result : deeper b with
      | none => simp [result] at nothing
      | some found =>
        cases found with
        | none =>
          simp only [result] at nothing
          exact further nothing
        | some c => simp [result] at nothing

/-- The nodes that a search looks at unless it ends before. -/
inductive Seen (verdict : α → Verdict) (children : α → List α) (roots : List α) : α → Prop where
  | root {before after : List α} {a : α} (split : roots = before ++ a :: after)
      (open_ : ∀ b ∈ before, verdict b ≠ .block) : Seen verdict children roots a
  | child {p a : α} {before after : List α} (parent : Seen verdict children roots p)
      (descends : verdict p = .descend) (split : children p = before ++ a :: after)
      (open_ : ∀ b ∈ before, verdict b ≠ .block) : Seen verdict children roots a

/-- What is seen depends only on how the nodes of a closed set are judged. -/
theorem Seen.congr {roots : List α} {inside : α → Prop} {verdict' : α → Verdict}
    (rooted : ∀ a ∈ roots, inside a) (closed : ∀ p, inside p → ∀ c ∈ children p, inside c)
    (same : ∀ a, inside a → verdict' a = verdict a) (seen : Seen verdict children roots a) :
    inside a ∧ Seen verdict' children roots a := by
  induction seen with
  | root split open_ =>
    have member {b : α} (earlier : b ∈ _) : inside b := rooted b (split ▸ List.mem_append_left _ earlier)
    refine ⟨rooted _ (by simp [split]), .root split fun b earlier => ?_⟩
    rw [same b (member earlier)]
    exact open_ b earlier
  | child parent descends split open_ ih =>
    obtain ⟨insideP, seenP⟩ := ih
    have member {b : α} (earlier : b ∈ _) : inside b :=
      closed _ insideP b (split ▸ List.mem_append_left _ earlier)
    refine ⟨closed _ insideP _ (by simp [split]), .child seenP ?_ split fun b earlier => ?_⟩
    · rw [same _ insideP]
      exact descends
    · rw [same b (member earlier)]
      exact open_ b earlier

/-- A search that finds nothing has taken none of the nodes it looks at. -/
theorem not_take_of_seen {roots : List α} {depth : Nat}
    (nothing : level verdict (below verdict children depth) roots = some none)
    (seen : Seen verdict children roots a) : verdict a ≠ .take := by
  have both : verdict a ≠ .take ∧
      (verdict a = .descend → ∃ depth, below verdict children depth a = some none) := by
    induction seen with
    | root split open_ =>
      subst split
      obtain ⟨untaken, deep⟩ := level_none nothing open_
      exact ⟨untaken, fun descends => ⟨depth, deep descends⟩⟩
    | child parent descends split open_ ih =>
      obtain ⟨depth, searched⟩ := ih.2 descends
      cases depth with
      | zero => simp [below] at searched
      | succ depth =>
        rw [below, split] at searched
        obtain ⟨untaken, deep⟩ := level_none searched open_
        exact ⟨untaken, fun descends => ⟨depth, deep descends⟩⟩
  exact both.1

/-- The search takes only nodes it judges so, and that are among the siblings or found below them. -/
theorem level_found {found : α} (result : level verdict deeper nodes = some (some found)) :
    (found ∈ nodes ∧ verdict found = .take) ∨
      ∃ a ∈ nodes, verdict a = .descend ∧ deeper a = some (some found) := by
  induction nodes with
  | nil => simp [level] at result
  | cons a rest ih =>
    have later : level verdict deeper rest = some (some found) →
        (found ∈ a :: rest ∧ verdict found = .take) ∨
          ∃ b ∈ a :: rest, verdict b = .descend ∧ deeper b = some (some found) := by
      intro result
      rcases ih result with ⟨member, taken⟩ | ⟨b, member, deep⟩
      · exact .inl ⟨List.mem_cons_of_mem a member, taken⟩
      · exact .inr ⟨b, List.mem_cons_of_mem a member, deep⟩
    simp only [level] at result
    cases judged : verdict a with
    | take =>
      obtain rfl : a = found := by simpa [judged] using result
      exact .inl ⟨List.mem_cons_self, judged⟩
    | block => simp [judged] at result
    | pass =>
      simp only [judged] at result
      exact later result
    | descend =>
      simp only [judged] at result
      cases deep : deeper a with
      | none => simp [deep] at result
      | some inner =>
        cases inner with
        | none =>
          simp only [deep] at result
          exact later result
        | some b =>
          obtain rfl : b = found := by simpa [deep] using result
          exact .inr ⟨a, List.mem_cons_self, judged, deep⟩

theorem below_found {depth : Nat} {found : α} (result : below verdict children depth a = some (some found)) :
    verdict found = .take ∧ Relation.TransGen (fun p c => c ∈ children p) a found := by
  induction depth generalizing a with
  | zero => simp [below] at result
  | succ depth ih =>
    rcases level_found result with ⟨member, taken⟩ | ⟨b, member, _, deep⟩
    · exact ⟨taken, .single member⟩
    · obtain ⟨taken, path⟩ := ih deep
      exact ⟨taken, .head member path⟩

theorem level_congr {deeper' : α → Option (Option α)}
    (same : ∀ a ∈ nodes, verdict a = .descend → deeper a = deeper' a) :
    level verdict deeper nodes = level verdict deeper' nodes := by
  induction nodes with
  | nil => rfl
  | cons a rest ih =>
    have later := ih fun b member => same b (List.mem_cons_of_mem a member)
    simp only [level, later]
    cases judged : verdict a with
    | descend => simp only [same a List.mem_cons_self judged]
    | take | block | pass => rfl

/-- The children that a search may come to. -/
def narrowed (verdict : α → Verdict) (children : α → List α) (a : α) : List α :=
  if verdict a = .descend then children a else []

theorem below_narrowed (depth : Nat) (descends : verdict a = .descend) :
    below verdict (narrowed verdict children) depth a = below verdict children depth a := by
  induction depth generalizing a with
  | zero => rfl
  | succ depth ih =>
    simp only [below, narrowed, if_pos descends]
    exact level_congr fun b _ further => ih further

/-- Among the nodes of `inside`, every step down lowers the rank. -/
def Descending (children : α → List α) (inside : α → Prop) (rank : α → Nat) : Prop :=
  ∀ a, inside a → ∀ c ∈ children a, inside c ∧ rank c < rank a

/-- An acyclic relation on finitely many nodes has a rank below their number. -/
theorem exists_rank [DecidableEq α] (children : α → List α) (inside : Finset α)
    (closed : ∀ a ∈ inside, ∀ c ∈ children a, c ∈ inside)
    (acyclic : ∀ a ∈ inside, ¬ Relation.TransGen (fun p c => c ∈ children p) a a) :
    ∃ rank, Descending children (· ∈ inside) rank ∧ ∀ a ∈ inside, rank a < inside.card := by
  classical
  let reached (a : α) := inside.filter (Relation.TransGen (fun p c => c ∈ children p) a)
  refine ⟨fun a => (reached a).card, ?_, ?_⟩
  · intro a member c child
    have member' := closed a member c child
    refine ⟨member', Finset.card_lt_card ?_⟩
    rw [Finset.ssubset_iff_of_subset]
    · refine ⟨c, Finset.mem_filter.mpr ⟨member', .single child⟩, ?_⟩
      intro again
      exact acyclic c member' (Finset.mem_filter.mp again).2
    · intro b reachable
      obtain ⟨member'', path⟩ := Finset.mem_filter.mp reachable
      exact Finset.mem_filter.mpr ⟨member'', .head child path⟩
  · intro a member
    apply Finset.card_lt_card
    rw [Finset.ssubset_iff_of_subset (Finset.filter_subset _ _)]
    exact ⟨a, member, fun again => acyclic a member (Finset.mem_filter.mp again).2⟩

variable {inside : α → Prop} {rank : α → Nat}

/-- The search ends if no path below the siblings is longer than the depth. -/
theorem level_ends (descending : Descending children inside rank) {depth : Nat}
    (shallow : ∀ a ∈ nodes, inside a ∧ rank a < depth) :
    level verdict (below verdict children depth) nodes ≠ none := by
  induction depth generalizing nodes with
  | zero =>
    cases nodes with
    | nil => simp [level]
    | cons a rest => exact absurd (shallow a List.mem_cons_self).2 (Nat.not_lt_zero _)
  | succ depth deepEnds =>
    induction nodes with
    | nil => simp [level]
    | cons a rest ih =>
      have restEnds := ih fun b member => shallow b (List.mem_cons_of_mem a member)
      have belowEnds : below verdict children (depth + 1) a ≠ none := by
        rw [below]
        apply deepEnds
        intro c member
        obtain ⟨insideA, bound⟩ := shallow a List.mem_cons_self
        obtain ⟨insideC, less⟩ := descending a insideA c member
        exact ⟨insideC, by omega⟩
      simp only [level]
      cases verdict a with
      | take => simp
      | block => simp
      | pass => exact restEnds
      | descend =>
        cases result : below verdict children (depth + 1) a with
        | none => exact absurd result belowEnds
        | some found =>
          cases found with
          | none => exact restEnds
          | some b => simp

end Search
