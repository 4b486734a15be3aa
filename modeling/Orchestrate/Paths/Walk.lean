import Mathlib.Data.List.Infix
import Mathlib.Logic.Function.Iterate

namespace Paths

variable {α : Type}

/-- A step to the directory above, or down to a name. -/
inductive Step (α : Type) : Type where
  | up
  | down (name : α)
  deriving DecidableEq, Repr

/-- Where steps lead from a directory; nothing is above the root. -/
def walk : List α → List (Step α) → List α
  | dir, [] => dir
  | dir, .up :: rest => walk dir.dropLast rest
  | dir, .down name :: rest => walk (dir ++ [name]) rest

/-- Steps in normal form: some levels up, and then down along some names. -/
structure Relative (α : Type) : Type where
  up : Nat
  names : List α
  deriving DecidableEq, Repr

namespace Relative

def step (r : Relative α) : Step α → Relative α
  | .up => if r.names.isEmpty then { r with up := r.up + 1 } else { r with names := r.names.dropLast }
  | .down name => { r with names := r.names ++ [name] }

def of (steps : List (Step α)) : Relative α := steps.foldl step { up := 0, names := [] }

/-- Where the normal form leads. -/
def lead (r : Relative α) (dir : List α) : List α := dir.take (dir.length - r.up) ++ r.names

theorem lead_step (r : Relative α) (dir : List α) (s : Step α) : (r.step s).lead dir = walk (r.lead dir) [s] := by
  cases s with
  | down name => simp [step, lead, walk]
  | up =>
    cases names : r.names with
    | nil =>
      have shorter : dir.take (dir.length - (r.up + 1)) = (dir.take (dir.length - r.up)).dropLast := by
        rw [List.dropLast_eq_take, List.take_take, List.length_take]
        congr 1
        omega
      simp [step, lead, walk, names, shorter]
    | cons first rest => simp [step, lead, walk, names]

end Relative

theorem walk_append (dir : List α) (first second : List (Step α)) :
    walk dir (first ++ second) = walk (walk dir first) second := by
  induction first generalizing dir with
  | nil => rfl
  | cons s rest ih =>
    cases s with
    | up => exact ih _
    | down name => exact ih _

theorem lead_foldl (r : Relative α) (dir : List α) (steps : List (Step α)) :
    (steps.foldl Relative.step r).lead dir = walk (r.lead dir) steps := by
  induction steps generalizing r with
  | nil => rfl
  | cons s rest ih =>
    rw [List.foldl_cons, ih, Relative.lead_step, ← walk_append]
    rfl

/-- Steps lead where their normal form leads. -/
theorem walk_eq_lead (dir : List α) (steps : List (Step α)) : walk dir steps = (Relative.of steps).lead dir := by
  rw [Relative.of, lead_foldl]
  simp [Relative.lead]

/-- Where going up undoes going down, steps act as their normal form does. -/
theorem foldl_of {β : Type} (act : β → Step α → β) (undoes : ∀ b name, act (act b (.down name)) .up = b)
    (b : β) (steps : List (Step α)) :
    steps.foldl act b = (Relative.of steps).names.foldl (fun b name => act b (.down name))
      ((fun b => act b .up)^[(Relative.of steps).up] b) := by
  have general (r : Relative α) : steps.foldl act (r.names.foldl (fun b name => act b (.down name))
      ((fun b => act b .up)^[r.up] b)) = (steps.foldl Relative.step r).names.foldl (fun b name => act b (.down name))
        ((fun b => act b .up)^[(steps.foldl Relative.step r).up] b) := by
    induction steps generalizing r with
    | nil => rfl
    | cons s rest ih =>
      rw [List.foldl_cons, List.foldl_cons, ← ih]
      congr 1
      cases s with
      | down name => simp [Relative.step]
      | up =>
        obtain ⟨up, names⟩ := r
        cases names using List.reverseRecOn with
        | nil => simp [Relative.step, Function.iterate_succ_apply']
        | append_singleton before last => simp [Relative.step, undoes]
  exact general { up := 0, names := [] }

/-- A list begins a concatenation exactly if its first part begins the first one and the rest begins the second. -/
theorem isPrefix_append_iff {dir first names : List α} :
    dir <+: first ++ names ↔ dir.take first.length <+: first ∧ dir.drop first.length <+: names := by
  constructor
  · intro inside
    have begins := inside.take first.length
    have goesOn := inside.drop first.length
    rw [List.take_left] at begins
    rw [List.drop_left] at goesOn
    exact ⟨begins, goesOn⟩
  · rintro ⟨begins, goesOn⟩
    rcases Nat.le_total first.length dir.length with long | short
    · have same : dir.take first.length = first := begins.eq_of_length (by simp [long])
      calc dir = dir.take first.length ++ dir.drop first.length := (List.take_append_drop _ _).symm
        _ = first ++ dir.drop first.length := by rw [same]
        _ <+: first ++ names := List.prefix_append_right_inj first |>.mpr goesOn
    · rw [List.take_of_length_le short] at begins
      exact begins.trans (List.prefix_append first names)

/-- A directory holds itself and everything below it. -/
def Within (dir path : List α) : Prop := dir <+: path

/-- A path strictly below a directory. -/
def Inside (dir path : List α) : Prop := dir <+: path ∧ path ≠ dir

instance [DecidableEq α] (dir path : List α) : Decidable (Within dir path) := inferInstanceAs (Decidable (_ <+: _))

instance [DecidableEq α] (dir path : List α) : Decidable (Inside dir path) := inferInstanceAs (Decidable (_ ∧ _))

theorem Inside.within {dir path : List α} (inside : Inside dir path) : Within dir path := inside.1

/-- What is strictly below a directory is held by a directory within it. -/
theorem Inside.dropLast {dir path : List α} (inside : Inside dir path) : Within dir path.dropLast := by
  obtain ⟨⟨rest, rfl⟩, apart⟩ := inside
  cases rest using List.reverseRecOn with
  | nil => simp at apart
  | append_singleton before last =>
    rw [← List.append_assoc, List.dropLast_concat]
    exact List.prefix_append dir before

theorem inside_append {dir names : List α} (some : names ≠ []) : Inside dir (dir ++ names) := by
  refine ⟨List.prefix_append dir names, fun same => some ?_⟩
  simpa using same

namespace Relative

/-- The normal form leads from `base` back into `dir`: the two agree on the levels that are kept, and what is left of
    `dir` is where the names begin and do not end. -/
def Reenters (r : Relative α) (base dir : List α) : Prop :=
  dir.take (base.length - r.up) <+: base.take (base.length - r.up) ∧ dir.drop (base.length - r.up) <+: r.names ∧
    (r.names = dir.drop (base.length - r.up) → dir.length < base.length - r.up)

instance [DecidableEq α] (r : Relative α) (base dir : List α) : Decidable (r.Reenters base dir) :=
  inferInstanceAs (Decidable (_ ∧ _ ∧ _))

/-- A path leads strictly below a directory exactly if its normal form leads back into it. -/
theorem inside_lead_iff (r : Relative α) (base dir : List α) : Inside dir (r.lead base) ↔ r.Reenters base dir := by
  have kept : (base.take (base.length - r.up)).length = base.length - r.up := by
    rw [List.length_take]
    omega
  unfold Inside Reenters lead
  rw [isPrefix_append_iff, kept, and_assoc]
  refine and_congr_right fun begins => and_congr_right fun goesOn => ⟨fun apart own => ?_, fun shorter same => ?_⟩
  · by_contra long
    have agree : dir.take (base.length - r.up) = base.take (base.length - r.up) :=
      begins.eq_of_length (by rw [kept, List.length_take]; omega)
    exact apart (by rw [own, ← agree, List.take_append_drop])
  · have own : r.names = dir.drop (base.length - r.up) := by
      rw [← same, List.drop_left' kept]
    have longer := congrArg List.length same
    rw [List.length_append, kept] at longer
    have short := shorter own
    omega

end Relative
end Paths
