import Mathlib.Data.List.Chain
import Mathlib.Data.List.DropRight

namespace Text

variable {α : Type} {white : α → Bool} {blank c d : α} {text rest : List α}

/-- The maximal runs of the text without white characters. -/
def words (white : α → Bool) (text : List α) : List (List α) := (text.splitOnP white).filter (!·.isEmpty)

/-- Each run of white characters becomes one blank. -/
def squeeze (white : α → Bool) (blank : α) : List α → List α
  | [] => []
  | c :: rest =>
    if white c then if rest.head?.any white then squeeze white blank rest else blank :: squeeze white blank rest
    else c :: squeeze white blank rest

/-- The text without the white characters at its ends. -/
def trim (white : α → Bool) (text : List α) : List α := (text.dropWhile white).rdropWhile white

/-- The only white character is the blank, and it stands alone and inside. -/
structure Neat (white : α → Bool) (blank : α) (text : List α) : Prop where
  blanks : ∀ c ∈ text, white c = true → c = blank
  alone : text.IsChain fun c d => white c = true → white d = false
  first : ∀ c ∈ text.head?, white c = false
  last : ∀ c ∈ text.getLast?, white c = false

@[simp] theorem words_nil : words white [] = [] := rfl

theorem words_cons_white (ends : white c = true) : words white (c :: text) = words white text := by
  simp [words, List.splitOnP_cons_eq_if_modifyHead, ends]

/-- A character that is not white begins the first word, or is a word of its own. -/
theorem words_cons (inside : white c = false) (text : List α) :
    words white (c :: text) =
      if text.head?.any (! white ·) then (words white text).modifyHead (c :: ·) else [c] :: words white text := by
  have ahead : words white (c :: text) = ((text.splitOnP white).modifyHead (c :: ·)).filter (!·.isEmpty) := by
    simp [words, List.splitOnP_cons_eq_if_modifyHead, inside]
  rw [ahead]
  cases text with
  | nil => rfl
  | cons d rest =>
    cases next : white d with
    | true => simp [words, List.splitOnP_cons_eq_if_modifyHead, next]
    | false =>
      obtain ⟨word, others, split⟩ := List.exists_cons_of_ne_nil (List.splitOnP_ne_nil white rest)
      simp [words, List.splitOnP_cons_eq_if_modifyHead, next, split]

theorem words_cons_ne_nil (inside : white c = false) (text : List α) : words white (c :: text) ≠ [] := by
  induction text generalizing c with
  | nil => simp [words_cons inside]
  | cons d rest ih =>
    rw [words_cons inside]
    split
    · rename_i more
      have next : white d = false := by simpa using more
      simpa using ih next
    · exact List.cons_ne_nil _ _

theorem head_squeeze (text : List α) (blanks : white blank = true) :
    (squeeze white blank text).head?.any (! white ·) = text.head?.any (! white ·) := by
  induction text with
  | nil => rfl
  | cons c rest ih =>
    cases own : white c with
    | false => simp [squeeze, own]
    | true =>
      by_cases more : rest.head?.any white = true
      · rw [squeeze, if_pos own, if_pos more, ih]
        cases rest with
        | nil => cases more
        | cons d rest =>
          have next : white d = true := more
          simp [own, next]
      · simp [squeeze, own, more, blanks]

theorem words_squeeze (blanks : white blank = true) (text : List α) :
    words white (squeeze white blank text) = words white text := by
  induction text with
  | nil => rfl
  | cons c rest ih =>
    cases own : white c with
    | false =>
      rw [squeeze, if_neg (by simp [own]), words_cons own, words_cons own, ih, head_squeeze rest blanks]
    | true =>
      rw [words_cons_white own, squeeze, if_pos own]
      split
      · exact ih
      · rw [words_cons_white blanks, ih]

theorem words_dropWhile (text : List α) : words white (text.dropWhile white) = words white text := by
  induction text with
  | nil => rfl
  | cons c rest ih =>
    cases own : white c with
    | false => rw [List.dropWhile_cons_of_neg (by simp [own])]
    | true => rw [List.dropWhile_cons_of_pos own, ih, words_cons_white own]

theorem words_concat_white (ends : white c = true) (text : List α) : words white (text ++ [c]) = words white text := by
  induction text with
  | nil => exact words_cons_white ends
  | cons d rest ih =>
    have head : (rest ++ [c]).head?.any (! white ·) = rest.head?.any (! white ·) := by
      cases rest with
      | nil => simp [ends]
      | cons first later => rfl
    cases own : white d with
    | true => rw [List.cons_append, words_cons_white own, words_cons_white own, ih]
    | false => rw [List.cons_append, words_cons own, words_cons own, ih, head]

theorem words_rdropWhile (text : List α) : words white (text.rdropWhile white) = words white text := by
  induction text using List.reverseRecOn with
  | nil => rfl
  | append_singleton rest c ih =>
    by_cases own : white c = true
    · rw [List.rdropWhile_concat_pos white rest c own, ih, words_concat_white own]
    · rw [List.rdropWhile_concat_neg white rest c own]

theorem words_trim (text : List α) : words white (trim white text) = words white text := by
  rw [trim, words_rdropWhile, words_dropWhile]

theorem mem_squeeze {text : List α} (member : c ∈ squeeze white blank text) : c ∈ text ∨ c = blank := by
  induction text with
  | nil => cases member
  | cons d rest ih =>
    rw [squeeze] at member
    split at member
    · split at member
      · exact (ih member).imp_left (List.mem_cons_of_mem d)
      · rcases List.mem_cons.mp member with same | later
        · exact .inr same
        · exact (ih later).imp_left (List.mem_cons_of_mem d)
    · rcases List.mem_cons.mp member with rfl | later
      · exact .inl List.mem_cons_self
      · exact (ih later).imp_left (List.mem_cons_of_mem d)

theorem trim_subset (text : List α) : trim white text ⊆ text := fun _ member =>
  (List.dropWhile_suffix white).subset ((List.rdropWhile_prefix white _).subset member)

theorem blanks_squeeze (text : List α) : ∀ c ∈ squeeze white blank text, white c = true → c = blank := by
  induction text with
  | nil => simp [squeeze]
  | cons d rest ih =>
    intro c member own
    rw [squeeze] at member
    split at member
    · split at member
      · exact ih c member own
      · rcases List.mem_cons.mp member with rfl | later
        · rfl
        · exact ih c later own
    · rename_i inside
      rcases List.mem_cons.mp member with rfl | later
      · exact absurd own inside
      · exact ih c later own

theorem alone_squeeze (blanks : white blank = true) (text : List α) :
    (squeeze white blank text).IsChain fun c d => white c = true → white d = false := by
  induction text with
  | nil => exact .nil
  | cons c rest ih =>
    rw [squeeze]
    split
    · split
      · exact ih
      · rename_i last
        rw [List.isChain_cons]
        refine ⟨fun d next _ => ?_, ih⟩
        have head := head_squeeze rest blanks
        rw [Option.mem_def.mp next] at head
        cases rest with
        | nil => cases next
        | cons first later =>
          have inside : white first = false := by simpa using last
          simpa [inside] using head
    · rename_i inside
      rw [List.isChain_cons]
      exact ⟨fun d _ own => absurd own inside, ih⟩

theorem neat_trim_squeeze (blanks : white blank = true) (text : List α) :
    Neat white blank (trim white (squeeze white blank text)) := by
  have dropped : (squeeze white blank text).dropWhile white <:+ squeeze white blank text := List.dropWhile_suffix white
  have kept : trim white (squeeze white blank text) <+: (squeeze white blank text).dropWhile white :=
    List.rdropWhile_prefix white _
  refine ⟨fun c member => ?_, ?_, fun c head => ?_, fun c last => ?_⟩
  · exact blanks_squeeze text c (dropped.subset (kept.subset member))
  · have chain := (alone_squeeze blanks text).suffix dropped
    obtain ⟨later, joined⟩ := kept
    rw [← joined] at chain
    exact chain.left_of_append
  · obtain ⟨later, joined⟩ := kept
    have begins : ((squeeze white blank text).dropWhile white).head? = some c := by
      rw [← joined, List.head?_append, Option.mem_def.mp head]
      rfl
    have stopped := List.head?_dropWhile_not white (squeeze white blank text)
    rw [begins] at stopped
    simpa using stopped
  · obtain ⟨nonempty, rfl⟩ := List.mem_getLast?_eq_getLast last
    simpa [trim] using List.rdropWhile_last_not white _ nonempty

theorem Neat.suffix (neat : Neat white blank text) (ends : rest <:+ text) (first : ∀ c ∈ rest.head?, white c = false) :
    Neat white blank rest where
  blanks c member := neat.blanks c (ends.subset member)
  alone := neat.alone.suffix ends
  first := first
  last c last := by
    obtain ⟨before, rfl⟩ := ends
    apply neat.last
    rw [List.getLast?_append, Option.mem_def.mp last]
    rfl

/-- A neat text is its words with single blanks between them. -/
theorem Neat.join_words : ∀ {text : List α}, Neat white blank text → [blank].intercalate (words white text) = text
  | [], _ => rfl
  | [c], neat => by
    have inside : white c = false := neat.first c rfl
    simp [words_cons inside]
  | c :: d :: rest, neat => by
    have inside : white c = false := neat.first c rfl
    cases next : white d with
    | false =>
      have ih := (neat.suffix (List.suffix_cons c _) fun e head => Option.some.inj head ▸ next).join_words
      obtain ⟨word, others, found⟩ := List.exists_cons_of_ne_nil (words_cons_ne_nil next rest)
      rw [words_cons inside, if_pos (by simp [next]), found, List.modifyHead_cons]
      rw [found] at ih
      cases others with
      | nil =>
        rw [List.intercalate_singleton] at ih ⊢
        rw [ih]
      | cons second others =>
        rw [List.intercalate_cons_cons] at ih ⊢
        rw [List.cons_append, List.cons_append, ih]
    | true =>
      obtain rfl : blank = d := (neat.blanks d (by simp) next).symm
      cases rest with
      | nil => exact absurd (neat.last blank rfl) (by simp [next])
      | cons e rest =>
        have own : white e = false := (List.isChain_cons_cons.mp neat.alone.tail).1 next
        have ends : e :: rest <:+ c :: blank :: e :: rest := ⟨[c, blank], rfl⟩
        have joined := (neat.suffix ends fun x head => Option.some.inj head ▸ own).join_words
        rw [words_cons inside, if_neg (by simp [next]), words_cons_white next,
          List.intercalate_cons_of_ne_nil (words_cons_ne_nil own rest), joined]
        rfl

/-- Squeezing and trimming a text leaves its words with single blanks between them. -/
theorem trim_squeeze (blanks : white blank = true) (text : List α) :
    trim white (squeeze white blank text) = [blank].intercalate (words white text) := by
  rw [← words_squeeze blanks text, ← words_trim]
  exact (neat_trim_squeeze blanks text).join_words.symm

theorem Neat.trim_squeeze (blanks : white blank = true) (neat : Neat white blank text) :
    trim white (squeeze white blank text) = text := by
  rw [Text.trim_squeeze blanks, neat.join_words]

/-- Some of the first pieces, joined again, are the text up to its end or up to an occurrence. -/
theorem join_take (sep : List α) {n : Nat} (some_ : 0 < n) : ∀ list : List (List α),
    ∃ rest, sep.intercalate list = sep.intercalate (list.take n) ++ rest ∧ (rest = [] ∨ sep <+: rest)
  | [] => ⟨[], by simp, .inl rfl⟩
  | [piece] => ⟨[], by simp [List.take_of_length_le (show [piece].length ≤ n from some_)], .inl rfl⟩
  | piece :: second :: others => by
    obtain ⟨m, rfl⟩ := Nat.exists_eq_succ_of_ne_zero (Nat.ne_of_gt some_)
    rw [List.take_succ_cons]
    cases m with
    | zero =>
      rw [List.take_zero, List.intercalate_singleton, List.intercalate_cons_cons]
      exact ⟨_, List.append_assoc .., .inr (List.prefix_append _ _)⟩
    | succ m =>
      obtain ⟨rest, joined, ends⟩ := join_take sep (Nat.succ_pos m) (second :: others)
      refine ⟨rest, ?_, ends⟩
      rw [List.intercalate_cons_cons, joined, List.intercalate_cons_of_ne_nil (by simp)]
      simp only [List.append_assoc]

section Pairs

variable [DecidableEq α] {a b : α}

/-- The pieces between the occurrences of the two characters, from the left. -/
def pieces (a b : α) : List α → List (List α)
  | [] => [[]]
  | [c] => [[c]]
  | c :: d :: rest => if c = a ∧ d = b then [] :: pieces a b rest else (pieces a b (d :: rest)).modifyHead (c :: ·)

theorem pieces_ne_nil (text : List α) : pieces a b text ≠ [] := by
  induction text using pieces.induct a b with
  | case1 => simp [pieces]
  | case2 c => simp [pieces]
  | case3 c d rest found ih => simp [pieces, found]
  | case4 c d rest other ih => simpa [pieces, other] using ih

theorem join_pieces (text : List α) : [a, b].intercalate (pieces a b text) = text := by
  induction text using pieces.induct a b with
  | case1 => rfl
  | case2 c => simp [pieces]
  | case3 c d rest found ih =>
    obtain ⟨rfl, rfl⟩ := found
    rw [pieces, if_pos ⟨rfl, rfl⟩, List.intercalate_cons_of_ne_nil (pieces_ne_nil rest), ih]
    rfl
  | case4 c d rest other ih =>
    obtain ⟨first, others, split⟩ := List.exists_cons_of_ne_nil (pieces_ne_nil (a := a) (b := b) (d :: rest))
    rw [pieces, if_neg other, split, List.modifyHead_cons]
    rw [split] at ih
    cases others with
    | nil =>
      rw [List.intercalate_singleton] at ih ⊢
      rw [ih]
    | cons second others =>
      rw [List.intercalate_cons_cons] at ih ⊢
      rw [List.cons_append, List.cons_append, ih]

theorem head_pieces (c : α) (text : List α) : ∀ piece ∈ (pieces a b (c :: text)).head?, ∀ d ∈ piece.head?, d = c := by
  intro piece first d begins
  cases text with
  | nil =>
    obtain rfl := Option.some.inj first
    exact (Option.some.inj begins).symm
  | cons e rest =>
    rw [pieces] at first
    split at first
    · obtain rfl := Option.some.inj first
      cases begins
    · obtain ⟨found, others, split⟩ := List.exists_cons_of_ne_nil (pieces_ne_nil (a := a) (b := b) (e :: rest))
      rw [split] at first
      obtain rfl := Option.some.inj first
      exact (Option.some.inj begins).symm

/-- No piece has an occurrence. -/
theorem pieces_apart (text : List α) : ∀ piece ∈ pieces a b text, ¬ [a, b] <:+: piece := by
  have short (piece : List α) (bound : piece.length ≤ 1) : ¬ [a, b] <:+: piece := fun inside => by
    have := inside.length_le
    simp at this
    omega
  induction text using pieces.induct a b with
  | case1 => simp [pieces]
  | case2 c => simpa [pieces] using short [c] (Nat.le_refl _)
  | case3 c d rest found ih =>
    rw [pieces, if_pos found]
    intro piece member
    rcases List.mem_cons.mp member with rfl | later
    · exact short [] (Nat.zero_le _)
    · exact ih piece later
  | case4 c d rest other ih =>
    obtain ⟨first, others, split⟩ := List.exists_cons_of_ne_nil (pieces_ne_nil (a := a) (b := b) (d :: rest))
    have begins := head_pieces (a := a) (b := b) d rest first (by rw [split]; rfl)
    rw [pieces, if_neg other, split, List.modifyHead_cons]
    rw [split] at ih
    intro piece member inside
    rcases List.mem_cons.mp member with rfl | later
    · rcases List.infix_cons_iff.mp inside with ahead | within
      · cases first with
        | nil => exact short [c] (Nat.le_refl _) inside
        | cons e word =>
          obtain ⟨at_first, ahead⟩ := List.cons_prefix_cons.mp ahead
          obtain ⟨at_second, _⟩ := List.cons_prefix_cons.mp ahead
          exact other ⟨at_first.symm, (begins e rfl).symm.trans at_second.symm⟩
      · exact ih first List.mem_cons_self within
    · exact ih piece (List.mem_cons_of_mem _ later) inside

end Pairs

end Text
