import Orchestrate.Effect.Stages
import Orchestrate.Model.MediaInput

namespace OrchestrateModel

open Effect Cooperation Program MediaDownload

/-- Where an attempt stands with its download: none, or before `get`, before it is written, written but not yet
    measured, in use, or before its removal. -/
inductive MediaStage : Type where
  | apart
  | fetching (file : TempFile)
  | saving (file : TempFile)
  | measuring (file : TempFile)
  | holding (file : TempFile)
  | dropping (file : TempFile)
  deriving DecidableEq, Repr

def MediaStage.file? : MediaStage → Option TempFile
  | apart => none
  | fetching file | saving file | measuring file | holding file | dropping file => some file

/-- What a segment can do, with the stages before and after it. -/
inductive MediaMove : MediaStage → TempDir → MediaTurn → TempDir → MediaStage → Prop where
  | rests {s s' : TempDir} {turn : MediaTurn} (files : s'.files = s.files) (drawn : s.drawn ≤ s'.drawn) :
      MediaMove .apart s turn s' .apart
  | names {s : TempDir} {turn : MediaTurn} {ext : String} :
      MediaMove .apart s turn { s with drawn := s.drawn + 1 } (.fetching { uuid := s.drawn, ext := ext })
  | fetches {s : TempDir} {turn : MediaTurn} {file : TempFile} : MediaMove (.fetching file) s turn s (.saving file)
  | abandons {s : TempDir} {turn : MediaTurn} {file : TempFile} : MediaMove (.fetching file) s turn s .apart
  | saves {s : TempDir} {turn : MediaTurn} {file : TempFile} (saved : turn.saved = none) :
      MediaMove (.saving file) s turn (s.add file) (.measuring file)
  | spoils {s : TempDir} {turn : MediaTurn} {file : TempFile} {fault : Fault Err} (saved : turn.saved = some fault) :
      MediaMove (.saving file) s turn (if fault.took then s.add file else s) (.dropping file)
  | measures {s s' : TempDir} {turn : MediaTurn} {file : TempFile} (sized : turn.size.toBool = true)
      (files : s'.files = s.files) (drawn : s.drawn ≤ s'.drawn) : MediaMove (.measuring file) s turn s' (.holding file)
  | rejects {s : TempDir} {turn : MediaTurn} {file : TempFile} (sized : turn.size.toBool = true) :
      MediaMove (.measuring file) s turn s (.dropping file)
  | loses {s : TempDir} {turn : MediaTurn} {file : TempFile} (unsized : file ∈ s.files → turn.size.toBool = false) :
      MediaMove (.measuring file) s turn s .apart
  | works {s s' : TempDir} {turn : MediaTurn} {file : TempFile} (files : s'.files = s.files) (drawn : s.drawn ≤ s'.drawn) :
      MediaMove (.holding file) s turn s' (.holding file)
  | ends {s s' : TempDir} {turn : MediaTurn} {file : TempFile} (files : s'.files = s.files) (drawn : s.drawn ≤ s'.drawn) :
      MediaMove (.holding file) s turn s' (.dropping file)
  | drops {s : TempDir} {turn : MediaTurn} {file : TempFile} :
      MediaMove (.dropping file) s turn (TempDir.attempt turn.removed s (s.drop file)).2 .apart

/-- The calls that an attempt awaits at a stage. -/
def MediaStage.awaits : MediaStage → DownloadCall → Prop
  | .apart, c => (∃ own, c = .media own) ∨ ∃ path output, c = .ffmpeg (.given path) output
  | .fetching _, c => ∃ fileUrl, c = .get fileUrl
  | .saving file, c => c = .pipeline file
  | .measuring file, c => c = .stat file
  | .holding file, c => (∃ own, c = .media own) ∨ ∃ output, c = .ffmpeg (.temp file) output
  | .dropping file, c => c = .remove file

section Attempt

variable {env : MediaEnv} {α : Type} {now : MediaSegment} {s : TempDir} {turn : MediaTurn} {file : TempFile}

variable {thrown : Err → MediaSegment → Prop}

/-- The call is answered by the same call of the lower level. -/
def MediaCall.Plain : MediaCall → Prop
  | .resolveMediaInput _ | .cleanup _ | .ffmpeg _ _ => False
  | .uuidv4 | .ensureDir _ | .readImage _ | .toFile _ _ _ _ _ | .copyFile _ _ | .uploadFileS3 _ _ => True

/-- What an upload calls. -/
theorem only_upload_plain (name : String) :
    (MediaProcessor.upload env.toFileEnv name).Only fun (c : MediaCall) => c.Plain ∧ c ≠ MediaCall.uuidv4 := by
  have calls {c : MediaCall} (plain : c.Plain) (other : c ≠ .uuidv4) :
      (Media.invoke c).Only fun (c : MediaCall) => c.Plain ∧ c ≠ MediaCall.uuidv4 := only_await ⟨plain, other⟩
  have copies (path : Path) : (MediaProcessor.uploadFileLocal env.toFileEnv path "processed_media").Only
      fun (c : MediaCall) => c.Plain ∧ c ≠ MediaCall.uuidv4 := by
    refine Only.bind (calls (c := .ensureDir _) trivial (by simp)) fun _ => ?_
    dsimp only
    split
    · exact calls (c := .copyFile _ _) trivial (by simp)
    · trivial
  refine (copies _).bind fun _ => ?_
  split
  · exact calls (c := .uploadFileS3 _ _) trivial (by simp)
  · trivial

end Attempt

section Files

variable {first s s' : TempDir} {lost : List TempFile} {stages : Nat → MediaStage} {i : Nat} {new : MediaStage}
  {turn : MediaTurn}

/-- A file is there from the end of its download to its removal. -/
def MediaStage.Fits (s : TempDir) : MediaStage → Prop
  | fetching file | saving file => file ∉ s.files
  | measuring file | holding file => file ∈ s.files
  | apart | dropping _ => True

/-- Each attempt has a file of its own; the other files were there at first, or they were lost. -/
structure Tidy (first : TempDir) (lost : List TempFile) (s : TempDir) (stages : Nat → MediaStage) : Prop where
  drawn : ∀ file ∈ s.files, file.uuid < s.drawn
  later : first.drawn ≤ s.drawn
  own : ∀ i file, (stages i).file? = some file → first.drawn ≤ file.uuid ∧ file.uuid < s.drawn
  distinct : ∀ i j file other, (stages i).file? = some file → (stages j).file? = some other →
    file.uuid = other.uuid → i = j
  fits : ∀ i, (stages i).Fits s
  left : ∀ file ∈ s.files, file ∈ first.files ∨ file ∈ lost ∨ ∃ i, (stages i).file? = some file
  stays : ∀ file, file ∈ first.files ∨ file ∈ lost →
    file ∈ s.files ∧ ∀ i other, (stages i).file? = some other → other.uuid ≠ file.uuid

/-- The step lemma: an attempt changes at most its own file. -/
theorem Tidy.update (tidy : Tidy first lost s stages) (more : List TempFile) (grows : s.drawn ≤ s'.drawn)
    (named : ∀ file, new.file? = some file →
      (stages i).file? = some file ∨ ((stages i).file? = none ∧ file.uuid = s.drawn ∧ s.drawn < s'.drawn))
    (others : ∀ file, (stages i).file? ≠ some file → (file ∈ s'.files ↔ file ∈ s.files))
    (fits : new.Fits s')
    (left : ∀ file, (stages i).file? = some file → file ∈ s'.files → new.file? = some file ∨ file ∈ more)
    (given : ∀ file ∈ more, (stages i).file? = some file ∧ file ∈ s'.files ∧ new.file? = none) :
    Tidy first (lost ++ more) s' (Function.update stages i new) := by
  have here : Function.update stages i new i = new := Function.update_self ..
  have there {j : Nat} (other : j ≠ i) : Function.update stages i new j = stages j := Function.update_of_ne other ..
  have apart {j : Nat} {file : TempFile} (other : j ≠ i) (has : (stages j).file? = some file) :
      (stages i).file? ≠ some file := fun same => other (tidy.distinct j i file file has same rfl)
  -- a name that another attempt has, or a file that stays, is none of this attempt's
  have strange {file other : TempFile} (mine : new.file? = some file) (old : other.uuid < s.drawn)
      (own : ∀ given, (stages i).file? = some given → given.uuid ≠ other.uuid) : file.uuid ≠ other.uuid := by
    rcases named file mine with same | ⟨_, fresh, _⟩
    · exact own file same
    · omega
  refine ⟨fun file member => ?_, Nat.le_trans tidy.later grows, fun j file has => ?_,
    fun j k file other has has' same => ?_, fun j => ?_, fun file member => ?_, fun file kept => ?_⟩
  · by_cases mine : (stages i).file? = some file
    · exact Nat.lt_of_lt_of_le (tidy.own i file mine).2 grows
    · exact Nat.lt_of_lt_of_le (tidy.drawn file ((others file mine).mp member)) grows
  · by_cases at_i : j = i
    · subst at_i
      rw [here] at has
      rcases named file has with old | ⟨_, fresh, more⟩
      · exact ⟨(tidy.own j file old).1, Nat.lt_of_lt_of_le (tidy.own j file old).2 grows⟩
      · exact ⟨fresh ▸ tidy.later, fresh ▸ more⟩
    · rw [there at_i] at has
      exact ⟨(tidy.own j file has).1, Nat.lt_of_lt_of_le (tidy.own j file has).2 grows⟩
  · by_cases at_i : j = i
    · by_cases at_i' : k = i
      · rw [at_i, at_i']
      · subst at_i
        rw [here] at has
        rw [there at_i'] at has'
        exact absurd same (strange has (tidy.own k other has').2 fun given old equal =>
          at_i' (tidy.distinct j k given other old has' equal).symm)
    · by_cases at_i' : k = i
      · subst at_i'
        rw [there at_i] at has
        rw [here] at has'
        exact absurd same.symm (strange has' (tidy.own j file has).2 fun given old equal =>
          at_i (tidy.distinct k j given file old has equal).symm)
      · rw [there at_i] at has
        rw [there at_i'] at has'
        exact tidy.distinct j k file other has has' same
  · by_cases at_i : j = i
    · subst at_i
      rwa [here]
    · rw [there at_i]
      have before := tidy.fits j
      cases stage : stages j with
      | apart | dropping file => trivial
      | fetching file | saving file =>
        rw [stage] at before
        exact fun member => before ((others file (apart at_i (by rw [stage]; rfl))).mp member)
      | measuring file | holding file =>
        rw [stage] at before
        exact (others file (apart at_i (by rw [stage]; rfl))).mpr before
  · by_cases mine : (stages i).file? = some file
    · rcases left file mine member with still | gone
      · exact .inr (.inr ⟨i, by rwa [here]⟩)
      · exact .inr (.inl (List.mem_append_right _ gone))
    · rcases tidy.left file ((others file mine).mp member) with old | gone | ⟨j, has⟩
      · exact .inl old
      · exact .inr (.inl (List.mem_append_left _ gone))
      · have at_i : j ≠ i := by
          rintro rfl
          exact mine has
        exact .inr (.inr ⟨j, by rwa [there at_i]⟩)
  · have old (kept : file ∈ first.files ∨ file ∈ lost) :
        file ∈ s'.files ∧ ∀ j other, (Function.update stages i new j).file? = some other → other.uuid ≠ file.uuid := by
      obtain ⟨present, unnamed⟩ := tidy.stays file kept
      have mine : (stages i).file? ≠ some file := fun has => unnamed i file has rfl
      refine ⟨(others file mine).mpr present, fun j other has => ?_⟩
      by_cases at_i : j = i
      · subst at_i
        rw [here] at has
        exact strange has (tidy.drawn file present) fun given had => unnamed j given had
      · rw [there at_i] at has
        exact unnamed j other has
    rcases kept with kept | gone
    · exact old (.inl kept)
    · rcases List.mem_append.mp gone with before | now
      · exact old (.inr before)
      · obtain ⟨mine, present, none_⟩ := given file now
        refine ⟨present, fun j other has same => ?_⟩
        by_cases at_i : j = i
        · subst at_i
          rw [here, none_] at has
          cases has
        · rw [there at_i] at has
          exact at_i (tidy.distinct j i other file has mine same)

/-- The file that a turn leaves behind for good: its size could not be read, or it was not removed. -/
def MediaStage.loses (s : TempDir) (turn : MediaTurn) : MediaStage → Option TempFile
  | measuring file => if s.files.contains file && !turn.size.toBool then some file else none
  | dropping file => if s.files.contains file && turn.removed.any fun fault => !fault.took then some file else none
  | apart | fetching _ | saving _ | holding _ => none

theorem mem_add {file other : TempFile} : other ∈ (s.add file).files ↔ other ∈ s.files ∨ other = file := by
  simp [TempDir.add]

theorem mem_drop {file other : TempFile} : other ∈ (s.drop file).files ↔ other ∈ s.files ∧ other ≠ file := by
  simp [TempDir.drop]

/-- A turn that leaves the attempt its file, and the other files. -/
theorem Tidy.keeps {file : TempFile} (tidy : Tidy first lost s stages) (grows : s.drawn ≤ s'.drawn)
    (has : (stages i).file? = some file) (still : new.file? = some file) (fits : new.Fits s')
    (others : ∀ other, other ≠ file → (other ∈ s'.files ↔ other ∈ s.files)) :
    Tidy first lost s' (Function.update stages i new) := by
  have updated := tidy.update [] grows (fun other mine => .inl (has.trans (still.symm.trans mine)))
    (fun other apart => others other fun same => apart (same ▸ has)) fits
    (fun other mine _ => .inl (still.trans (has.symm.trans mine))) (fun _ none_ => by cases none_)
  rwa [List.append_nil] at updated

/-- A turn that ends the attempt's stay with its file. -/
theorem Tidy.parts {file : TempFile} (tidy : Tidy first lost s stages) (more : List TempFile) (grows : s.drawn ≤ s'.drawn)
    (has : (stages i).file? = some file) (none_ : new.file? = none) (fits : new.Fits s')
    (others : ∀ other, other ≠ file → (other ∈ s'.files ↔ other ∈ s.files))
    (left : file ∈ s'.files → file ∈ more) (given : ∀ other ∈ more, other = file ∧ other ∈ s'.files) :
    Tidy first (lost ++ more) s' (Function.update stages i new) := by
  refine tidy.update more grows (fun other mine => ?_) (fun other apart => ?_) fits (fun other mine present => ?_)
    fun other member => ?_
  · rw [none_] at mine
    cases mine
  · apply others
    rintro rfl
    exact apart has
  · obtain rfl := Option.some.inj (has.symm.trans mine)
    exact .inr (left present)
  · obtain ⟨rfl, present⟩ := given other member
    exact ⟨has, present, none_⟩

theorem loses_measuring {file : TempFile} :
    (MediaStage.measuring file).loses s turn = if file ∈ s.files ∧ turn.size.toBool = false then some file else none := by
  simp [MediaStage.loses]

theorem loses_dropping {file : TempFile} :
    (MediaStage.dropping file).loses s turn =
      if file ∈ s.files ∧ ∃ fault, turn.removed = some fault ∧ fault.took = false then some file else none := by
  simp [MediaStage.loses, Option.any_eq_true]

theorem Tidy.move (tidy : Tidy first lost s stages) (moved : MediaMove (stages i) s turn s' new) :
    Tidy first (lost ++ ((stages i).loses s turn).toList) s' (Function.update stages i new) := by
  have fits := tidy.fits i
  generalize stage : stages i = old at moved fits
  have has {file : TempFile} (known : old.file? = some file) : (stages i).file? = some file := by rw [stage, known]
  cases moved with
  | rests files drawn =>
    refine tidy.update [] drawn (fun file mine => ?_) (fun file _ => by rw [files]) trivial (fun file mine _ => ?_)
      (fun _ none_ => by cases none_)
    · cases mine
    · rw [stage] at mine
      cases mine
  | names =>
    refine tidy.update [] (Nat.le_succ _) (fun file mine => ?_) (fun _ _ => .rfl) (fun member => ?_)
      (fun file mine _ => ?_) (fun _ none_ => by cases none_)
    · obtain rfl := Option.some.inj mine
      exact .inr ⟨by rw [stage]; rfl, rfl, Nat.lt_succ_self _⟩
    · exact Nat.lt_irrefl _ (tidy.drawn _ member)
    · rw [stage] at mine
      cases mine
  | fetches =>
    rw [MediaStage.loses, Option.toList_none, List.append_nil]
    exact tidy.keeps (Nat.le_refl _) (has rfl) rfl fits fun _ _ => .rfl
  | works files drawn =>
    rw [MediaStage.loses, Option.toList_none, List.append_nil]
    refine tidy.keeps drawn (has rfl) rfl ?_ fun _ _ => by rw [files]
    rw [MediaStage.Fits, files]
    exact fits
  | ends files drawn =>
    rw [MediaStage.loses, Option.toList_none, List.append_nil]
    exact tidy.keeps drawn (has rfl) rfl trivial fun _ _ => by rw [files]
  | measures sized files drawn =>
    rw [loses_measuring, if_neg (by simp [sized]), Option.toList_none, List.append_nil]
    refine tidy.keeps drawn (has rfl) rfl ?_ fun _ _ => by rw [files]
    rw [MediaStage.Fits, files]
    exact fits
  | rejects sized =>
    rw [loses_measuring, if_neg (by simp [sized]), Option.toList_none, List.append_nil]
    exact tidy.keeps (Nat.le_refl _) (has rfl) rfl trivial fun _ _ => .rfl
  | saves saved =>
    rw [MediaStage.loses, Option.toList_none, List.append_nil]
    exact tidy.keeps (Nat.le_refl _) (has rfl) rfl (mem_add.mpr (.inr rfl)) fun other apart => by simp [mem_add, apart]
  | @spoils _ _ file fault saved =>
    rw [MediaStage.loses, Option.toList_none, List.append_nil]
    have grows : s.drawn ≤ (if fault.took then s.add file else s).drawn := by split <;> exact Nat.le_refl _
    refine tidy.keeps grows (has rfl) rfl trivial fun other apart => ?_
    split
    · simp [mem_add, apart]
    · exact .rfl
  | abandons =>
    exact tidy.parts [] (Nat.le_refl _) (has rfl) rfl trivial (fun _ _ => .rfl) (fun member => absurd member fits)
      (fun _ none_ => by cases none_)
  | loses unsized =>
    have present : _ ∈ s.files := fits
    rw [loses_measuring, if_pos ⟨present, unsized present⟩, Option.toList_some]
    exact tidy.parts _ (Nat.le_refl _) (has rfl) rfl trivial (fun _ _ => .rfl) (fun _ => List.mem_singleton_self _)
      (fun other member => ⟨List.mem_singleton.mp member, List.mem_singleton.mp member ▸ present⟩)
  | @drops _ _ file =>
    have removes (took : ∀ fault, turn.removed = some fault → fault.took = true) :
        Tidy first (lost ++ ((MediaStage.dropping file).loses s turn).toList) (s.drop file)
          (Function.update stages i .apart) := by
      have none_ : ¬ (file ∈ s.files ∧ ∃ fault, turn.removed = some fault ∧ fault.took = false) := by
        rintro ⟨_, fault, failed, refused⟩
        rw [took fault failed] at refused
        cases refused
      rw [loses_dropping, if_neg none_]
      exact tidy.parts [] (Nat.le_refl _) (has rfl) rfl trivial (fun other apart => by simp [mem_drop, apart])
        (fun member => absurd rfl (mem_drop.mp member).2) (fun _ none_ => by cases none_)
    cases failed : turn.removed with
    | none =>
      rw [TempDir.attempt]
      exact removes fun fault some_ => by simp [failed] at some_
    | some fault =>
      simp only [TempDir.attempt]
      cases took : fault.took with
      | true =>
        rw [if_pos rfl]
        exact removes fun other some_ => by rwa [← Option.some.inj (failed.symm.trans some_)]
      | false =>
        rw [if_neg (by simp), loses_dropping]
        by_cases present : file ∈ s.files
        · rw [if_pos ⟨present, fault, failed, took⟩, Option.toList_some]
          exact tidy.parts _ (Nat.le_refl _) (has rfl) rfl trivial (fun _ _ => .rfl)
            (fun _ => List.mem_singleton_self _)
            (fun other member => ⟨List.mem_singleton.mp member, List.mem_singleton.mp member ▸ present⟩)
        · rw [if_neg (fun both => present both.1)]
          exact tidy.parts [] (Nat.le_refl _) (has rfl) rfl trivial (fun _ _ => .rfl) (fun member => absurd member present)
            (fun _ none_ => by cases none_)

end Files

section Runs

variable {env : MediaEnv} {start : TempDir} {pool : Pool downloadSignature Err TempDir}
  {visited : List (Pool downloadSignature Err TempDir × Turn × MediaTurn)}

/-- The file that the reply to a call leaves behind for good. -/
def DownloadCall.loses (s : TempDir) (turn : MediaTurn) : DownloadCall → Option TempFile
  | .stat file => if s.files.contains file && !turn.size.toBool then some file else none
  | .remove file => if s.files.contains file && turn.removed.any fun fault => !fault.took then some file else none
  | .media _ | .get _ | .pipeline _ | .ffmpeg _ _ => none

end Runs

end OrchestrateModel
