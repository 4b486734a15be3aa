import Orchestrate.Model.CreateWorkFlow
import Orchestrate.Workflow.Handlers

namespace OrchestrateModel

open Effect ChainService

variable {γ : Type} {env : Env} {gate : γ → JobQueuePayload → Except Err JobStatus × γ} {db : Db} {g : γ}
  {workFlowId : WorkFlowId} {userId : UserId} {tenantId : TenantId}

/-- The row of an item when `n` uuids have been drawn. -/
def itemRow (env : Env) (workFlowId : WorkFlowId) (userId : UserId) (tenantId : TenantId) (n : Nat)
    (item : WorkFlowItem) : Job :=
  { itemColumns workFlowId userId tenantId item with id := n, createdAt := env.createdAt n }

def itemRows (env : Env) (workFlowId : WorkFlowId) (userId : UserId) (tenantId : TenantId) :
    Nat → List WorkFlowItem → List Job
  | _, [] => []
  | n, item :: rest =>
    itemRow env workFlowId userId tenantId n item :: itemRows env workFlowId userId tenantId (n + 1) rest

def Db.addRows (db : Db) (rows : List Job) : Db :=
  { db with jobs := db.jobs ++ rows, drawn := db.drawn + rows.length }

def Db.addDeps (db : Db) (deps : List JobDependency) : Db := { db with deps := db.deps ++ deps }

theorem itemRows_length (n : Nat) (items : List WorkFlowItem) :
    (itemRows env workFlowId userId tenantId n items).length = items.length := by
  induction items generalizing n with
  | nil => rfl
  | cons item rest ih => simp [itemRows, ih]

theorem itemRows_ids (n : Nat) (items : List WorkFlowItem) :
    (itemRows env workFlowId userId tenantId n items).map (·.id) = List.range' n items.length := by
  induction items generalizing n with
  | nil => rfl
  | cons item rest ih => simp [itemRows, ih, itemRow, List.range'_succ]

theorem exists_item_of_row {n : Nat} {items : List WorkFlowItem} {row : Job}
    (member : row ∈ itemRows env workFlowId userId tenantId n items) :
    ∃ item ∈ items, ∃ m, row = itemRow env workFlowId userId tenantId m item := by
  induction items generalizing n with
  | nil => cases member
  | cons item rest ih =>
    rcases List.mem_cons.mp member with rfl | later
    · exact ⟨item, List.mem_cons_self, n, rfl⟩
    · obtain ⟨item', present, m, same⟩ := ih later
      exact ⟨item', List.mem_cons_of_mem item present, m, same⟩

/-- `jobMap` once the items have been saved. -/
def savedMap (env : Env) (workFlowId : WorkFlowId) (userId : UserId) (tenantId : TenantId) (n : Nat)
    (items : List WorkFlowItem) : List (String × Job) :=
  (items.map (·.key)).zip (itemRows env workFlowId userId tenantId n items)

theorem run_saveJobs (env : Env) (gate : γ → JobQueuePayload → Except Err JobStatus × γ) (db : Db) (g : γ)
    (workFlowId : WorkFlowId) (userId : UserId) (tenantId : TenantId) (items : List WorkFlowItem)
    (jobMap : List (String × Job)) :
    (∃ error saved, saved <+: items ∧ (∃ item ∈ items, item.key = "" ∨ item.type = "") ∧
      (saveJobs workFlowId userId tenantId items jobMap).run (serve env gate) (db, g) =
        (.thrown error, db.addRows (itemRows env workFlowId userId tenantId db.drawn saved), g)) ∨
    (saveJobs workFlowId userId tenantId items jobMap).run (serve env gate) (db, g) =
      (.ok (jobMap ++ savedMap env workFlowId userId tenantId db.drawn items),
        db.addRows (itemRows env workFlowId userId tenantId db.drawn items), g) := by
  induction items generalizing db jobMap with
  | nil =>
    right
    simp [saveJobs, savedMap, itemRows, Db.addRows]
  | cons item rest ih =>
    simp only [saveJobs, Program.bind_eq]
    by_cases invalid : item.key = "" ∨ item.type = ""
    · left
      rw [if_pos invalid]
      refine ⟨badRequest "Each job must have key and type", [], List.nil_prefix, ⟨item, List.mem_cons_self, invalid⟩, ?_⟩
      simp [itemRows, Db.addRows]
    · rw [if_neg invalid]
      let row := itemRow env workFlowId userId tenantId db.drawn item
      have inserted : (JobRepo.save (itemColumns workFlowId userId tenantId item)).run (serve env gate) (db, g) =
          (.ok row, db.addRows [row], g) := rfl
      rw [Program.run_bind_ok _ inserted]
      have drawn : (db.addRows [row]).drawn = db.drawn + 1 := rfl
      have added (rows : List Job) : (db.addRows [row]).addRows rows = db.addRows (row :: rows) := by
        simp [Db.addRows, Nat.add_comm, Nat.add_left_comm]
      rcases ih (db.addRows [row]) (jobMap ++ [(item.key, row)]) with
        ⟨error, saved, part, ⟨blank, later, lacks⟩, ran⟩ | ran
      · left
        refine ⟨error, item :: saved, (List.prefix_cons_inj item).mpr part,
          ⟨blank, List.mem_cons_of_mem item later, lacks⟩, ?_⟩
        rw [ran, drawn, added]
        rfl
      · right
        rw [ran, drawn, added]
        simp [savedMap, itemRows, row]

/-- The dependency of an item on one of its keys. -/
def depOf (jobMap : List (String × Job)) (item : WorkFlowItem) (parentKey : String) : Option JobDependency :=
  (jobMap.lookup parentKey).bind fun parentJob => (jobMap.lookup item.key).map fun childJob =>
    { parentJobId := parentJob.id, childJobId := childJob.id }

/-- A dependency that some item names. -/
def Named (jobMap : List (String × Job)) (items : List WorkFlowItem) (dep : JobDependency) : Prop :=
  ∃ item ∈ items, ∃ parentKey ∈ item.dependencies, depOf jobMap item parentKey = some dep

/-- The state of `saveDependencies` when the dependencies of some item and key pairs are saved: named ones
    are appended, with one for each of the pairs. -/
def Linked (db : Db) (g : γ) (jobMap : List (String × Job)) (items : List WorkFlowItem)
    (saved : WorkFlowItem → String → Prop) (s : Db × γ) : Prop :=
  ∃ deps, s = (db.addDeps deps, g) ∧ (∀ dep ∈ deps, Named jobMap items dep) ∧
    ∀ item parentKey, saved item parentKey → ∃ dep ∈ deps, depOf jobMap item parentKey = some dep

theorem Linked.mono {jobMap : List (String × Job)} {items : List WorkFlowItem}
    {saved saved' : WorkFlowItem → String → Prop} {s : Db × γ} (linked : Linked db g jobMap items saved s)
    (fewer : ∀ item parentKey, saved' item parentKey → saved item parentKey) :
    Linked db g jobMap items saved' s := by
  obtain ⟨deps, same, named, complete⟩ := linked
  exact ⟨deps, same, named, fun item parentKey member => complete item parentKey (fewer item parentKey member)⟩

/-- The error of a request that names a key without a job. -/
def Missing (jobMap : List (String × Job)) (items : List WorkFlowItem) (error : Err) : Prop :=
  (∃ message, error = badRequest message) ∧
    ∃ item ∈ items, ∃ parentKey ∈ item.dependencies, depOf jobMap item parentKey = none

theorem run_saveDependency {jobMap : List (String × Job)} {items : List WorkFlowItem} {item : WorkFlowItem}
    {parentKey : String} {saved : WorkFlowItem → String → Prop} {s : Db × γ} (present : item ∈ items)
    (named : parentKey ∈ item.dependencies) (linked : Linked db g jobMap items saved s) :
    (∃ s', (saveDependency jobMap item parentKey).run (serve env gate) s = (.ok (), s') ∧
      Linked db g jobMap items
        (fun item' parentKey' => saved item' parentKey' ∨ (item' = item ∧ parentKey' = parentKey)) s') ∨
    ∃ error s', (saveDependency jobMap item parentKey).run (serve env gate) s = (.thrown error, s') ∧
      Linked db g jobMap items saved s' ∧ Missing jobMap items error := by
  cases found : depOf jobMap item parentKey with
  | none =>
    have throws : saveDependency jobMap item parentKey =
        .throws (badRequest ("parent job " ++ item.dependsOnText ++ " not found")) := by
      unfold saveDependency
      unfold depOf at found
      cases parent : jobMap.lookup parentKey with
      | none => rfl
      | some parentJob =>
        cases child : jobMap.lookup item.key with
        | none => rfl
        | some childJob => simp [parent, child] at found
    rw [throws]
    exact .inr ⟨_, s, rfl, linked, ⟨_, rfl⟩, item, present, parentKey, named, found⟩
  | some dep =>
    have saves : saveDependency jobMap item parentKey = DepRepo.save dep.parentJobId dep.childJobId := by
      unfold saveDependency
      obtain ⟨parentJob, parent, rest⟩ := Option.bind_eq_some_iff.mp found
      obtain ⟨childJob, child, rfl⟩ := Option.map_eq_some_iff.mp rest
      rw [parent, child]
    have plain : dep = { parentJobId := dep.parentJobId, childJobId := dep.childJobId } := by
      obtain ⟨parentJob, parent, rest⟩ := Option.bind_eq_some_iff.mp found
      obtain ⟨childJob, child, rfl⟩ := Option.map_eq_some_iff.mp rest
      rfl
    obtain ⟨deps, rfl, names, complete⟩ := linked
    rw [saves, run_saveDep]
    refine .inl ⟨_, rfl, deps ++ [dep], ?_, ?_, ?_⟩
    · rw [Db.insertDep, ← plain]
      simp [Db.addDeps]
    · intro other member
      rcases List.mem_append.mp member with old | new
      · exact names other old
      · obtain rfl := List.mem_singleton.mp new
        exact ⟨item, present, parentKey, named, found⟩
    · intro item' parentKey' member
      rcases member with old | ⟨rfl, rfl⟩
      · obtain ⟨dep', kept, same⟩ := complete item' parentKey' old
        exact ⟨dep', List.mem_append_left _ kept, same⟩
      · exact ⟨dep, by simp, found⟩

theorem run_saveDependencies (env : Env) (gate : γ → JobQueuePayload → Except Err JobStatus × γ) (db : Db) (g : γ)
    (jobMap : List (String × Job)) (items : List WorkFlowItem) :
    (∃ s, (saveDependencies jobMap items).run (serve env gate) (db, g) = (.ok (), s) ∧
      Linked db g jobMap items (fun item parentKey => item ∈ items ∧ parentKey ∈ item.dependencies) s) ∨
    ∃ error s, (saveDependencies jobMap items).run (serve env gate) (db, g) = (.thrown error, s) ∧
      Linked db g jobMap items (fun _ _ => False) s ∧ Missing jobMap items error := by
  refine Program.run_forEach_or (serve env gate) items _
    (fun visited => Linked db g jobMap items fun item parentKey => item ∈ visited ∧ parentKey ∈ item.dependencies)
    (fun error s => Linked db g jobMap items (fun _ _ => False) s ∧ Missing jobMap items error)
    ⟨[], by simp [Db.addDeps], by simp, by simp⟩ ?_
  intro visited item s present linked
  have inner := Program.run_forEach_or (serve env gate) item.dependencies (saveDependency jobMap item)
    (fun keys => Linked db g jobMap items fun item' parentKey =>
      (item' ∈ visited ∧ parentKey ∈ item'.dependencies) ∨ (item' = item ∧ parentKey ∈ keys))
    (fun error s => Linked db g jobMap items (fun _ _ => False) s ∧ Missing jobMap items error)
    (linked.mono (by simp)) ?_
  · rcases inner with ⟨s', ran, linked'⟩ | broken
    · refine .inl ⟨s', ran, linked'.mono ?_⟩
      rintro item' parentKey ⟨member, named⟩
      rcases List.mem_append.mp member with old | new
      · exact .inl ⟨old, named⟩
      · obtain rfl := List.mem_singleton.mp new
        exact .inr ⟨rfl, named⟩
    · exact .inr broken
  · intro keys parentKey s named linked
    rcases run_saveDependency present named linked with ⟨s', ran, linked'⟩ | ⟨error, s', ran, linked', missing⟩
    · refine .inl ⟨s', ran, linked'.mono ?_⟩
      rintro item' parentKey' (old | ⟨rfl, member⟩)
      · exact .inl (.inl old)
      · rcases List.mem_append.mp member with old | new
        · exact .inl (.inr ⟨rfl, old⟩)
        · exact .inr ⟨rfl, List.mem_singleton.mp new⟩
    · exact .inr ⟨error, s', ran, linked'.mono (by simp), missing⟩

/-- The tables with the rows and dependencies of one new workflow appended. -/
structure Grown (db : Db) (workFlowId : WorkFlowId) (rows : List Job) (links : List JobDependency) (db' : Db) :
    Prop where
  jobs : db'.jobs = db.jobs ++ rows
  deps : db'.deps = db.deps ++ links
  drawn : db'.drawn = db.drawn + 1 + rows.length
  id : workFlowId = db.drawn
  ids : rows.map (·.id) = List.range' (db.drawn + 1) rows.length
  own : ∀ row ∈ rows, row.workFlowId = some workFlowId
  fresh : ∀ row ∈ rows, row.status = .READY ∨ row.status = .WAITING_FOR_DEPENDENCIES
  ends : ∀ dep ∈ links, (∃ parent ∈ rows, parent.id = dep.parentJobId) ∧
    ∃ child ∈ rows, child.id = dep.childJobId ∧ child.status = .WAITING_FOR_DEPENDENCIES

/-- Every waiting row has a parent. -/
def AllLinked (rows : List Job) (deps : List JobDependency) : Prop :=
  ∀ row ∈ rows, row.status = .WAITING_FOR_DEPENDENCIES → ∃ dep ∈ deps, dep.childJobId = row.id

theorem mem_of_lookup {key : String} {row : Job} {jobMap : List (String × Job)}
    (found : jobMap.lookup key = some row) : (key, row) ∈ jobMap := by
  induction jobMap with
  | nil => cases found
  | cons entry rest ih =>
    rw [List.lookup_cons] at found
    split at found
    · rename_i same
      obtain rfl := Option.some.inj found
      rw [beq_iff_eq] at same
      subst same
      exact List.mem_cons_self
    · exact List.mem_cons_of_mem entry (ih found)

theorem lookup_of_mem {key : String} {row : Job} {jobMap : List (String × Job)}
    (distinct : (jobMap.map (·.1)).Nodup) (member : (key, row) ∈ jobMap) : jobMap.lookup key = some row := by
  induction jobMap with
  | nil => cases member
  | cons entry rest ih =>
    rw [List.map_cons, List.nodup_cons] at distinct
    rw [List.lookup_cons]
    rcases List.mem_cons.mp member with rfl | later
    · simp
    · have apart : ¬ key = entry.1 := fun same => distinct.1 (same ▸ List.mem_map_of_mem later)
      rw [beq_eq_false_iff_ne.mpr apart]
      exact ih distinct.2 later

theorem mem_savedMap {n : Nat} {items : List WorkFlowItem} {key : String} {row : Job}
    (member : (key, row) ∈ savedMap env workFlowId userId tenantId n items) :
    row ∈ itemRows env workFlowId userId tenantId n items ∧
      ∃ item ∈ items, item.key = key ∧ ∃ m, row = itemRow env workFlowId userId tenantId m item := by
  refine ⟨(List.of_mem_zip member).2, ?_⟩
  induction items generalizing n with
  | nil => cases member
  | cons item rest ih =>
    rcases List.mem_cons.mp member with same | later
    · obtain ⟨rfl, rfl⟩ := Prod.mk.inj same
      exact ⟨item, List.mem_cons_self, rfl, n, rfl⟩
    · obtain ⟨item', present, own⟩ := ih later
      exact ⟨item', List.mem_cons_of_mem item present, own⟩

theorem exists_saved {n : Nat} {items : List WorkFlowItem} {row : Job}
    (member : row ∈ itemRows env workFlowId userId tenantId n items) :
    ∃ item ∈ items, (item.key, row) ∈ savedMap env workFlowId userId tenantId n items ∧
      ∃ m, row = itemRow env workFlowId userId tenantId m item := by
  induction items generalizing n with
  | nil => cases member
  | cons item rest ih =>
    rcases List.mem_cons.mp member with rfl | later
    · exact ⟨item, List.mem_cons_self, List.mem_cons_self, n, rfl⟩
    · obtain ⟨item', present, saved, own⟩ := ih later
      exact ⟨item', List.mem_cons_of_mem item present, List.mem_cons_of_mem _ saved, own⟩

theorem savedMap_keys (n : Nat) (items : List WorkFlowItem) :
    (savedMap env workFlowId userId tenantId n items).map (·.1) = items.map (·.key) :=
  List.map_fst_zip (by simp [itemRows_length])

theorem itemRow_status (m : Nat) (item : WorkFlowItem) :
    (itemRow env workFlowId userId tenantId m item).status =
      if item.dependencies.length > 0 then .WAITING_FOR_DEPENDENCIES else .READY := rfl

theorem grown_rows (env : Env) (db : Db) (userId : UserId) (tenantId : TenantId) (items : List WorkFlowItem)
    (deps : List JobDependency)
    (ends : ∀ dep ∈ deps,
      (∃ parent ∈ itemRows env db.drawn userId tenantId (db.drawn + 1) items, parent.id = dep.parentJobId) ∧
        ∃ child ∈ itemRows env db.drawn userId tenantId (db.drawn + 1) items,
          child.id = dep.childJobId ∧ child.status = .WAITING_FOR_DEPENDENCIES) :
    Grown db db.drawn (itemRows env db.drawn userId tenantId (db.drawn + 1) items) deps
      ((Db.addRows { db with drawn := db.drawn + 1 }
        (itemRows env db.drawn userId tenantId (db.drawn + 1) items)).addDeps deps) := by
  refine ⟨rfl, rfl, rfl, rfl, ?_, ?_, ?_, ends⟩
  · rw [itemRows_ids, itemRows_length]
  · intro row member
    obtain ⟨item, _, m, rfl⟩ := exists_item_of_row member
    rfl
  · intro row member
    obtain ⟨item, _, m, rfl⟩ := exists_item_of_row member
    rw [itemRow_status]
    split
    · exact .inr rfl
    · exact .inl rfl

theorem nodup_of_validate {items : List WorkFlowItem} (valid : validate items = .ok ()) :
    (items.map (·.key)).Nodup := by
  by_contra repeated
  simp only [validate] at valid
  split at valid
  · cases valid
  · simp at valid

/-- Every key in a `dependsOn` is the key of a job. -/
def KnownKeys (items : List WorkFlowItem) : Prop :=
  ∀ item ∈ items, ∀ parentKey ∈ item.dependencies, parentKey ∈ items.map (·.key)

/-- Every item is found in the map, and of the keys that it names those of jobs. -/
theorem depOf_isSome {items : List WorkFlowItem} {jobMap : List (String × Job)}
    (keys : jobMap.map (·.1) = items.map (·.key)) (distinct : (items.map (·.key)).Nodup) {item : WorkFlowItem}
    (present : item ∈ items) (parentKey : String) :
    (depOf jobMap item parentKey).isSome ↔ parentKey ∈ items.map (·.key) := by
  have found (key : String) : (jobMap.lookup key).isSome ↔ key ∈ items.map (·.key) := by
    rw [← keys]
    constructor
    · intro some_
      obtain ⟨row, read⟩ := Option.isSome_iff_exists.mp some_
      exact List.mem_map.mpr ⟨(key, row), mem_of_lookup read, rfl⟩
    · intro member
      obtain ⟨⟨key', row⟩, saved, rfl⟩ := List.mem_map.mp member
      rw [lookup_of_mem (keys ▸ distinct) saved]
      rfl
  have own := (found item.key).mpr (List.mem_map_of_mem present)
  obtain ⟨childJob, child⟩ := Option.isSome_iff_exists.mp own
  rw [depOf, child, ← found parentKey]
  cases jobMap.lookup parentKey <;> simp

/-- Named dependencies join saved rows, and the child waits. -/
theorem named_ends {items : List WorkFlowItem} (distinct : (items.map (·.key)).Nodup) {n : Nat}
    {dep : JobDependency} (named : Named (savedMap env workFlowId userId tenantId n items) items dep) :
    (∃ parent ∈ itemRows env workFlowId userId tenantId n items, parent.id = dep.parentJobId) ∧
      ∃ child ∈ itemRows env workFlowId userId tenantId n items,
        child.id = dep.childJobId ∧ child.status = .WAITING_FOR_DEPENDENCIES := by
  obtain ⟨item, present, parentKey, member, found⟩ := named
  obtain ⟨parentJob, parent, rest⟩ := Option.bind_eq_some_iff.mp found
  obtain ⟨childJob, child, rfl⟩ := Option.map_eq_some_iff.mp rest
  obtain ⟨parentRow, _⟩ := mem_savedMap (mem_of_lookup parent)
  obtain ⟨childRow, item', present', sameKey, m, own⟩ := mem_savedMap (mem_of_lookup child)
  obtain rfl : item' = item := List.inj_on_of_nodup_map distinct present' present sameKey
  refine ⟨⟨parentJob, parentRow, rfl⟩, childJob, childRow, rfl, ?_⟩
  rw [own, itemRow_status, if_pos (List.length_pos_of_mem member)]

theorem linked_rows {items : List WorkFlowItem} (distinct : (items.map (·.key)).Nodup) {n : Nat}
    {deps : List JobDependency}
    (complete : ∀ item parentKey, item ∈ items ∧ parentKey ∈ item.dependencies →
      ∃ dep ∈ deps, depOf (savedMap env workFlowId userId tenantId n items) item parentKey = some dep) :
    AllLinked (itemRows env workFlowId userId tenantId n items) deps := by
  intro row member waiting
  obtain ⟨item, present, saved, m, own⟩ := exists_saved member
  have dependent : 0 < item.dependencies.length := by
    by_contra none_
    rw [own, itemRow_status, if_neg none_] at waiting
    cases waiting
  obtain ⟨parentKey, named⟩ := List.exists_mem_of_length_pos dependent
  obtain ⟨dep, kept, found⟩ := complete item parentKey ⟨present, named⟩
  refine ⟨dep, kept, ?_⟩
  obtain ⟨parentJob, parent, rest⟩ := Option.bind_eq_some_iff.mp found
  obtain ⟨childJob, child, rfl⟩ := Option.map_eq_some_iff.mp rest
  have first := lookup_of_mem (by rw [savedMap_keys]; exact distinct) saved
  rw [first] at child
  obtain rfl := Option.some.inj child
  rfl

/-- Rows have distinct drawn ids and a drawn workflow, and dependencies stay within a workflow. -/
structure Db.Formed (db : Db) : Prop where
  keyed : db.Keyed
  ids : ∀ job ∈ db.jobs, job.id < db.drawn
  flows : ∀ job ∈ db.jobs, ∃ workFlowId, job.workFlowId = some workFlowId ∧ workFlowId < db.drawn
  ends : ∀ p c, db.Depends p c → ∃ workFlowId, db.workFlowOf p = some workFlowId ∧
    db.workFlowOf c = some workFlowId

theorem Db.formed_empty : Db.empty.Formed := by
  refine ⟨List.nodup_nil, ?_, ?_, ?_⟩
  · intro job member
    cases member
  · intro job member
    cases member
  · intro p c depends
    cases depends

theorem Db.Kept.formed {db db' : Db} (kept : Db.Kept db db') (formed : db.Formed) : db'.Formed := by
  have before {job : Job} (member : job ∈ db'.jobs) : ∃ job' ∈ db.jobs, job'.fixed = job.fixed := by
    have image : job.fixed ∈ db'.jobs.map Job.fixed := List.mem_map_of_mem member
    rw [kept.rows] at image
    exact List.mem_map.mp image
  refine ⟨kept.keyed formed.keyed, ?_, ?_, ?_⟩
  · intro job member
    obtain ⟨job', present, same⟩ := before member
    have bound := formed.ids job' present
    rw [kept.drawn]
    calc job.id = job'.id := by rw [← Job.fixed_id, ← same, Job.fixed_id]
      _ < db.drawn := bound
  · intro job member
    obtain ⟨job', present, same⟩ := before member
    obtain ⟨workFlowId, own, bound⟩ := formed.flows job' present
    refine ⟨workFlowId, ?_, by rwa [kept.drawn]⟩
    have column : job.fixed.workFlowId = job'.fixed.workFlowId := by rw [same]
    exact column.trans own
  · intro p c depends
    rw [kept.workFlowOf, kept.workFlowOf]
    exact formed.ends p c ((kept.depends p c).mp depends)

namespace Grown

variable {db' : Db} {rows : List Job} {links : List JobDependency} {x p c : JobId}

theorem range (grown : Grown db workFlowId rows links db') {row : Job} (member : row ∈ rows) :
    db.drawn < row.id ∧ row.id < db'.drawn := by
  have image : row.id ∈ rows.map (·.id) := List.mem_map_of_mem member
  rw [grown.ids, List.mem_range'_1] at image
  rw [grown.drawn]
  exact image

theorem drawn_le (grown : Grown db workFlowId rows links db') : db.drawn + 1 ≤ db'.drawn := by
  rw [grown.drawn]
  omega

theorem keyed_of_drawn (grown : Grown db workFlowId rows links db') (keyed : db.Keyed)
    (ids : ∀ job ∈ db.jobs, job.id < db.drawn) : db'.Keyed := by
  unfold Db.Keyed
  rw [grown.jobs, List.map_append, List.nodup_append]
  refine ⟨keyed, ?_, ?_⟩
  · rw [grown.ids]
    exact List.nodup_range'
  · intro old oldMember new newMember same
    obtain ⟨job, present, rfl⟩ := List.mem_map.mp oldMember
    obtain ⟨row, member, rfl⟩ := List.mem_map.mp newMember
    have apart : job.id < row.id := Nat.lt_trans (ids job present) (grown.range member).1
    rw [same] at apart
    exact Nat.lt_irrefl _ apart

theorem keyed (grown : Grown db workFlowId rows links db') (formed : db.Formed) : db'.Keyed :=
  grown.keyed_of_drawn formed.keyed formed.ids

theorem job?_new (grown : Grown db workFlowId rows links db') (formed : db.Formed) {row : Job}
    (member : row ∈ rows) : db'.job? row.id = some row := by
  apply Db.job?_of_mem (grown.keyed formed)
  rw [grown.jobs]
  exact List.mem_append_right _ member

theorem job?_old (grown : Grown db workFlowId rows links db') (formed : db.Formed) {job : Job}
    (found : db.job? x = some job) : db'.job? x = some job := by
  have own := Db.id_of_job? found
  subst own
  apply Db.job?_of_mem (grown.keyed formed)
  rw [grown.jobs]
  exact List.mem_append_left _ (Db.mem_of_job? found)

/-- Each id of the grown tables is an old one with its row, or that of a new row. -/
theorem job?_cases (grown : Grown db workFlowId rows links db') (formed : db.Formed) (x : JobId) :
    (db'.job? x = db.job? x ∧ ∀ row ∈ rows, row.id ≠ x) ∨ ∃ row ∈ rows, row.id = x ∧ db'.job? x = some row := by
  by_cases new : ∃ row ∈ rows, row.id = x
  · obtain ⟨row, member, rfl⟩ := new
    exact .inr ⟨row, member, rfl, grown.job?_new formed member⟩
  · have none_ : ∀ row ∈ rows, row.id ≠ x := fun row member same => new ⟨row, member, same⟩
    refine .inl ⟨?_, none_⟩
    simp only [Db.job?, grown.jobs, List.find?_append]
    have absent : rows.find? (fun job => job.id = x) = none := by
      simpa [List.find?_eq_none] using none_
    rw [absent, Option.or_none]

theorem status_old (grown : Grown db workFlowId rows links db') (formed : db.Formed) {status : JobStatus}
    (standing : db.status x = some status) : db'.status x = some status := by
  obtain ⟨job, row, rfl⟩ := Db.status_eq_some.mp standing
  simp [Db.status, grown.job?_old formed row]

theorem status_new (grown : Grown db workFlowId rows links db') (formed : db.Formed) {row : Job}
    (member : row ∈ rows) : db'.status row.id = some row.status := by
  simp [Db.status, grown.job?_new formed member]

/-- New rows have ids of their own. -/
theorem apart (grown : Grown db workFlowId rows links db') (formed : db.Formed) {status : JobStatus}
    (standing : db.status x = some status) : ∀ row ∈ rows, row.id ≠ x := by
  intro row member same
  obtain ⟨job, found, _⟩ := Db.status_eq_some.mp standing
  have bound := formed.ids job (Db.mem_of_job? found)
  rw [Db.id_of_job? found, ← same] at bound
  exact Nat.lt_irrefl _ (Nat.lt_trans bound (grown.range member).1)

theorem status_cases (grown : Grown db workFlowId rows links db') (formed : db.Formed) {status : JobStatus}
    (standing : db'.status x = some status) :
    db.status x = some status ∨ ∃ row ∈ rows, row.id = x ∧ row.status = status := by
  rcases grown.job?_cases formed x with ⟨same, _⟩ | ⟨row, member, rfl, _⟩
  · left
    rwa [Db.status, same] at standing
  · right
    rw [grown.status_new formed member] at standing
    exact ⟨row, member, rfl, Option.some.inj standing⟩

theorem depends (grown : Grown db workFlowId rows links db') :
    db'.Depends p c ↔ db.Depends p c ∨ ∃ dep ∈ links, dep.parentJobId = p ∧ dep.childJobId = c := by
  simp [Db.Depends, Db.edges, grown.deps]

theorem formed (grown : Grown db workFlowId rows links db') (formed : db.Formed) : db'.Formed := by
  refine ⟨grown.keyed formed, ?_, ?_, ?_⟩
  · intro job member
    rw [grown.jobs] at member
    rcases List.mem_append.mp member with old | new
    · exact Nat.lt_of_lt_of_le (formed.ids job old) (Nat.le_of_succ_le grown.drawn_le)
    · exact (grown.range new).2
  · intro job member
    rw [grown.jobs] at member
    rcases List.mem_append.mp member with old | new
    · obtain ⟨own, same, bound⟩ := formed.flows job old
      exact ⟨own, same, Nat.lt_of_lt_of_le bound (Nat.le_of_succ_le grown.drawn_le)⟩
    · refine ⟨workFlowId, grown.own job new, ?_⟩
      rw [grown.id]
      exact grown.drawn_le
  · intro p c depends
    rcases grown.depends.mp depends with old | ⟨dep, member, rfl, rfl⟩
    · obtain ⟨own, parent, child⟩ := formed.ends p c old
      obtain ⟨parentJob, parentRow, parent⟩ := Option.bind_eq_some_iff.mp parent
      obtain ⟨childJob, childRow, child⟩ := Option.bind_eq_some_iff.mp child
      refine ⟨own, ?_, ?_⟩
      · simp [Db.workFlowOf, grown.job?_old formed parentRow, parent]
      · simp [Db.workFlowOf, grown.job?_old formed childRow, child]
    · obtain ⟨⟨parent, parentRow, sameParent⟩, child, childRow, sameChild, _⟩ := grown.ends dep member
      refine ⟨workFlowId, ?_, ?_⟩
      · simp [Db.workFlowOf, ← sameParent, grown.job?_new formed parentRow, grown.own parent parentRow]
      · simp [Db.workFlowOf, ← sameChild, grown.job?_new formed childRow, grown.own child childRow]

end Grown

/-- `createWorkFlow` up to the schedule of the first job. -/
def prepare (items : List WorkFlowItem) (userId : UserId) (tenantId : TenantId) :
    ServiceProgram (WorkFlowId × List (String × Job)) :=
  (Program.ofExcept (validate items)).bind fun _ => randomUUID.bind fun workFlowId =>
    (saveJobs workFlowId userId tenantId items []).bind fun jobMap =>
      (saveDependencies jobMap items).bind fun _ => .done (workFlowId, jobMap)

theorem createWorkFlow_eq (items : List WorkFlowItem) (userId : UserId) (tenantId : TenantId) :
    createWorkFlow items userId tenantId = (prepare items userId tenantId).bind fun prepared =>
      (scheduleNextJob prepared.1 tenantId).bind fun _ =>
        .done (prepared.1, items.filterMap fun item => (prepared.2.lookup item.key).map fun createdJob =>
          { id := createdJob.id
            key := item.key
            type := createdJob.type
            status := createdJob.status
            priorityLevel := createdJob.priorityLevel
            dependsOn := item.dependencies
            workFlowId := createdJob.workFlowId }) := by
  simp only [createWorkFlow, prepare, Program.bind_eq, Program.pure_eq_done, Program.bind_assoc, Program.bind_done]

/-- All that `prepare` can do: reject the request, stop after saving some rows, or save them all. -/
theorem run_prepare (env : Env) (gate : γ → JobQueuePayload → Except Err JobStatus × γ) (db : Db) (g : γ)
    (userId : UserId) (tenantId : TenantId) (items : List WorkFlowItem) :
    (∃ error, validate items = .error error ∧
      (prepare items userId tenantId).run (serve env gate) (db, g) = (.thrown error, db, g)) ∨
    (∃ error rows links db', Grown db db.drawn rows links db' ∧
      ((∃ item ∈ items, item.key = "" ∨ item.type = "") ∨
        (¬ KnownKeys items ∧ ∃ message, error = badRequest message)) ∧
      (prepare items userId tenantId).run (serve env gate) (db, g) = (.thrown error, db', g)) ∨
    ∃ rows links db₁ jobMap, Grown db db.drawn rows links db₁ ∧ AllLinked rows links ∧
      (validate items = .ok () ∧ KnownKeys items) ∧
      (prepare items userId tenantId).run (serve env gate) (db, g) = (.ok (db.drawn, jobMap), db₁, g) := by
  unfold prepare
  cases valid : validate items with
  | error error => exact .inl ⟨error, rfl, rfl⟩
  | ok _ =>
    have distinct := nodup_of_validate valid
    simp only [Program.ofExcept, Program.bind_done]
    rw [Program.run_bind_ok _ (run_randomUUID env gate db g)]
    let drawn : Db := { db with drawn := db.drawn + 1 }
    have saves := run_saveJobs env gate drawn g db.drawn userId tenantId items []
    rcases saves with ⟨error, saved, part, blank, ran⟩ | ran
    · rw [Program.run_bind_thrown _ ran]
      exact .inr (.inl ⟨error, _, [], _, grown_rows env db userId tenantId saved [] (by simp), .inl blank,
        by simp [Db.addDeps]; rfl⟩)
    · rw [Program.run_bind_ok _ ran, List.nil_append]
      let jobMap := savedMap env db.drawn userId tenantId (db.drawn + 1) items
      have keys : jobMap.map (·.1) = items.map (·.key) := savedMap_keys _ items
      have links := run_saveDependencies env gate
        (drawn.addRows (itemRows env db.drawn userId tenantId (db.drawn + 1) items)) g jobMap items
      rcases links with ⟨s, linked, deps, rfl, named, complete⟩ |
        ⟨error, s, broken, ⟨deps, rfl, named, _⟩, bad, item, present, parentKey, names, unknown⟩
      · have grown := grown_rows env db userId tenantId items deps
          fun dep member => named_ends distinct (named dep member)
        have known : KnownKeys items := by
          intro item present parentKey names
          obtain ⟨dep, _, found⟩ := complete item parentKey ⟨present, names⟩
          apply (depOf_isSome keys distinct present parentKey).mp
          rw [found]
          rfl
        rw [Program.run_bind_ok _ linked]
        exact .inr (.inr ⟨_, deps, _, jobMap, grown, linked_rows distinct complete, ⟨trivial, known⟩, rfl⟩)
      · rw [Program.run_bind_thrown _ broken]
        have unknownKey : ¬ KnownKeys items := by
          intro known
          have found := (depOf_isSome keys distinct present parentKey).mpr (known item present parentKey names)
          rw [unknown] at found
          cases found
        exact .inr (.inl ⟨error, _, deps, _,
          grown_rows env db userId tenantId items deps fun dep member => named_ends distinct (named dep member),
          .inr ⟨unknownKey, bad⟩, rfl⟩)

/-- All that `createWorkFlow` can do: reject the request, stop after saving some rows, or save them all and
    schedule the first job. -/
theorem run_createWorkFlow (env : Env) (gate : γ → JobQueuePayload → Except Err JobStatus × γ) (g : γ)
    (formed : db.Formed) (userId : UserId) (tenantId : TenantId) (items : List WorkFlowItem) :
    (∃ error, validate items = .error error ∧
      (createWorkFlow items userId tenantId).run (serve env gate) (db, g) = (.thrown error, db, g)) ∨
    (∃ error rows links db', Grown db db.drawn rows links db' ∧
      ((∃ item ∈ items, item.key = "" ∨ item.type = "") ∨
        (¬ KnownKeys items ∧ ∃ message, error = badRequest message)) ∧
      (createWorkFlow items userId tenantId).run (serve env gate) (db, g) = (.thrown error, db', g)) ∨
    ∃ rows links db₁, Grown db db.drawn rows links db₁ ∧ AllLinked rows links ∧
      (validate items = .ok () ∧ KnownKeys items) ∧
      ∃ scheduled s, Scheduled env gate db.drawn db₁ g (scheduled, s) ∧
        ∃ created, (createWorkFlow items userId tenantId).run (serve env gate) (db, g) = (created, s) ∧
          (∀ reply, created = .ok reply → scheduled = .ok () ∧ reply.1 = db.drawn) ∧
          ∀ error, created = .thrown error → scheduled = .thrown error := by
  rw [createWorkFlow_eq]
  rcases run_prepare env gate db g userId tenantId items with
    ⟨error, invalid, ran⟩ | ⟨error, rows, links, db', grown, cause, ran⟩ |
      ⟨rows, links, db₁, jobMap, grown, linked, valid, ran⟩
  · exact .inl ⟨error, invalid, Program.run_bind_thrown _ ran⟩
  · exact .inr (.inl ⟨error, rows, links, db', grown, cause, Program.run_bind_thrown _ ran⟩)
  · rw [Program.run_bind_ok _ ran]
    refine .inr (.inr ⟨rows, links, db₁, grown, linked, valid, ?_⟩)
    have schedules := run_scheduleNextJob env gate g (grown.keyed formed) db.drawn tenantId
    rw [Program.run_bind]
    cases result : (scheduleNextJob db.drawn tenantId).run (serve env gate) (db₁, g) with
    | mk scheduled s =>
      rw [result] at schedules
      refine ⟨scheduled, s, schedules, ?_⟩
      cases scheduled with
      | ok value =>
        refine ⟨_, rfl, fun reply same => ⟨rfl, ?_⟩, fun error same => (by cases same)⟩
        obtain rfl := Outcome.ok.inj same
        rfl
      | thrown error => exact ⟨_, rfl, fun reply same => (by cases same), fun other same => by simpa using same⟩
      | hung => exact ⟨_, rfl, fun reply same => (by cases same), fun error same => by cases same⟩

end OrchestrateModel
