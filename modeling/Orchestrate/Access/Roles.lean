import Orchestrate.Access.Credentials
import Orchestrate.Model.Api
import Orchestrate.Submission.Entry

namespace OrchestrateModel

open Effect AuthService

/-- A row is created, or a row that was not QUEUED becomes QUEUED. -/
def Db.Enqueues (before after : Db) : Prop :=
  before.jobs.length < after.jobs.length ∨
    ∃ id, (before.job? id).any (·.status ≠ .QUEUED) = true ∧ (after.job? id).any (·.status = .QUEUED) = true

theorem Db.not_enqueues {before after : Db} (same : after.jobs = before.jobs) : ¬ before.Enqueues after := by
  rintro (longer | ⟨id, other, queued⟩)
  · rw [same] at longer
    exact Nat.lt_irrefl _ longer
  · rw [Db.job?, same] at queued
    rw [Db.job?] at other
    cases found : before.jobs.find? fun job => job.id = id with
    | none => simp [found] at queued
    | some job =>
      simp only [found, Option.any_some, decide_eq_true_eq, ne_eq] at other queued
      exact other queued

namespace Site

variable {γ : Type} {bcrypt : Bcrypt} {gate : γ → JobQueuePayload → Except Err JobStatus × γ} {s s' : Site γ}
  {call : HttpCall}

def empty (g : γ) : Site γ := { auth := .empty, tokens := [], db := .empty, gate := g }

def NoSuperAdmin (s : Site γ) : Prop := ∀ user ∈ s.auth.users, user.role ≠ .SUPER_ADMIN

def IsAdmin (s : Site γ) (call : HttpCall) : Prop :=
  ∃ user, s.caller call = .ok (some user) ∧ user.user.role = .ADMIN

/-- The request touches rows only if its authenticated user is an admin. -/
def ByAdmin (bcrypt : Bcrypt) (gate : γ → JobQueuePayload → Except Err JobStatus × γ) (s : Site γ) (call : HttpCall) :
    Prop :=
  s.db.Enqueues (s.handle bcrypt gate call).2.db → s.IsAdmin call

/-- The user of a request that passes the guards, with its tenant. -/
def signedIn (s : Site γ) (call : HttpCall) : Option (LoadedUser × Tenant) :=
  match s.caller call with
  | .error _ => none
  | .ok user => (authUser user).toOption

/-- The body asks for a super admin, and nothing else in it is refused. -/
def makesSuperAdmin (s : Site γ) (call : HttpCall) : Bool :=
  match call.request with
  | .createUsers dto =>
    (s.signedIn call).isSome &&
      ((s.auth.findUser dto.email).isNone && (fits [dto.name, dto.email, dto.password]).toBool) &&
      dto.role = some "super_admin"
  | _ => false

/-- A user that is no admin schedules a job, and the row is not refused. -/
def schedulesAsUser (s : Site γ) (call : HttpCall) : Bool :=
  match call.request with
  | .schedule dto =>
    (s.signedIn call).any (fun user => user.1.user.role ≠ .ADMIN) && dto.validate.toBool &&
      !s.db.holdsKey dto.idempotencyKey
  | _ => false

def Disciplined (s : Site γ) (call : HttpCall) : Prop := ¬ s.makesSuperAdmin call ∧ ¬ s.schedulesAsUser call

instance (s : Site γ) (call : HttpCall) : Decidable (s.Disciplined call) := inferInstanceAs (Decidable (_ ∧ _))

end Site

/-- The server takes one request after another; a request that is refused is a step too. -/
def server {γ : Type} (bcrypt : Bcrypt) (gate : γ → JobQueuePayload → Except Err JobStatus × γ) :
    Machine (Site γ) HttpCall :=
  ⟨fun s call => some (s.handle bcrypt gate call).2⟩

namespace Site

variable {γ : Type} {bcrypt : Bcrypt} {gate : γ → JobQueuePayload → Except Err JobStatus × γ} {s s' : Site γ}
  {call : HttpCall}

/-- Behind `@Roles("admin")` every caller is an admin. -/
theorem caller_admin {user : LoadedUser} (decorated : call.request.route.roles = ["admin"])
    (passed : s.caller call = .ok (some user)) : user.user.role = .ADMIN := by
  unfold caller at passed
  cases loaded : JwtAuthGuard.canActivate s.auth s.tokens call.request.route call.token with
  | error error => simp [loaded] at passed
  | ok found =>
    rw [loaded] at passed
    dsimp only at passed
    cases guarded : RoleGuard.canActivate call.request.route found with
    | error error => simp [guarded] at passed
    | ok _ =>
      simp only [guarded, Except.ok.injEq] at passed
      subst passed
      rw [RoleGuard.canActivate, decorated, List.length_singleton, if_neg Nat.one_ne_zero] at guarded
      by_cases named : user.user.role.text ∈ ["admin"]
      · rw [List.mem_singleton] at named
        cases role : user.user.role with
        | ADMIN => rfl
        | SUPER_ADMIN | USER => simp [role, UserRole.text] at named
      · simp [named] at guarded

theorem signedIn_eq_some {user : LoadedUser} {tenant : Tenant} (signed : s.signedIn call = some (user, tenant)) :
    s.caller call = .ok (some user) ∧ user.tenant = some tenant := by
  unfold signedIn at signed
  cases passed : s.caller call with
  | error error => simp [passed] at signed
  | ok found =>
    simp only [passed] at signed
    cases found with
    | none => simp [authUser, Except.toOption] at signed
    | some other =>
      cases owned : other.tenant with
      | none => simp [authUser, owned, Except.toOption] at signed
      | some own =>
        simp only [authUser, owned, Except.toOption, Option.some.injEq, Prod.mk.injEq] at signed
        obtain ⟨rfl, rfl⟩ := signed
        exact ⟨rfl, owned⟩

/-- What a request leaves behind, where a controller works for a user: it changes nothing unless a user is signed in
    and its body is valid. -/
theorem handle_asUser (bcrypt : Bcrypt) (gate : γ → JobQueuePayload → Except Err JobStatus × γ) (s : Site γ)
    (call : HttpCall) {valid : Except Err Unit} {method : LoadedUser → Tenant → Outcome Err ApiReply × Site γ}
    (routed : ∀ user, s.dispatch bcrypt gate user call.env call.request = s.asUser user valid method) :
    ((s.signedIn call = none ∨ valid.toBool = false) ∧ (s.handle bcrypt gate call).2 = s) ∨
      ∃ user tenant, s.signedIn call = some (user, tenant) ∧ valid.toBool = true ∧
        (s.handle bcrypt gate call).2 = (method user tenant).2 := by
  unfold handle signedIn
  cases s.caller call with
  | error error => exact .inl ⟨.inl rfl, rfl⟩
  | ok user =>
    dsimp only
    rw [routed]
    unfold asUser
    cases authUser user with
    | error error => exact .inl ⟨.inl rfl, by cases valid <;> rfl⟩
    | ok found =>
      cases valid with
      | error error => exact .inl ⟨.inr rfl, rfl⟩
      | ok _ => exact .inr ⟨found.1, found.2, rfl, rfl, rfl⟩

theorem serving_auth {α : Type} (s : Site γ) (env : Env) (program : ServiceProgram α) (reply : α → ApiReply) :
    (s.serving gate env program reply).2.auth = s.auth := by
  unfold serving
  cases program.run (serve env gate) (s.db, s.gate) with
  | mk outcome left => cases outcome <;> rfl

theorem serving_db {α : Type} (s : Site γ) (env : Env) (program : ServiceProgram α) (reply : α → ApiReply) :
    (s.serving gate env program reply).2.db = (program.run (serve env gate) (s.db, s.gate)).2.1 := by
  unfold serving
  cases program.run (serve env gate) (s.db, s.gate) with
  | mk outcome left => cases outcome <;> rfl

theorem register_users (salt : Nat) (dto : RegisterDto) (db : AuthDb) :
    (AuthService.register bcrypt salt dto db).2.users = db.users ∨
      ∃ user, user.role = .ADMIN ∧ (AuthService.register bcrypt salt dto db).2.users = db.users ++ [user] := by
  unfold AuthService.register
  split
  · exact .inl rfl
  · split
    · exact .inl rfl
    · cases dto.tenantName with
      | none => exact .inl rfl
      | some tenantName =>
        dsimp only
        split
        · exact .inl rfl
        · exact .inr ⟨_, rfl, rfl⟩

/-- An admin's request adds a user with the role it names, or is refused. -/
theorem createUserByAdmin_users {admin : LoadedUser} {tenant : Tenant} (dto : CreateUserDto) (db : AuthDb)
    (isAdmin : admin.user.role = .ADMIN) (owned : admin.tenant = some tenant) :
    (((db.findUser dto.email).isNone && (fits [dto.name, dto.email, dto.password]).toBool) = false ∧
        (createUserByAdmin dto admin db).2 = db) ∨
      ((db.findUser dto.email).isNone && (fits [dto.name, dto.email, dto.password]).toBool) = true ∧
        ((∃ error, roleColumn dto.role = .error error ∧ (createUserByAdmin dto admin db).2 = db) ∨
          ∃ user, roleColumn dto.role = .ok user.role ∧
            (createUserByAdmin dto admin db).2.users = db.users ++ [user]) := by
  unfold createUserByAdmin
  simp only [isAdmin, owned, ne_eq, not_true_eq_false, if_false]
  cases db.findUser dto.email with
  | some other => exact .inl ⟨rfl, rfl⟩
  | none =>
    cases fits [dto.name, dto.email, dto.password] with
    | error error => exact .inl ⟨rfl, rfl⟩
    | ok _ =>
      refine .inr ⟨rfl, ?_⟩
      cases roleColumn dto.role with
      | error error => exact .inl ⟨error, rfl, rfl⟩
      | ok role => exact .inr ⟨_, rfl, rfl⟩

theorem roleColumn_superAdmin {role : Option String} : roleColumn role = .ok .SUPER_ADMIN ↔ role = some "super_admin" := by
  unfold roleColumn
  cases role with
  | none => simp
  | some text =>
    simp only [Option.some.injEq]
    split
    · simp [*]
    · split
      · simp [*]
      · split <;> simp [*]

theorem noSuperAdmin_of_users (clean : s.NoSuperAdmin) (same : s'.auth.users = s.auth.users) : s'.NoSuperAdmin := by
  intro user present
  rw [same] at present
  exact clean user present

theorem noSuperAdmin_snoc {user : User} (clean : s.NoSuperAdmin) (added : s'.auth.users = s.auth.users ++ [user]) :
    s'.NoSuperAdmin ↔ user.role ≠ .SUPER_ADMIN := by
  unfold NoSuperAdmin
  rw [added, List.forall_mem_append, List.forall_mem_singleton]
  exact ⟨fun both => both.2, fun last => ⟨clean, last⟩⟩

/-- Requests for a job leave the accounts alone. -/
theorem noSuperAdmin_serving {valid : Except Err Unit} {α : Type} {program : LoadedUser → Tenant → ServiceProgram α}
    {reply : α → ApiReply} (clean : s.NoSuperAdmin)
    (routed : ∀ user, s.dispatch bcrypt gate user call.env call.request =
      s.asUser user valid fun user tenant => s.serving gate call.env (program user tenant) reply) :
    (s.handle bcrypt gate call).2.NoSuperAdmin := by
  rcases handle_asUser bcrypt gate s call routed with ⟨_, same⟩ | ⟨user, tenant, _, _, same⟩
  · rwa [same]
  · apply noSuperAdmin_of_users clean
    rw [same, serving_auth]

theorem caller_public (open_ : call.request.route.isPublic = true) (undecorated : call.request.route.roles = []) :
    s.caller call = .ok none := by
  simp [caller, JwtAuthGuard.canActivate, RoleGuard.canActivate, open_, undecorated]

/-- No super admin is made but by the one body that asks for it. -/
theorem noSuperAdmin_iff (clean : s.NoSuperAdmin) :
    (s.handle bcrypt gate call).2.NoSuperAdmin ↔ ¬ s.makesSuperAdmin call := by
  unfold makesSuperAdmin
  cases request : call.request with
  | register salt dto =>
    have left : (s.handle bcrypt gate call).2.auth = (AuthService.register bcrypt salt dto s.auth).2 := by
      rw [handle, caller_public (by rw [request]; rfl) (by rw [request]; rfl)]
      dsimp only
      rw [request, dispatch]
      cases AuthService.register bcrypt salt dto s.auth with
      | mk result auth => cases result <;> rfl
    simp only [Bool.false_eq_true, not_false_eq_true, iff_true]
    rcases register_users salt dto s.auth with same | ⟨user, isAdmin, added⟩
    · exact noSuperAdmin_of_users clean (by rw [left, same])
    · rw [noSuperAdmin_snoc clean (by rw [left, added]), isAdmin]
      exact UserRole.noConfusion
  | login dto =>
    have left : (s.handle bcrypt gate call).2.auth = s.auth := by
      rw [handle, caller_public (by rw [request]; rfl) (by rw [request]; rfl)]
      dsimp only
      rw [request, dispatch]
      cases login bcrypt dto s.auth <;> rfl
    simp only [Bool.false_eq_true, not_false_eq_true, iff_true]
    exact noSuperAdmin_of_users clean (by rw [left])
  | createUsers dto =>
    dsimp only
    rcases handle_asUser bcrypt gate s call (fun user => by rw [request]; rfl)
      with ⟨refused, same⟩ | ⟨user, tenant, signed, _, same⟩
    · have nobody : s.signedIn call = none := refused.resolve_right Bool.noConfusion
      rw [same, nobody]
      simpa using clean
    · obtain ⟨passed, owned⟩ := signedIn_eq_some signed
      have isAdmin : user.user.role = .ADMIN := caller_admin (by rw [request]; rfl) passed
      have left : (s.handle bcrypt gate call).2.auth = (createUserByAdmin dto user s.auth).2 := by
        rw [same]
        cases createUserByAdmin dto user s.auth with
        | mk result auth => cases result <;> rfl
      rw [signed, Option.isSome_some, Bool.true_and]
      rcases createUserByAdmin_users dto s.auth isAdmin owned with
        ⟨refused, kept⟩ | ⟨accepted, ⟨error, column, kept⟩ | ⟨created, column, added⟩⟩
      · rw [refused]
        simpa using noSuperAdmin_of_users clean (by rw [left, kept])
      · have other : dto.role ≠ some "super_admin" := by
          intro named
          rw [roleColumn_superAdmin.mpr named] at column
          cases column
        simpa [accepted, other] using noSuperAdmin_of_users clean (by rw [left, kept])
      · rw [noSuperAdmin_snoc clean (by rw [left, added]), accepted, Bool.true_and, decide_eq_true_eq,
          ← roleColumn_superAdmin, column, Except.ok.injEq]
  | createJob dto =>
    simpa using noSuperAdmin_serving clean fun user => by rw [request]; rfl
  | schedule dto =>
    simpa using noSuperAdmin_serving clean fun user => by rw [request]; rfl
  | batch jobs =>
    simpa using noSuperAdmin_serving clean fun user => by rw [request]; rfl
  | workflow jobs =>
    simpa using noSuperAdmin_serving clean fun user => by rw [request]; rfl
  | retry id =>
    simpa using noSuperAdmin_serving clean fun user => by rw [request]; rfl

/-- Requests behind `@Roles("admin")` are made by admins. -/
theorem byAdmin_serving {valid : Except Err Unit} {method : LoadedUser → Tenant → Outcome Err ApiReply × Site γ}
    (decorated : call.request.route.roles = ["admin"])
    (routed : ∀ user, s.dispatch bcrypt gate user call.env call.request = s.asUser user valid method) :
    s.ByAdmin bcrypt gate call := by
  intro enqueues
  rcases handle_asUser bcrypt gate s call routed with ⟨_, same⟩ | ⟨user, tenant, signed, _, _⟩
  · rw [same] at enqueues
    exact absurd enqueues (Db.not_enqueues rfl)
  · obtain ⟨passed, _⟩ := signedIn_eq_some signed
    exact ⟨user, passed, caller_admin decorated passed⟩

theorem recurringSaved_jobs (db : Db) (dto : CreateJobDto) (userId : UserId) (tenantId : TenantId) :
    (JobsService.recurringSaved db dto userId tenantId).2.jobs = db.jobs := by
  unfold JobsService.recurringSaved
  split <;> rfl

/-- `createAndEnqueue` creates its row unless the key is taken. -/
theorem createAndEnqueue_jobs (gate : γ → JobQueuePayload → Except Err JobStatus × γ) (env : Env) (db : Db) (g : γ)
    (dto : CreateJobDto) (userId : UserId) (tenantId : TenantId) :
    (db.holdsKey dto.idempotencyKey = true ∧
        ((JobsService.createAndEnqueue dto userId tenantId).run (serve env gate) (db, g)).2.1.jobs = db.jobs) ∨
      db.holdsKey dto.idempotencyKey = false ∧ ∃ row,
        ((JobsService.createAndEnqueue dto userId tenantId).run (serve env gate) (db, g)).2.1.jobs = db.jobs ++ [row] := by
  rw [JobsService.run_createAndEnqueue]
  dsimp only
  by_cases taken : db.holdsKey dto.idempotencyKey = true
  · rw [if_pos taken]
    exact .inl ⟨taken, recurringSaved_jobs db dto userId tenantId⟩
  · rw [if_neg taken, run_enqueueRow_db]
    refine .inr ⟨by simpa using taken, ?_⟩
    rw [Db.insertJob, recurringSaved_jobs]
    exact ⟨_, rfl⟩

/-- A row is touched by an admin's request, except where a user schedules a job. -/
theorem byAdmin_iff : s.ByAdmin bcrypt gate call ↔ ¬ s.schedulesAsUser call := by
  unfold schedulesAsUser
  cases request : call.request with
  | register salt dto =>
    have left : (s.handle bcrypt gate call).2.db = s.db := by
      rw [handle, caller_public (by rw [request]; rfl) (by rw [request]; rfl)]
      dsimp only
      rw [request, dispatch]
      cases AuthService.register bcrypt salt dto s.auth with
      | mk result auth => cases result <;> rfl
    simp only [Bool.false_eq_true, not_false_eq_true, iff_true]
    exact fun enqueues => absurd enqueues (Db.not_enqueues (by rw [left]))
  | login dto =>
    have left : (s.handle bcrypt gate call).2.db = s.db := by
      rw [handle, caller_public (by rw [request]; rfl) (by rw [request]; rfl)]
      dsimp only
      rw [request, dispatch]
      cases login bcrypt dto s.auth <;> rfl
    simp only [Bool.false_eq_true, not_false_eq_true, iff_true]
    exact fun enqueues => absurd enqueues (Db.not_enqueues (by rw [left]))
  | createUsers dto => simpa using byAdmin_serving (by rw [request]; rfl) fun user => by rw [request]; rfl
  | createJob dto => simpa using byAdmin_serving (by rw [request]; rfl) fun user => by rw [request]; rfl
  | batch jobs => simpa using byAdmin_serving (by rw [request]; rfl) fun user => by rw [request]; rfl
  | workflow jobs => simpa using byAdmin_serving (by rw [request]; rfl) fun user => by rw [request]; rfl
  | retry id => simpa using byAdmin_serving (by rw [request]; rfl) fun user => by rw [request]; rfl
  | schedule dto =>
    dsimp only
    rcases handle_asUser bcrypt gate s call (fun user => by rw [request]; rfl)
      with ⟨refused, same⟩ | ⟨user, tenant, signed, valid, same⟩
    · have still : s.ByAdmin bcrypt gate call := by
        intro enqueues
        rw [same] at enqueues
        exact absurd enqueues (Db.not_enqueues rfl)
      rcases refused with nobody | invalid
      · simpa [nobody] using still
      · simpa [invalid] using still
    · obtain ⟨passed, _⟩ := signedIn_eq_some signed
      have admin : s.IsAdmin call ↔ user.user.role = .ADMIN := by
        constructor
        · rintro ⟨other, found, isAdmin⟩
          rw [passed] at found
          rwa [← Option.some.inj (Except.ok.inj found)] at isAdmin
        · exact fun isAdmin => ⟨user, passed, isAdmin⟩
      rw [signed, Option.any_some, valid, Bool.and_true, Bool.and_eq_true, decide_eq_true_eq, Bool.not_eq_true',
        ByAdmin, admin, same, serving_db]
      rcases createAndEnqueue_jobs gate call.env s.db s.gate dto user.user.id tenant.id with
        ⟨taken, kept⟩ | ⟨free, row, added⟩
      · rw [taken]
        simpa using fun enqueues => absurd enqueues (Db.not_enqueues kept)
      · have enqueues : s.db.Enqueues
            ((JobsService.createAndEnqueue dto user.user.id tenant.id).run (serve call.env gate) (s.db, s.gate)).2.1 := by
          left
          rw [added, List.length_append]
          exact Nat.lt_succ_self _
        simp [free, enqueues]

/-- The step lemma: what a request needs so that roles stay disciplined. -/
theorem disciplined_iff (clean : s.NoSuperAdmin) :
    s.Disciplined call ↔ (s.handle bcrypt gate call).2.NoSuperAdmin ∧ s.ByAdmin bcrypt gate call :=
  and_congr (noSuperAdmin_iff clean).symm byAdmin_iff.symm

/-- Over every run, roles are respected exactly when no admin asks for a super admin and no other user schedules. -/
theorem roles_disciplined {start : Site γ} {visited : List (Site γ × HttpCall)} (clean : start.NoSuperAdmin)
    (run : (server bcrypt gate).Run start visited s) :
    ((∀ v ∈ visited, v.1.NoSuperAdmin) ∧ s.NoSuperAdmin ∧ Machine.Guarded (ByAdmin bcrypt gate) visited) ↔
      Machine.Guarded Disciplined visited := by
  apply run.fine_iff NoSuperAdmin clean
  intro s call s' clean step
  obtain rfl := Option.some.inj step
  exact disciplined_iff clean

def accept (_ : Unit) (_ : JobQueuePayload) : Except Err JobStatus × Unit := (.ok .QUEUED, ())

def asked (token : Option Session) (request : ApiRequest) : HttpCall := { token := token, request := request, env := .plain }

def ada : Session := { sub := uuidText 1, email := "ada@acme.test", role := .ADMIN, tenantId := some (uuidText 0) }

def adaRegisters : HttpCall :=
  asked none (.register 0 { name := "Ada", email := "ada@acme.test", password := "secret1", tenantName := some "Acme" })

def submitted : List HttpCall :=
  [adaRegisters, asked (some ada) (.createJob { jobType := "ocr", metadata := [] }),
    asked (some ada) (.createUsers { name := "Bob", email := "bob@acme.test", password := "secret2", role := some "user" })]

theorem roles_disciplined_submitted :
    ∃ s, (server Accounts.marked accept).exec (empty ()) submitted = some s ∧ s.db.jobs.length = 1 ∧ s.NoSuperAdmin ∧
      Machine.Guarded (ByAdmin Accounts.marked accept) ((server Accounts.marked accept).trace (empty ()) submitted) := by
  have done : ((server Accounts.marked accept).exec (empty ()) submitted).any (fun s => s.db.jobs.length = 1) = true := by
    decide +kernel
  obtain ⟨s, ran, one⟩ := (Option.any_eq_true _ _).mp done
  have guarded : Machine.Guarded Disciplined ((server Accounts.marked accept).trace (empty ()) submitted) := by
    decide +kernel
  have clean : (empty ()).NoSuperAdmin := fun user present => nomatch present
  obtain ⟨_, last, byAdmins⟩ := (roles_disciplined clean (Machine.run_of_exec ran)).mpr guarded
  exact ⟨s, ran, of_decide_eq_true one, last, byAdmins⟩

def eve : Session := { sub := uuidText 2, email := "eve@acme.test", role := .SUPER_ADMIN, tenantId := some (uuidText 0) }

def usurped : List HttpCall :=
  [adaRegisters,
    asked (some ada)
      (.createUsers
        { name := "Eve", email := "eve@acme.test", password := Accounts.marked.hash "secret3" 0, role := some "super_admin" }),
    asked none (.login { email := "eve@acme.test", password := "secret3", tenantName := some "Acme" }),
    asked (some eve) (.schedule { jobType := "ocr", metadata := [] })]

/-- An admin creates a super admin, who then submits a job through the route without roles. -/
theorem superAdmin_schedules :
    ∃ s, (server Accounts.marked accept).exec (empty ()) usurped = some s ∧ s.db.jobs.length = 1 ∧ ¬ s.NoSuperAdmin ∧
      ¬ Machine.Guarded (ByAdmin Accounts.marked accept) ((server Accounts.marked accept).trace (empty ()) usurped) := by
  have done : ((server Accounts.marked accept).exec (empty ()) usurped).any (fun s =>
      s.db.jobs.length = 1 ∧ s.auth.users.any fun user => user.role = .SUPER_ADMIN) = true := by decide +kernel
  obtain ⟨s, ran, facts⟩ := (Option.any_eq_true _ _).mp done
  obtain ⟨one, made⟩ := of_decide_eq_true facts
  refine ⟨s, ran, one, ?_, ?_⟩
  · intro clean
    obtain ⟨user, present, isSuper⟩ := List.any_eq_true.mp made
    exact clean user present (of_decide_eq_true isSuper)
  · intro byAdmins
    have bypassed : ¬ ∀ v ∈ (server Accounts.marked accept).trace (empty ()) usurped, ¬ v.1.schedulesAsUser v.2 := by
      decide +kernel
    exact bypassed fun v member => byAdmin_iff.mp (byAdmins v member)

end Site
end OrchestrateModel
