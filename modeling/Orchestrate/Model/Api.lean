import Orchestrate.Model.Auth
import Orchestrate.Model.Jobs

namespace OrchestrateModel

open Effect

inductive Route : Type where
  | register | createUsers | login | createJob | schedule | batch | workflow | retry
  | getJob | listJobs | listRecurring | stopRecurring
  deriving DecidableEq, Repr

namespace Route

/-- `@Public()`. -/
def isPublic : Route → Bool
  | .register | .login => true
  | .createUsers | .createJob | .schedule | .batch | .workflow | .retry
  | .getJob | .listJobs | .listRecurring | .stopRecurring => false

/-- `@Roles(..)`; a route without the decorator has no roles. -/
def roles : Route → List String
  | .createUsers | .createJob | .batch | .workflow | .retry => ["admin"]
  | .register | .login | .schedule | .getJob | .listJobs | .listRecurring | .stopRecurring => []

end Route

/-- A request with the body that its route takes. -/
inductive ApiRequest : Type where
  | register (salt : Nat) (dto : RegisterDto)
  | createUsers (dto : CreateUserDto)
  | login (dto : LoginDto)
  | createJob (dto : CreateJobDto)
  | schedule (dto : CreateJobDto)
  | batch (jobs : List BatchJobItem)
  | workflow (jobs : List WorkFlowItem)
  | retry (id : JobId)

def ApiRequest.route : ApiRequest → Route
  | .register _ _ => .register
  | .createUsers _ => .createUsers
  | .login _ => .login
  | .createJob _ => .createJob
  | .schedule _ => .schedule
  | .batch _ => .batch
  | .workflow _ => .workflow
  | .retry _ => .retry

inductive ApiReply : Type where
  | token (session : Session)
  | user (user : CreatedUser)
  | job (job : Job)
  | batch (batchId : Nat) (jobs : List BatchReply)
  | workflow (workFlowId : WorkFlowId) (jobs : List WorkFlowReply)

/-- A request as it arrives: the bearer token of its header, and what the database decides while it is served. -/
structure HttpCall where
  token : Option Session
  request : ApiRequest
  env : Env

/-- The server: the accounts, the tokens it signed, the tables, and what answers `submitJob`. -/
structure Site (γ : Type) where
  auth : AuthDb
  tokens : List Session
  db : Db
  gate : γ

def typeError (message : String) : Err := { name := "TypeError", message := message }

/-- `JwtAuthGuard`, with the strategy that loads the user of a token. -/
def JwtAuthGuard.canActivate (auth : AuthDb) (tokens : List Session) (route : Route) (token : Option Session) :
    Except Err (Option LoadedUser) :=
  if route.isPublic then .ok none
  else
    match token with
    | none => .error (unauthorized "Unauthorized")
    | some session =>
      if session ∈ tokens then
        match auth.user? session.sub with
        | none => .error (unauthorized "User not found")
        | some user => .ok (some (auth.load user))
      else .error (unauthorized "Unauthorized")

def RoleGuard.canActivate (route : Route) (user : Option LoadedUser) : Except Err Unit :=
  if route.roles.length = 0 then .ok ()
  else
    match user with
    | none => .error (forbidden "user not authenticated")
    | some user =>
      if user.user.role.text ∈ route.roles then .ok ()
      else .error (forbidden "Access Denied: insufficient role")

/-- The decorator `@AuthUser()`: it reads the tenant's id. -/
def authUser (user : Option LoadedUser) : Except Err (LoadedUser × Tenant) :=
  match user with
  | none => .error (typeError "Cannot read properties of null (reading 'id')")
  | some user =>
    match user.tenant with
    | none => .error (typeError "Cannot read properties of null (reading 'id')")
    | some tenant => .ok (user, tenant)

/-- The validation of `CreateJobDto`; the other bodies have no class, so nothing is checked. -/
def CreateJobDto.validate (dto : CreateJobDto) : Except Err Unit :=
  if dto.retries.all (· ≤ 10) then .ok ()
  else .error (badRequest "retries must not be greater than 10")

namespace Site

variable {γ : Type} (bcrypt : Bcrypt) (gate : γ → JobQueuePayload → Except Err JobStatus × γ)

/-- The user that the two guards let through. -/
def caller (s : Site γ) (call : HttpCall) : Except Err (Option LoadedUser) :=
  match JwtAuthGuard.canActivate s.auth s.tokens call.request.route call.token with
  | .error error => .error error
  | .ok user =>
    match RoleGuard.canActivate call.request.route user with
    | .error error => .error error
    | .ok _ => .ok user

/-- A service's call over the tables. -/
def serving {α : Type} (s : Site γ) (env : Env) (program : ServiceProgram α) (reply : α → ApiReply) :
    Outcome Err ApiReply × Site γ :=
  let (outcome, db, answers) := program.run (serve env gate) (s.db, s.gate)
  let s := { s with db := db, gate := answers }
  match outcome with
  | .ok value => (.ok (reply value), s)
  | .thrown error => (.thrown error, s)
  | .hung => (.hung, s)

/-- A controller's method with its `@AuthUser()` argument and its validated body. -/
def asUser (s : Site γ) (user : Option LoadedUser) (valid : Except Err Unit)
    (method : LoadedUser → Tenant → Outcome Err ApiReply × Site γ) : Outcome Err ApiReply × Site γ :=
  match authUser user, valid with
  | .error error, _ | _, .error error => (.thrown error, s)
  | .ok (user, tenant), .ok _ => method user tenant

/-- The controllers. -/
def dispatch (s : Site γ) (user : Option LoadedUser) (env : Env) : ApiRequest → Outcome Err ApiReply × Site γ
  | .register salt dto =>
    match AuthService.register bcrypt salt dto s.auth with
    | (.ok session, auth) => (.ok (.token session), { s with auth := auth, tokens := s.tokens ++ [session] })
    | (.error error, auth) => (.thrown error, { s with auth := auth })
  | .createUsers dto =>
    s.asUser user (.ok ()) fun admin _ =>
      match AuthService.createUserByAdmin dto admin s.auth with
      | (.ok created, auth) => (.ok (.user created), { s with auth := auth })
      | (.error error, auth) => (.thrown error, { s with auth := auth })
  | .login dto =>
    match AuthService.login bcrypt dto s.auth with
    | .ok session => (.ok (.token session), { s with tokens := s.tokens ++ [session] })
    | .error error => (.thrown error, s)
  | .createJob dto =>
    s.asUser user dto.validate fun user tenant =>
      s.serving gate env
        (JobsService.createAndEnqueue { dto with priorityLevel := some (dto.priorityLevel.getD .NONE) } user.user.id
          tenant.id) .job
  | .schedule dto =>
    s.asUser user dto.validate fun user tenant =>
      s.serving gate env (JobsService.createAndEnqueue dto user.user.id tenant.id) .job
  | .batch jobs =>
    s.asUser user (.ok ()) fun user tenant =>
      s.serving gate env (BatchJobService.submitBatch jobs user.user.id tenant.id) fun reply =>
        .batch reply.1 reply.2
  | .workflow jobs =>
    s.asUser user (.ok ()) fun user tenant =>
      s.serving gate env (ChainService.createWorkFlow jobs user.user.id tenant.id) fun reply =>
        .workflow reply.1 reply.2
  | .retry id =>
    s.asUser user (.ok ()) fun user tenant =>
      s.serving gate env (JobsService.retryFailedJob id user.user.id tenant.id) .job

def handle (s : Site γ) (call : HttpCall) : Outcome Err ApiReply × Site γ :=
  match s.caller call with
  | .error error => (.thrown error, s)
  | .ok user => s.dispatch bcrypt gate user call.env call.request

end Site
end OrchestrateModel
