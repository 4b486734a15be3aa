import Orchestrate.Model.CreateWorkFlow

namespace OrchestrateModel

inductive UserRole : Type where
  | SUPER_ADMIN | ADMIN | USER
  deriving DecidableEq, Repr

def UserRole.text : UserRole → String
  | .SUPER_ADMIN => "super_admin"
  | .ADMIN => "admin"
  | .USER => "user"

structure Tenant where
  id : TenantId
  name : String
  deriving DecidableEq, Repr

structure User where
  id : UserId
  name : String
  email : String
  password : String
  role : UserRole
  tenantId : Option TenantId
  deriving DecidableEq, Repr

/-- A user with its relation `tenant`. -/
structure LoadedUser where
  user : User
  tenant : Option Tenant
  deriving DecidableEq, Repr

/-- The tables of the accounts; `drawn` counts the uuids drawn for them. -/
structure AuthDb where
  tenants : List Tenant
  users : List User
  drawn : Nat
  deriving DecidableEq

/-- The library that hashes passwords. A password matches its own hashes only, and none matches another text. -/
structure Bcrypt where
  hash : String → Nat → String
  compare : String → String → Bool
  compare_hash : ∀ p q salt, compare p (hash q salt) = true ↔ p = q
  compare_other : ∀ p stored, (∀ q salt, stored ≠ hash q salt) → compare p stored = false

namespace AuthDb

def empty : AuthDb := { tenants := [], users := [], drawn := 0 }

def findUser (db : AuthDb) (email : String) : Option User := db.users.find? fun user => user.email = email

def user? (db : AuthDb) (id : UserId) : Option User := db.users.find? fun user => user.id = id

/-- A condition that is undefined is no condition. -/
def findTenant (db : AuthDb) (name : Option String) : Option Tenant :=
  db.tenants.find? fun tenant => name.all (tenant.name = ·)

def load (db : AuthDb) (user : User) : LoadedUser :=
  { user := user, tenant := user.tenantId.bind fun id => db.tenants.find? fun tenant => tenant.id = id }

def insertTenant (db : AuthDb) (name : String) : Tenant × AuthDb :=
  let tenant : Tenant := { id := uuidText db.drawn, name := name }
  (tenant, { db with tenants := db.tenants ++ [tenant], drawn := db.drawn + 1 })

def insertUser (db : AuthDb) (name email password : String) (role : UserRole) (tenantId : TenantId) : User × AuthDb :=
  let user : User :=
    { id := uuidText db.drawn, name := name, email := email, password := password, role := role,
      tenantId := some tenantId }
  (user, { db with users := db.users ++ [user], drawn := db.drawn + 1 })

end AuthDb

def conflict (message : String) : Err := { name := "ConflictException", message := message }

def forbidden (message : String) : Err := { name := "ForbiddenException", message := message }

def unauthorized (message : String) : Err := { name := "UnauthorizedException", message := message }

def queryFailed (message : String) : Err := { name := "QueryFailedError", message := message }

/-- A text column of length 255. -/
def fits (texts : List String) : Except Err Unit :=
  if texts.all (·.length ≤ 255) then .ok () else .error (queryFailed "value too long for type character varying(255)")

structure RegisterDto where
  name : String
  email : String
  password : String
  tenantName : Option String
  deriving DecidableEq, Repr

structure CreateUserDto where
  name : String
  email : String
  password : String
  role : Option String
  deriving DecidableEq, Repr

structure LoginDto where
  email : String
  password : String
  tenantName : Option String
  deriving DecidableEq, Repr

/-- What a token says; the server signs it. -/
structure Session where
  sub : UserId
  email : String
  role : UserRole
  tenantId : Option TenantId
  deriving DecidableEq, Repr

structure CreatedUser where
  userId : UserId
  email : String
  role : UserRole
  tenantId : TenantId
  deriving DecidableEq, Repr

namespace AuthService

def issueToken (user : LoadedUser) : Session :=
  { sub := user.user.id, email := user.user.email, role := user.user.role, tenantId := user.tenant.map (·.id) }

/-- The transaction writes both rows or none. -/
def register (bcrypt : Bcrypt) (salt : Nat) (dto : RegisterDto) (db : AuthDb) : Except Err Session × AuthDb :=
  if (db.findUser dto.email).isSome then (.error (conflict "Email already in use"), db)
  else if (db.findTenant dto.tenantName).isSome then (.error (conflict "Company already exists"), db)
  else
    let hash := bcrypt.hash dto.password salt
    match dto.tenantName with
    | none => (.error (queryFailed "null value in column \"name\" violates not-null constraint"), db)
    | some tenantName =>
      match fits [tenantName, dto.name, dto.email, hash] with
      | .error error => (.error error, db)
      | .ok _ =>
        let (savedTenant, db) := db.insertTenant tenantName
        let (savedAdmin, db) := db.insertUser dto.name dto.email hash .ADMIN savedTenant.id
        (.ok (issueToken { user := savedAdmin, tenant := some savedTenant }), db)

def login (bcrypt : Bcrypt) (dto : LoginDto) (db : AuthDb) : Except Err Session :=
  let found := (db.findUser dto.email).map db.load
  if truthy dto.tenantName then
    match found with
    | none => .error (unauthorized "invalid credentals")
    | some user =>
      if user.tenant.any fun tenant => some tenant.name = dto.tenantName then
        if bcrypt.compare dto.password user.user.password then .ok (issueToken user)
        else .error (unauthorized "invalid credentals")
      else .error (unauthorized "invalid credentals")
  else
    -- the relation is not loaded on this path
    match db.findUser dto.email with
    | none => .error (unauthorized "invalid credentals")
    | some user =>
      if user.role = .SUPER_ADMIN then
        if bcrypt.compare dto.password user.password then .ok (issueToken { user := user, tenant := none })
        else .error (unauthorized "invalid credentals")
      else .error (unauthorized "invalid credentals")

/-- The column `role` as the database takes it: it has a default, and is an enumeration. -/
def roleColumn : Option String → Except Err UserRole
  | none => .ok .USER
  | some text =>
    if text = "super_admin" then .ok .SUPER_ADMIN
    else if text = "admin" then .ok .ADMIN
    else if text = "user" then .ok .USER
    else .error (queryFailed ("invalid input value for enum users_role_enum: \"" ++ text ++ "\""))

def createUserByAdmin (dto : CreateUserDto) (admin : LoadedUser) (db : AuthDb) : Except Err CreatedUser × AuthDb :=
  if admin.user.role ≠ .ADMIN then (.error (forbidden "Only admin can create users"), db)
  else if (db.findUser dto.email).isSome then (.error (conflict "Email already in use"), db)
  else
    match admin.tenant with
    | none => (.error { name := "TypeError", message := "Cannot read properties of null (reading 'id')" }, db)
    | some tenant =>
      match fits [dto.name, dto.email, dto.password], roleColumn dto.role with
      | .error error, _ | _, .error error => (.error error, db)
      | .ok _, .ok role =>
        let (saved, db) := db.insertUser dto.name dto.email dto.password role tenant.id
        (.ok { userId := saved.id, email := saved.email, role := saved.role, tenantId := tenant.id }, db)

end AuthService
end OrchestrateModel
