import Orchestrate.Effect.Machine
import Orchestrate.Model.Auth

namespace OrchestrateModel

open Effect AuthService

/-- The password a user was created with. -/
structure Account where
  userId : UserId
  password : String
  deriving DecidableEq, Repr

structure Accounts where
  db : AuthDb
  created : List Account
  deriving DecidableEq

inductive AccountEvent : Type where
  | register (salt : Nat) (dto : RegisterDto)
  | createUser (dto : CreateUserDto) (adminId : UserId)
  deriving DecidableEq

namespace AuthDb

/-- The user belongs to a tenant of the name. -/
def Belongs (db : AuthDb) (user : User) (tenantName : String) : Prop :=
  ∃ tenant ∈ db.tenants, user.tenantId = some tenant.id ∧ tenant.name = tenantName

/-- Ids are drawn once, and no two users share an email. -/
structure Sound (db : AuthDb) : Prop where
  ids : (db.users.map (·.id)).Nodup
  emails : (db.users.map (·.email)).Nodup
  tenants : (db.tenants.map (·.id)).Nodup
  drawn : ∀ n, db.drawn ≤ n → uuidText n ∉ db.users.map (·.id) ∧ uuidText n ∉ db.tenants.map (·.id)

end AuthDb

namespace Accounts

def empty : Accounts := { db := .empty, created := [] }

/-- A call that succeeds. -/
def step (bcrypt : Bcrypt) (s : Accounts) : AccountEvent → Option Accounts
  | .register salt dto =>
    match AuthService.register bcrypt salt dto s.db with
    | (.ok session, db) => some { db := db, created := s.created ++ [⟨session.sub, dto.password⟩] }
    | (.error _, _) => none
  | .createUser dto adminId => do
    let admin ← s.db.user? adminId
    match createUserByAdmin dto (s.db.load admin) s.db with
    | (.ok user, db) => some { db := db, created := s.created ++ [⟨user.userId, dto.password⟩] }
    | (.error _, _) => none

/-- Who logs in, naming a tenant, is a user of that tenant and has the password it was created with. -/
def RoundTrip (bcrypt : Bcrypt) (s : Accounts) : Prop :=
  ∀ email password tenantName, tenantName ≠ "" →
    ((∃ session, login bcrypt ⟨email, password, some tenantName⟩ s.db = .ok session) ↔
      ∃ user ∈ s.db.users, user.email = email ∧ s.db.Belongs user tenantName ∧ ⟨user.id, password⟩ ∈ s.created)

/-- No user's column holds the password itself. -/
def Hidden (s : Accounts) : Prop :=
  ∀ user ∈ s.db.users, ∀ account ∈ s.created, account.userId = user.id → user.password ≠ account.password

/-- The user is created by a registration, with a password that is not its own hash. -/
def Hashes (bcrypt : Bcrypt) (_ : Accounts) : AccountEvent → Prop
  | .register salt dto => bcrypt.hash dto.password salt ≠ dto.password
  | .createUser _ _ => False

instance (bcrypt : Bcrypt) (s : Accounts) : DecidablePred (Hashes bcrypt s)
  | .register salt dto => inferInstanceAs (Decidable (bcrypt.hash dto.password salt ≠ dto.password))
  | .createUser _ _ => isFalse id

end Accounts

def accounts (bcrypt : Bcrypt) : Machine Accounts AccountEvent := ⟨Accounts.step bcrypt⟩

theorem nodup_snoc {α : Type} {l : List α} {x : α} (distinct : l.Nodup ∧ x ∉ l) : (l ++ [x]).Nodup := by
  rw [← List.concat_eq_append]
  exact List.nodup_concat l x |>.mpr ⟨distinct.2, distinct.1⟩

namespace AuthDb

variable {db : AuthDb} {user : User}

theorem sound_empty : AuthDb.empty.Sound where
  ids := .nil
  emails := .nil
  tenants := .nil
  drawn := by simp [empty]

theorem findUser_eq_none {email : String} (absent : db.findUser email = none) : email ∉ db.users.map (·.email) := by
  intro member
  obtain ⟨user, present, same⟩ := List.mem_map.mp member
  simpa [same] using List.find?_eq_none.mp absent user present

/-- Emails are unique, so the lookup finds the user. -/
theorem Sound.findUser_eq (sound : db.Sound) (present : user ∈ db.users) : db.findUser user.email = some user := by
  cases found : db.findUser user.email with
  | none => exact absurd (List.mem_map_of_mem present) (findUser_eq_none found)
  | some other =>
    have member := List.mem_of_find?_eq_some found
    have same : other.email = user.email := by simpa using List.find?_some found
    exact congrArg some (List.inj_on_of_nodup_map sound.emails member present same)

theorem findUser_some {email : String} (found : db.findUser email = some user) :
    user ∈ db.users ∧ user.email = email :=
  ⟨List.mem_of_find?_eq_some found, by simpa using List.find?_some found⟩

/-- The relation `tenant`, as `login` judges it by its name. -/
theorem Sound.load_named (sound : db.Sound) (user : User) (tenantName : String) :
    ((db.load user).tenant.any fun tenant => some tenant.name = some tenantName) = true ↔
      db.Belongs user tenantName := by
  simp only [Option.any_eq_true, decide_eq_true_eq, Option.some.injEq, load]
  constructor
  · rintro ⟨tenant, loaded, named⟩
    obtain ⟨id, owned, found⟩ := Option.bind_eq_some_iff.mp loaded
    have same : tenant.id = id := by simpa using List.find?_some found
    exact ⟨tenant, List.mem_of_find?_eq_some found, by rw [owned, same], named⟩
  · rintro ⟨tenant, present, owned, named⟩
    refine ⟨tenant, ?_, named⟩
    rw [owned, Option.bind_some]
    cases found : db.tenants.find? fun other => other.id = tenant.id with
    | none => simpa using List.find?_eq_none.mp found tenant present
    | some other =>
      have same : other.id = tenant.id := by simpa using List.find?_some found
      have member := List.mem_of_find?_eq_some found
      exact congrArg some (List.inj_on_of_nodup_map sound.tenants member present same)

theorem Sound.insertTenant (sound : db.Sound) (name : String) : (db.insertTenant name).2.Sound where
  ids := sound.ids
  emails := sound.emails
  tenants := by
    simp only [AuthDb.insertTenant, List.map_append, List.map_cons, List.map_nil]
    exact nodup_snoc ⟨sound.tenants, (sound.drawn db.drawn (Nat.le_refl _)).2⟩
  drawn := by
    intro n later
    have later' : db.drawn < n := later
    obtain ⟨unused, fresh⟩ := sound.drawn n (Nat.le_of_lt later')
    refine ⟨unused, ?_⟩
    simp only [AuthDb.insertTenant, List.map_append, List.map_cons, List.map_nil, List.mem_append, List.mem_singleton,
      not_or]
    exact ⟨fresh, fun same => Nat.ne_of_gt later' (uuidText_inj same)⟩

theorem Sound.insertUser (sound : db.Sound) {email : String} (unused : email ∉ db.users.map (·.email))
    (name password : String) (role : UserRole) (tenantId : TenantId) :
    (db.insertUser name email password role tenantId).2.Sound where
  ids := by
    simp only [AuthDb.insertUser, List.map_append, List.map_cons, List.map_nil]
    exact nodup_snoc ⟨sound.ids, (sound.drawn db.drawn (Nat.le_refl _)).1⟩
  emails := by
    simp only [AuthDb.insertUser, List.map_append, List.map_cons, List.map_nil]
    exact nodup_snoc ⟨sound.emails, unused⟩
  tenants := sound.tenants
  drawn := by
    intro n later
    have later' : db.drawn < n := later
    obtain ⟨fresh, free⟩ := sound.drawn n (Nat.le_of_lt later')
    refine ⟨?_, free⟩
    simp only [AuthDb.insertUser, List.map_append, List.map_cons, List.map_nil, List.mem_append, List.mem_singleton,
      not_or]
    exact ⟨fresh, fun same => Nat.ne_of_gt later' (uuidText_inj same)⟩

end AuthDb

namespace AuthService

variable {bcrypt : Bcrypt} {salt : Nat} {db db' : AuthDb}

/-- A registration that succeeds draws two ids, for the company and for its admin. -/
theorem register_ok {dto : RegisterDto} {session : Session}
    (done : AuthService.register bcrypt salt dto db = (.ok session, db')) :
    ∃ tenantName, dto.tenantName = some tenantName ∧ db.findUser dto.email = none ∧
      session.sub = uuidText (db.drawn + 1) ∧
      db' = ((db.insertTenant tenantName).2.insertUser dto.name dto.email (bcrypt.hash dto.password salt) .ADMIN
        (uuidText db.drawn)).2 := by
  unfold AuthService.register at done
  split at done
  · cases done
  · rename_i unused
    split at done
    · cases done
    · cases named : dto.tenantName with
      | none => simp [named] at done
      | some tenantName =>
        simp only [named] at done
        split at done
        · cases done
        · obtain ⟨issued, written⟩ := Prod.mk.inj done
          have same := Except.ok.inj issued
          exact ⟨tenantName, rfl, by simpa using unused, by rw [← same]; rfl, written.symm⟩

theorem createUserByAdmin_ok {dto : CreateUserDto} {admin : LoadedUser} {user : CreatedUser}
    (done : createUserByAdmin dto admin db = (.ok user, db')) :
    ∃ tenant role, admin.user.role = .ADMIN ∧ admin.tenant = some tenant ∧ roleColumn dto.role = .ok role ∧
      db.findUser dto.email = none ∧ user.userId = uuidText db.drawn ∧
      db' = (db.insertUser dto.name dto.email dto.password role tenant.id).2 := by
  unfold createUserByAdmin at done
  split at done
  · cases done
  · rename_i isAdmin
    split at done
    · cases done
    · rename_i unused
      cases owned : admin.tenant with
      | none => simp [owned] at done
      | some tenant =>
        simp only [owned] at done
        split at done
        · cases done
        · cases done
        · rename_i role _ column
          obtain ⟨created, written⟩ := Prod.mk.inj done
          have same := Except.ok.inj created
          exact ⟨tenant, role, by simpa using isAdmin, rfl, column, by simpa using unused, by rw [← same]; rfl,
            written.symm⟩

end AuthService

namespace Accounts

variable {bcrypt : Bcrypt} {s s' : Accounts} {event : AccountEvent}

/-- Every user was created with one password, and ids are not reused. -/
structure Kept (s : Accounts) : Prop where
  sound : s.db.Sound
  ids : s.created.map (·.userId) = s.db.users.map (·.id)

/-- What a step writes: one user, whose id is new, with the password that it was asked for beside it. -/
theorem step_adds (kept : s.Kept) (step : s.step bcrypt event = some s') :
    ∃ user account, s'.db.users = s.db.users ++ [user] ∧ s'.created = s.created ++ [account] ∧
      account.userId = user.id ∧
      (∀ salt dto, event = .register salt dto →
        account.password = dto.password ∧ user.password = bcrypt.hash dto.password salt) ∧
      (∀ dto adminId, event = .createUser dto adminId → user.password = account.password) ∧ s'.Kept := by
  cases event with
  | register salt dto =>
    simp only [Accounts.step] at step
    split at step
    · rename_i session db' done
      obtain rfl := Option.some.inj step
      obtain ⟨tenantName, _, unused, issued, rfl⟩ := register_ok done
      have free : dto.email ∉ (s.db.insertTenant tenantName).2.users.map (·.email) := AuthDb.findUser_eq_none unused
      refine ⟨_, _, rfl, rfl, issued, ?_, ?_, (kept.sound.insertTenant tenantName).insertUser free _ _ _ _, ?_⟩
      · rintro salt' dto' same
        obtain ⟨rfl, rfl⟩ := AccountEvent.register.inj same
        exact ⟨rfl, rfl⟩
      · rintro dto' adminId same
        cases same
      · simp only [AuthDb.insertUser, AuthDb.insertTenant, List.map_append, kept.ids, List.map_cons, List.map_nil, issued]
    · cases step
  | createUser dto adminId =>
    obtain ⟨admin, _, step⟩ := Option.bind_eq_some_iff.mp step
    split at step
    · rename_i user db' done
      obtain rfl := Option.some.inj step
      obtain ⟨tenant, role, _, _, _, unused, issued, rfl⟩ := createUserByAdmin_ok done
      refine ⟨_, _, rfl, rfl, issued, ?_, ?_, kept.sound.insertUser (AuthDb.findUser_eq_none unused) _ _ _ _, ?_⟩
      · rintro salt' dto' same
        cases same
      · rintro dto' adminId' same
        obtain ⟨rfl, rfl⟩ := AccountEvent.createUser.inj same
        rfl
      · simp only [AuthDb.insertUser, List.map_append, kept.ids, List.map_cons, List.map_nil, issued]
    · cases step

/-- Each user's column is a hash of the password that the user was created with. -/
def Hashed (bcrypt : Bcrypt) (s : Accounts) : Prop :=
  ∀ user ∈ s.db.users, ∀ account ∈ s.created, account.userId = user.id →
    user.password ≠ account.password ∧ ∃ salt, user.password = bcrypt.hash account.password salt

/-- A user that stands at the end of both lists is paired with nothing before it. -/
theorem Kept.paired_snoc (kept : s.Kept) (kept' : s'.Kept) {new : User} {account : Account} {P : User → Account → Prop}
    (users : s'.db.users = s.db.users ++ [new]) (created : s'.created = s.created ++ [account])
    (own : account.userId = new.id)
    (earlier : ∀ user ∈ s.db.users, ∀ account ∈ s.created, account.userId = user.id → P user account)
    (last : P new account) :
    ∀ user ∈ s'.db.users, ∀ account ∈ s'.created, account.userId = user.id → P user account := by
  have distinct := kept'.sound.ids
  rw [users, List.map_append, List.map_singleton, ← List.concat_eq_append, List.nodup_concat] at distinct
  have fresh : new.id ∉ s.db.users.map (·.id) := distinct.1
  intro user present other noted same
  rw [users, List.mem_append, List.mem_singleton] at present
  rw [created, List.mem_append, List.mem_singleton] at noted
  rcases present with present | rfl <;> rcases noted with noted | rfl
  · exact earlier user present other noted same
  · exact absurd (List.mem_map_of_mem (f := User.id) present) (by rwa [← same, own])
  · have known := List.mem_map_of_mem (f := Account.userId) noted
    rw [kept.ids, same] at known
    exact absurd known fresh
  · exact last

theorem step_hashed (kept : s.Kept) (hashed : s.Hashed bcrypt) (allowed : s.Hashes bcrypt event)
    (step : s.step bcrypt event = some s') : s'.Hashed bcrypt := by
  obtain ⟨user, account, users, created, own, registered, _, kept'⟩ := step_adds kept step
  refine kept.paired_snoc kept' users created own hashed ?_
  cases event with
  | createUser dto adminId => exact absurd allowed id
  | register salt dto =>
    obtain ⟨asked, stored⟩ := registered salt dto rfl
    rw [asked, stored]
    exact ⟨allowed, salt, rfl⟩

/-- A column that holds the password stays, so only a step that hides the password leads to a state that does. -/
theorem step_hidden (kept : s.Kept) (hidden : s'.Hidden) (step : s.step bcrypt event = some s') :
    s.Hidden ∧ s.Hashes bcrypt event := by
  obtain ⟨user, account, users, created, own, registered, given, _⟩ := step_adds kept step
  have last : user.password ≠ account.password := by
    apply hidden user _ account _ own
    · simp [users]
    · simp [created]
  constructor
  · intro other present account' noted same
    apply hidden other _ account' _ same
    · simp [users, present]
    · simp [created, noted]
  · cases event with
    | createUser dto adminId => exact last (given dto adminId rfl)
    | register salt dto =>
      obtain ⟨asked, stored⟩ := registered salt dto rfl
      rw [asked, stored] at last
      exact last

theorem login_named {email password tenantName : String} {db : AuthDb} (named : tenantName ≠ "") :
    (∃ session, login bcrypt ⟨email, password, some tenantName⟩ db = .ok session) ↔
      ∃ user, db.findUser email = some user ∧
        ((db.load user).tenant.any fun tenant => some tenant.name = some tenantName) = true ∧
        bcrypt.compare password user.password = true := by
  have asked : truthy (some tenantName) = true := by simp [truthy, named]
  simp only [login, asked, if_true]
  cases db.findUser email with
  | none => simp
  | some user =>
    simp only [Option.map_some, Option.some.injEq, exists_eq_left']
    split
    · rename_i belongs
      split
      · rename_i agrees
        exact ⟨fun _ => ⟨belongs, agrees⟩, fun _ => ⟨_, rfl⟩⟩
      · rename_i differs
        refine ⟨fun named => ?_, fun both => absurd both.2 differs⟩
        obtain ⟨_, done⟩ := named
        cases done
    · rename_i foreign
      refine ⟨fun named => ?_, fun both => absurd both.1 foreign⟩
      obtain ⟨_, done⟩ := named
      cases done

/-- Where the columns hold hashes, `login` checks the password the user was created with. -/
theorem Hashed.roundTrip (kept : s.Kept) (hashed : s.Hashed bcrypt) : s.RoundTrip bcrypt := by
  intro email password tenantName named
  rw [login_named named]
  constructor
  · rintro ⟨user, found, belongs, agrees⟩
    obtain ⟨present, same⟩ := AuthDb.findUser_some found
    have known : user.id ∈ s.created.map (·.userId) := by
      rw [kept.ids]
      exact List.mem_map_of_mem present
    obtain ⟨account, noted, own⟩ := List.mem_map.mp known
    obtain ⟨_, salt, stored⟩ := hashed user present account noted own
    rw [stored, bcrypt.compare_hash] at agrees
    have whole : (⟨user.id, password⟩ : Account) = account := by rw [agrees, ← own]
    exact ⟨user, present, same, (kept.sound.load_named user tenantName).mp belongs, by rw [whole]; exact noted⟩
  · rintro ⟨user, present, rfl, belongs, noted⟩
    obtain ⟨_, salt, stored⟩ := hashed user present _ noted rfl
    refine ⟨user, kept.sound.findUser_eq present, (kept.sound.load_named user tenantName).mpr belongs, ?_⟩
    rw [stored]
    exact (bcrypt.compare_hash _ _ _).mpr rfl

theorem kept_empty : empty.Kept := ⟨AuthDb.sound_empty, rfl⟩

theorem hashed_empty : empty.Hashed bcrypt := by
  intro user present
  cases present

theorem Hashed.hidden (hashed : s.Hashed bcrypt) : s.Hidden :=
  fun user present account noted own => (hashed user present account noted own).1

theorem run_kept {visited : List (Accounts × AccountEvent)} (run : (accounts bcrypt).Run empty visited s) : s.Kept := by
  apply run.always Kept kept_empty
  intro s event s' kept step
  obtain ⟨_, _, _, _, _, _, _, kept'⟩ := step_adds kept step
  exact kept'

theorem run_hashed {visited : List (Accounts × AccountEvent)} (run : (accounts bcrypt).Run empty visited s)
    (allowed : Machine.Guarded (Hashes bcrypt) visited) : s.Hashed bcrypt := by
  have both : s.Kept ∧ s.Hashed bcrypt := by
    apply run.invariant (fun s => s.Kept ∧ s.Hashed bcrypt) allowed ⟨kept_empty, hashed_empty⟩
    intro s event s' holds guard step
    obtain ⟨kept, hashed⟩ := holds
    obtain ⟨_, _, _, _, _, _, _, kept'⟩ := step_adds kept step
    exact ⟨kept', step_hashed kept hashed guard step⟩
  exact both.2

theorem run_hides {visited : List (Accounts × AccountEvent)} (run : (accounts bcrypt).Run empty visited s)
    (hidden : s.Hidden) : Machine.Guarded (Hashes bcrypt) visited := by
  induction run with
  | nil => simp [Machine.Guarded]
  | snoc before step ih =>
    obtain ⟨earlier, guard⟩ := step_hidden (run_kept before) hidden step
    exact Machine.guarded_snoc.mpr ⟨ih earlier, guard⟩

/-- Logins and columns are as they should be exactly when no admin created a user. -/
theorem credentials_roundTrip {visited : List (Accounts × AccountEvent)}
    (run : (accounts bcrypt).Run empty visited s) :
    (s.RoundTrip bcrypt ∧ s.Hidden) ↔ Machine.Guarded (Hashes bcrypt) visited := by
  constructor
  · intro holds
    exact run_hides run holds.2
  · intro allowed
    have hashed := run_hashed run allowed
    exact ⟨hashed.roundTrip (run_kept run), hashed.hidden⟩

/-- A hash that is the password behind a mark. -/
def marked : Bcrypt where
  hash q _ := "$2b$10$" ++ q
  compare p stored := stored = "$2b$10$" ++ p
  compare_hash p q _ := by
    rw [decide_eq_true_eq]
    constructor
    · intro same
      simpa using same.symm
    · rintro rfl
      rfl
  compare_other p stored other := decide_eq_false (other p 0)

def founded : List AccountEvent :=
  [.register 0 { name := "Ada", email := "ada@acme.test", password := "secret1", tenantName := some "Acme" },
    .register 0 { name := "Bob", email := "bob@birch.test", password := "secret2", tenantName := some "Birch" }]

theorem credentials_roundTrip_founded :
    ∃ s, (accounts marked).exec empty founded = some s ∧ s.created.length = 2 ∧ s.RoundTrip marked ∧ s.Hidden := by
  have done : ((accounts marked).exec empty founded).any (fun s => s.created.length = 2) = true := by decide +kernel
  obtain ⟨s, ran, two⟩ := (Option.any_eq_true _ _).mp done
  have guarded : Machine.Guarded (Hashes marked) ((accounts marked).trace empty founded) := by decide +kernel
  exact ⟨s, ran, by simpa using two, (credentials_roundTrip (Machine.run_of_exec ran)).mpr guarded⟩

def staffed : List AccountEvent :=
  founded ++
    [.createUser { name := "Cy", email := "cy@acme.test", password := "secret3", role := some "user" } (uuidText 1)]

def cy : User :=
  { id := uuidText 4, name := "Cy", email := "cy@acme.test", password := "secret3", role := .USER,
    tenantId := some (uuidText 0) }

/-- The user that an admin created cannot log in, and its column is the password. -/
theorem createUser_login_fails :
    ∃ s, (accounts marked).exec empty staffed = some s ∧ ¬ s.RoundTrip marked ∧ ¬ s.Hidden := by
  have done : ((accounts marked).exec empty staffed).any (fun s =>
      cy ∈ s.db.users ∧ ⟨cy.id, "secret3"⟩ ∈ s.created ∧ { id := uuidText 0, name := "Acme" } ∈ s.db.tenants ∧
        (login marked ⟨cy.email, "secret3", some "Acme"⟩ s.db).toOption = none) = true := by decide +kernel
  obtain ⟨s, ran, facts⟩ := (Option.any_eq_true _ _).mp done
  obtain ⟨present, noted, tenant, refused⟩ := of_decide_eq_true facts
  refine ⟨s, ran, ?_, ?_⟩
  · intro roundTrip
    have belongs : s.db.Belongs cy "Acme" := ⟨_, tenant, rfl, rfl⟩
    obtain ⟨session, accepted⟩ := (roundTrip cy.email "secret3" "Acme" (by decide)).mpr ⟨cy, present, rfl, belongs, noted⟩
    rw [accepted] at refused
    cases refused
  · intro hidden
    exact hidden cy present _ noted rfl rfl

end Accounts
end OrchestrateModel
