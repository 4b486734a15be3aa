import Mathlib.Data.List.Nodup
import Orchestrate.Effect.Attempts
import Orchestrate.Model.Email

namespace OrchestrateModel

open Effect Program

namespace Mailbox

variable {s s' : Mailbox} {reference other : String} {id : Nat} {change : NotificationChange}

/-- The primary key. -/
structure Keyed (s : Mailbox) : Prop where
  distinct : (s.notifications.map (·.id)).Nodup
  drawn : ∀ notification ∈ s.notifications, notification.id < s.drawn

/-- The row of a reference, by its id. -/
def Holds (s : Mailbox) (reference : String) (id : Nat) : Prop := ∃ row, s.row? reference = some row ∧ row.id = id

theorem row?_update (s : Mailbox) (id : Nat) (change : NotificationChange) (reference : String) :
    (s.update id change).row? reference =
      (s.row? reference).map fun row => if row.id = id then row.change change else row := by
  unfold row? update
  rw [List.find?_map]
  congr 2
  funext row
  simp only [Function.comp_apply]
  split <;> rfl

theorem Keyed.update (keyed : s.Keyed) (id : Nat) (change : NotificationChange) : (s.update id change).Keyed := by
  have ids (row : Notification) : (if row.id = id then row.change change else row).id = row.id := by split <;> rfl
  constructor
  · have same : (s.update id change).notifications.map (·.id) = s.notifications.map (·.id) := by
      show (s.notifications.map _).map _ = _
      rw [List.map_map]
      exact List.map_congr_left fun row _ => ids row
    rw [same]
    exact keyed.distinct
  · intro row member
    obtain ⟨old, before, rfl⟩ := List.mem_map.mp member
    rw [ids]
    exact keyed.drawn old before

theorem Keyed.insert (keyed : s.Keyed) (columns : NotificationColumns) : (s.insert columns).Keyed := by
  constructor
  · show ((s.notifications ++ [_]).map _).Nodup
    rw [List.map_append, List.map_singleton, List.nodup_append]
    refine ⟨keyed.distinct, List.nodup_singleton _, fun a old b new => ?_⟩
    obtain ⟨row, member, rfl⟩ := List.mem_map.mp old
    rw [List.mem_singleton.mp new]
    exact Nat.ne_of_lt (keyed.drawn row member)
  · intro row member
    rcases List.mem_append.mp member with old | new
    · exact Nat.lt_succ_of_lt (keyed.drawn row old)
    · rw [List.mem_singleton.mp new]
      exact Nat.lt_succ_self _

theorem row?_spec {row : Notification} (found : s.row? reference = some row) :
    row ∈ s.notifications ∧ row.referenceId = reference :=
  ⟨List.mem_of_find?_eq_some found, by simpa using List.find?_some found⟩

theorem Holds.update (holds : s.Holds reference id) (change : NotificationChange) :
    (s.update id change).Holds reference id := by
  obtain ⟨row, found, own⟩ := holds
  refine ⟨row.change change, ?_, own⟩
  rw [row?_update, found, Option.map_some, if_pos own]

/-- The status of the row changes, and no other one. -/
theorem Keyed.status_update (keyed : s.Keyed) (holds : s.Holds reference id) (change : NotificationChange)
    (other : String) : (s.update id change).status other = if other = reference then some change.status else s.status other := by
  obtain ⟨row, found, own⟩ := holds
  rw [status, row?_update, status]
  by_cases same : other = reference
  · rw [if_pos same, same, found, Option.map_some, if_pos own]
    rfl
  · rw [if_neg same]
    cases found' : s.row? other with
    | none => rfl
    | some row' =>
      have apart : row'.id ≠ id := by
        intro sameId
        obtain ⟨member, named⟩ := row?_spec found
        obtain ⟨member', named'⟩ := row?_spec found'
        have one := List.inj_on_of_nodup_map keyed.distinct member' member (sameId.trans own.symm)
        rw [one, named] at named'
        exact same named'.symm
      rw [Option.map_some, if_neg apart]

theorem row?_insert (columns : NotificationColumns) (absent : s.row? columns.referenceId = none) (other : String) :
    (s.insert columns).row? other =
      if other = columns.referenceId then some { columns with id := s.drawn } else s.row? other := by
  unfold row? insert
  rw [List.find?_append]
  by_cases same : other = columns.referenceId
  · rw [if_pos same, same]
    unfold row? at absent
    rw [absent]
    simp
  · rw [if_neg same]
    simp [Ne.symm same]

theorem status_insert (columns : NotificationColumns) (absent : s.row? columns.referenceId = none) (other : String) :
    (s.insert columns).status other = if other = columns.referenceId then some columns.status else s.status other := by
  rw [status, row?_insert columns absent]
  split <;> rfl

/-- A row that the table refuses leaves it unchanged. -/
theorem save_spec (s : Mailbox) (columns : NotificationColumns) :
    (∃ error, s.save columns = (.error error, s)) ∨
      s.save columns = (.ok { columns with id := s.drawn }, s.insert columns) := by
  unfold save
  cases s.refuses columns with
  | some error => exact .inl ⟨error, rfl⟩
  | none => exact .inr rfl

/-- A call that leaves each SENT row SENT. -/
def KeepsSent (outside : Outside) (s : Mailbox) (c : EmailCall) : Prop :=
  ∀ reference, s.status reference = some .SENT → (serve outside s c).2.status reference = some .SENT

/-- The row that the loop looks up is not SENT. -/
def Unsent (s : Mailbox) : EmailCall → Prop
  | .findOne reference => s.status reference ≠ some .SENT
  | _ => True

instance (s : Mailbox) : (c : EmailCall) → Decidable (Unsent s c)
  | .findOne reference => inferInstanceAs (Decidable (s.status reference ≠ some .SENT))
  | .uuidv4 | .now | .verify _ | .save _ | .update _ _ | .send _ => .isTrue trivial

/-- Each e-mail of a job was delivered once at most, and the row of a delivered one is SENT. -/
structure Settled (jobId : String) (s : Mailbox) : Prop where
  keyed : s.Keyed
  once : s.delivered.Nodup
  sent : ∀ recipient ∈ s.delivered, s.status (EmailProcessor.referenceId jobId recipient) = some .SENT

/-- A recipient whose row is under way, `delivered` so far being settled but for it. -/
structure Underway (jobId recipient : String) (id : Nat) (s : Mailbox) : Prop where
  keyed : s.Keyed
  holds : s.Holds (EmailProcessor.referenceId jobId recipient) id
  unsent : s.status (EmailProcessor.referenceId jobId recipient) ≠ some .SENT
  once : s.delivered.Nodup
  sent : ∀ other ∈ s.delivered, other ≠ recipient → s.status (EmailProcessor.referenceId jobId other) = some .SENT

end Mailbox

namespace EmailProcessor

variable {jobId a b : String}

theorem referenceId_inj (same : referenceId jobId a = referenceId jobId b) : a = b := by
  have lists := congrArg String.toList same
  unfold referenceId at lists
  simp only [String.toList_append, List.append_assoc, List.append_cancel_left_eq] at lists
  exact String.toList_inj.mp lists

end EmailProcessor

namespace Mailbox

open EmailProcessor

section Steps

variable {outside : Outside} {jobId recipient : String} {id : Nat} {s s' : Mailbox}

/-- A question changes no row. -/
theorem keepsSent_of_same {c : EmailCall} (same : (serve outside s c).2.notifications = s.notifications) :
    KeepsSent outside s c := by
  intro reference sent
  rw [Mailbox.status, Mailbox.row?, same]
  exact sent

/-- A question changes neither the rows nor what was delivered. -/
theorem Settled.asked (settled : Settled jobId s) (asked : Nat) : Settled jobId { s with asked := asked } :=
  ⟨⟨settled.keyed.distinct, settled.keyed.drawn⟩, settled.once, settled.sent⟩

/-- The row of a reference that is looked up for the first time. -/
theorem Settled.insert (settled : Settled jobId s) {columns : NotificationColumns}
    (named : columns.referenceId = referenceId jobId recipient)
    (absent : s.row? (referenceId jobId recipient) = none) (unsent : columns.status ≠ .SENT) :
    Underway jobId recipient s.drawn (s.insert columns) := by
  rw [← named] at absent
  have status := status_insert columns absent
  refine ⟨settled.keyed.insert columns, ⟨{ columns with id := s.drawn }, ?_, rfl⟩, ?_, settled.once,
    fun other member differs => ?_⟩
  · rw [row?_insert columns absent, if_pos named.symm]
  · rw [status, if_pos named.symm]
    exact fun same => unsent (Option.some.inj same)
  · rw [status, named, if_neg fun same => differs (referenceId_inj same)]
    exact settled.sent other member

/-- A row that is there and not SENT. -/
theorem Settled.found (settled : Settled jobId s) {row : Notification}
    (found : s.row? (referenceId jobId recipient) = some row)
    (unsent : Unsent s (.findOne (referenceId jobId recipient))) : Underway jobId recipient row.id s :=
  ⟨settled.keyed, ⟨row, found, rfl⟩, unsent, settled.once, fun other member _ => settled.sent other member⟩

/-- Whoever's row is not SENT was sent nothing. -/
theorem Settled.fresh (settled : Settled jobId s) (unsent : Unsent s (.findOne (referenceId jobId recipient))) :
    recipient ∉ s.delivered := fun member => unsent (settled.sent recipient member)

theorem Underway.keeps (underway : Underway jobId recipient id s) (change : NotificationChange) :
    KeepsSent outside s (.update id change) := by
  intro reference sent
  show (s.update id change).status reference = some .SENT
  have apart : reference ≠ referenceId jobId recipient := fun same => underway.unsent (same ▸ sent)
  rw [underway.keyed.status_update underway.holds, if_neg apart]
  exact sent

theorem Underway.update (underway : Underway jobId recipient id s) {change : NotificationChange}
    (unsent : change.status ≠ .SENT) : Underway jobId recipient id (s.update id change) := by
  have status := underway.keyed.status_update underway.holds change
  refine ⟨underway.keyed.update id change, underway.holds.update change, ?_, underway.once,
    fun other member differs => ?_⟩
  · rw [status, if_pos rfl]
    exact fun same => unsent (Option.some.inj same)
  · rw [status, if_neg fun same => differs (referenceId_inj same)]
    exact underway.sent other member differs

/-- Nothing was delivered, so nothing is missing. -/
theorem Underway.settled (underway : Underway jobId recipient id s) (fresh : recipient ∉ s.delivered) :
    Settled jobId s :=
  ⟨underway.keyed, underway.once, fun other member => underway.sent other member fun same => fresh (same ▸ member)⟩

theorem Underway.settle (underway : Underway jobId recipient id s) {change : NotificationChange}
    (sent : change.status = .SENT) : Settled jobId (s.update id change) := by
  have status := underway.keyed.status_update underway.holds change
  refine ⟨underway.keyed.update id change, underway.once, fun other member => ?_⟩
  rw [status]
  by_cases same : other = recipient
  · rw [if_pos (same ▸ rfl), sent]
  · rw [if_neg fun equal => same (referenceId_inj equal)]
    exact underway.sent other member same

theorem serve_send_taken {payload : EmailPayload} {response : SendEmailResponse}
    (answer : (serve outside s (.send payload)).1 = .ok response) (success : response.success = true) :
    (serve outside s (.send payload)).2 =
      { s with asked := s.asked + 1, delivered := s.delivered ++ [payload.recipient] } := by
  have asked : outside.response s.asked = .ok response := answer
  simp only [serve, asked, if_pos success]

theorem serve_send_refused {payload : EmailPayload}
    (refused : ∀ response, (serve outside s (.send payload)).1 = .ok response → response.success ≠ true) :
    (serve outside s (.send payload)).2 = { s with asked := s.asked + 1 } := by
  simp only [serve] at refused ⊢
  cases asked : outside.response s.asked with
  | error error => rfl
  | ok response =>
    simp only [if_neg (refused response asked)]

theorem serve_save_ok {columns : NotificationColumns} {notification : Notification}
    (answer : (serve outside s (.save columns)).1 = .ok notification) :
    notification = { columns with id := s.drawn } ∧ (serve outside s (.save columns)).2 = s.insert columns := by
  simp only [serve] at answer ⊢
  rcases s.save_spec columns with ⟨_, refused⟩ | saved
  · rw [refused] at answer
    cases answer
  · rw [saved] at answer ⊢
    exact ⟨(Except.ok.inj answer).symm, rfl⟩

theorem serve_save_error {columns : NotificationColumns} {error : Err}
    (answer : (serve outside s (.save columns)).1 = .error error) : (serve outside s (.save columns)).2 = s := by
  simp only [serve] at answer ⊢
  rcases s.save_spec columns with ⟨_, refused⟩ | saved
  · rw [refused]
  · rw [saved] at answer
    cases answer

theorem Underway.asked (underway : Underway jobId recipient id s) (asked : Nat) :
    Underway jobId recipient id { s with asked := asked } :=
  ⟨⟨underway.keyed.distinct, underway.keyed.drawn⟩, underway.holds, underway.unsent, underway.once, underway.sent⟩

theorem Underway.taken (underway : Underway jobId recipient id s) (fresh : recipient ∉ s.delivered) (asked : Nat) :
    Underway jobId recipient id { s with asked := asked, delivered := s.delivered ++ [recipient] } := by
  refine ⟨⟨underway.keyed.distinct, underway.keyed.drawn⟩, underway.holds, underway.unsent, ?_,
    fun other member differs => ?_⟩
  · show (s.delivered ++ [recipient]).Nodup
    rw [List.nodup_append]
    refine ⟨underway.once, List.nodup_singleton _, fun a old b new equal => ?_⟩
    rw [List.mem_singleton.mp new] at equal
    exact fresh (equal ▸ old)
  · rcases List.mem_append.mp member with old | new
    · exact underway.sent other old differs
    · exact absurd (List.mem_singleton.mp new) differs

end Steps

section Runs

variable {outside : Outside} {jobId recipient lastFailureReason : String} {id : Nat} {s : Mailbox}
  {validator : Validator} {mailing : Mailing}

/-- The calls keep SENT rows SENT as long as no SENT row is looked up. -/
abbrev Sends {α : Type} (outside : Outside) (ok : α → Mailbox → Prop) (thrown : Err → Mailbox → Prop)
    (program : EmailProgram α) (s : Mailbox) : Prop :=
  Safe (serve outside) Unsent (KeepsSent outside) ok thrown program s

theorem Underway.sends_update (underway : Underway jobId recipient id s) (change : NotificationChange)
    {ok : Unit → Mailbox → Prop} {thrown : Err → Mailbox → Prop} (replied : ok () (s.update id change)) :
    Sends outside ok thrown (awaitEmail (.update id change)) s := by
  apply safe_await (S := emailSignature)
  · exact fun _ => underway.keeps change
  · exact fun _ _ _ => replied
  · intro _ error answer
    cases answer

/-- The e-mail was not delivered, and the row is FAILED. -/
theorem Underway.sends_failure (underway : Underway jobId recipient id s) (fresh : recipient ∉ s.delivered)
    (message : String) {thrown : Err → Mailbox → Prop} :
    Sends outside (fun _ s' => Settled jobId s') thrown (do
      awaitEmail (.update id { status := .FAILED, faliureReason := some message })
      return (false, message)) s := by
  have failed : NotificationStatus.FAILED ≠ .SENT := by decide
  apply Safe.bind
  apply underway.sends_update
  exact (underway.update failed).settled fresh

/-- One e-mail is sent at most, and the row of a sent one is SENT. -/
theorem Underway.sends_attemptSend (underway : Underway jobId recipient id s) (fresh : recipient ∉ s.delivered)
    {notification : Notification} (own : notification.id = id) {thrown : Err → Mailbox → Prop} :
    Sends outside (fun _ s' => Settled jobId s') thrown
      (attemptSend mailing recipient lastFailureReason notification) s := by
  subst own
  unfold attemptSend
  apply Safe.bind
  apply underway.sends_update
  have processing : Underway jobId recipient notification.id (s.update notification.id { status := .PROCESSING }) :=
    underway.update (by decide)
  have fresh : recipient ∉ (s.update notification.id { status := .PROCESSING }).delivered := fresh
  have refused := processing.asked ((s.update notification.id { status := .PROCESSING }).asked + 1)
  apply Safe.catching
  apply Safe.bind
  apply safe_await (S := emailSignature)
  · exact fun _ => keepsSent_of_same rfl
  · intro _ response answer
    by_cases success : response.success
    · rw [if_pos success, serve_send_taken answer success]
      have taken := processing.taken fresh ((s.update notification.id { status := .PROCESSING }).asked + 1)
      apply Safe.bind
      apply safe_await (S := emailSignature)
      · exact fun _ => keepsSent_of_same rfl
      · intro _ sentAt _
        apply Safe.bind
        apply (taken.asked _).sends_update
        exact (taken.asked _).settle rfl
      · intro _ error answer
        cases answer
    · rw [if_neg success, serve_send_refused]
      · exact refused.sends_failure fresh
          (if truthy response.errorMessage then response.errorMessage.getD "" else "Email rejected by provider")
      · intro other answer'
        have same := answer.symm.trans answer'
        exact Except.ok.inj same ▸ success
  · intro _ error answer
    rw [serve_send_refused]
    · exact refused.sends_failure fresh error.message
    · intro response answer'
      have differs := answer.symm.trans answer'
      cases differs

/-- A program that leaves the job settled, whether it returns or throws. -/
abbrev Settles {α : Type} (outside : Outside) (jobId : String) (program : EmailProgram α) (s : Mailbox) : Prop :=
  Sends outside (fun _ s' => Settled jobId s') (fun _ s' => Settled jobId s') program s

theorem Settled.settles_check (settled : Settled jobId s) :
    Settles outside jobId (check validator recipient lastFailureReason) s := by
  unfold check
  split
  · apply Safe.bind
    apply safe_await (S := emailSignature)
    · exact fun _ => keepsSent_of_same rfl
    · intro _ isDeliverable _
      split <;> exact settled.asked _
    · intro _ error answer
      cases answer
  · exact settled

theorem Settled.settles_deliver (settled : Settled mailing.jobId s) :
    Settles outside mailing.jobId (deliver validator mailing recipient lastFailureReason) s := by
  have pending : NotificationStatus.PENDING ≠ .SENT := by decide
  have failed : NotificationStatus.FAILED ≠ .SENT := by decide
  unfold deliver
  apply Safe.seq settled.settles_check
  intro verdict s settled
  apply Safe.bind
  apply safe_await (S := emailSignature) (fun _ => keepsSent_of_same rfl) ?_ fun _ error answer => by cases answer
  intro unsent reply answer
  have fresh := settled.fresh unsent
  cases reply with
  | none =>
    have found : s.row? (referenceId mailing.jobId recipient) = none := Except.ok.inj answer
    have underway (columns : NotificationColumns) (named : columns.referenceId = referenceId mailing.jobId recipient)
        (unsent : columns.status ≠ .SENT) : Underway mailing.jobId recipient s.drawn (s.insert columns) :=
      settled.insert named found unsent
    have keeps (columns : NotificationColumns) (named : columns.referenceId = referenceId mailing.jobId recipient) :
        KeepsSent outside s (.save columns) := by
      intro reference sent
      show (s.save columns).2.status reference = some .SENT
      rcases s.save_spec columns with ⟨_, refused⟩ | saved
      · rw [refused]
        exact sent
      rw [saved, status_insert columns (named ▸ found)]
      split
      · next same =>
        rw [same, named, Mailbox.status, found] at sent
        cases sent
      · exact sent
    apply Safe.bind
    apply safe_await (S := emailSignature)
    · exact fun _ => keeps _ rfl
    · intro _ notification answer
      obtain ⟨rfl, saved⟩ := serve_save_ok answer
      rw [saved]
      split
      · exact (underway _ rfl pending).sends_attemptSend fresh rfl
      · exact (underway _ rfl failed).settled fresh
    · intro _ error answer
      rw [serve_save_error answer]
      exact settled
  | some row =>
    have found : s.row? (referenceId mailing.jobId recipient) = some row := Except.ok.inj answer
    have underway := settled.found found unsent
    show Safe _ _ _ _ _ (if verdict.1 = true then _ else _) s
    split
    · exact underway.sends_attemptSend fresh rfl
    · apply Safe.bind
      apply underway.sends_update
      exact (underway.update failed).settled fresh

theorem Settled.settles_deliverAll (settled : Settled mailing.jobId s) (recipients : List Json) (validEmailsSent : Nat)
    (lastFailureReason : String) :
    Settles outside mailing.jobId (deliverAll validator mailing recipients validEmailsSent lastFailureReason) s := by
  induction recipients generalizing s validEmailsSent lastFailureReason with
  | nil => exact settled
  | cons recipient rest ih =>
    cases recipient with
    | string recipient =>
      apply Safe.seq settled.settles_deliver
      intro result s settled
      exact ih settled _ _
    | null | bool | number | array | object => exact settled

theorem Settled.settles_process (settled : Settled jobId s) (fields : EmailFields) (data : JobQueuePayload) :
    Settles outside jobId (process validator fields (some jobId) data) s := by
  unfold process
  show Safe _ _ _ _ _ (if data.tenantId = "" then _ else _) s
  split
  · exact settled
  · dsimp only [pure_eq_done, bind_eq, bind_done]
    split
    · have all (mailing : Mailing) (own : mailing.jobId = jobId) (recipients : List Json) :
          Settles outside jobId (deliverAll validator mailing recipients 0 "") s := by
        subst own
        exact settled.settles_deliverAll recipients 0 ""
      apply Safe.seq (all _ rfl _)
      intro result s settled
      show Safe _ _ _ _ _ (if result.1 = 0 then _ else _) s
      split <;> exact settled
    · exact settled

end Runs

section Reveals

variable {outside : Outside} {s : Mailbox} {validator : Validator} {mailing : Mailing}

theorem Keyed.serve (outside : Outside) (s : Mailbox) (c : EmailCall) (keyed : s.Keyed) :
    (Mailbox.serve outside s c).2.Keyed := by
  cases c with
  | save columns =>
    show (s.save columns).2.Keyed
    rcases s.save_spec columns with ⟨_, refused⟩ | saved
    · rw [refused]
      exact keyed
    · rw [saved]
      exact keyed.insert columns
  | update id change => exact keyed.update id change
  | uuidv4 | now | verify | findOne | send => exact ⟨keyed.distinct, keyed.drawn⟩

/-- A SENT row does not outlast an update to something else. -/
theorem Keyed.breaks (keyed : s.Keyed) {row : Notification} {reference : String} (found : s.row? reference = some row)
    (sent : s.status reference = some .SENT) {change : NotificationChange} (unsent : change.status ≠ .SENT) :
    ¬ KeepsSent outside s (.update row.id change) := by
  intro keeps
  have kept : (s.update row.id change).status reference = some .SENT := keeps reference sent
  rw [keyed.status_update ⟨row, found, rfl⟩, if_pos rfl] at kept
  exact unsent (Option.some.inj kept)

/-- The calls that look nothing up. -/
abbrev Blind {α : Type} (program : EmailProgram α) : Prop := program.Only fun c => ∀ s : Mailbox, s.Unsent c

theorem blind_check (recipient lastFailureReason : String) : Blind (check validator recipient lastFailureReason) := by
  unfold check
  split
  · apply Only.bind
    · exact only_await (S := emailSignature) fun _ => trivial
    · intro isDeliverable
      split <;> trivial
  · trivial

theorem blind_update (id : Nat) (change : NotificationChange) : Blind (awaitEmail (.update id change)) :=
  only_await (S := emailSignature) fun _ => trivial

theorem blind_attemptSend (recipient lastFailureReason : String) (notification : Notification) :
    Blind (attemptSend mailing recipient lastFailureReason notification) := by
  unfold attemptSend
  apply (blind_update _ _).bind
  intro _
  apply Only.catching
  · apply Only.bind
    · exact only_await (S := emailSignature) fun _ => trivial
    · intro response
      split
      · apply Only.bind
        · exact only_await (S := emailSignature) fun _ => trivial
        · exact fun sentAt => (blind_update _ _).bind fun _ => trivial
      · trivial
  · exact fun error => (blind_update _ _).bind fun _ => trivial

/-- A SENT row that is looked up does not stay SENT. -/
theorem Keyed.reveals_deliver (keyed : s.Keyed) (recipient lastFailureReason : String) :
    Reveals (Mailbox.serve outside) (KeepsSent outside) Unsent
      (deliver validator mailing recipient lastFailureReason) s := by
  unfold deliver
  apply Reveals.bind (reveals_of_only (blind_check _ _))
  intro verdict s₁ ran
  have keyed : s₁.Keyed := by
    have kept := run_preserves (Mailbox.serve outside) (Keyed.serve outside)
      (check validator recipient lastFailureReason) s keyed
    rwa [ran] at kept
  obtain ⟨isValid, faliureReason, lastFailureReason⟩ := verdict
  have failed : NotificationStatus.FAILED ≠ .SENT := by decide
  have processing : NotificationStatus.PROCESSING ≠ .SENT := by decide
  let reference := referenceId mailing.jobId recipient
  have answer : Mailbox.serve outside s₁ (.findOne reference) = (.ok (s₁.row? reference), s₁) := rfl
  refine reveals_await (S := emailSignature) answer ?_ ?_
  · cases found : s₁.row? reference with
    | none =>
      intro _ sent
      rw [Mailbox.status, found] at sent
      cases sent
    | some row =>
      -- the first call of either branch is an update of this very row
      intro keeps sent
      cases isValid with
      | true => exact keyed.breaks found sent processing (keeps _ List.mem_cons_self)
      | false => exact keyed.breaks found sent failed (keeps _ List.mem_cons_self)
  · apply reveals_of_only
    cases s₁.row? reference with
    | none =>
      apply Only.bind
      · exact only_await (S := emailSignature) fun _ => trivial
      · intro notification
        split
        · exact blind_attemptSend _ _ _
        · trivial
    | some row =>
      show Blind (if isValid = true then _ else _)
      split
      · exact blind_attemptSend _ _ _
      · exact (blind_update _ _).bind fun _ => trivial

theorem Keyed.reveals_deliverAll (keyed : s.Keyed) (recipients : List Json) (validEmailsSent : Nat)
    (lastFailureReason : String) :
    Reveals (Mailbox.serve outside) (KeepsSent outside) Unsent
      (deliverAll validator mailing recipients validEmailsSent lastFailureReason) s := by
  induction recipients generalizing s validEmailsSent lastFailureReason with
  | nil => exact reveals_of_only trivial
  | cons recipient rest ih =>
    cases recipient with
    | string recipient =>
      apply Reveals.bind (keyed.reveals_deliver recipient lastFailureReason)
      intro result s' ran
      have kept := run_preserves (Mailbox.serve outside) (Keyed.serve outside)
        (deliver validator mailing recipient lastFailureReason) s keyed
      rw [ran] at kept
      exact ih kept _ _
    | null | bool | number | array | object => exact reveals_of_only trivial

theorem Keyed.reveals_process (keyed : s.Keyed) (fields : EmailFields) (jobId : String) (data : JobQueuePayload) :
    Reveals (Mailbox.serve outside) (KeepsSent outside) Unsent (process validator fields (some jobId) data) s := by
  unfold process
  show Reveals _ _ _ (if data.tenantId = "" then _ else _) s
  split
  · exact reveals_of_only trivial
  · dsimp only [pure_eq_done, bind_eq, bind_done]
    split
    · apply Reveals.bind (keyed.reveals_deliverAll _ 0 "")
      intro result s' _
      apply reveals_of_only
      show Only _ (if result.1 = 0 then _ else _)
      split <;> trivial
    · exact reveals_of_only trivial

end Reveals

/-- Over any attempts of a job each e-mail is delivered at most once and SENT rows stay SENT, exactly when no SENT row
    is ever looked up: the loop takes up a row that is there whatever its status. -/
theorem idempotent_iff {outside : Outside} {s s' : Mailbox} {tries : List (List (Mailbox × EmailCall))}
    (validator : Validator) (fields : EmailFields) (jobId : String) (data : JobQueuePayload)
    (repeated : Repeated (serve outside) (process validator fields (some jobId) data) s tries s') (keyed : s.Keyed)
    (fresh : s.delivered = []) :
    ((∀ recipient, s'.delivered.count recipient ≤ 1) ∧ ∀ v ∈ tries.flatten, KeepsSent outside v.1 v.2) ↔
      ∀ v ∈ tries.flatten, Unsent v.1 v.2 := by
  constructor
  · rintro ⟨_, keeps⟩
    exact repeated.reveals (fun s keyed => keyed.reveals_process fields jobId data) (Keyed.serve outside) keyed keeps
  · intro unsent
    have settled : Settled jobId s := by
      refine ⟨keyed, ?_, fun recipient member => ?_⟩
      · rw [fresh]
        exact List.nodup_nil
      · rw [fresh] at member
        exact (List.not_mem_nil member).elim
    obtain ⟨ends, keeps⟩ := repeated.safe (fun s settled => Settled.settles_process settled fields data) settled unsent
    exact ⟨fun recipient => List.nodup_iff_count_le_one.mp ends.once recipient, keeps⟩

section Willing

/-- Every address is deliverable and every e-mail is taken. -/
def willing : Outside :=
  { uuidv4 := fun _ => ""
    now := fun asked => asked
    deliverable := fun _ => true
    response := fun _ => .ok { success := true } }

def anyAddress : Validator := { isEmail := fun _ => true, typeError := fun _ => { message := "Expected a string" } }

/-- The destructured metadata of a job with these recipients. -/
def addressed (recipients : List String) : EmailFields :=
  { recipients := fun _ => some (.array (recipients.map .string)), subject := fun _ => none,
    content := fun _ => some "Hello" }

def emailJob : JobQueuePayload :=
  { jobId := 1, jobType := "email", tenantId := "t", userId := some "u", queueName := "email-jobs" }

def emptyMailbox : Mailbox := { notifications := [], drawn := 0, asked := 0, delivered := [] }

theorem emptyMailbox_keyed : emptyMailbox.Keyed :=
  ⟨List.nodup_nil, fun _ member => (List.not_mem_nil member).elim⟩

/-- The one attempt at a job with these recipients. -/
abbrev attempted (recipients : List String) : EmailProgram Unit :=
  process anyAddress (addressed recipients) (some "1") emailJob

theorem repeated_once (recipients : List String)
    (ended : (run (serve willing) (attempted recipients) emptyMailbox).1 ≠ .hung) :
    Repeated (serve willing) (attempted recipients) emptyMailbox
      [visited (serve willing) (attempted recipients) emptyMailbox]
      (run (serve willing) (attempted recipients) emptyMailbox).2 :=
  .again rfl ended .never

/-- The provider rejects the first two e-mails. -/
def recovering : Outside :=
  { willing with response := fun asked => .ok { success := decide (4 ≤ asked) } }

/-- The mailbox after a failed attempt at two e-mails. -/
abbrev rejected : Mailbox := (run (serve recovering) (attempted ["a@b.co", "c@d.co"]) emptyMailbox).2

theorem repeated_recovering :
    Repeated (serve recovering) (attempted ["a@b.co", "c@d.co"]) emptyMailbox
      [visited (serve recovering) (attempted ["a@b.co", "c@d.co"]) emptyMailbox,
        visited (serve recovering) (attempted ["a@b.co", "c@d.co"]) rejected]
      (run (serve recovering) (attempted ["a@b.co", "c@d.co"]) rejected).2 :=
  .again rfl (by decide +kernel) (.again rfl (by decide +kernel) .never)

/-- The retry of an attempt whose e-mails were both rejected delivers both. -/
theorem idempotent_retried :
    (run (serve recovering) (attempted ["a@b.co", "c@d.co"]) rejected).2.delivered = ["a@b.co", "c@d.co"] ∧
      (∀ recipient,
        (run (serve recovering) (attempted ["a@b.co", "c@d.co"]) rejected).2.delivered.count recipient ≤ 1) ∧
      ∀ v ∈ [visited (serve recovering) (attempted ["a@b.co", "c@d.co"]) emptyMailbox,
          visited (serve recovering) (attempted ["a@b.co", "c@d.co"]) rejected].flatten,
        KeepsSent recovering v.1 v.2 :=
  ⟨by decide +kernel, (idempotent_iff anyAddress (addressed ["a@b.co", "c@d.co"]) "1" emailJob repeated_recovering
    emptyMailbox_keyed rfl).mpr (by decide +kernel)⟩

/-- An address that is given twice is mailed twice, its row being SENT the second time. -/
theorem duplicate_notIdempotent :
    ¬ ∀ (outside : Outside) (validator : Validator) (fields : EmailFields) (jobId : String) (data : JobQueuePayload)
      (s s' : Mailbox) (tries : List (List (Mailbox × EmailCall))),
      Repeated (serve outside) (process validator fields (some jobId) data) s tries s' → s.Keyed → s.delivered = [] →
        (∀ recipient, s'.delivered.count recipient ≤ 1) ∧ ∀ v ∈ tries.flatten, KeepsSent outside v.1 v.2 := by
  intro claimed
  have once := claimed willing anyAddress (addressed ["a@b.co", "a@b.co"]) "1" emailJob _ _ _
    (repeated_once ["a@b.co", "a@b.co"] (by decide +kernel)) emptyMailbox_keyed rfl
  exact absurd (once.1 "a@b.co") (by decide +kernel)

end Willing
end Mailbox
end OrchestrateModel
