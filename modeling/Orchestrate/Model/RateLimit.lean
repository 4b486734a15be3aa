import Orchestrate.Effect.Cooperative
import Orchestrate.Model.Worker

namespace OrchestrateModel

open Effect

/-- A counter in Redis, with the time in ms at which it expires. -/
structure RateEntry where
  count : Int
  expiresAt : Option Nat
  deriving DecidableEq, Repr

def RateEntry.alive (entry : RateEntry) (now : Nat) : Bool :=
  match entry.expiresAt with
  | none => true
  | some time => now < time

/-- How a command to Redis ends: a reply, an error before it ran, or one after it. -/
inductive CommandEnd : Type where
  | replied
  | failed (error : Err)
  | lost (error : Err)
  deriving DecidableEq, Repr

structure RateStore where
  entries : String → Option RateEntry
  clock : Nat

/-- What happens in a turn: the clock reading, the job of an attempt that starts, and how its commands end. -/
structure RateTurn where
  now : Nat
  job : BullJob
  incr : CommandEnd
  expire : CommandEnd

namespace RateStore

/-- The counter of a key that has not expired. -/
def live (s : RateStore) (key : String) (now : Nat) : Option RateEntry :=
  (s.entries key).filter fun entry => entry.alive now

def setEntry (s : RateStore) (key : String) (entry : RateEntry) : RateStore :=
  { s with entries := fun other => if other = key then some entry else s.entries other }

/-- `INCR` starts at 0 and keeps the time to live. -/
def incremented (s : RateStore) (key : String) (now : Nat) : RateEntry :=
  match s.live key now with
  | some entry => { entry with count := entry.count + 1 }
  | none => { count := 1, expiresAt := none }

def expire (s : RateStore) (key : String) (seconds now : Nat) : RateStore :=
  match s.live key now with
  | some entry => s.setEntry key { entry with expiresAt := some (now + seconds * 1000) }
  | none => s

def answer (turn : RateTurn) : Handler hostSignature Err RateStore
  | s, .work (.service .now) => (.ok turn.now, s)
  | s, .work _ => (.error { message := "not awaited by the limiter" }, s)
  | s, .incr key =>
    let entry := s.incremented key turn.now
    match turn.incr with
    | .replied => (.ok entry.count, s.setEntry key entry)
    | .failed error => (.error error, s)
    | .lost error => (.error error, s.setEntry key entry)
  | s, .expire key seconds =>
    match turn.expire with
    | .replied => (.ok (), s.expire key seconds turn.now)
    | .failed error => (.error error, s)
    | .lost error => (.error error, s.expire key seconds turn.now)
  | s, .deadLetterAdd _ _ _ _ _ => (.ok (), s)

end RateStore

/-- The consumers share Redis and the clock; a minute's key is that of the instant of its `INCR`. -/
def rateLoop : Cooperation hostSignature Err RateStore RateTurn where
  sync
    | .work _ | .incr _ => true
    | .expire _ _ | .deadLetterAdd _ _ _ _ _ => false
  arrive turn s := if s.clock ≤ turn.now then some { s with clock := turn.now } else none
  answer := RateStore.answer

/-- Attempts that go through the rate limiter; one that it lets through reaches `processor.execute`. -/
def rateLimiter (tenantRateLimit : Int) : Machine (Pool hostSignature Err RateStore) (Turn × RateTurn) :=
  rateLoop.machine fun turn => BaseWorker.limitRate (some tenantRateLimit) turn.job

end OrchestrateModel
