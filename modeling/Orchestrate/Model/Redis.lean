import Mathlib.Logic.Function.Basic
import Orchestrate.Effect.Program
import Orchestrate.Model.Queue

namespace OrchestrateModel

open Effect

/-- The awaited calls of `TenantCapService`: single Redis commands, and BullMQ's `queue.add`. -/
inductive CapCall : Type where
  | incr (key : String)
  | decr (key : String)
  | expire (key : String) (seconds : Nat)
  | set (key : String) (value : Int)
  | rpush (key : String) (payload : JobQueuePayload)
  | lpush (key : String) (payload : JobQueuePayload)
  | lpop (key : String)
  | llen (key : String)
  | hincrby (key field : String) (increment : Int)
  | hget (key field : String)
  | hset (key field : String) (value : Int)
  | queueAdd (queueName : String) (payload : JobQueuePayload) (options : JobsOptions)

@[reducible] def CapCall.Reply : CapCall → Type
  | .incr _ | .decr _ | .hincrby _ _ _ => Int
  | .expire _ _ | .set _ _ | .hset _ _ _ | .queueAdd _ _ _ => Unit
  | .rpush _ _ | .lpush _ _ | .llen _ => Nat
  | .lpop _ => Option JobQueuePayload
  | .hget _ _ => Option Int

abbrev capSignature : Signature := ⟨CapCall, CapCall.Reply⟩

abbrev CapProgram := Program capSignature Err

/-- The client's commands as awaited calls. -/
def perform (c : CapCall) : CapProgram c.Reply := Program.await (S := capSignature) c

namespace Client

def incr (key : String) : CapProgram Int := perform (.incr key)
def decr (key : String) : CapProgram Int := perform (.decr key)
def expire (key : String) (seconds : Nat) : CapProgram Unit := perform (.expire key seconds)
def set (key : String) (value : Int) : CapProgram Unit := perform (.set key value)
def rpush (key : String) (payload : JobQueuePayload) : CapProgram Nat := perform (.rpush key payload)
def lpush (key : String) (payload : JobQueuePayload) : CapProgram Nat := perform (.lpush key payload)
def lpop (key : String) : CapProgram (Option JobQueuePayload) := perform (.lpop key)
def llen (key : String) : CapProgram Nat := perform (.llen key)
def hincrby (key field : String) (increment : Int) : CapProgram Int := perform (.hincrby key field increment)
def hget (key field : String) : CapProgram (Option Int) := perform (.hget key field)
def hset (key field : String) (value : Int) : CapProgram Unit := perform (.hset key field value)
def queueAdd (queueName : String) (payload : JobQueuePayload) (options : JobsOptions) : CapProgram Unit :=
  perform (.queueAdd queueName payload options)

end Client

structure Counter where
  value : Int
  expiresAt : Option Nat
  deriving DecidableEq, Repr

/-- The part of the Redis key space the program uses. List elements are payloads rather than their
    JSON text, and an absent list is an empty one. -/
structure Redis where
  now : Nat
  counters : String → Option Counter
  lists : String → List JobQueuePayload
  hashes : String → String → Option Int

namespace Redis

def empty : Redis :=
  { now := 0, counters := fun _ => none, lists := fun _ => [], hashes := fun _ _ => none }

def count (redis : Redis) (key : String) : Int := ((redis.counters key).map (·.value)).getD 0

/-- `INCRBY`: an absent counter counts from 0, and an expiry time stays. -/
def add (redis : Redis) (key : String) (amount : Int) : Redis :=
  { redis with
    counters := Function.update redis.counters key
      (some ⟨redis.count key + amount, (redis.counters key).bind (·.expiresAt)⟩) }

def setList (redis : Redis) (key : String) (payloads : List JobQueuePayload) : Redis :=
  { redis with lists := Function.update redis.lists key payloads }

def setField (redis : Redis) (key field : String) (value : Int) : Redis :=
  { redis with
    hashes := Function.update redis.hashes key
      (Function.update (redis.hashes key) field (some value)) }

def exec (redis : Redis) : (c : CapCall) → c.Reply × Redis
  | .incr key => (redis.count key + 1, redis.add key 1)
  | .decr key => (redis.count key - 1, redis.add key (-1))
  | .expire key seconds =>
    ((), { redis with
      counters := Function.update redis.counters key
        ((redis.counters key).map fun counter =>
          { counter with expiresAt := some (redis.now + seconds) }) })
  | .set key value =>
    ((), { redis with counters := Function.update redis.counters key (some ⟨value, none⟩) })
  | .rpush key payload =>
    ((redis.lists key).length + 1, redis.setList key (redis.lists key ++ [payload]))
  | .lpush key payload =>
    ((redis.lists key).length + 1, redis.setList key (payload :: redis.lists key))
  | .lpop key => ((redis.lists key).head?, redis.setList key (redis.lists key).tail)
  | .llen key => ((redis.lists key).length, redis)
  | .hincrby key field increment =>
    (((redis.hashes key field).getD 0 + increment : Int),
      redis.setField key field ((redis.hashes key field).getD 0 + increment))
  | .hget key field => (redis.hashes key field, redis)
  | .hset key field value => ((), redis.setField key field value)
  | .queueAdd _ _ _ => ((), redis)

@[simp] theorem count_add (redis : Redis) (key other : String) (amount : Int) :
    (redis.add key amount).count other = redis.count other + if other = key then amount else 0 := by
  by_cases same : other = key
  · subst same
    simp [add, count]
  · simp [add, count, same]

@[simp] theorem lists_add (redis : Redis) (key : String) (amount : Int) :
    (redis.add key amount).lists = redis.lists := rfl

@[simp] theorem count_setList (redis : Redis) (key other : String) (payloads : List JobQueuePayload) :
    (redis.setList key payloads).count other = redis.count other := rfl

@[simp] theorem lists_setList (redis : Redis) (key : String) (payloads : List JobQueuePayload) :
    (redis.setList key payloads).lists = Function.update redis.lists key payloads := rfl

@[simp] theorem count_setField (redis : Redis) (key field other : String) (value : Int) :
    (redis.setField key field value).count other = redis.count other := rfl

@[simp] theorem lists_setField (redis : Redis) (key field : String) (value : Int) :
    (redis.setField key field value).lists = redis.lists := rfl

/-- A counter whose expiry time has come may disappear. -/
def expireKey (redis : Redis) (key : String) : Option Redis :=
  match redis.counters key with
  | some ⟨_, some deadline⟩ =>
    if deadline ≤ redis.now then
      some { redis with counters := Function.update redis.counters key none }
    else none
  | _ => none

end Redis
end OrchestrateModel
