import Shardman.Control.Issued
import Mathlib.Logic.Function.Basic

namespace Shardman
namespace Agent

open Fsm
open Bucket
open Store
open Control
open Foundation

/-!
# Shard agents and their messages

Every shard has an agent beside its database.  In each tick the agent measures
the database, reports the size, and acts on the state it is told: it takes the
write privileges of the application away while the shard drains, and empties
the database while it is cleaned.  It then reports that it did.

An agent is a program over its own operations, most of which are statements on
the shard's database.  A remote call is split in two: the request is sent and
may be delivered to the control plane at any later time, where it becomes one
more process of the pool, and the agent waits for the answer.  An agent may be
restarted at any point; what it has sent stays under way.
-/

/-! ## The program of an agent -/

/-- The settings that decide what draining does. -/
structure AgentConfig where
  appDBRole : String
  drainMode : String

inductive Request
  | reportStats (reportedBytes : Int)
  | reportDrainComplete
  | reportCleaned
deriving DecidableEq, Repr

/-- The call a request becomes on the server. -/
def Request.call (uuid : UUID) : Request -> Call
  | .reportStats reportedBytes => .reportStats uuid reportedBytes
  | .reportDrainComplete => .reportDrainComplete uuid
  | .reportCleaned => .reportCleaned uuid

inductive AgentError
  | database
  | transport
  | server (failure : StoreError)

inductive AgentOp
  | connect
  | measureSize
  | drainShard
  | cleanDatabase
  | rpc (request : Request)
deriving DecidableEq, Repr

/-- The answer to a size report is the state of the shard, or nothing for an
unknown shard. -/
abbrev AgentReply : AgentOp -> Type
  | .connect => Except AgentError Unit
  | .measureSize => Except AgentError Int
  | .drainShard => Except AgentError Unit
  | .cleanDatabase => Except AgentError Unit
  | .rpc (.reportStats _) => Except AgentError (Option State)
  | .rpc .reportDrainComplete => Except AgentError Unit
  | .rpc .reportCleaned => Except AgentError Unit

abbrev AgentProgram := Program AgentOp AgentReply (Except AgentError Unit)

/-- Issue one operation of an agent. -/
abbrev issue (op : AgentOp) : Program AgentOp AgentReply (AgentReply op) := Program.ask op

def drainAndReport : AgentProgram := do
  let drained : Except AgentError Unit <- issue .drainShard
  match drained with
  | .error failure => pure (.error failure)
  | .ok () => issue (.rpc .reportDrainComplete)

def reportCleaned : AgentProgram := issue (.rpc .reportCleaned)

def cleanAndReport : AgentProgram := do
  let cleaned : Except AgentError Unit <- issue .cleanDatabase
  match cleaned with
  | .error failure => pure (.error failure)
  | .ok () => reportCleaned

/-- Act on the state of the shard. -/
def actOn : Option State -> AgentProgram
  | some .draining => drainAndReport
  | some .cleaning => cleanAndReport
  | _ => pure (.ok ())

def onAnswer : Except AgentError (Option State) -> AgentProgram
  | .error failure => pure (.error failure)
  | .ok state => actOn state

def reportSize (size : Int) : AgentProgram :=
  issue (.rpc (.reportStats size)) >>= onAnswer

def measureAndReport : AgentProgram := do
  let measured : Except AgentError Int <- issue .measureSize
  match measured with
  | .error failure => pure (.error failure)
  | .ok size => reportSize size

def tick : AgentProgram := do
  let connected : Except AgentError Unit <- issue .connect
  match connected with
  | .error failure => pure (.error failure)
  | .ok () => measureAndReport

/-! ## Statements on a shard's database -/

/-- Whether the application may still write after draining.  Nothing in an agent
gives the privileges back. -/
def drainShard (config : AgentConfig) (writable : Bool) : Bool :=
  if config.drainMode = "terminate" then writable
  else if config.appDBRole ≠ "" then false
  else writable

/-- The effect of an operation on the write privileges.  Truncating tables keeps
the privileges on them. -/
def privilegesAfter (config : AgentConfig) (op : AgentOp) (writable : Bool) : Bool :=
  match op with
  | .drainShard => drainShard config writable
  | _ => writable

/-- How a statement ends: done, refused, or carried out with its answer lost. -/
inductive Fate
  | done
  | refused
  | lost
deriving DecidableEq, Repr

def Fate.reply {X : Type} (value : X) : Fate -> Except AgentError X
  | .done => .ok value
  | .refused | .lost => .error .database

/-- What the agent sees of an operation on its database.  Remote calls are none. -/
def localReply (size : Int) (fate : Fate) : (op : AgentOp) -> Option (AgentReply op)
  | .connect => some (fate.reply ())
  | .measureSize => some (fate.reply size)
  | .drainShard => some (fate.reply ())
  | .cleanDatabase => some (fate.reply ())
  | .rpc _ => none

/-! ## Answers to requests -/

private def acknowledgement : Outcome -> Except AgentError Unit
  | .acknowledged (.ok ()) => .ok ()
  | .acknowledged (.error failure) => .error (.server failure)
  | _ => .error .transport

/-- What an agent is told when its request has been handled. -/
def answer : (request : Request) -> Outcome -> AgentReply (.rpc request)
  | .reportStats _, .stats (.ok state) => .ok state
  | .reportStats _, .stats (.error failure) => .error (.server failure)
  | .reportStats _, _ => .error .transport
  | .reportDrainComplete, outcome => acknowledgement outcome
  | .reportCleaned, outcome => acknowledgement outcome

/-- What an agent is told when the connection breaks. -/
def broken : (request : Request) -> AgentReply (.rpc request)
  | .reportStats _ => .error .transport
  | .reportDrainComplete => .error .transport
  | .reportCleaned => .error .transport

/-! ## The fleet -/

inductive AgentState
  | idle
  | running (program : AgentProgram)
  | waiting (request : Request) (flight : Nat) (next : AgentReply (.rpc request) -> AgentProgram)

/-- The agent may begin a tick: it has finished its last one or was restarted. -/
def AgentState.resting : AgentState -> Bool
  | .idle | .running (.finish _) => true
  | _ => false

/-- A request that was sent, and the process that handles it once delivered. -/
structure Flight where
  uuid : UUID
  request : Request
  handler : Option Nat
deriving DecidableEq, Repr

structure Fleet where
  control : System
  agents : UUID -> AgentState
  flights : List Flight
  writable : UUID -> Bool

/-- Before anything happened: no agent runs and all privileges are in place. -/
def Fleet.idle (db : Db) (now : Time) : Fleet :=
  ⟨System.idle db now, fun _ => .idle, [], fun _ => true⟩

def Fleet.setAgent (fleet : Fleet) (uuid : UUID) (state : AgentState) : Fleet :=
  { fleet with agents := Function.update fleet.agents uuid state }

namespace Fleet

variable (fleet : Fleet) (uuid : UUID) (state : AgentState)

@[simp] theorem setAgent_control : (fleet.setAgent uuid state).control = fleet.control := rfl

@[simp] theorem setAgent_flights : (fleet.setAgent uuid state).flights = fleet.flights := rfl

@[simp] theorem setAgent_writable : (fleet.setAgent uuid state).writable = fleet.writable := rfl

theorem setAgent_self : (fleet.setAgent uuid state).agents uuid = state :=
  Function.update_self ..

theorem setAgent_other {other : UUID} (different : other ≠ uuid) :
    (fleet.setAgent uuid state).agents other = fleet.agents other :=
  Function.update_of_ne different ..

end Fleet

inductive FleetAct
  | control (act : Act)
  | begin (uuid : UUID)
  | work (uuid : UUID) (size : Int) (fate : Fate)
  | send (uuid : UUID)
  | deliver (flight : Nat)
  | receive (uuid : UUID)
  | lose (uuid : UUID)
  | restart (uuid : UUID)

/-- Reports reach the control plane only as delivered requests of agents. -/
def startsReport : Act -> Bool
  | .start (.reportStats ..) | .start (.reportDrainComplete _) | .start (.reportCleaned _) => true
  | _ => false

section Step

variable (env : Env) (configs : UUID -> AgentConfig)

def step (fleet : Fleet) : FleetAct -> Option Fleet
  | .control act =>
      if startsReport act then none
      else ((machine env).step fleet.control act).map fun system => { fleet with control := system }
  | .begin uuid =>
      if (fleet.agents uuid).resting then some (fleet.setAgent uuid (.running tick)) else none
  | .work uuid size fate =>
      match fleet.agents uuid with
      | .running (.request op next) =>
          (localReply size fate op).map fun reply =>
            { fleet.setAgent uuid (.running (next reply)) with
              writable :=
                if fate = .refused then fleet.writable
                else Function.update fleet.writable uuid
                  (privilegesAfter (configs uuid) op (fleet.writable uuid)) }
      | _ => none
  | .send uuid =>
      match fleet.agents uuid with
      | .running (.request (.rpc request) next) =>
          some { fleet.setAgent uuid (.waiting request fleet.flights.length next) with
            flights := fleet.flights ++ [⟨uuid, request, none⟩] }
      | _ => none
  | .deliver index =>
      match fleet.flights[index]? with
      | some ⟨uuid, request, none⟩ =>
          ((machine env).step fleet.control (.start (request.call uuid))).map fun system =>
            { fleet with
              control := system
              flights := fleet.flights.set index
                ⟨uuid, request, some fleet.control.processes.length⟩ }
      | _ => none
  | .receive uuid =>
      match fleet.agents uuid with
      | .waiting request index next =>
          match fleet.flights[index]? with
          | some ⟨_, _, some handler⟩ =>
              match fleet.control.processes[handler]? with
              | some ⟨_, .finish outcome⟩ =>
                  some (fleet.setAgent uuid (.running (next (answer request outcome))))
              | _ => none
          | _ => none
      | _ => none
  | .lose uuid =>
      match fleet.agents uuid with
      | .waiting request _ next => some (fleet.setAgent uuid (.running (next (broken request))))
      | _ => none
  | .restart uuid => some (fleet.setAgent uuid .idle)

end Step

abbrev FleetTrace := List (Event Fleet FleetAct)

/-- Runs of the control plane and all agents from a database with nothing in
progress. -/
def FleetRuns (env : Env) (configs : UUID -> AgentConfig) (db : Db) (now : Time) (past : FleetTrace)
    (fleet : Fleet) : Prop :=
  Run (step env configs) (Fleet.idle db now) past fleet

/-- The statement that a step carries out on a shard's database. -/
def executes (event : Event Fleet FleetAct) : Option (UUID × AgentOp) :=
  match event.action with
  | .work uuid _ fate =>
      match event.state.agents uuid with
      | .running (.request op _) => if fate = .refused then none else some (uuid, op)
      | _ => none
  | _ => none

/-- The operation of the control plane that a step performs. -/
def operation (event : Event Fleet FleetAct) : Option Op :=
  match event.action with
  | .control act => event.state.control.pending act
  | _ => none

section Inversion

variable {env : Env} {configs : UUID -> AgentConfig} {fleet after : Fleet}

/-- Everything a step can be. -/
inductive Steps (env : Env) (configs : UUID -> AgentConfig) (fleet : Fleet) : FleetAct -> Fleet -> Prop
  | control {act : Act} {system : System} (internal : startsReport act = false)
      (taken : (machine env).step fleet.control act = some system) :
      Steps env configs fleet (.control act) { fleet with control := system }
  | begin {uuid : UUID} (rests : (fleet.agents uuid).resting = true) :
      Steps env configs fleet (.begin uuid) (fleet.setAgent uuid (.running tick))
  | work {uuid : UUID} {size : Int} {fate : Fate} {op : AgentOp} {next : AgentReply op -> AgentProgram}
      {reply : AgentReply op} (state : fleet.agents uuid = .running (.request op next))
      (replied : localReply size fate op = some reply) :
      Steps env configs fleet (.work uuid size fate)
        { fleet.setAgent uuid (.running (next reply)) with
          writable :=
            if fate = .refused then fleet.writable
            else Function.update fleet.writable uuid
              (privilegesAfter (configs uuid) op (fleet.writable uuid)) }
  | send {uuid : UUID} {request : Request} {next : AgentReply (.rpc request) -> AgentProgram}
      (state : fleet.agents uuid = .running (.request (.rpc request) next)) :
      Steps env configs fleet (.send uuid)
        { fleet.setAgent uuid (.waiting request fleet.flights.length next) with
          flights := fleet.flights ++ [⟨uuid, request, none⟩] }
  | deliver {index : Nat} {uuid : UUID} {request : Request} {system : System}
      (sent : fleet.flights[index]? = some ⟨uuid, request, none⟩)
      (taken : (machine env).step fleet.control (.start (request.call uuid)) = some system) :
      Steps env configs fleet (.deliver index)
        { fleet with
          control := system
          flights := fleet.flights.set index ⟨uuid, request, some fleet.control.processes.length⟩ }
  | receive {uuid sender : UUID} {request sent : Request} {index handler : Nat} {call : Call}
      {next : AgentReply (.rpc request) -> AgentProgram} {outcome : Outcome}
      (state : fleet.agents uuid = .waiting request index next)
      (delivered : fleet.flights[index]? = some ⟨sender, sent, some handler⟩)
      (handled : fleet.control.processes[handler]? = some ⟨call, .finish outcome⟩) :
      Steps env configs fleet (.receive uuid)
        (fleet.setAgent uuid (.running (next (answer request outcome))))
  | lose {uuid : UUID} {request : Request} {index : Nat} {next : AgentReply (.rpc request) -> AgentProgram}
      (state : fleet.agents uuid = .waiting request index next) :
      Steps env configs fleet (.lose uuid) (fleet.setAgent uuid (.running (next (broken request))))
  | restart {uuid : UUID} : Steps env configs fleet (.restart uuid) (fleet.setAgent uuid .idle)

theorem steps_of_step {action : FleetAct} (taken : step env configs fleet action = some after) :
    Steps env configs fleet action after := by
  cases action with
  | control act =>
      simp only [step] at taken
      split at taken
      · cases taken
      · rename_i internal
        rcases Option.map_eq_some_iff.mp taken with ⟨system, stepped, rfl⟩
        exact .control (Bool.eq_false_iff.mpr internal) stepped
  | begin uuid =>
      simp only [step] at taken
      split at taken
      · rename_i rests
        cases taken
        exact .begin rests
      · cases taken
  | work uuid size fate =>
      simp only [step] at taken
      split at taken
      · rename_i op next state
        rcases Option.map_eq_some_iff.mp taken with ⟨reply, replied, rfl⟩
        exact .work state replied
      · cases taken
  | send uuid =>
      simp only [step] at taken
      split at taken
      · rename_i request next state
        cases taken
        exact .send state
      · cases taken
  | deliver index =>
      simp only [step] at taken
      split at taken
      · rename_i uuid request sent
        rcases Option.map_eq_some_iff.mp taken with ⟨system, started, rfl⟩
        exact .deliver sent started
      · cases taken
  | receive uuid =>
      simp only [step] at taken
      split at taken
      · rename_i request index next state
        split at taken
        · rename_i sender sent handler delivered
          split at taken
          · rename_i call outcome handled
            cases taken
            exact .receive state delivered handled
          · cases taken
        · cases taken
      · cases taken
  | lose uuid =>
      simp only [step] at taken
      split at taken
      · rename_i request index next state
        cases taken
        exact .lose state
      · cases taken
  | restart uuid =>
      cases taken
      exact .restart

/-- The shards of the control plane change only by its operations. -/
theorem step_shards {action : FleetAct} (taken : step env configs fleet action = some after) :
    (operation ⟨fleet, action⟩ = none ∧ after.control.store.db = fleet.control.store.db) ∨
    (Exists fun op => operation ⟨fleet, action⟩ = some op ∧
      after.control.store = (perform env op fleet.control.store).2) := by
  cases steps_of_step taken with
  | control internal acted =>
      rcases Foundation.step_cases acted with ⟨call, rfl, rfl⟩ | ⟨duration, rfl, rfl⟩ |
        ⟨index, call, op, next, rfl, found, issued, rfl⟩
      · exact Or.inl ⟨rfl, rfl⟩
      · exact Or.inl ⟨rfl, rfl⟩
      · exact Or.inr ⟨op, issued, rfl⟩
  | deliver sent started =>
      cases started
      exact Or.inl ⟨rfl, rfl⟩
  | begin | work | send | receive | lose | restart => exact Or.inl ⟨rfl, rfl⟩

theorem executes_of_operation {action : FleetAct} {op : Op} (performs : operation ⟨fleet, action⟩ = some op) :
    executes ⟨fleet, action⟩ = none := by
  cases action with
  | control act => rfl
  | begin | work | send | deliver | receive | lose | restart => cases performs

end Inversion

/-- The steps that the control plane takes by itself in a run of the fleet, without
the calls that are started by a delivery. -/
def controlTrace (past : FleetTrace) : Trace :=
  past.filterMap fun event =>
    match event.action with
    | .control act => some ⟨event.state.control, act⟩
    | _ => none

/-! ## A small fleet to run the model on -/

/-- Writes, registrations and ticks of the seal and retention supervisors. -/
def isLifeCycle : Call -> Bool
  | .resolveWrite _ | .registerShard .. | .sealTick | .retentionTick => true
  | _ => false

/-- Daily buckets, of which the current one and none before are kept. -/
def dailyConfig : ClusterConfig where
  mode := "range"
  bucketAxis := .time
  bucketSpec := .time .day
  bucketSpecRaw := .object [("unit", .string "day")]
  shardMaxBytes := 100
  retentionDepth := some 1
  maxFutureBuckets := some 1
  parsed := day_accepted
  depthFits := one_fits
  futureFits := one_fits

def dailyDb : Db :=
  { Db.fresh with cluster := some ⟨dailyConfig, 1⟩ }

def revokingAgents : UUID -> AgentConfig := fun _ => ⟨"app", "revoke"⟩

def controls (acts : List Act) : List FleetAct := acts.map .control

/-- The agent of shard 1 reports a size and is told the state of its shard. -/
def reportTick (size : Int) (flight process : Nat) : List FleetAct :=
  [.begin 1, .work 1 0 .done, .work 1 size .done, .send 1, .deliver flight] ++
  controls (resumes process 2) ++ [.receive 1]

/-- A tick of the agent of shard 1 that acts on the state it is told. -/
def busyTick (flight process : Nat) : List FleetAct :=
  reportTick 0 flight process ++ [.work 1 0 .done, .send 1, .deliver (flight + 1)] ++
  controls (resumes (process + 1) 1) ++ [.receive 1]

/-- Shard 1 is registered, a write promotes it, and its agent reports that it is
over the limit. -/
def firstService : List FleetAct :=
  controls ([.start (.registerShard 1 .data "a" "" "")] ++ resumes 0 2 ++
    [.start (.resolveWrite (.string "1970-01-01"))] ++ resumes 1 10) ++ reportTick 200 0 2

end Agent
end Shardman
