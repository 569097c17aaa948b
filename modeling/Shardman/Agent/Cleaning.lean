import Shardman.Agent.Protocol

namespace Shardman
namespace Agent

open Fsm
open Bucket
open Store
open Control
open Foundation

/-!
# The cleaning protocol

A shard is emptied by its agent while its row says that it is being cleaned, and
the row returns to the pool on a report of the agent.  The report names the
shard but not the period of cleaning it belongs to.  This module shows what
keeps reports and periods together: as long as an agent begins no tick while an
earlier report of its is still under way, it empties only shards that are being
cleaned, and a shard returns to the pool only after it was emptied in the same
period.
-/

/-- The row of the shard says that it is being cleaned. -/
def Cleaning (uuid : UUID) (db : Db) : Prop :=
  Exists fun row => row ∈ db.shards ∧ row.shardUUID = uuid ∧ row.state = .cleaning

instance (uuid : UUID) : DecidablePred (Cleaning uuid) := fun db =>
  inferInstanceAs (Decidable (Exists fun row => row ∈ db.shards ∧ _))

/-- A request that the control plane has not finished handling. -/
def Flight.unfinished (control : System) (flight : Flight) : Bool :=
  match flight.handler with
  | none => true
  | some handler =>
      match control.processes[handler]? with
      | some ⟨_, .finish _⟩ => false
      | _ => true

/-- A report, still to be handled, that the shard was cleaned. -/
def Reporting (uuid : UUID) (fleet : Fleet) (flight : Flight) : Prop :=
  flight.uuid = uuid ∧ flight.request = .reportCleaned ∧ flight.unfinished fleet.control = true

instance (uuid : UUID) (fleet : Fleet) : DecidablePred (Reporting uuid fleet) := fun _ =>
  inferInstanceAs (Decidable (_ ∧ _ ∧ _))

/-- No report that the shard was cleaned is under way. -/
def Quiet (uuid : UUID) (fleet : Fleet) : Prop :=
  forall flight, flight ∈ fleet.flights -> ¬ Reporting uuid fleet flight

instance (uuid : UUID) : DecidablePred (Quiet uuid) := fun fleet =>
  inferInstanceAs (Decidable (forall flight, flight ∈ fleet.flights -> _))

/-- The agent that begins a tick. -/
def FleetAct.begun : FleetAct -> Option UUID
  | .begin uuid => some uuid
  | _ => none

/-- The step does not begin a tick of an agent whose last report of cleaning is
under way. -/
def BeginsQuietly (event : Event Fleet FleetAct) : Prop :=
  forall uuid, uuid ∈ event.action.begun -> Quiet uuid event.state

instance : DecidablePred BeginsQuietly := fun event =>
  match begun : event.action.begun with
  | none => isTrue fun uuid begins => by
      rw [begun] at begins
      cases begins
  | some uuid => decidable_of_iff (Quiet uuid event.state) (by simp [BeginsQuietly, begun])

/-- The shard was emptied in its current period of cleaning. -/
def cleanedSince (uuid : UUID) : FleetTrace -> Bool
  | [] => false
  | event :: older =>
      decide (Cleaning uuid event.state.control.store.db) &&
        (decide (executes event = some (uuid, .cleanDatabase)) || cleanedSince uuid older)

/-- A step of the control plane takes a row from cleaning to standby. -/
def Recycles (env : Env) (event : Event Fleet FleetAct) (row : Shard) : Prop :=
  Exists fun op => operation event = some op ∧ row ∈ event.state.control.store.db.shards ∧
    row.state = .cleaning ∧
    Exists fun moved => moved ∈ (perform env op event.state.control.store).2.db.shards ∧
      moved.id = row.id ∧ moved.state = .standby

/-! ## Reports under way -/

section Reports

variable {env : Env} {configs : UUID -> AgentConfig} {fleet after : Fleet} {action : FleetAct}

/-- What has been handled stays handled. -/
theorem unfinished_before {control moved : System} {act : Act}
    (taken : (machine env).step control act = some moved) {flight : Flight}
    (still : flight.unfinished moved = true) : flight.unfinished control = true := by
  unfold Flight.unfinished at still ⊢
  split at still
  · rfl
  · split
    · rename_i finished
      rcases process_after taken finished with ⟨_, kept⟩ | ⟨_, _, resumable, _⟩
      · rw [kept] at still
        exact still
      · cases resumable
    · rfl

/-- The request an agent is about to send. -/
def AgentState.pendingRequest : AgentState -> Option Request
  | .running (.request (.rpc request) _) => some request
  | _ => none

/-- Where a flight comes from: it was under way before, perhaps not delivered
yet, or it was just sent. -/
theorem step_flight (taken : step env configs fleet action = some after) {index : Nat} {flight : Flight}
    (present : after.flights[index]? = some flight) :
    (Exists fun old => fleet.flights[index]? = some old ∧ old.uuid = flight.uuid ∧
      old.request = flight.request ∧
      (flight.unfinished after.control = true -> old.unfinished fleet.control = true)) ∨
    (action = .send flight.uuid ∧ index = fleet.flights.length ∧
      (fleet.agents flight.uuid).pendingRequest = some flight.request) := by
  cases steps_of_step taken with
  | control internal acted =>
      exact Or.inl ⟨flight, present, rfl, rfl, unfinished_before acted⟩
  | @send uuid request next state =>
      rcases Nat.lt_or_ge index fleet.flights.length with earlier | later
      · rw [List.getElem?_append_left earlier] at present
        exact Or.inl ⟨flight, present, rfl, rfl, id⟩
      · rw [List.getElem?_append_right later] at present
        have only := List.mem_singleton.mp (List.mem_of_getElem? present)
        have position : index - fleet.flights.length < 1 := (List.getElem?_eq_some_iff.mp present).1
        subst only
        refine Or.inr ⟨rfl, by omega, ?_⟩
        rw [state]
        rfl
  | @deliver delivered uuid request system sent started =>
      by_cases same : delivered = index
      · subst same
        have inside : delivered < fleet.flights.length := (List.getElem?_eq_some_iff.mp sent).1
        rw [List.getElem?_set_self inside, Option.some_inj] at present
        subst present
        exact Or.inl ⟨_, sent, rfl, rfl, fun _ => rfl⟩
      · rw [List.getElem?_set_ne same] at present
        exact Or.inl ⟨flight, present, rfl, rfl, unfinished_before started⟩
  | begin | work | receive | lose | restart => exact Or.inl ⟨flight, present, rfl, rfl, id⟩

/-- A quiet shard stays quiet until its agent reports. -/
theorem quiet_kept (taken : step env configs fleet action = some after) {uuid : UUID}
    (quiet : Quiet uuid fleet)
    (silent : action = .send uuid -> (fleet.agents uuid).pendingRequest ≠ some .reportCleaned) :
    Quiet uuid after := by
  intro flight member reporting
  rcases reporting with ⟨rfl, isReport, unfinished⟩
  rcases List.mem_iff_getElem?.mp member with ⟨index, present⟩
  rcases step_flight taken present with ⟨old, found, sameUUID, sameRequest, before⟩ |
    ⟨sends, _, pending⟩
  · exact quiet old (List.mem_of_getElem? found)
      ⟨sameUUID, sameRequest.trans isReport, before unfinished⟩
  · rw [isReport] at pending
    exact silent sends pending

/-! ### Handlers of reports -/

/-- The processes that handle reports of cleaning belong to delivered requests,
and each has either its only operation before it, or finished. -/
def Linked (env : Env) (fleet : Fleet) : Prop :=
  forall handler uuid program,
    fleet.control.processes[handler]? = some ⟨.reportCleaned uuid, program⟩ ->
    ⟨uuid, .reportCleaned, some handler⟩ ∈ fleet.flights ∧
      (program = body env (.reportCleaned uuid) ∨ Exists fun outcome => program = .finish outcome)

/-- What the only operation of a report's handler leads to. -/
theorem reportCleaned_next {uuid : UUID} {op : Op} {next : Reply op -> Routine Outcome}
    (same : .request op next = body env (.reportCleaned uuid)) (reply : Reply op) :
    Exists fun outcome => next reply = .finish outcome := by
  cases same
  exact ⟨_, rfl⟩

theorem step_linked (held : Linked env fleet) (taken : step env configs fleet action = some after) :
    Linked env after := by
  intro handler uuid program present
  cases steps_of_step taken with
  | control internal acted =>
      rcases process_cases acted present with ⟨_, earlier⟩ | ⟨rfl, _, _⟩ | ⟨op, next, _, found, _, _, resumed⟩
      · exact held handler uuid program earlier
      · cases internal
      · rcases held handler uuid _ found with ⟨linked, unstarted | ⟨outcome, finished⟩⟩
        · refine ⟨linked, Or.inr ?_⟩
          rcases reportCleaned_next unstarted (perform env op fleet.control.store).1 with ⟨outcome, done⟩
          exact ⟨outcome, resumed.trans done⟩
        · cases finished
  | send state =>
      rcases held handler uuid program present with ⟨linked, stage⟩
      exact ⟨List.mem_append_left _ linked, stage⟩
  | @deliver index sender request system sent started =>
      have inside : index < fleet.flights.length := (List.getElem?_eq_some_iff.mp sent).1
      rcases process_cases started present with ⟨_, earlier⟩ | ⟨call, position, begun⟩ | ⟨_, _, different, _⟩
      · rcases held handler uuid program earlier with ⟨linked, stage⟩
        refine ⟨?_, stage⟩
        rcases List.mem_iff_getElem?.mp linked with ⟨place, there⟩
        have different : index ≠ place := by
          intro same
          rw [← same, sent] at there
          cases there
        apply List.mem_of_getElem?
        rw [List.getElem?_set_ne different]
        exact there
      · have isReport : request = .reportCleaned ∧ sender = uuid := by
          cases request <;> cases call
          exact ⟨rfl, rfl⟩
        rcases isReport with ⟨rfl, rfl⟩
        refine ⟨?_, Or.inl begun⟩
        apply List.mem_of_getElem?
        rw [List.getElem?_set_self inside, position]
      · cases different
  | begin | work | receive | lose | restart => exact held handler uuid program present

/-- The operation that ends a period of cleaning is issued for a report under
way. -/
theorem finishing_reports (grounded : AllGrounded env fleet.control) (linked : Linked env fleet) {uuid : UUID}
    (finishes : operation ⟨fleet, action⟩ = some (.finishCleaning uuid)) :
    Exists fun handler => Exists fun next => action = .control (.resume handler) ∧
      fleet.control.processes[handler]? = some ⟨.reportCleaned uuid, .request (.finishCleaning uuid) next⟩ ∧
      (forall reply, Exists fun outcome => next reply = .finish outcome) ∧
      ⟨uuid, .reportCleaned, some handler⟩ ∈ fleet.flights ∧
      Reporting uuid fleet ⟨uuid, .reportCleaned, some handler⟩ := by
  cases action with
  | control act =>
      rcases Pool.pending_some finishes with ⟨handler, call, next, rfl, found⟩
      rcases grounded.grounds found with ⟨_, isReport⟩
      change call = .reportCleaned uuid at isReport
      subst isReport
      rcases linked handler uuid _ found with ⟨present, unstarted | ⟨_, finished⟩⟩
      · refine ⟨handler, next, rfl, found, reportCleaned_next unstarted, present, rfl, rfl, ?_⟩
        simp only [Flight.unfinished, found]
      · cases finished
  | begin | work | send | deliver | receive | lose | restart => cases finishes

/-- It settles that report. -/
theorem finishing_settles (grounded : AllGrounded env fleet.control) (linked : Linked env fleet)
    (taken : step env configs fleet action = some after) {uuid : UUID}
    (finishes : operation ⟨fleet, action⟩ = some (.finishCleaning uuid)) :
    after.flights = fleet.flights ∧
      Exists fun flight => flight ∈ fleet.flights ∧ Reporting uuid fleet flight ∧
        flight.unfinished after.control = false := by
  rcases finishing_reports grounded linked finishes with
    ⟨handler, next, rfl, found, finishing, present, reporting⟩
  cases steps_of_step taken with
  | control internal acted =>
      refine ⟨rfl, _, present, reporting, ?_⟩
      rcases process_after acted found with ⟨different, _⟩ | ⟨op, following, same, _, _, resumed⟩
      · exact absurd rfl different
      · cases same
        rcases finishing (perform env (.finishCleaning uuid) fleet.control.store).1 with ⟨outcome, done⟩
        simp only [Flight.unfinished, resumed, machine, done]

end Reports

/-! ## Rows that are being cleaned -/

section Rows

variable {env : Env} {configs : UUID -> AgentConfig} {fleet after : Fleet} {action : FleetAct}

/-- Only a report of cleaning or a manual change ends a period of cleaning. -/
theorem cleaning_moves {now : Time} {op : Op} {row moved : Shard} (moves : Moves now op row moved)
    (manual : isPatch op = false) (cleaning : row.state = .cleaning) :
    moved.state = .cleaning ∨ (op = .finishCleaning row.shardUUID ∧ moved.state = .standby) := by
  cases moves with
  | keep | stats | seen | readdress => exact Or.inl cleaning
  | recycle => exact Or.inr ⟨rfl, rfl⟩
  | patch => cases manual
  | promote pooled | replaceSealed pooled | replaceDrained pooled =>
      have states := cleaning.symm.trans pooled.2.1
      cases states
  | sealActive serves | sealDrained serves | drain serves | clean serves =>
      have states := cleaning.symm.trans serves.2.2
      cases states
  | ready draining =>
      have states := cleaning.symm.trans draining
      cases states

theorem cleaning_kept (taken : step env configs fleet action = some after)
    (manual : forall op, operation ⟨fleet, action⟩ = some op -> isPatch op = false) {uuid : UUID}
    (unfinished : operation ⟨fleet, action⟩ ≠ some (.finishCleaning uuid))
    (cleaning : Cleaning uuid fleet.control.store.db) : Cleaning uuid after.control.store.db := by
  rcases cleaning with ⟨row, member, rfl, state⟩
  rcases step_shards taken with ⟨_, same⟩ | ⟨op, performs, reached⟩
  · rw [same]
    exact ⟨row, member, rfl, state⟩
  · rcases perform_moved env op member with ⟨moved, movedMember, moves⟩
    rw [reached]
    rcases cleaning_moves moves (manual op performs) state with still | ⟨finishes, _⟩
    · exact ⟨moved, movedMember, moves.keys.2.1, still⟩
    · rw [finishes] at performs
      exact absurd performs unfinished

theorem cleanedSince_cons {event : Event Fleet FleetAct} {past : FleetTrace} {uuid : UUID}
    (cleaning : Cleaning uuid event.state.control.store.db)
    (cleaned : executes event = some (uuid, .cleanDatabase) ∨ cleanedSince uuid past = true) :
    cleanedSince uuid (event :: past) = true := by
  rw [cleanedSince, decide_eq_true cleaning, Bool.true_and, Bool.or_eq_true, decide_eq_true_iff]
  exact cleaned

end Rows

/-! ## Reports belong to the current period -/

/-- A report under way is the only one of its shard, and the shard was emptied
in its current period of cleaning. -/
def ReportsSafe (uuid : UUID) (past : FleetTrace) (fleet : Fleet) : Prop :=
  forall (index : Nat) (flight : Flight), fleet.flights[index]? = some flight ->
    Reporting uuid fleet flight ->
    Cleaning uuid fleet.control.store.db ∧ cleanedSince uuid past = true ∧
      forall (other : Nat) (second : Flight), fleet.flights[other]? = some second -> Reporting uuid fleet second ->
        other = index

/-- The agent may report now: nothing of its is under way, and the shard was
emptied in its current period of cleaning. -/
def MayReport (uuid : UUID) (past : FleetTrace) (fleet : Fleet) : Prop :=
  Quiet uuid fleet ∧ Cleaning uuid fleet.control.store.db ∧ cleanedSince uuid past = true

theorem step_reportsSafe {env : Env} {configs : UUID -> AgentConfig} {fleet after : Fleet}
    {action : FleetAct} {past : FleetTrace} {uuid : UUID} (grounded : AllGrounded env fleet.control)
    (linked : Linked env fleet) (held : ReportsSafe uuid past fleet)
    (sends : (fleet.agents uuid).pendingRequest = some .reportCleaned -> MayReport uuid past fleet)
    (manual : forall op, operation ⟨fleet, action⟩ = some op -> isPatch op = false)
    (taken : step env configs fleet action = some after) :
    ReportsSafe uuid (⟨fleet, action⟩ :: past) after := by
  -- A report after the step was under way before, or is sent by the step.
  have source : forall (index : Nat) (flight : Flight), after.flights[index]? = some flight ->
      Reporting uuid after flight ->
      (Exists fun old => fleet.flights[index]? = some old ∧ Reporting uuid fleet old) ∨
      (action = .send uuid ∧ index = fleet.flights.length ∧ MayReport uuid past fleet) := by
    rintro index flight present ⟨rfl, isReport, unfinished⟩
    rcases step_flight taken present with ⟨old, found, sameUUID, sameRequest, before⟩ |
      ⟨isSend, position, pending⟩
    · exact Or.inl ⟨old, found, sameUUID, sameRequest.trans isReport, before unfinished⟩
    · rw [isReport] at pending
      exact Or.inr ⟨isSend, position, sends pending⟩
  intro index flight present reporting
  rcases source index flight present reporting with ⟨old, found, wasReporting⟩ |
    ⟨rfl, position, quiet, cleaning, cleaned⟩
  · rcases held index old found wasReporting with ⟨cleaning, cleaned, unique⟩
    have unfinished : operation ⟨fleet, action⟩ ≠ some (.finishCleaning uuid) := by
      intro finishes
      rcases finishing_settles grounded linked taken finishes with
        ⟨sameFlights, settled, settledMember, settledReporting, finished⟩
      rcases List.mem_iff_getElem?.mp settledMember with ⟨place, there⟩
      rw [unique place settled there settledReporting] at there
      rw [sameFlights, there, Option.some_inj] at present
      subst present
      rw [reporting.2.2] at finished
      cases finished
    refine ⟨cleaning_kept taken manual unfinished cleaning, cleanedSince_cons cleaning (Or.inr cleaned), ?_⟩
    intro other second otherPresent otherReporting
    rcases source other second otherPresent otherReporting with ⟨otherOld, otherFound, otherWas⟩ |
      ⟨_, _, quiet, _⟩
    · exact unique other otherOld otherFound otherWas
    · exact absurd wasReporting (quiet old (List.mem_of_getElem? found))
  · refine ⟨cleaning_kept taken manual nofun cleaning, cleanedSince_cons cleaning (Or.inr cleaned), ?_⟩
    intro other second otherPresent otherReporting
    rcases source other second otherPresent otherReporting with ⟨otherOld, otherFound, otherWas⟩ |
      ⟨_, otherPosition, _⟩
    · exact absurd otherWas (quiet otherOld (List.mem_of_getElem? otherFound))
    · rw [otherPosition, position]

/-! ## Size reports -/

/-- The second half of the handler of a size report. -/
def answerState (uuid : UUID) : Routine Outcome :=
  .request (.getShardByUUID uuid) fun found => .finish (.stats (.ok (found.map Shard.state)))

/-- The handler of a size report that, if it answers that the shard is being
cleaned, is right about it. -/
def Honest (env : Env) (uuid : UUID) (db : Db) (program : Routine Outcome) : Prop :=
  (Exists fun reportedBytes => program = body env (.reportStats uuid reportedBytes)) ∨
  program = answerState uuid ∨
  (Exists fun result => program = .finish (.stats result) ∧
    (result = .ok (some .cleaning) -> Cleaning uuid db))

theorem honest_kept {env : Env} {uuid : UUID} {db after : Db} {program : Routine Outcome}
    (honest : Honest env uuid db program) (kept : Cleaning uuid db -> Cleaning uuid after) :
    Honest env uuid after program := by
  rcases honest with unstarted | halfway | ⟨result, finished, right⟩
  · exact Or.inl unstarted
  · exact Or.inr (Or.inl halfway)
  · exact Or.inr (Or.inr ⟨result, finished, fun told => kept (right told)⟩)

theorem honest_resume {env : Env} {uuid : UUID} {moment : Moment} {op : Op}
    {next : Reply op -> Routine Outcome} (honest : Honest env uuid moment.db (.request op next)) :
    Honest env uuid (perform env op moment).2.db (next (perform env op moment).1) := by
  rcases honest with ⟨reportedBytes, unstarted⟩ | halfway | ⟨result, finished, _⟩
  · cases unstarted
    cases updated : (perform env (.updateStats uuid reportedBytes) moment).1 with
    | error failure => exact Or.inr (Or.inr ⟨.error failure, rfl, nofun⟩)
    | ok done => exact Or.inr (Or.inl rfl)
  · cases halfway
    refine Or.inr (Or.inr ⟨_, rfl, ?_⟩)
    intro told
    rcases Option.map_eq_some_iff.mp (Except.ok.inj told) with ⟨row, found, state⟩
    have chosen := List.find?_some found
    exact ⟨row, List.mem_of_find?_eq_some found, of_decide_eq_true chosen, state⟩
  · cases finished

/-- A size report under way, with an honest handler once it is delivered. -/
def Asked (env : Env) (uuid : UUID) (fleet : Fleet) (index : Nat) (size : Int) : Prop :=
  Exists fun handler => fleet.flights[index]? = some ⟨uuid, .reportStats size, handler⟩ ∧
    forall place, handler = some place -> Exists fun call => Exists fun program =>
      fleet.control.processes[place]? = some ⟨call, program⟩ ∧
        Honest env uuid fleet.control.store.db program

theorem control_asked {env : Env} {uuid : UUID} {fleet : Fleet} {system : System} {act : Act}
    {index : Nat} {size : Int} (taken : (machine env).step fleet.control act = some system)
    (kept : Cleaning uuid fleet.control.store.db -> Cleaning uuid system.store.db)
    (asked : Asked env uuid fleet index size) :
    Asked env uuid { fleet with control := system } index size := by
  rcases asked with ⟨handler, sent, honest⟩
  refine ⟨handler, sent, ?_⟩
  intro place delivered
  rcases honest place delivered with ⟨call, program, found, right⟩
  rcases process_after taken found with ⟨_, still⟩ | ⟨op, next, rfl, _, store, resumed⟩
  · exact ⟨call, program, still, honest_kept right kept⟩
  · refine ⟨call, _, resumed, ?_⟩
    change Honest env uuid system.store.db _
    rw [store]
    exact honest_resume right

theorem step_asked {env : Env} {configs : UUID -> AgentConfig} {fleet after : Fleet} {action : FleetAct}
    {uuid : UUID} {index : Nat} {size : Int} (taken : step env configs fleet action = some after)
    (kept : Cleaning uuid fleet.control.store.db -> Cleaning uuid after.control.store.db)
    (asked : Asked env uuid fleet index size) : Asked env uuid after index size := by
  cases steps_of_step taken with
  | control internal acted => exact control_asked acted kept asked
  | send state =>
      rcases asked with ⟨handler, sent, honest⟩
      refine ⟨handler, ?_, honest⟩
      have inside : index < fleet.flights.length := (List.getElem?_eq_some_iff.mp sent).1
      rw [List.getElem?_append_left inside]
      exact sent
  | @deliver delivered sender request system waiting started =>
      rcases control_asked started kept asked with ⟨handler, sent, honest⟩
      by_cases same : delivered = index
      · subst same
        have inside : delivered < fleet.flights.length := (List.getElem?_eq_some_iff.mp waiting).1
        rw [waiting] at sent
        cases sent
        refine ⟨_, List.getElem?_set_self inside, ?_⟩
        intro place delivery
        cases delivery
        cases started
        exact ⟨_, _, List.getElem?_concat_length, Or.inl ⟨size, rfl⟩⟩
      · refine ⟨handler, ?_, honest⟩
        rw [List.getElem?_set_ne same]
        exact sent
  | begin | work | receive | lose | restart => exact asked

/-! ## Agents -/

/-- A program that neither empties the database nor reports, and asks for no
state. -/
def Settled : AgentProgram -> Prop
  | .finish _ => True
  | .request .cleanDatabase _ => False
  | .request (.rpc (.reportStats _)) _ => False
  | .request (.rpc .reportCleaned) _ => False
  | .request _ next => forall reply, Settled (next reply)

theorem settled_drainAndReport : Settled drainAndReport := by
  intro drained
  cases drained with
  | error failure => trivial
  | ok done =>
      intro reply
      trivial

theorem settled_onAnswer {answered : Except AgentError (Option State)}
    (other : answered ≠ .ok (some .cleaning)) : Settled (onAnswer answered) := by
  match answered with
  | .error failure => trivial
  | .ok (some .cleaning) => exact absurd rfl other
  | .ok (some .draining) => exact settled_drainAndReport
  | .ok none | .ok (some .standby) | .ok (some .active) | .ok (some .sealed) => trivial

/-- The part of a tick up to the size report. -/
def Approaching (program : AgentProgram) : Prop :=
  program = tick ∨ program = measureAndReport ∨ Exists fun size => program = reportSize size

/-- What an agent in a given state relies on. -/
inductive AgentSafe (env : Env) (uuid : UUID) (past : FleetTrace) (fleet : Fleet) : AgentState -> Prop
  | idle : AgentSafe env uuid past fleet .idle
  | settled {program : AgentProgram} (done : Settled program) :
      AgentSafe env uuid past fleet (.running program)
  | approaching {program : AgentProgram} (stage : Approaching program) (quiet : Quiet uuid fleet) :
      AgentSafe env uuid past fleet (.running program)
  | cleaning {program : AgentProgram} (stage : program = cleanAndReport) (quiet : Quiet uuid fleet)
      (row : Cleaning uuid fleet.control.store.db) : AgentSafe env uuid past fleet (.running program)
  | cleaned {program : AgentProgram} (stage : program = reportCleaned)
      (ready : MayReport uuid past fleet) : AgentSafe env uuid past fleet (.running program)
  | asking {size : Int} {index : Nat} (quiet : Quiet uuid fleet) (asked : Asked env uuid fleet index size) :
      AgentSafe env uuid past fleet (.waiting (.reportStats size) index onAnswer)
  | settling {request : Request} {index : Nat} {next : AgentReply (.rpc request) -> AgentProgram}
      (done : forall reply, Settled (next reply)) :
      AgentSafe env uuid past fleet (.waiting request index next)

/-- What an agent relies on outlives the steps of others. -/
theorem AgentSafe.frame {env : Env} {configs : UUID -> AgentConfig} {uuid : UUID} {past : FleetTrace}
    {fleet after : Fleet} {action : FleetAct} {state : AgentState}
    (safe : AgentSafe env uuid past fleet state) (taken : step env configs fleet action = some after)
    (quietKept : Quiet uuid fleet -> Quiet uuid after)
    (rowKept : Quiet uuid fleet -> Cleaning uuid fleet.control.store.db ->
      Cleaning uuid after.control.store.db) :
    AgentSafe env uuid (⟨fleet, action⟩ :: past) after state := by
  cases safe with
  | idle => exact .idle
  | settled done => exact .settled done
  | approaching stage quiet => exact .approaching stage (quietKept quiet)
  | cleaning stage quiet row => exact .cleaning stage (quietKept quiet) (rowKept quiet row)
  | cleaned stage ready =>
      rcases ready with ⟨quiet, row, cleaned⟩
      exact .cleaned stage ⟨quietKept quiet, rowKept quiet row, cleanedSince_cons row (Or.inr cleaned)⟩
  | asking quiet asked => exact .asking (quietKept quiet) (step_asked taken (rowKept quiet) asked)
  | settling done => exact .settling done

/-- An agent about to empty its database has a shard that is being cleaned. -/
theorem AgentSafe.cleans {env : Env} {uuid : UUID} {past : FleetTrace} {fleet : Fleet}
    {next : AgentReply .cleanDatabase -> AgentProgram}
    (safe : AgentSafe env uuid past fleet (.running (.request .cleanDatabase next))) :
    .request .cleanDatabase next = cleanAndReport ∧ Quiet uuid fleet ∧
      Cleaning uuid fleet.control.store.db := by
  cases safe with
  | settled done => exact done.elim
  | approaching stage quiet =>
      rcases stage with same | same | ⟨size, same⟩ <;> cases same
  | cleaning stage quiet row => exact ⟨stage, quiet, row⟩
  | cleaned stage ready => cases stage

theorem AgentSafe.reports {env : Env} {uuid : UUID} {past : FleetTrace} {fleet : Fleet} {state : AgentState}
    (safe : AgentSafe env uuid past fleet state) (pending : state.pendingRequest = some .reportCleaned) :
    MayReport uuid past fleet := by
  cases safe with
  | idle | asking | settling => cases pending
  | @settled program done =>
      unfold AgentState.pendingRequest at pending
      split at pending
      · rename_i same
        cases pending
        cases same
        exact done.elim
      · cases pending
  | approaching stage quiet =>
      rcases stage with rfl | rfl | ⟨size, rfl⟩ <;> cases pending
  | cleaning stage quiet row =>
      subst stage
      cases pending
  | cleaned stage ready => exact ready

/-- One statement of an agent on its own database. -/
theorem AgentSafe.work {env : Env} {uuid : UUID} {past : FleetTrace} {fleet after : Fleet}
    {size : Int} {fate : Fate} {op : AgentOp} {next : AgentReply op -> AgentProgram}
    {reply : AgentReply op} (state : fleet.agents uuid = .running (.request op next))
    (safe : AgentSafe env uuid past fleet (.running (.request op next)))
    (replied : localReply size fate op = some reply)
    (sameFlights : after.flights = fleet.flights) (sameControl : after.control = fleet.control) :
    AgentSafe env uuid (⟨fleet, .work uuid size fate⟩ :: past) after (.running (next reply)) := by
  have quietKept : Quiet uuid fleet -> Quiet uuid after := by
    intro quiet
    unfold Quiet Reporting
    rw [sameFlights, sameControl]
    exact quiet
  cases op with
  | rpc request => cases replied
  | cleanDatabase =>
      rcases safe.cleans with ⟨stage, quiet, row⟩
      cases stage
      cases reply with
      | error failure => exact .settled trivial
      | ok done =>
          have effective : fate ≠ .refused := by
            rintro rfl
            cases replied
          refine .cleaned rfl ⟨quietKept quiet, ?_, cleanedSince_cons row (Or.inl ?_)⟩
          · rw [sameControl]
            exact row
          · simp only [executes, state, if_neg effective]
  | connect =>
      cases safe with
      | settled done => exact .settled (done reply)
      | approaching stage quiet =>
          rcases stage with same | same | ⟨_, same⟩ <;> cases same
          cases reply with
          | error failure => exact .settled trivial
          | ok done => exact .approaching (Or.inr (Or.inl rfl)) (quietKept quiet)
      | cleaning stage => cases stage
      | cleaned stage => cases stage
  | measureSize =>
      cases safe with
      | settled done => exact .settled (done reply)
      | approaching stage quiet =>
          rcases stage with same | same | ⟨_, same⟩ <;> cases same
          cases reply with
          | error failure => exact .settled trivial
          | ok measured => exact .approaching (Or.inr (Or.inr ⟨measured, rfl⟩)) (quietKept quiet)
      | cleaning stage => cases stage
      | cleaned stage => cases stage
  | drainShard =>
      cases safe with
      | settled done => exact .settled (done reply)
      | approaching stage quiet => rcases stage with same | same | ⟨_, same⟩ <;> cases same
      | cleaning stage => cases stage
      | cleaned stage => cases stage

/-- An agent that sends a request asks for the state, or has nothing to do with
the answer. -/
theorem AgentSafe.send {env : Env} {configs : UUID -> AgentConfig} {uuid : UUID} {past : FleetTrace}
    {fleet after : Fleet} {request : Request} {next : AgentReply (.rpc request) -> AgentProgram}
    (state : fleet.agents uuid = .running (.request (.rpc request) next))
    (safe : AgentSafe env uuid past fleet (.running (.request (.rpc request) next)))
    (taken : step env configs fleet (.send uuid) = some after)
    (sent : after.flights = fleet.flights ++ [⟨uuid, request, none⟩]) :
    AgentSafe env uuid (⟨fleet, .send uuid⟩ :: past) after
      (.waiting request fleet.flights.length next) := by
  cases safe with
  | settled done =>
      cases request with
      | reportStats | reportCleaned => exact done.elim
      | reportDrainComplete => exact .settling done
  | approaching stage quiet =>
      rcases stage with same | same | ⟨_, same⟩ <;> cases same
      refine .asking (quiet_kept taken quiet ?_) ⟨none, ?_, nofun⟩
      · intro _ pending
        rw [state] at pending
        cases pending
      · rw [sent, List.getElem?_concat_length]
  | cleaning stage => cases stage
  | cleaned stage =>
      cases stage
      exact .settling fun _ => trivial

/-- An agent acts on the answer to its size report, which is still right. -/
theorem AgentSafe.receive {env : Env} {uuid sender : UUID} {past : FleetTrace} {fleet : Fleet}
    {request sent : Request} {index handler : Nat} {call : Call} {outcome : Outcome}
    {next : AgentReply (.rpc request) -> AgentProgram} {event : Event Fleet FleetAct}
    (safe : AgentSafe env uuid past fleet (.waiting request index next))
    (delivered : fleet.flights[index]? = some ⟨sender, sent, some handler⟩)
    (handled : fleet.control.processes[handler]? = some ⟨call, .finish outcome⟩) (state : AgentState) :
    AgentSafe env uuid (event :: past) (fleet.setAgent uuid state)
      (.running (next (answer request outcome))) := by
  cases safe with
  | settling done => exact .settled (done _)
  | @asking size _ quiet asked =>
      rcases asked with ⟨place, flight, honest⟩
      rw [delivered] at flight
      cases flight
      rcases honest handler rfl with ⟨_, program, found, right⟩
      rw [handled] at found
      cases found
      rcases right with ⟨_, unstarted⟩ | halfway | ⟨result, finished, right⟩
      · cases unstarted
      · cases halfway
      · cases finished
        by_cases told : result = .ok (some .cleaning)
        · subst told
          exact .cleaning rfl quiet (right rfl)
        · refine .settled (settled_onAnswer ?_)
          intro same
          cases result with
          | error failure => cases same
          | ok answered =>
              cases same
              exact told rfl

theorem AgentSafe.lose {env : Env} {uuid : UUID} {past : FleetTrace} {fleet : Fleet} {request : Request}
    {index : Nat} {next : AgentReply (.rpc request) -> AgentProgram} {event : Event Fleet FleetAct}
    (safe : AgentSafe env uuid past fleet (.waiting request index next)) (after : Fleet) :
    AgentSafe env uuid (event :: past) after (.running (next (broken request))) := by
  cases safe with
  | settling done => exact .settled (done _)
  | asking quiet asked => exact .settled trivial

/-! ## Whole runs -/

/-- No process sets states by hand. -/
def Unpatched (control : System) : Prop :=
  forall process, process ∈ control.processes -> isPatchCall process.entry = false

/-- The invariant of the protocol. -/
structure ProtocolSafe (env : Env) (past : FleetTrace) (fleet : Fleet) : Prop where
  grounded : AllGrounded env fleet.control
  unpatched : Unpatched fleet.control
  linked : Linked env fleet
  reports : forall uuid, ReportsSafe uuid past fleet
  agents : forall uuid, AgentSafe env uuid past fleet (fleet.agents uuid)

theorem ProtocolSafe.manual {env : Env} {past : FleetTrace} {fleet : Fleet} {action : FleetAct}
    (safe : ProtocolSafe env past fleet) (op : Op) (performs : operation ⟨fleet, action⟩ = some op) :
    isPatch op = false := by
  cases action with
  | control act =>
      rcases Pool.pending_some performs with ⟨index, call, next, _, found⟩
      rcases safe.grounded.grounds found with ⟨_, issued⟩
      have unpatched := safe.unpatched _ (List.mem_of_getElem? found)
      cases op with
      | patchState id newState =>
          rw [show call = .patchState id newState from issued] at unpatched
          cases unpatched
      | _ => rfl
  | begin | work | send | deliver | receive | lose | restart => cases performs

theorem step_agentSafe {env : Env} {configs : UUID -> AgentConfig} {past : FleetTrace}
    {fleet after : Fleet} {action : FleetAct} (safe : ProtocolSafe env past fleet)
    (begins : BeginsQuietly ⟨fleet, action⟩) (taken : step env configs fleet action = some after)
    (uuid : UUID) : AgentSafe env uuid (⟨fleet, action⟩ :: past) after (after.agents uuid) := by
  have before := safe.agents uuid
  -- Unless the agent itself reports, its shard stays quiet; and a quiet shard stays in cleaning.
  have rowKept : Quiet uuid fleet -> Cleaning uuid fleet.control.store.db ->
      Cleaning uuid after.control.store.db := by
    intro quiet row
    refine cleaning_kept taken safe.manual ?_ row
    intro finishes
    rcases finishing_reports safe.grounded safe.linked finishes with ⟨_, _, _, _, _, member, reporting⟩
    exact quiet _ member reporting
  have framed : (action = .send uuid -> False) -> AgentSafe env uuid (⟨fleet, action⟩ :: past) after
      (fleet.agents uuid) := by
    intro silent
    exact before.frame taken (fun quiet => quiet_kept taken quiet fun sends => (silent sends).elim) rowKept
  cases steps_of_step taken with
  | control | deliver => exact framed nofun
  | @begin worker rests =>
      by_cases same : uuid = worker
      · subst same
        rw [Fleet.setAgent_self]
        exact .approaching (Or.inl rfl) (begins uuid rfl)
      · rw [Fleet.setAgent_other _ _ _ same]
        exact framed nofun
  | @work worker size fate op next reply state replied =>
      by_cases same : uuid = worker
      · subst same
        change AgentSafe env uuid _ _ ((fleet.setAgent uuid _).agents uuid)
        rw [Fleet.setAgent_self]
        rw [state] at before
        exact before.work state replied rfl rfl
      · change AgentSafe env uuid _ _ ((fleet.setAgent worker _).agents uuid)
        rw [Fleet.setAgent_other _ _ _ same]
        exact framed nofun
  | @send worker request next state =>
      by_cases same : uuid = worker
      · subst same
        change AgentSafe env uuid _ _ ((fleet.setAgent uuid _).agents uuid)
        rw [Fleet.setAgent_self]
        rw [state] at before
        exact before.send state taken rfl
      · change AgentSafe env uuid _ _ ((fleet.setAgent worker _).agents uuid)
        rw [Fleet.setAgent_other _ _ _ same]
        apply framed
        intro sends
        cases sends
        exact same rfl
  | @receive worker sender request sent index handler call next outcome state delivered handled =>
      by_cases same : uuid = worker
      · subst same
        rw [Fleet.setAgent_self]
        rw [state] at before
        exact before.receive delivered handled _
      · rw [Fleet.setAgent_other _ _ _ same]
        exact framed nofun
  | @lose worker request index next state =>
      by_cases same : uuid = worker
      · subst same
        rw [Fleet.setAgent_self]
        rw [state] at before
        exact before.lose _
      · rw [Fleet.setAgent_other _ _ _ same]
        exact framed nofun
  | @restart worker =>
      by_cases same : uuid = worker
      · subst same
        rw [Fleet.setAgent_self]
        exact .idle
      · rw [Fleet.setAgent_other _ _ _ same]
        exact framed nofun

/-- The step starts no call that sets states by hand. -/
def patchesNothing (event : Event Fleet FleetAct) : Bool :=
  match event.action with
  | .control (.start call) => !isPatchCall call
  | _ => true

theorem step_unpatched {env : Env} {control moved : System} {act : Act} (held : Unpatched control)
    (taken : (machine env).step control act = some moved)
    (starts : forall call, act = .start call -> isPatchCall call = false) : Unpatched moved := by
  intro process member
  rcases List.mem_iff_getElem?.mp member with ⟨index, present⟩
  rcases process_cases taken present with ⟨_, earlier⟩ | ⟨started, _, _⟩ | ⟨op, next, _, found, _⟩
  · exact held process (List.mem_of_getElem? earlier)
  · exact starts _ started
  · have kept := held _ (List.mem_of_getElem? found)
    exact kept

theorem step_protocolSafe {env : Env} {configs : UUID -> AgentConfig} {past : FleetTrace}
    {fleet after : Fleet} {action : FleetAct} (safe : ProtocolSafe env past fleet)
    (automatic : patchesNothing ⟨fleet, action⟩ = true) (begins : BeginsQuietly ⟨fleet, action⟩)
    (taken : step env configs fleet action = some after) :
    ProtocolSafe env (⟨fleet, action⟩ :: past) after where
  grounded := by
    cases steps_of_step taken with
    | control internal acted => exact step_allGrounded safe.grounded acted
    | deliver sent started => exact step_allGrounded safe.grounded started
    | begin | work | send | receive | lose | restart => exact safe.grounded
  unpatched := by
    cases steps_of_step taken with
    | control internal acted =>
        refine step_unpatched safe.unpatched acted ?_
        rintro call rfl
        exact Bool.not_eq_true' _ ▸ automatic
    | @deliver index uuid request system sent started =>
        refine step_unpatched safe.unpatched started ?_
        intro call same
        cases same
        cases request <;> rfl
    | begin | work | send | receive | lose | restart => exact safe.unpatched
  linked := step_linked safe.linked taken
  reports uuid := step_reportsSafe safe.grounded safe.linked (safe.reports uuid)
    (safe.agents uuid).reports safe.manual taken
  agents := step_agentSafe safe begins taken

theorem run_protocolSafe {env : Env} {configs : UUID -> AgentConfig} {db : Db} {now : Time}
    {past : FleetTrace} {fleet : Fleet} (run : FleetRuns env configs db now past fleet)
    (automatic : forall event, event ∈ past -> patchesNothing event = true)
    (begins : forall event, event ∈ past -> BeginsQuietly event) : ProtocolSafe env past fleet := by
  refine Run.history (ProtocolSafe env)
    (fun fleet action => patchesNothing ⟨fleet, action⟩ = true ∧ BeginsQuietly ⟨fleet, action⟩) ?_ ?_ run
    (fun event member => ⟨automatic event member, begins event member⟩)
  · exact {
      grounded := fun _ absent => absurd absent List.not_mem_nil
      unpatched := fun _ absent => absurd absent List.not_mem_nil
      linked := fun _ _ _ absent => nomatch absent
      reports := fun _ _ _ absent => nomatch absent
      agents := fun _ => .idle }
  · intro past fleet action after _ held permitted taken
    exact step_protocolSafe held permitted.1 permitted.2 taken

/-- In every run without manual state changes in which no agent begins a tick
while a report of its that the shard was cleaned is under way: databases are
emptied only while their shard is being cleaned, and a shard returns from
cleaning to standby only after its database was emptied in the same period. -/
theorem cleaning_matches_periods (env : Env) (configs : UUID -> AgentConfig) (db : Db) (now : Time)
    (past : FleetTrace) (fleet : Fleet) (run : FleetRuns env configs db now past fleet)
    (automatic : forall event, event ∈ past -> patchesNothing event = true)
    (begins : forall event, event ∈ past -> BeginsQuietly event) :
    (forall event uuid, event ∈ past -> executes event = some (uuid, .cleanDatabase) ->
      Cleaning uuid event.state.control.store.db) ∧
    (forall later event earlier row, past = later ++ event :: earlier -> Recycles env event row ->
      cleanedSince row.shardUUID earlier = true) := by
  have safeBefore : forall later event earlier, past = later ++ event :: earlier ->
      ProtocolSafe env earlier event.state := by
    intro later event earlier split
    exact run_protocolSafe (run.suffix split)
      (fun other member => automatic other (Run.mem_of_earlier split member))
      (fun other member => begins other (Run.mem_of_earlier split member))
  constructor
  · intro event uuid member cleans
    rcases List.append_of_mem member with ⟨later, earlier, split⟩
    have safe := (safeBefore later event earlier split).agents uuid
    unfold executes at cleans
    split at cleans
    · split at cleans
      · rename_i running
        split at cleans
        · cases cleans
        · cases cleans
          rw [running] at safe
          exact safe.cleans.2.2
      · cases cleans
    · cases cleans
  · rintro later event earlier row split ⟨op, performs, member, state, moved, movedMember, sameID, standby⟩
    have safe := safeBefore later event earlier split
    rcases perform_row movedMember with ⟨source, sourceMember, moves⟩ | ⟨_, _, _, _, _, _, rfl, _⟩
    · have isRow : source = row := by
        apply event.state.control.store.db.eq_of_id sourceMember member
        rw [← moves.keys.1, sameID]
      rw [isRow] at moves
      rcases cleaning_moves moves (safe.manual op performs) state with
        still | ⟨finishes, _⟩
      · rw [still] at standby
        cases standby
      · rw [finishes] at performs
        rcases finishing_reports safe.grounded safe.linked performs with ⟨_, _, _, _, _, present, reporting⟩
        rcases List.mem_iff_getElem?.mp present with ⟨index, there⟩
        exact (safe.reports row.shardUUID index _ there reporting).2.1
    · exact absurd sameID.symm (Nat.ne_of_lt (event.state.control.store.db.issued row member))

/-! ## Reports that arrive late -/

/-- From the second supervisor tick on: the shard drains, is sealed after the
timeout, and falls out of the retention window three days later. -/
def untilCleaning (process : Nat) : List FleetAct :=
  controls ([.start .sealTick] ++ resumes process 6 ++ [.elapse (3 * 86400 * 10 ^ 9)] ++
    [.start .sealTick] ++ resumes (process + 1) 6 ++
    [.start .retentionTick] ++ resumes (process + 2) 5)

/-- In an undisturbed round the shard is emptied and returns to the pool. -/
theorem cleaning_matches_periods_one_round :
    Exists fun past => Exists fun fleet => FleetRuns sampleEnv revokingAgents dailyDb 0 past fleet ∧
      (Exists fun event => event ∈ past ∧ executes event = some (1, .cleanDatabase)) ∧
      (forall event uuid, event ∈ past -> executes event = some (uuid, .cleanDatabase) ->
        Cleaning uuid event.state.control.store.db) ∧
      (forall later event earlier row, past = later ++ event :: earlier -> Recycles sampleEnv event row ->
        cleanedSince row.shardUUID earlier = true) := by
  have passed : replayCheck (step sampleEnv revokingAgents)
      (firstService ++ untilCleaning 3 ++ busyTick 1 6) (Fleet.idle dailyDb 0)
      (fun past _ => decide (forall event, event ∈ past -> patchesNothing event = true) &&
        decide (forall event, event ∈ past -> BeginsQuietly event) &&
        decide (Exists fun event => event ∈ past.take 5 ∧ executes event = some (1, .cleanDatabase))) =
        true := by
    decide +kernel
  rcases replayCheck_run passed with ⟨past, fleet, run, checked⟩
  rcases Bool.and_eq_true_iff.mp checked with ⟨conditions, cleans⟩
  rcases Bool.and_eq_true_iff.mp conditions with ⟨automatic, begins⟩
  rcases of_decide_eq_true cleans with ⟨event, recent, executed⟩
  exact ⟨past, fleet, run, ⟨event, List.mem_of_mem_take recent, executed⟩,
    cleaning_matches_periods sampleEnv revokingAgents dailyDb 0 past fleet run
      (of_decide_eq_true automatic) (of_decide_eq_true begins)⟩

/-- The agent empties its database and its report is delayed; it is restarted,
learns that the shard is being cleaned, and then the old report arrives and a
write promotes the shard. -/
def emptiesActive : List FleetAct :=
  firstService ++ untilCleaning 3 ++ reportTick 0 1 6 ++ [.work 1 0 .done, .send 1, .restart 1] ++
  reportTick 0 3 7 ++ [.deliver 2] ++ controls (resumes 8 1) ++
  controls ([.start (.resolveWrite (.string "1970-01-04"))] ++ resumes 9 10) ++ [.work 1 0 .done]

/-- The agent's report is delayed and it is restarted; in the next round it
empties the database again and its second report arrives.  The shard serves,
falls out of the window and is being cleaned anew when the old report arrives. -/
def skipsCleaning : List FleetAct :=
  firstService ++ untilCleaning 3 ++ reportTick 0 1 6 ++ [.work 1 0 .done, .send 1, .restart 1] ++
  busyTick 3 7 ++ controls ([.start (.resolveWrite (.string "1970-01-04"))] ++ resumes 9 10) ++
  reportTick 200 5 10 ++ untilCleaning 11 ++ [.deliver 2] ++ controls (resumes 14 1)

/-- Late reports defeat the protocol in both ways: a database is emptied while
its shard is active, and a shard returns to standby without having been emptied. -/
theorem late_report_defeats_cleaning :
    (Exists fun past => Exists fun fleet => FleetRuns sampleEnv revokingAgents dailyDb 0 past fleet ∧
      startsOnly isLifeCycle (controlTrace past) = true ∧
      Exists fun event => Exists fun earlier => past = event :: earlier ∧
        executes event = some (1, .cleanDatabase) ∧
        Exists fun row => row ∈ event.state.control.store.db.shards ∧ row.shardUUID = 1 ∧
          row.state = .active) ∧
    (Exists fun past => Exists fun fleet => FleetRuns sampleEnv revokingAgents dailyDb 0 past fleet ∧
      startsOnly isLifeCycle (controlTrace past) = true ∧
      Exists fun event => Exists fun earlier => Exists fun row => past = event :: earlier ∧
        Recycles sampleEnv event row ∧ cleanedSince row.shardUUID earlier = false) := by
  have active : replayCheck (step sampleEnv revokingAgents) emptiesActive (Fleet.idle dailyDb 0)
      (fun past _ => startsOnly isLifeCycle (controlTrace past) &&
        match past with
        | [] => false
        | event :: _ => decide (executes event = some (1, .cleanDatabase) ∧
            Exists fun row => row ∈ event.state.control.store.db.shards ∧ row.shardUUID = 1 ∧
              row.state = .active)) = true := by
    decide +kernel
  have unclean : replayCheck (step sampleEnv revokingAgents) skipsCleaning (Fleet.idle dailyDb 0)
      (fun past _ => startsOnly isLifeCycle (controlTrace past) &&
        match past with
        | [] => false
        | event :: earlier => (operation event).any fun op =>
            decide (Exists fun row => row ∈ event.state.control.store.db.shards ∧
              row.state = .cleaning ∧ cleanedSince row.shardUUID earlier = false ∧
              Exists fun moved => moved ∈ (perform sampleEnv op event.state.control.store).2.db.shards ∧
                moved.id = row.id ∧ moved.state = .standby)) = true := by
    decide +kernel
  constructor
  · rcases replayCheck_run active with ⟨past, fleet, run, checked⟩
    rcases Bool.and_eq_true_iff.mp checked with ⟨kinds, emptied⟩
    refine ⟨past, fleet, run, kinds, ?_⟩
    cases past with
    | nil => cases emptied
    | cons event earlier => exact ⟨event, earlier, rfl, of_decide_eq_true emptied⟩
  · rcases replayCheck_run unclean with ⟨past, fleet, run, checked⟩
    rcases Bool.and_eq_true_iff.mp checked with ⟨kinds, recycled⟩
    refine ⟨past, fleet, run, kinds, ?_⟩
    cases past with
    | nil => cases recycled
    | cons event earlier =>
        rcases (Option.any_eq_true _ _).mp recycled with ⟨op, performs, found⟩
        rcases of_decide_eq_true found with ⟨row, member, state, uncleaned, moved⟩
        exact ⟨event, earlier, row, rfl, ⟨op, performs, member, state, moved⟩, uncleaned⟩

end Agent
end Shardman
