import Shardman.Foundation.Program
import Shardman.Foundation.Runs
import Shardman.Foundation.RowTables

namespace Shardman
namespace Foundation

/-!
# Transactions that lock rows

Many transactions work on one table at a time.  Each has its own versions of
the rows it has written, and it holds a lock on every row it has written or
selected for update.  What is read is the committed table under the own
versions.  A row that another transaction holds has to be waited for, or is
passed over where the statement says so.  A version that shares a key of a
unique index with a committed row is refused, and one that shares a key with
what another transaction is about to write has to wait.  Besides the table
there may be one single row, and a sequence that hands out ids.

The accesses here are smaller than statements: a statement first looks at the
table and then takes the rows it found one by one, waiting for each of them.

`Fits` says what one transaction knows of the committed state, and `Apart` what
two transactions cannot both have.  Every step keeps them, so whatever a
transaction has locked is still committed when it commits itself.
-/

section Accesses

variable {Row : Type} (layout : Layout Row) (Single : Type)

/-- Rows to insert, one for each id. -/
structure NewRow where
  make : Nat -> Row
  ident_eq : forall id, layout.ident (make id) = id

inductive Access
  | view (condition : Row -> Bool)
  | lock (id : Nat) (condition : Row -> Bool)
  | tryLock (id : Nat) (condition : Row -> Bool)
  | write (id : Nat) (condition : Row -> Bool) (change : RowChange layout)
  | draw
  | insert (new : NewRow layout) (target : Row -> Bool) (change : RowChange layout)
  | peek
  | create (value : Single)
  | alter (change : Single -> Single)

end Accesses

/-- What becomes of the write of one row: it no longer meets the condition, its
new version shares a key, or it is written. -/
inductive Written
  | missed
  | refused
  | done
deriving DecidableEq

section

variable {Row Single : Type} {layout : Layout Row}

def Access.Reply : Access layout Single -> Type
  | .view _ => List Row
  | .lock _ _ => Option Row
  | .tryLock _ _ => Option Row
  | .write _ _ _ => Written
  | .draw => Unit
  | .insert _ _ _ => Option Nat
  | .peek => Option Single
  | .create _ => Bool
  | .alter _ => Unit

end

/-- What all transactions see, and the next id of the sequence. -/
structure Committed (Row Single : Type) where
  table : List Row
  single : Option Single
  next : Nat

/-- What a transaction has to itself: the rows it has locked as they were then,
its own versions of rows, the id it has drawn, and the single row as it was when
it was locked together with its own version. -/
structure Held (Row Single : Type) where
  locked : List Row
  own : List Row
  drawn : Option Nat
  single : Option (Option Single × Single)

def Held.empty {Row Single : Type} : Held Row Single := ⟨[], [], none, none⟩

namespace Held

variable {Row Single : Type} (layout : Layout Row) (held : Held Row Single)

/-- A row is locked by a transaction. -/
def Has (id : Nat) : Prop :=
  layout.Names (held.locked ++ held.own) id

instance : DecidablePred (held.Has layout) := fun _ => inferInstanceAs (Decidable (layout.Names _ _))

/-- The table as the transaction sees it. -/
def visible (table : List Row) : List Row :=
  layout.overlay table held.own

/-- The single row as the transaction sees it. -/
def visibleSingle (single : Option Single) : Option Single :=
  match held.single with
  | some (_, mine) => some mine
  | none => single

def take (row : Row) : Held Row Single :=
  if held.Has layout (layout.ident row) then held else { held with locked := row :: held.locked }

def put (row : Row) : Held Row Single :=
  { held with own := row :: held.own.filter fun other => layout.ident other ≠ layout.ident row }

/-- The current version of a row that the transaction has locked. -/
def Reads (row : Row) : Prop :=
  row ∈ held.own ∨ row ∈ held.locked ∧ ¬ layout.Names held.own (layout.ident row)

end Held

/-- The committed state after a commit. -/
def Committed.absorb {Row Single : Type} (layout : Layout Row) (committed : Committed Row Single)
    (held : Held Row Single) : Committed Row Single where
  table := held.visible layout committed.table
  single := held.visibleSingle committed.single
  next := committed.next

/-! ## Accesses -/

inductive Verdict
  | refused
  | waits
  | free
deriving DecidableEq

section Access

variable {Row Single : Type} (layout : Layout Row)

/-- Another transaction holds the row. -/
def Taken (others : List (Held Row Single)) (id : Nat) : Prop :=
  Exists fun other => other ∈ others ∧ other.Has layout id

instance (others : List (Held Row Single)) : DecidablePred (Taken layout others) := fun _ =>
  inferInstanceAs (Decidable (Exists fun _ => _ ∈ others ∧ _))

/-- A committed row that the transaction has not written itself clashes with a
version. -/
def ClashesWith (held : Held Row Single) (version row : Row) : Prop :=
  layout.ident row ≠ layout.ident version ∧ ¬ layout.Names held.own (layout.ident row) ∧
    layout.clash version row = true

instance (held : Held Row Single) (version : Row) : DecidablePred (ClashesWith layout held version) :=
  fun _ => inferInstanceAs (Decidable (_ ∧ _ ∧ _))

/-- What the unique indexes say to a new version of a row.  A key that a running
transaction gives up or takes is not decided before that transaction ends. -/
def verdict (others : List (Held Row Single)) (table : List Row) (held : Held Row Single) (version : Row) :
    Verdict :=
  if Exists fun mine => mine ∈ held.own ∧ layout.ident mine ≠ layout.ident version ∧
      layout.clash version mine = true then
    .refused
  else if Exists fun row => row ∈ table ∧ ClashesWith layout held version row ∧
      forall other, other ∈ others -> ¬ layout.Names other.own (layout.ident row) then
    .refused
  else if (Exists fun row => row ∈ table ∧ ClashesWith layout held version row) ∨
      Exists fun other => other ∈ others ∧ Exists fun theirs => theirs ∈ other.own ∧
        layout.clash version theirs = true then
    .waits
  else
    .free

/-- Take the row with the id if it meets the condition.  `none` waits. -/
def lockRow (others : List (Held Row Single)) (table : List Row) (held : Held Row Single) (id : Nat)
    (condition : Row -> Bool) : Option (Option Row × Held Row Single) :=
  if Taken layout others id then none
  else
    match layout.lookup (held.visible layout table) id with
    | some row => if condition row then some (some row, held.take layout row) else some (none, held)
    | none => some (none, held)

/-- Write the row with the id if it meets the condition.  `none` waits. -/
def writeRow (others : List (Held Row Single)) (table : List Row) (held : Held Row Single) (id : Nat)
    (condition : Row -> Bool) (change : RowChange layout) : Option (Written × Held Row Single) :=
  if Taken layout others id then none
  else
    match layout.lookup (held.visible layout table) id with
    | none => some (.missed, held)
    | some row =>
        if condition row then
          match verdict layout others table held (change.apply row) with
          | .waits => none
          | .refused => some (.refused, held)
          | .free => some (.done, (held.take layout row).put layout (change.apply row))
        else some (.missed, held)

/-- Insert a row under the id that was drawn, or change the row that is there
already.  `none` waits. -/
def insertRow (others : List (Held Row Single)) (table : List Row) (held : Held Row Single)
    (new : NewRow layout) (target : Row -> Bool) (change : RowChange layout) :
    Option (Option Nat × Held Row Single) :=
  match (held.visible layout table).find? target with
  | some old =>
      match writeRow layout others table held (layout.ident old) target change with
      | none => none
      | some (.done, after) => some (some (layout.ident old), after)
      | some (_, after) => some (none, after)
  | none =>
      match held.drawn with
      | none => some (none, held)
      | some id =>
          if layout.Names (held.visible layout table) id then some (none, held)
          else if Exists fun other => other ∈ others ∧ Exists fun theirs => theirs ∈ other.own ∧
              (target theirs = true ∨ layout.ident theirs = id) then
            none
          else
            match verdict layout others table held (new.make id) with
            | .waits => none
            | .refused => some (none, held)
            | .free => some (some id, held.put layout (new.make id))

/-- Another transaction holds the single row. -/
def SingleTaken (others : List (Held Row Single)) : Prop :=
  Exists fun other => other ∈ others ∧ other.single.isSome = true

instance (others : List (Held Row Single)) : Decidable (SingleTaken others) :=
  inferInstanceAs (Decidable (Exists fun _ => _ ∈ others ∧ _))

/-- The single row, locked, with a new version. -/
def Held.putSingle (held : Held Row Single) (committed : Option Single) (value : Single) : Held Row Single :=
  { held with single := some (committed, value) }

/-- One access of a transaction while the others hold what they hold.  `none`
waits. -/
def access (others : List (Held Row Single)) (committed : Committed Row Single) (held : Held Row Single) :
    (op : Access layout Single) -> Option (op.Reply × Held Row Single)
  | .view condition => some ((held.visible layout committed.table).filter condition, held)
  | .lock id condition => lockRow layout others committed.table held id condition
  | .tryLock id condition =>
      match lockRow layout others committed.table held id condition with
      | some outcome => some outcome
      | none => some (none, held)
  | .write id condition change => writeRow layout others committed.table held id condition change
  | .draw => some ((), { held with drawn := some committed.next })
  | .insert new target change => insertRow layout others committed.table held new target change
  | .peek => some (held.visibleSingle committed.single, held)
  | .create value =>
      if SingleTaken others then none
      else
        match held.visibleSingle committed.single with
        | some _ => some (false, held)
        | none => some (true, held.putSingle committed.single value)
  | .alter change =>
      match held.visibleSingle committed.single with
      | none => some ((), held)
      | some value =>
          if SingleTaken others then none else some ((), held.putSingle committed.single (change value))

/-- The sequence moves at once, whatever becomes of the transaction. -/
def Access.advance (op : Access layout Single) (committed : Committed Row Single) : Committed Row Single :=
  match op with
  | .draw => { committed with next := committed.next + 1 }
  | _ => committed

end Access

/-! ## Running transactions -/

section Engines

variable (Row Single Entry Failure Value : Type) (layout : Layout Row)

abbrev Transaction :=
  Program (Access layout Single) Access.Reply (Except Failure Value)

/-- A transaction in progress, the entry that started it and the time at which
it began. -/
structure Session where
  entry : Entry
  started : Int
  program : Transaction Row Single Failure Value layout
  held : Held Row Single
  isOpen : Bool

structure Engine where
  committed : Committed Row Single
  now : Int
  sessions : List (Session Row Single Entry Failure Value layout)

inductive EngineAction (Entry : Type)
  | start (entry : Entry)
  | resume (index : Nat)
  | close (index : Nat)
  | abort (index : Nat)
  | elapse (duration : Nat)

end Engines

variable {Row Single Entry Failure Value : Type} {layout : Layout Row}

/-- A session that has ended holds nothing. -/
def Session.ended (session : Session Row Single Entry Failure Value layout) :
    Session Row Single Entry Failure Value layout :=
  { session with held := .empty, isOpen := false }

namespace Engine

/-- What the other transactions hold. -/
def others (engine : Engine Row Single Entry Failure Value layout) (index : Nat) : List (Held Row Single) :=
  (engine.sessions.eraseIdx index).map Session.held

/-- One step.  A transaction that has finished is committed if it returned a
value and rolled back if it returned an error, and any transaction may be given
up at any time. -/
def step (body : Entry -> Int -> Transaction Row Single Failure Value layout)
    (engine : Engine Row Single Entry Failure Value layout) :
    EngineAction Entry -> Option (Engine Row Single Entry Failure Value layout)
  | .start entry =>
      some { engine with
        sessions := engine.sessions ++ [⟨entry, engine.now, body entry engine.now, .empty, true⟩] }
  | .resume index =>
      match engine.sessions[index]? with
      | some ⟨entry, started, .request op next, held, true⟩ =>
          match access layout (engine.others index) engine.committed held op with
          | some (reply, after) =>
              some { engine with
                committed := op.advance layout engine.committed
                sessions := engine.sessions.set index ⟨entry, started, next reply, after, true⟩ }
          | none => none
      | _ => none
  | .close index =>
      match engine.sessions[index]? with
      | some ⟨entry, started, .finish outcome, held, true⟩ =>
          some { engine with
            committed :=
              match outcome with
              | .ok _ => engine.committed.absorb layout held
              | .error _ => engine.committed
            sessions := engine.sessions.set index ⟨entry, started, .finish outcome, .empty, false⟩ }
      | _ => none
  | .abort index =>
      match engine.sessions[index]? with
      | some session =>
          if session.isOpen then some { engine with sessions := engine.sessions.set index session.ended }
          else none
      | none => none
  | .elapse duration => some { engine with now := engine.now + duration }

end Engine

end Foundation
end Shardman
