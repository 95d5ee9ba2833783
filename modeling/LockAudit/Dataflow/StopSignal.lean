/-!
# Stop signals

A signal stops a solver that has been told to stop, or that has taken more
steps than it may.  Copies of a signal can be handed out; raising one of them
raises them all.
-/

namespace LockAudit

/-- What a solver sees of a signal. -/
structure StopSignal where
  raised : Bool := false
  stepLimit : Option Nat := none
  deriving DecidableEq, Repr

/-- A solver was stopped at its `steps`-th step. -/
structure Stopped where
  steps : Nat
  deriving DecidableEq, Repr

namespace StopSignal

/-- Some step limit lies below `steps`. -/
def overLimit (signal : StopSignal) (steps : Nat) : Bool :=
  signal.stepLimit.any (· < steps)

def check (signal : StopSignal) (steps : Nat) : Except Stopped Unit :=
  if signal.overLimit steps || signal.raised then .error ⟨steps⟩ else .ok ()

end StopSignal

/-- A handed-out signal: the family of copies that it belongs to, named by the
first of them, and its own limit. -/
structure SignalHandle where
  family : Nat
  stepLimit : Option Nat
  deriving DecidableEq, Repr

/-- All handed-out signals, numbered from zero, and the families that have been
raised. -/
structure SignalBoard where
  handles : List SignalHandle := []
  raisedFamilies : List Nat := []
  deriving DecidableEq, Repr

inductive SignalAction where
  | create (stepLimit : Option Nat)
  | copy (handle : Nat)
  | raise (handle : Nat)
  deriving DecidableEq, Repr

namespace SignalBoard

/-- Actions on handles that were never handed out change nothing. -/
def act (board : SignalBoard) : SignalAction → SignalBoard
  | .create stepLimit =>
      { board with
        handles := board.handles ++ [⟨board.handles.length, stepLimit⟩] }
  | .copy handle =>
      match board.handles[handle]? with
      | some held => { board with handles := board.handles ++ [held] }
      | none => board
  | .raise handle =>
      match board.handles[handle]? with
      | some held =>
          { board with raisedFamilies := held.family :: board.raisedFamilies }
      | none => board

def run (actions : List SignalAction) : SignalBoard :=
  actions.foldl act {}

/-- What a solver that holds the signal sees of it. -/
def signal? (board : SignalBoard) (handle : Nat) : Option StopSignal :=
  board.handles[handle]?.map fun held =>
    ⟨board.raisedFamilies.contains held.family, held.stepLimit⟩

end SignalBoard

end LockAudit
