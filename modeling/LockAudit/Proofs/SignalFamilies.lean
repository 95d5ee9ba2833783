import LockAudit.Dataflow.StopSignal
import Mathlib.Data.List.Induction
import Mathlib.Logic.Relation

/-!
# Families of signals

Handles are numbered as they are handed out, by creations and by copies of
earlier handles.  What a handle shows is decided by the history of the actions:
its limit is the limit of the one creation from which it descends, and it is
raised when any handle that descends from the same creation has been raised,
whether the copies were made before or after.
-/

namespace LockAudit

/-- A check fails on a raised signal and above the limit, and tells the step. -/
theorem StopSignal.check_eq_error_iff {signal : StopSignal} {steps : Nat}
    {stopped : Stopped} :
    signal.check steps = .error stopped ↔
      stopped.steps = steps ∧ (signal.raised = true ∨
        ∃ limit, signal.stepLimit = some limit ∧ limit < steps) := by
  have exceeds : signal.overLimit steps = true ↔
      ∃ limit, signal.stepLimit = some limit ∧ limit < steps := by
    simp [overLimit, Option.any_eq_true]
  rw [← exceeds, or_comm, ← Bool.or_eq_true, check]
  cases signal.overLimit steps || signal.raised with
  | false => simp
  | true =>
      obtain ⟨step⟩ := stopped
      simp [eq_comm]

namespace SignalBoard

/-- Only a handle that has been handed out can be copied. -/
def countAfter (count : Nat) : SignalAction → Nat
  | .create _ => count + 1
  | .copy handle => if handle < count then count + 1 else count
  | .raise _ => count

/-- How many handles the actions hand out, and so the number of the next. -/
def handedOut (actions : List SignalAction) : Nat :=
  actions.foldl countAfter 0

/-- The action is done when the condition holds of the actions before it. -/
def Does (actions : List SignalAction) (action : SignalAction)
    (condition : List SignalAction → Prop) : Prop :=
  ∃ before, before ++ [action] <+: actions ∧ condition before

def Creates (actions : List SignalAction) (stepLimit : Option Nat)
    (handle : Nat) : Prop :=
  Does actions (.create stepLimit) fun before => handedOut before = handle

def Copies (actions : List SignalAction) (source copy : Nat) : Prop :=
  Does actions (.copy source) fun before =>
    source < handedOut before ∧ handedOut before = copy

def Raises (actions : List SignalAction) (handle : Nat) : Prop :=
  Does actions (.raise handle) fun before => handle < handedOut before

/-- The second handle comes from the first by any number of copies. -/
def Descends (actions : List SignalAction) : Nat → Nat → Prop :=
  Relation.ReflTransGen (Copies actions)

/-- Both handles descend from one that was created. -/
def Related (actions : List SignalAction) (first second : Nat) : Prop :=
  ∃ stepLimit original, Creates actions stepLimit original ∧
    Descends actions original first ∧ Descends actions original second

section Longer

variable {actions longer : List SignalAction}

theorem Does.mono {action : SignalAction}
    {condition : List SignalAction → Prop}
    (does : Does actions action condition) (more : actions <+: longer) :
    Does longer action condition := by
  obtain ⟨before, done, holds⟩ := does
  exact ⟨before, done.trans more, holds⟩

theorem Descends.mono {source copy : Nat}
    (descends : Descends actions source copy) (more : actions <+: longer) :
    Descends longer source copy := by
  refine Relation.ReflTransGen.mono ?_ _ _ descends
  intro source copy copies
  exact Does.mono copies more

end Longer

section Action

variable {board : SignalBoard} {action : SignalAction} {handle : Nat}
  {held : SignalHandle}

theorem signal?_of_handle (found : board.handles[handle]? = some held) :
    board.signal? handle =
      some ⟨board.raisedFamilies.contains held.family, held.stepLimit⟩ := by
  rw [signal?, found, Option.map_some]

/-- An action hands out a new handle, raises a family, or does nothing because
it names a handle that was never handed out. -/
theorem act_cases (board : SignalBoard) (action : SignalAction) :
    (∃ stepLimit, action = .create stepLimit ∧
      board.act action =
        { board with
          handles := board.handles ++ [⟨board.handles.length, stepLimit⟩] }) ∨
    (∃ source held, action = .copy source ∧
      board.handles[source]? = some held ∧
      board.act action =
        { board with handles := board.handles ++ [held] }) ∨
    (∃ handle held, action = .raise handle ∧
      board.handles[handle]? = some held ∧
      board.act action =
        { board with
          raisedFamilies := held.family :: board.raisedFamilies }) ∨
    (∃ handle, (action = .copy handle ∨ action = .raise handle) ∧
      board.handles.length ≤ handle ∧ board.act action = board) := by
  cases action with
  | create stepLimit => exact .inl ⟨stepLimit, rfl, rfl⟩
  | copy source =>
      cases found : board.handles[source]? with
      | some held =>
          exact .inr (.inl ⟨source, held, rfl, found, by rw [act, found]⟩)
      | none =>
          have unknown := List.getElem?_eq_none_iff.mp found
          exact .inr (.inr (.inr
            ⟨source, .inl rfl, unknown, by rw [act, found]⟩))
  | raise handle =>
      cases found : board.handles[handle]? with
      | some held =>
          exact .inr (.inr (.inl
            ⟨handle, held, rfl, found, by rw [act, found]⟩))
      | none =>
          have unknown := List.getElem?_eq_none_iff.mp found
          exact .inr (.inr (.inr
            ⟨handle, .inr rfl, unknown, by rw [act, found]⟩))

theorem length_act (board : SignalBoard) (action : SignalAction) :
    (board.act action).handles.length =
      countAfter board.handles.length action := by
  rcases act_cases board action with
    ⟨stepLimit, rfl, acted⟩ | ⟨source, held, rfl, found, acted⟩ |
    ⟨handle, held, rfl, found, acted⟩ | ⟨handle, rfl | rfl, unknown, acted⟩
  · simp [acted, countAfter]
  · have known := List.getElem?_eq_some_iff.mp found
    simp [acted, countAfter, known.1]
  · simp [acted, countAfter]
  · simp [acted, countAfter, Nat.not_lt_of_le unknown]
  · simp [acted, countAfter]

/-- No handle is taken back or changed, and no family is lowered. -/
structure Grows (board later : SignalBoard) : Prop where
  handles : board.handles <+: later.handles
  raised : board.raisedFamilies ⊆ later.raisedFamilies

theorem grows_act (board : SignalBoard) (action : SignalAction) :
    board.Grows (board.act action) := by
  rcases act_cases board action with
    ⟨stepLimit, _, acted⟩ | ⟨source, held, _, _, acted⟩ |
    ⟨handle, held, _, _, acted⟩ | ⟨handle, _, _, acted⟩
  all_goals rw [acted]
  · exact ⟨List.prefix_append _ _, List.Subset.refl _⟩
  · exact ⟨List.prefix_append _ _, List.Subset.refl _⟩
  · exact ⟨List.prefix_rfl, List.subset_cons_self _ _⟩
  · exact ⟨List.prefix_rfl, List.Subset.refl _⟩

/-- A handle that an action hands out is created or copied by it. -/
theorem handle_act_cases
    (found : (board.act action).handles[handle]? = some held) :
    board.handles[handle]? = some held ∨
      handle = board.handles.length ∧
        (action = .create held.stepLimit ∧ held.family = handle ∨
          ∃ source, action = .copy source ∧
            board.handles[source]? = some held) := by
  have appended : ∀ newest,
      (board.handles ++ [newest])[handle]? = some held →
      board.handles[handle]? = some held ∨
        handle = board.handles.length ∧ newest = held := by
    intro newest there
    rw [List.getElem?_append] at there
    split at there
    · exact .inl there
    · rw [List.getElem?_singleton] at there
      split at there
      · right
        exact ⟨by omega, Option.some.inj there⟩
      · cases there
  rcases act_cases board action with
    ⟨stepLimit, rfl, acted⟩ | ⟨source, held, rfl, known, acted⟩ |
    ⟨handle, held, _, _, acted⟩ | ⟨handle, _, _, acted⟩
  all_goals rw [acted] at found
  · refine (appended _ found).imp_right ?_
    intro newest
    obtain ⟨last, rfl⟩ := newest
    exact ⟨last, .inl ⟨rfl, last.symm⟩⟩
  · refine (appended _ found).imp_right ?_
    intro newest
    obtain ⟨last, rfl⟩ := newest
    exact ⟨last, .inr ⟨source, rfl, known⟩⟩
  · exact .inl found
  · exact .inl found

/-- A family that an action raises is the family of its handle. -/
theorem raised_act_cases {family : Nat}
    (raised : family ∈ (board.act action).raisedFamilies) :
    family ∈ board.raisedFamilies ∨
      ∃ handle held, action = .raise handle ∧
        board.handles[handle]? = some held ∧ held.family = family := by
  rcases act_cases board action with
    ⟨stepLimit, _, acted⟩ | ⟨source, held, _, _, acted⟩ |
    ⟨handle, held, rfl, found, acted⟩ | ⟨handle, _, _, acted⟩
  all_goals rw [acted] at raised
  · exact .inl raised
  · exact .inl raised
  · rcases List.mem_cons.mp raised with newest | earlier
    · exact .inr ⟨handle, held, rfl, found, newest.symm⟩
    · exact .inl earlier
  · exact .inl raised

end Action

section Runs

variable {actions : List SignalAction} {handle : Nat} {held : SignalHandle}

theorem run_concat (actions : List SignalAction) (action : SignalAction) :
    run (actions ++ [action]) = (run actions).act action :=
  List.foldl_append

theorem handedOut_concat (actions : List SignalAction) (action : SignalAction) :
    handedOut (actions ++ [action]) = countAfter (handedOut actions) action :=
  List.foldl_append

theorem length_run (actions : List SignalAction) :
    (run actions).handles.length = handedOut actions := by
  induction actions using List.reverseRecOn with
  | nil => rfl
  | append_singleton actions action induction =>
      rw [run_concat, length_act, induction, handedOut_concat]

theorem grows_run {longer : List SignalAction} (more : actions <+: longer) :
    (run actions).Grows (run longer) := by
  obtain ⟨later, rfl⟩ := more
  induction later using List.reverseRecOn with
  | nil =>
      rw [List.append_nil]
      exact ⟨List.prefix_rfl, List.Subset.refl _⟩
  | append_singleton later action induction =>
      have next := grows_act (run (actions ++ later)) action
      rw [← List.append_assoc, run_concat]
      exact ⟨induction.handles.trans next.handles,
        List.Subset.trans induction.raised next.raised⟩

theorem Grows.keeps {board later : SignalBoard} (grows : board.Grows later)
    (found : board.handles[handle]? = some held) :
    later.handles[handle]? = some held := by
  obtain ⟨newer, appended⟩ := grows.handles
  have known := (List.getElem?_eq_some_iff.mp found).1
  rw [← appended, List.getElem?_append_left known, found]

theorem handle_of_creates {stepLimit : Option Nat}
    (creates : Creates actions stepLimit handle) :
    (run actions).handles[handle]? = some ⟨handle, stepLimit⟩ := by
  obtain ⟨before, done, rfl⟩ := creates
  apply (grows_run done).keeps
  rw [run_concat, act, ← length_run]
  exact List.getElem?_concat_length

theorem handle_of_copies {source copy : Nat}
    (copies : Copies actions source copy)
    (found : (run actions).handles[source]? = some held) :
    (run actions).handles[copy]? = some held := by
  obtain ⟨before, done, known, rfl⟩ := copies
  apply (grows_run done).keeps
  rw [← length_run] at known
  have earlier := List.getElem?_eq_getElem known
  have still :=
    (grows_run ((List.prefix_append before _).trans done)).keeps earlier
  cases still.symm.trans found
  rw [run_concat, act, earlier, ← length_run]
  exact List.getElem?_concat_length

theorem handle_of_descends {source copy : Nat}
    (descends : Descends actions source copy)
    (found : (run actions).handles[source]? = some held) :
    (run actions).handles[copy]? = some held := by
  induction descends with
  | refl => exact found
  | tail _ copies induction => exact handle_of_copies copies induction

/-- Every handle descends from the handle that its family is named after. -/
theorem original_of_handle
    (found : (run actions).handles[handle]? = some held) :
    Creates actions held.stepLimit held.family ∧
      Descends actions held.family handle := by
  induction actions using List.reverseRecOn generalizing handle with
  | nil => cases found
  | append_singleton actions action induction =>
      have more : actions <+: actions ++ [action] := List.prefix_append _ _
      rw [run_concat] at found
      rcases handle_act_cases found with
        earlier | ⟨last, ⟨rfl, original⟩ | ⟨source, rfl, known⟩⟩
      · obtain ⟨creates, descends⟩ := induction earlier
        exact ⟨creates.mono more, descends.mono more⟩
      · rw [length_run] at last
        rw [original]
        exact ⟨⟨actions, List.prefix_rfl, last.symm⟩, .refl⟩
      · obtain ⟨creates, descends⟩ := induction known
        refine ⟨creates.mono more, (descends.mono more).tail ?_⟩
        have inRange := (List.getElem?_eq_some_iff.mp known).1
        rw [length_run] at last inRange
        exact ⟨actions, List.prefix_rfl, inRange, last.symm⟩

/-- A handle has one original, and its limit. -/
theorem originates_iff (found : (run actions).handles[handle]? = some held)
    (stepLimit : Option Nat) (other : Nat) :
    Creates actions stepLimit other ∧ Descends actions other handle ↔
      stepLimit = held.stepLimit ∧ other = held.family := by
  constructor
  · intro origin
    have created := handle_of_creates origin.1
    cases found.symm.trans (handle_of_descends origin.2 created)
    exact ⟨rfl, rfl⟩
  · intro same
    rw [same.1, same.2]
    exact original_of_handle found

theorem related_iff {first second : Nat} {firstHeld secondHeld : SignalHandle}
    (firstFound : (run actions).handles[first]? = some firstHeld)
    (secondFound : (run actions).handles[second]? = some secondHeld) :
    Related actions first second ↔ firstHeld.family = secondHeld.family := by
  constructor
  · intro related
    obtain ⟨stepLimit, original, creates, toFirst, toSecond⟩ := related
    have ofFirst := (originates_iff firstFound _ _).mp ⟨creates, toFirst⟩
    have ofSecond := (originates_iff secondFound _ _).mp ⟨creates, toSecond⟩
    exact ofFirst.2.symm.trans ofSecond.2
  · intro same
    obtain ⟨creates, toFirst⟩ := original_of_handle firstFound
    obtain ⟨_, toSecond⟩ := original_of_handle secondFound
    exact ⟨_, _, creates, toFirst, same ▸ toSecond⟩

theorem handle_of_raises (raises : Raises actions handle) :
    ∃ held, (run actions).handles[handle]? = some held ∧
      held.family ∈ (run actions).raisedFamilies := by
  obtain ⟨before, done, known⟩ := raises
  rw [← length_run] at known
  have found := List.getElem?_eq_getElem known
  have grows := grows_run done
  rw [run_concat, act, found] at grows
  exact ⟨_, grows.keeps found, grows.raised List.mem_cons_self⟩

theorem raises_of_raised {family : Nat}
    (raised : family ∈ (run actions).raisedFamilies) :
    ∃ handle held, Raises actions handle ∧
      (run actions).handles[handle]? = some held ∧ held.family = family := by
  induction actions using List.reverseRecOn with
  | nil => cases raised
  | append_singleton actions action induction =>
      have more : actions <+: actions ++ [action] := List.prefix_append _ _
      rw [run_concat] at raised
      rcases raised_act_cases raised with
        earlier | ⟨handle, held, rfl, found, same⟩
      · obtain ⟨handle, held, raises, found, same⟩ := induction earlier
        exact ⟨handle, held, raises.mono more,
          (grows_run more).keeps found, same⟩
      · have known := (List.getElem?_eq_some_iff.mp found).1
        rw [length_run] at known
        exact ⟨handle, held, ⟨actions, List.prefix_rfl, known⟩,
          (grows_run more).keeps found, same⟩

theorem raised_iff (found : (run actions).handles[handle]? = some held) :
    held.family ∈ (run actions).raisedFamilies ↔
      ∃ other, Raises actions other ∧ Related actions other handle := by
  constructor
  · intro raised
    obtain ⟨other, otherHeld, raises, otherFound, same⟩ :=
      raises_of_raised raised
    exact ⟨other, raises, (related_iff otherFound found).mpr same⟩
  · intro raised
    obtain ⟨other, raises, related⟩ := raised
    obtain ⟨otherHeld, otherFound, otherRaised⟩ := handle_of_raises raises
    rw [← (related_iff otherFound found).mp related]
    exact otherRaised

end Runs

/-- A handle is raised exactly when an action has raised some handle that
descends from the same creation, and no later action lowers it.  There is one
creation from which the handle descends, and its limit is the limit of the
handle.  A check fails when the handle is raised or has a limit below the number
of steps, and tells that number. -/
theorem signals_follow_their_original (actions : List SignalAction)
    (handle : Nat) (known : handle < handedOut actions) :
    ∃ signal, (run actions).signal? handle = some signal ∧
      (signal.raised = true ↔
        ∃ other, Raises actions other ∧ Related actions other handle) ∧
      (∃ original, ∀ stepLimit other,
        Creates actions stepLimit other ∧ Descends actions other handle ↔
          stepLimit = signal.stepLimit ∧ other = original) ∧
      (∀ steps stopped, signal.check steps = .error stopped ↔
        stopped.steps = steps ∧ (signal.raised = true ∨
          ∃ limit, signal.stepLimit = some limit ∧ limit < steps)) ∧
      ∀ later, ∃ laterSignal,
        (run (actions ++ later)).signal? handle = some laterSignal ∧
          laterSignal.stepLimit = signal.stepLimit ∧
          (signal.raised = true → laterSignal.raised = true) := by
  rw [← length_run] at known
  have found := List.getElem?_eq_getElem known
  refine ⟨_, signal?_of_handle found, ?_, ?_, ?_, ?_⟩
  · rw [List.contains_iff_mem]
    exact raised_iff found
  · exact ⟨_, originates_iff found⟩
  · intro steps stopped
    exact StopSignal.check_eq_error_iff
  · intro later
    have grows := grows_run (List.prefix_append actions later)
    refine ⟨_, signal?_of_handle (grows.keeps found), rfl, ?_⟩
    intro raised
    rw [List.contains_iff_mem] at raised ⊢
    exact grows.raised raised

/-- Two families, with copies made before and after one of them is raised, and
a copy of a handle that was never handed out. -/
def mixedHandles : List SignalAction :=
  [.create none, .copy 0, .create (some 2), .copy 9, .raise 1, .copy 0, .copy 2]

theorem mixedHandles_signals :
    3 < handedOut mixedHandles ∧ 4 < handedOut mixedHandles ∧
      (∃ other, Raises mixedHandles other ∧ Related mixedHandles other 3) ∧
      (¬∃ other, Raises mixedHandles other ∧ Related mixedHandles other 4) ∧
      ∃ signal, (run mixedHandles).signal? 4 = some signal ∧
        signal.check 2 = .ok () ∧ signal.check 3 = .error ⟨3⟩ := by
  have late : 3 < handedOut mixedHandles := by decide
  have limited : 4 < handedOut mixedHandles := by decide
  have lateShown : (run mixedHandles).signal? 3 = some ⟨true, none⟩ := rfl
  have limitedShown : (run mixedHandles).signal? 4 = some ⟨false, some 2⟩ := rfl
  refine ⟨late, limited, ?_, ?_, _, limitedShown, rfl, ?_⟩
  · obtain ⟨_, shown, raised, _⟩ :=
      signals_follow_their_original mixedHandles 3 late
    cases shown.symm.trans lateShown
    exact raised.mp rfl
  · obtain ⟨_, shown, raised, _⟩ :=
      signals_follow_their_original mixedHandles 4 limited
    cases shown.symm.trans limitedShown
    exact mt raised.mpr Bool.false_ne_true
  · obtain ⟨_, shown, _, _, checks, _⟩ :=
      signals_follow_their_original mixedHandles 4 limited
    cases shown.symm.trans limitedShown
    exact (checks 3 ⟨3⟩).mpr ⟨rfl, .inr ⟨2, rfl, by decide⟩⟩

end SignalBoard

end LockAudit
