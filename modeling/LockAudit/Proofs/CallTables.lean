import LockAudit.Proofs.CallRelation
import LockAudit.Proofs.KeyedTables
import Mathlib.Data.List.Sort

/-!
# Tables of calls

Calls can be gathered in two tables, which are filled target by target: a list
of targets for every call site, to be sorted and freed of repetitions when all
calls are gathered, and a set of callees for every procedure.  A target that is
not a procedure is entered into neither.  The edges are read off the first
table, and the callers are found by turning the second one around.

Both tables tell the calls that the procedures list.  All that is read off them
is therefore what the call graph of an accepted program tells.
-/

namespace LockAudit

/-- The node is listed in the row. -/
def Lists [Membership Nat ρ] (rows : List ρ) (row node : Nat) : Prop :=
  ∃ listed, rows[row]? = some listed ∧ node ∈ listed

theorem Lists.lt_length [Membership Nat ρ] {rows : List ρ} {row node : Nat}
    (listed : Lists rows row node) : row < rows.length := by
  obtain ⟨_, found, _⟩ := listed
  exact (List.getElem?_eq_some_iff.mp found).1

theorem lists_map_range_iff [Membership Nat ρ] {rowOf : Nat → ρ}
    {count row node : Nat} :
    Lists ((List.range count).map rowOf) row node ↔
      row < count ∧ node ∈ rowOf row := by
  by_cases inside : row < count
  · simp [Lists, inside]
  · simp [Lists, inside]

theorem lists_cons_iff [Membership Nat ρ] {first : ρ} {rows : List ρ}
    {row node : Nat} :
    Lists (first :: rows) row node ↔
      (row = 0 ∧ node ∈ first) ∨
        ∃ earlier, row = earlier + 1 ∧ Lists rows earlier node := by
  cases row with
  | zero => simp [Lists]
  | succ row => simp [Lists]

theorem lists_map_toList_iff {rows : List (SortedSet Nat)} {row node : Nat} :
    Lists (rows.map SortedSet.toList) row node ↔ Lists rows row node := by
  simp [Lists, SortedSet.mem_toList]

theorem not_lists_replicate_empty {count row node : Nat} :
    ¬Lists (List.replicate count (∅ : SortedSet Nat)) row node := by
  intro listed
  obtain ⟨listed, found, member⟩ := listed
  rw [List.getElem?_replicate] at found
  split at found
  · cases found
    exact SortedSet.not_mem_empty node member
  · cases found

/-- Rows are determined by their number and by what they list. -/
theorem eq_of_lists_iff {left right : List (SortedSet Nat)}
    (length : left.length = right.length)
    (same : ∀ row node, Lists left row node ↔ Lists right row node) :
    left = right := by
  apply List.ext_getElem length
  intro row leftRow rightRow
  apply SortedSet.ext
  intro node
  have rows := same row node
  simpa [Lists, List.getElem?_eq_getElem, leftRow, rightRow] using rows

theorem lists_modify_iff {rows : List (SortedSet Nat)}
    {node other row item : Nat} :
    Lists (rows.modify other (·.insert node)) row item ↔
      Lists rows row item ∨
        item = node ∧ row = other ∧ row < rows.length := by
  unfold Lists
  rw [List.getElem?_modify]
  cases found : rows[row]? with
  | none =>
      have beyond := List.getElem?_eq_none_iff.mp found
      simp only [Option.map_eq_map, Option.map_none]
      grind
  | some listed =>
      have inside := (List.getElem?_eq_some_iff.mp found).1
      by_cases same : other = row
      · simp [same, inside, or_comm]
      · simp [same, Ne.symm same]

/-- Adds a node to the rows of other nodes. -/
def addTo (node : Nat) :
    List Nat → List (SortedSet Nat) → List (SortedSet Nat)
  | [], rows => rows
  | other :: others, rows =>
      addTo node others (rows.modify other (·.insert node))

/-- Turns the rows of the nodes from one number on around, on top of the rows
that are turned already. -/
def turnFrom :
    Nat → List (List Nat) → List (SortedSet Nat) → List (SortedSet Nat)
  | _, [], turned => turned
  | node, row :: rows, turned =>
      turnFrom (node + 1) rows (addTo node row turned)

/-- The rows turned around, as sets. -/
def turnedSets (rows : List (List Nat)) : List (SortedSet Nat) :=
  turnFrom 0 rows (List.replicate rows.length ∅)

/-- Turns rows around: a node is added to the row of every node that its own
row lists. -/
def turned (rows : List (List Nat)) : List (List Nat) :=
  (turnedSets rows).map SortedSet.toList

theorem length_addTo {node : Nat} {others : List Nat}
    {rows : List (SortedSet Nat)} :
    (addTo node others rows).length = rows.length := by
  induction others generalizing rows with
  | nil => rfl
  | cons other others induction =>
      rw [addTo, induction, List.length_modify]

theorem lists_addTo_iff {node row item : Nat}
    {others : List Nat} {rows : List (SortedSet Nat)} :
    Lists (addTo node others rows) row item ↔
      Lists rows row item ∨
        item = node ∧ row ∈ others ∧ row < rows.length := by
  induction others generalizing rows with
  | nil => simp [addTo]
  | cons other others induction =>
      rw [addTo, induction, lists_modify_iff, List.length_modify,
        List.mem_cons, or_assoc, ← and_or_left, ← or_and_right]

theorem length_turnFrom {node : Nat} {rows : List (List Nat)}
    {before : List (SortedSet Nat)} :
    (turnFrom node rows before).length = before.length := by
  induction rows generalizing node before with
  | nil => rfl
  | cons row rows induction => rw [turnFrom, induction, length_addTo]

theorem lists_turnFrom_iff {node row item : Nat} {rows : List (List Nat)}
    {before : List (SortedSet Nat)} :
    Lists (turnFrom node rows before) row item ↔
      Lists before row item ∨
        row < before.length ∧ ∃ offset, item = node + offset ∧
          Lists rows offset row := by
  induction rows generalizing node before with
  | nil => simp [turnFrom, Lists]
  | cons first rows induction =>
      rw [turnFrom, induction, lists_addTo_iff, length_addTo, or_assoc]
      apply or_congr_right
      simp only [lists_cons_iff]
      constructor
      · rintro (⟨same, listed, inside⟩ | ⟨inside, offset, same, listed⟩)
        · exact ⟨inside, 0, same, .inl ⟨rfl, listed⟩⟩
        · exact ⟨inside, offset + 1, by omega, .inr ⟨offset, rfl, listed⟩⟩
      · rintro ⟨inside, offset, same, ⟨atOnce, listed⟩ | later⟩
        · exact .inl ⟨by omega, listed, inside⟩
        · obtain ⟨earlier, more, listed⟩ := later
          exact .inr ⟨inside, earlier, by omega, listed⟩

theorem length_turnedSets (rows : List (List Nat)) :
    (turnedSets rows).length = rows.length := by
  rw [turnedSets, length_turnFrom, List.length_replicate]

/-- What a row lists is turned around, unless there is no row for it. -/
theorem lists_turnedSets_iff {rows : List (List Nat)} {row node : Nat} :
    Lists (turnedSets rows) row node ↔
      row < rows.length ∧ Lists rows node row := by
  rw [turnedSets, lists_turnFrom_iff, List.length_replicate]
  simp [not_lists_replicate_empty]

theorem turned_turned {rows : List (SortedSet Nat)}
    (inside : ∀ row node, Lists rows row node → node < rows.length) :
    turned (turned (rows.map SortedSet.toList)) =
      rows.map SortedSet.toList := by
  unfold turned
  congr 1
  apply eq_of_lists_iff
  · simp [length_turnedSets]
  · intro row node
    simp only [lists_turnedSets_iff, lists_map_toList_iff, List.length_map,
      length_turnedSets]
    constructor
    · intro listed
      exact listed.2.2
    · intro listed
      exact ⟨listed.lt_length, inside row node listed, listed⟩

theorem mem_eraseRepsBy_loop {first item : Nat} {rest before : List Nat} :
    item ∈ List.eraseRepsBy.loop (· == ·) first rest before ↔
      item ∈ before ∨ item ∈ first :: rest := by
  induction rest generalizing first before with
  | nil => simp [List.eraseRepsBy.loop, or_comm]
  | cons second rest induction =>
      rw [List.eraseRepsBy.loop]
      split
      · next same =>
          rw [induction, beq_iff_eq.mp same]
          simp
      · rw [induction]
        simp only [List.mem_cons, or_assoc, or_left_comm]

theorem mem_eraseReps {items : List Nat} {item : Nat} :
    item ∈ items.eraseReps ↔ item ∈ items := by
  cases items with
  | nil => rfl
  | cons first rest =>
      exact mem_eraseRepsBy_loop.trans (by simp)

theorem increasing_eraseRepsBy_loop {first : Nat} {rest before : List Nat}
    (passed : (first :: before).Pairwise (· > ·))
    (ahead : (first :: rest).Pairwise (· ≤ ·)) :
    (List.eraseRepsBy.loop (· == ·) first rest before).Pairwise (· < ·) := by
  induction rest generalizing first before with
  | nil =>
      rw [List.eraseRepsBy.loop, List.pairwise_reverse]
      exact passed
  | cons second rest induction =>
      obtain ⟨least, sorted⟩ := List.pairwise_cons.mp ahead
      rw [List.eraseRepsBy.loop]
      split
      · next same =>
          exact induction passed (beq_iff_eq.mp same ▸ sorted)
      · next different =>
          have less : first < second :=
            Nat.lt_of_le_of_ne (least second List.mem_cons_self)
              (by simpa using different)
          refine induction (List.pairwise_cons.mpr ⟨?_, passed⟩) sorted
          intro item member
          rcases List.mem_cons.mp member with same | earlier
          · exact same ▸ less
          · exact (List.pairwise_cons.mp passed).1 item earlier |>.trans less

/-- Sorting a list and dropping repetitions lists its members as a set does. -/
theorem eraseReps_mergeSort (items : List Nat) :
    items.mergeSort.eraseReps = (SortedSet.ofList items).toList := by
  have sorted : items.mergeSort.Pairwise (· ≤ ·) :=
    List.pairwise_mergeSort' (· ≤ ·) items
  have increasing : Increasing items.mergeSort.eraseReps := by
    cases listed : items.mergeSort with
    | nil => exact .nil
    | cons first rest =>
        exact (increasing_eraseRepsBy_loop (List.pairwise_singleton _ first)
          (listed ▸ sorted)).imp Nat.compare_eq_lt.mpr
  apply SortedSet.eq_toList_ofList increasing
  intro item
  rw [mem_eraseReps, List.mem_mergeSort]

/-- The calls that are gathered so far: the targets of every call site in the
order in which they are met, and the callees of every procedure. -/
structure GatheredCalls where
  targets : Std.TreeMap (ProcedureId × SiteNumber) (List ProcedureId) pairOrder
  callees : List (SortedSet ProcedureId)

namespace GatheredCalls

/-- Enters a target into both tables, unless it is not a procedure. -/
def addTarget (count : Nat) (caller : ProcedureId) (site : SiteNumber)
    (gathered : GatheredCalls) (target : ProcedureId) : GatheredCalls :=
  if count ≤ target then
    gathered
  else
    { targets := gathered.targets.insert (caller, site)
        (gathered.targets.getD (caller, site) [] ++ [target])
      callees := gathered.callees.modify caller (·.insert target) }

/-- A call site is listed even when it has no targets. -/
def addSite (caller : ProcedureId) (site : SiteNumber)
    (gathered : GatheredCalls) : GatheredCalls :=
  { gathered with
    targets := gathered.targets.insertIfNew (caller, site) [] }

def addCall (count : Nat) (caller : ProcedureId) (gathered : GatheredCalls)
    (call : CallTargets) : GatheredCalls :=
  call.targets.foldl (addTarget count caller call.site)
    (gathered.addSite caller call.site)

def addProcedure (count : Nat) (gathered : GatheredCalls)
    (numbered : Procedure × ProcedureId) : GatheredCalls :=
  numbered.1.calls.foldl (addCall count numbered.2) gathered

/-- The tables tell the calls among the listed ones that lead to procedures. -/
structure Tells (count : Nat) (gathered : GatheredCalls)
    (listed : List CallEdge) : Prop where
  rows : gathered.callees.length = count
  targets : ∀ caller site callee,
    callee ∈ gathered.targets.getD (caller, site) [] ↔
      ⟨caller, site, callee⟩ ∈ listed ∧ callee < count
  callees : ∀ caller callee,
    Lists gathered.callees caller callee ↔
      ∃ site, ⟨caller, site, callee⟩ ∈ listed ∧ callee < count

variable {count : Nat} {gathered : GatheredCalls} {listed : List CallEdge}

theorem tells_nothing :
    Tells count ⟨∅, List.replicate count ∅⟩ [] where
  rows := List.length_replicate
  targets := by simp
  callees := by simp [not_lists_replicate_empty]

theorem Tells.addTarget {caller : ProcedureId} (site : SiteNumber)
    (told : gathered.Tells count listed) (known : caller < count)
    (target : ProcedureId) :
    (gathered.addTarget count caller site target).Tells count
      (listed ++ [⟨caller, site, target⟩]) := by
  unfold GatheredCalls.addTarget
  split
  · next beyond =>
      refine ⟨told.rows, ?_, ?_⟩
      · intro other place callee
        rw [told.targets]
        grind
      · intro other callee
        rw [told.callees]
        grind
  · next inside =>
      refine ⟨?_, ?_, ?_⟩
      · simpa using told.rows
      · intro other place callee
        have earlier := told.targets other place callee
        simp only [Std.TreeMap.getD_insert,
          Std.LawfulEqCmp.compare_eq_iff_eq]
        grind
      · intro other callee
        rw [lists_modify_iff, told.callees, told.rows]
        grind

theorem Tells.addSite (told : gathered.Tells count listed)
    (caller : ProcedureId) (site : SiteNumber) :
    (gathered.addSite caller site).Tells count listed := by
  refine ⟨told.rows, ?_, told.callees⟩
  intro other place callee
  rw [← told.targets, GatheredCalls.addSite, Std.TreeMap.getD_insertIfNew]
  split
  · next added =>
      rw [← Std.TreeMap.getD_congr added.1,
        Std.TreeMap.getD_eq_fallback added.2]
  · rfl

/-- What every step adds to the tables is added by all of them. -/
theorem Tells.foldl {ι : Type} {step : GatheredCalls → ι → GatheredCalls}
    {edgesOf : ι → List CallEdge} {items : List ι}
    (kept : ∀ item ∈ items, ∀ {gathered listed},
      Tells count gathered listed →
        Tells count (step gathered item) (listed ++ edgesOf item))
    (told : gathered.Tells count listed) :
    (items.foldl step gathered).Tells count
      (listed ++ items.flatMap edgesOf) := by
  induction items generalizing gathered listed with
  | nil => simpa using told
  | cons item items induction =>
      have later := induction
        (fun other member => kept other (List.mem_cons_of_mem item member))
        (kept item List.mem_cons_self told)
      simpa using later

theorem Tells.addCall {caller : ProcedureId}
    (told : gathered.Tells count listed) (known : caller < count)
    (call : CallTargets) :
    (gathered.addCall count caller call).Tells count
      (listed ++ call.targets.map fun target =>
        ⟨caller, call.site, target⟩) := by
  rw [List.map_eq_flatMap]
  exact (told.addSite caller call.site).foldl fun target _ _ _ before =>
    before.addTarget call.site known target

theorem Tells.addProcedure {numbered : Procedure × ProcedureId}
    (told : gathered.Tells count listed) (known : numbered.2 < count) :
    (gathered.addProcedure count numbered).Tells count
      (listed ++ numbered.1.edges numbered.2) :=
  told.foldl fun call _ _ _ before => before.addCall known call

end GatheredCalls

namespace Program

/-- The calls of all procedures, procedure by procedure. -/
def gatherCalls (program : Program) : GatheredCalls :=
  program.procedures.zipIdx.foldl
    (GatheredCalls.addProcedure program.procedures.length)
    ⟨∅, List.replicate program.procedures.length ∅⟩

theorem gatherCalls_tells (program : Program) :
    program.gatherCalls.Tells program.procedures.length
      (program.procedures.zipIdx.flatMap fun numbered =>
        numbered.1.edges numbered.2) := by
  have told : program.gatherCalls.Tells program.procedures.length
      ([] ++ program.procedures.zipIdx.flatMap fun numbered =>
        numbered.1.edges numbered.2) :=
    GatheredCalls.tells_nothing.foldl fun numbered member _ _ before =>
      before.addProcedure (List.snd_lt_of_mem_zipIdx member)
  simpa using told

theorem mem_flatMap_edges {program : Program} {caller callee : ProcedureId}
    {site : SiteNumber} :
    ⟨caller, site, callee⟩ ∈ (program.procedures.zipIdx.flatMap
        fun numbered => numbered.1.edges numbered.2) ↔
      program.CallsAt caller site callee :=
  SortedSet.mem_ofList.symm.trans mem_edges

theorem mem_gatherCalls_targets {program : Program}
    {caller callee : ProcedureId} {site : SiteNumber} :
    callee ∈ program.gatherCalls.targets.getD (caller, site) [] ↔
      program.CallsAt caller site callee ∧
        callee < program.procedures.length := by
  rw [program.gatherCalls_tells.targets, mem_flatMap_edges]

theorem lists_gatherCalls_callees {program : Program}
    {caller callee : ProcedureId} :
    Lists program.gatherCalls.callees caller callee ↔
      program.Calls caller callee ∧ callee < program.procedures.length := by
  rw [program.gatherCalls_tells.callees, Calls, ← exists_and_right]
  apply exists_congr
  intro site
  rw [mem_flatMap_edges]

end Program

/-- The targets of every call site and the callees of every procedure, each in
increasing order. -/
structure CallTables where
  nodeCount : Nat
  targetLists :
    Std.TreeMap (ProcedureId × SiteNumber) (List ProcedureId) pairOrder
  calleeRows : List (List ProcedureId)

namespace CallTables

/-- A call site that is not listed has no targets. -/
def targets (tables : CallTables) (caller : ProcedureId)
    (site : SiteNumber) : List ProcedureId :=
  tables.targetLists.getD (caller, site) []

def callees (tables : CallTables) (caller : ProcedureId) :
    List ProcedureId :=
  tables.calleeRows[caller]?.getD []

/-- The edges, call site by call site. -/
def edges (tables : CallTables) : SortedSet CallEdge :=
  SortedSet.ofList (tables.targetLists.toList.flatMap fun entry =>
    entry.2.map fun callee => ⟨entry.1.1, entry.1.2, callee⟩)

/-- The callees of every procedure. -/
def adjacency (tables : CallTables) : List (List ProcedureId) :=
  (List.range tables.nodeCount).map tables.callees

/-- The callers of every procedure. -/
def inverse (tables : CallTables) : List (List ProcedureId) :=
  turned tables.adjacency

theorem mem_edges_iff {tables : CallTables} {edge : CallEdge} :
    edge ∈ tables.edges ↔
      edge.callee ∈ tables.targets edge.caller edge.site := by
  rw [edges, SortedSet.mem_ofList, List.mem_flatMap, targets,
    Std.TreeMap.getD_eq_getD_getElem?]
  constructor
  · intro member
    obtain ⟨entry, listed, member⟩ := member
    obtain ⟨callee, target, made⟩ := List.mem_map.mp member
    have found := Std.TreeMap.mem_toList_iff_getElem?_eq_some.mp listed
    rw [← made, found]
    exact target
  · intro target
    cases found : tables.targetLists[(edge.caller, edge.site)]? with
    | none => simp [found] at target
    | some targets =>
        rw [found] at target
        exact ⟨((edge.caller, edge.site), targets),
          Std.TreeMap.mem_toList_iff_getElem?_eq_some.mpr found,
          List.mem_map.mpr ⟨edge.callee, target, rfl⟩⟩

end CallTables

namespace Program

/-- Gathers the calls, and then sorts the targets of every call site and drops
their repetitions. -/
def callTables (program : Program) : CallTables where
  nodeCount := program.procedures.length
  targetLists :=
    program.gatherCalls.targets.map fun _ listed => listed.mergeSort.eraseReps
  calleeRows := program.gatherCalls.callees.map SortedSet.toList

variable {program : Program}

theorem callTables_targets (program : Program) (caller : ProcedureId)
    (site : SiteNumber) :
    program.callTables.targets caller site =
      (SortedSet.ofList
        (program.gatherCalls.targets.getD (caller, site) [])).toList := by
  rw [CallTables.targets, callTables, Std.TreeMap.getD_eq_getD_getElem?,
    Std.TreeMap.getD_eq_getD_getElem?, Std.TreeMap.getElem?_map]
  cases program.gatherCalls.targets[(caller, site)]? with
  | none => rfl
  | some listed => exact eraseReps_mergeSort listed

theorem callTables_adjacency (program : Program) :
    program.callTables.adjacency =
      program.gatherCalls.callees.map SortedSet.toList := by
  apply List.ext_getElem
  · simp [CallTables.adjacency, callTables, program.gatherCalls_tells.rows]
  · intro row left right
    have inside : row < program.gatherCalls.callees.length := by
      simpa using right
    simp [CallTables.adjacency, CallTables.callees, callTables, inside]

/-- The tables of an accepted program list the targets of the call graph. -/
theorem Accepted.callTables_targets_eq (accepted : program.Accepted)
    (caller : ProcedureId) (site : SiteNumber) :
    program.callTables.targets caller site =
      (program.callGraph.targets caller site).toList := by
  rw [callTables_targets]
  congr 1
  apply SortedSet.ext
  intro callee
  rw [SortedSet.mem_ofList, mem_gatherCalls_targets, mem_targets,
    and_iff_left_iff_imp]
  intro calls
  exact accepted.callee_lt ⟨site, calls⟩

theorem Accepted.gatherCalls_callees_eq (accepted : program.Accepted) :
    program.gatherCalls.callees =
      (List.range program.procedures.length).map program.callGraph.callees := by
  apply eq_of_lists_iff
  · simp [program.gatherCalls_tells.rows]
  · intro caller callee
    rw [lists_gatherCalls_callees, lists_map_range_iff, mem_callees, and_comm]
    constructor
    · intro calls
      exact ⟨calls.2.caller_lt, calls.2⟩
    · intro calls
      exact ⟨accepted.callee_lt calls.2, calls.2⟩

theorem Accepted.callTables_callees_eq (accepted : program.Accepted)
    (caller : ProcedureId) :
    program.callTables.callees caller =
      (program.callGraph.callees caller).toList := by
  rw [CallTables.callees, callTables, accepted.gatherCalls_callees_eq]
  by_cases inside : caller < program.procedures.length
  · simp [inside]
  · have nothing : program.callGraph.callees caller = ∅ := by
      apply SortedSet.ext
      intro callee
      rw [mem_callees]
      constructor
      · intro calls
        exact absurd calls.caller_lt inside
      · intro member
        exact absurd member (SortedSet.not_mem_empty callee)
    have beyond : ((List.range program.procedures.length).map
        program.callGraph.callees)[caller]? = none := by
      simpa using inside
    rw [nothing, List.getElem?_map, beyond]
    rfl

theorem Accepted.callTables_edges_eq (accepted : program.Accepted) :
    program.callTables.edges = program.callGraph.edges := by
  apply SortedSet.ext
  intro edge
  rw [CallTables.mem_edges_iff, accepted.callTables_targets_eq,
    SortedSet.mem_toList, mem_targets, mem_edges]

/-- Turning the callees around gives the callers of the call graph. -/
theorem callTables_inverse_eq (program : Program) :
    program.callTables.inverse =
      program.callGraph.inverse.map SortedSet.toList := by
  rw [CallTables.inverse, callTables_adjacency, turned]
  congr 1
  apply eq_of_lists_iff
  · simp [length_turnedSets, program.gatherCalls_tells.rows, CallGraph.inverse]
  · intro callee caller
    rw [lists_turnedSets_iff, lists_map_toList_iff, lists_gatherCalls_callees,
      CallGraph.inverse, lists_map_range_iff, mem_callers]
    simp [program.gatherCalls_tells.rows, and_comm]

theorem turned_callTables_inverse (program : Program) :
    turned program.callTables.inverse = program.callTables.adjacency := by
  rw [CallTables.inverse, callTables_adjacency]
  apply turned_turned
  intro caller callee listed
  rw [program.gatherCalls_tells.rows]
  exact (lists_gatherCalls_callees.mp listed).2

end Program

end LockAudit
