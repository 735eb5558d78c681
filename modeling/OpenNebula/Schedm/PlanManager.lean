import Mathlib.Algebra.Order.Group.Int
import Mathlib.Data.List.Basic
import Mathlib.Logic.Function.Basic

namespace OpenNebula.Schedm

/-! # Execution of plans -/

inductive PlanState where
  | none | ready | applying | done | error | timeout
  deriving DecidableEq

structure PlanAction where
  id : Int
  vmId : Int
  hostId : Int
  dsId : Int
  operation : String
  nics : List (Int × Int)
  state : PlanState
  timestamp : Int

structure Plan where
  cid : Int
  state : PlanState
  actions : List PlanAction

/-- What is asked of the virtual machines for an action. -/
inductive Operation where
  | deploy (vmId hostId dsId : Int) (extra : String)
  | migrate (vmId hostId : Int) (live : Bool) (dsId coldMigrateMode : Int)
  | action (vmId : Int) (name : String)

structure PlanManager where
  maxActionsPerHost : Int
  maxActionsPerCluster : Int
  liveResched : Bool
  coldMigrateMode : Int
  actionTimeout : Int
  hostPositive : 0 < maxActionsPerHost
  clusterPositive : 0 < maxActionsPerCluster

def PlanManager.create (maxActionsPerHost maxActionsPerCluster liveResched coldMigrateMode timeout : Int) :
    PlanManager where
  maxActionsPerHost := if maxActionsPerHost ≤ 0 then 1 else maxActionsPerHost
  maxActionsPerCluster := if maxActionsPerCluster ≤ 0 then 1 else maxActionsPerCluster
  liveResched := liveResched == 1
  coldMigrateMode := if coldMigrateMode < 0 ∨ 2 < coldMigrateMode then 0 else coldMigrateMode
  actionTimeout := timeout
  hostPositive := by split <;> omega
  clusterPositive := by split <;> omega

def getNextAction : List PlanAction → Option (List PlanAction × PlanAction × List PlanAction)
  | [] => .none
  | action :: rest =>
    if action.state = .ready then some ([], action, rest)
    else (getNextAction rest).map fun (before, next, after) => (action :: before, next, after)

/-- No answer where an action is still to be started or to finish. -/
def completedState : PlanState → List PlanAction → Option PlanState
  | state, [] => some state
  | state, action :: rest =>
    if action.state = .ready ∨ action.state = .applying then .none
    else if state = .error then completedState state rest
    else if action.state = .error then completedState .error rest
    else if action.state = .timeout then completedState .timeout rest
    else completedState state rest

def Plan.checkCompleted (plan : Plan) : Plan :=
  match completedState .done plan.actions with
  | .none => plan
  | some state => { plan with state }

def timeoutActions (now timeout : Int) (actions : List PlanAction) : List PlanAction :=
  actions.map fun action =>
    if action.state = .applying ∧ action.timestamp + timeout < now then { action with state := .timeout }
    else action

structure Execution where
  actions : List PlanAction
  hostActions : Int → Int
  clusterActions : Int
  /-- The places of the actions that were started, and what was asked for them. -/
  started : List (ℕ × Operation)

def countActions (execution : Execution) (action : PlanAction) : Execution :=
  if action.state = .applying then
    { execution with
      hostActions := Function.update execution.hostActions action.hostId (execution.hostActions action.hostId + 1)
      clusterActions := execution.clusterActions + 1 }
  else execution

variable (manager : PlanManager)

def PlanManager.operation (action : PlanAction) : Operation :=
  if action.operation = "deploy" then
    .deploy action.vmId action.hostId action.dsId (String.join (action.nics.map fun nic =>
      "NIC=[NIC_ID=\"" ++ toString nic.1 ++ "\", NETWORK_MODE=\"auto\" , NETWORK_ID=\"" ++ toString nic.2 ++ "\"]"))
  else if action.operation = "migrate" then
    .migrate action.vmId action.hostId manager.liveResched action.dsId manager.coldMigrateMode
  else .action action.vmId action.operation

/-- The operation succeeds or not, at the given time. -/
def PlanManager.startAction (answer : Bool × Int) (execution : Execution)
    (before : List PlanAction) (action : PlanAction) (after : List PlanAction) : Execution :=
  let timed := { action with timestamp := answer.2, state := if answer.1 then .applying else .error }
  let started := execution.started ++ [(before.length, manager.operation action)]
  countActions { execution with actions := before ++ timed :: after, started } timed

def PlanManager.full (execution : Execution) (action : PlanAction) : Prop :=
  manager.maxActionsPerHost ≤ execution.hostActions action.hostId ∨
    manager.maxActionsPerCluster ≤ execution.clusterActions

instance (execution : Execution) (action : PlanAction) : Decidable (manager.full execution action) :=
  inferInstanceAs (Decidable (_ ∨ _))

def PlanManager.loop (answers : ℕ → Bool × Int) : ℕ → Execution → Execution
  | 0, execution => execution
  | fuel + 1, execution =>
    match getNextAction execution.actions with
    | .none => execution
    | some (before, action, after) =>
      if manager.full execution action then execution
      else loop answers fuel (manager.startAction (answers execution.started.length) execution before action after)

def readyPositions (actions : List PlanAction) : List ℕ := actions.findIdxs (·.state = .ready)

def PlanManager.executePlan (answers : ℕ → Bool × Int) (now : Int) (plan : Plan) : Plan × List (ℕ × Operation) :=
  if plan.state ≠ .applying then (plan, [])
  else
    let actions := timeoutActions now manager.actionTimeout plan.actions
    let counted := actions.foldl countActions ⟨actions, fun _ => 0, 0, []⟩
    let execution := manager.loop answers (readyPositions actions).length counted
    (Plan.checkCompleted { plan with actions := execution.actions }, execution.started)

def running (actions : List PlanAction) : ℕ := actions.countP (·.state = .applying)

def runningOn (host : Int) (actions : List PlanAction) : ℕ :=
  actions.countP fun action => action.state = .applying ∧ action.hostId = host

structure PlanManager.WithinLimits (actions : List PlanAction) : Prop where
  cluster : (running actions : Int) ≤ manager.maxActionsPerCluster
  hosts : ∀ host, (runningOn host actions : Int) ≤ manager.maxActionsPerHost

structure Execution.Counted (execution : Execution) (actions : List PlanAction) : Prop where
  cluster : execution.clusterActions = running actions
  hosts : ∀ host, execution.hostActions host = runningOn host actions

variable {manager} {execution : Execution} {actions before after : List PlanAction} {action : PlanAction}
  {answers : ℕ → Bool × Int} {now timeout : Int} {plan : Plan}

theorem getNextAction_none (nothing : getNextAction actions = .none) : ∀ action ∈ actions, action.state ≠ .ready := by
  induction actions with
  | nil => simp
  | cons action rest induction =>
    simp only [getNextAction] at nothing
    split at nothing
    · cases nothing
    · rename_i other
      simpa [other] using induction (by simpa using nothing)

theorem getNextAction_some (next : getNextAction actions = some (before, action, after)) :
    actions = before ++ action :: after ∧ action.state = .ready ∧ ∀ earlier ∈ before, earlier.state ≠ .ready := by
  induction actions generalizing before with
  | nil => cases next
  | cons first rest induction =>
    simp only [getNextAction] at next
    split at next
    · rename_i ready
      cases next
      exact ⟨rfl, ready, by simp⟩
    · rename_i other
      obtain ⟨⟨earlier, found, later⟩, searched, same⟩ := Option.map_eq_some_iff.1 next
      cases same
      obtain ⟨rfl, ready, earliest⟩ := induction searched
      exact ⟨rfl, ready, List.forall_mem_cons.2 ⟨other, earliest⟩⟩

theorem counted_countActions (counted : execution.Counted actions) (action : PlanAction) :
    (countActions execution action).Counted (actions ++ [action]) := by
  unfold countActions
  split
  · rename_i applying
    constructor
    · simp [running, counted.cluster, applying]
    · intro host
      by_cases same : host = action.hostId
      · subst same
        simp [runningOn, counted.hosts, applying]
      · simp [runningOn, counted.hosts, applying, same, Ne.symm same]
  · rename_i other
    constructor
    · simp [running, counted.cluster, other]
    · simp [runningOn, counted.hosts, other]

theorem counted_foldl (counted : execution.Counted before) (actions : List PlanAction) :
    (actions.foldl countActions execution).Counted (before ++ actions) := by
  induction actions generalizing execution before with
  | nil => simpa using counted
  | cons action rest induction => simpa using induction (counted_countActions counted action)

theorem foldl_countActions_frame (actions : List PlanAction) :
    (actions.foldl countActions execution).actions = execution.actions ∧
      (actions.foldl countActions execution).started = execution.started := by
  induction actions generalizing execution with
  | nil => simp
  | cons action rest induction =>
    have same : (countActions execution action).actions = execution.actions ∧
        (countActions execution action).started = execution.started := by
      unfold countActions
      split <;> exact ⟨rfl, rfl⟩
    simpa [same] using @induction (countActions execution action)

/-- A time-out never adds a running action. -/
theorem withinLimits_timeoutActions (within : manager.WithinLimits actions) :
    manager.WithinLimits (timeoutActions now timeout actions) := by
  have fewer (held : PlanAction → Bool) (applies : ∀ action, held action → action.state = .applying) :
      (timeoutActions now timeout actions).countP held ≤ actions.countP held := by
    rw [timeoutActions, List.countP_map]
    refine List.countP_mono_left fun action _ counted => ?_
    simp only [Function.comp_apply] at counted
    split at counted
    · cases applies _ counted
    · exact counted
  constructor
  · have few := fewer (·.state = .applying) (by simp)
    exact (Int.ofNat_le.2 few).trans within.cluster
  · intro host
    have few := fewer (fun action => action.state = .applying ∧ action.hostId = host) (by simp +contextual)
    exact (Int.ofNat_le.2 few).trans (within.hosts host)

theorem full_running (counted : execution.Counted execution.actions) (full : manager.full execution action) :
    ∃ action ∈ execution.actions, action.state = .applying := by
  have some_running : 0 < running execution.actions := by
    rcases full with host | cluster
    · have positive := manager.hostPositive
      rw [counted.hosts] at host
      have fewer : runningOn action.hostId execution.actions ≤ running execution.actions :=
        List.countP_mono_left fun _ _ held => by simp_all
      omega
    · have positive := manager.clusterPositive
      rw [counted.cluster] at cluster
      omega
  simpa using List.countP_pos_iff.1 some_running

structure Execution.Sound (execution : Execution) (manager : PlanManager) : Prop where
  counted : execution.Counted execution.actions
  within : manager.WithinLimits execution.actions

theorem Execution.Counted.perm {others : List PlanAction} (counted : execution.Counted actions)
    (perm : actions.Perm others) : execution.Counted others := by
  constructor
  · rw [counted.cluster, running, running, perm.countP_eq]
  · intro host
    rw [counted.hosts, runningOn, runningOn, perm.countP_eq]

theorem sound_startAction (sound : execution.Sound manager) (parts : execution.actions = before ++ action :: after)
    (ready : action.state = .ready) (room : ¬ manager.full execution action) (answer : Bool × Int) :
    (manager.startAction answer execution before action after).Sound manager := by
  let timed := { action with timestamp := answer.2, state := if answer.1 then .applying else .error }
  have others : execution.Counted (before ++ after) := by
    have counted := sound.counted
    rw [parts] at counted
    constructor
    · simpa [running, ready] using counted.cluster
    · simpa [runningOn, ready] using counted.hosts
  let written : Execution := { execution with
    actions := before ++ timed :: after
    started := execution.started ++ [(before.length, manager.operation action)] }
  have counted : (countActions written timed).Counted (before ++ timed :: after) := by
    have known : written.Counted _ := ⟨others.cluster, others.hosts⟩
    have later := counted_countActions known timed
    exact later.perm ((List.perm_append_singleton _ _).trans List.perm_middle.symm)
  have frame : (countActions written timed).actions = before ++ timed :: after := (foldl_countActions_frame [timed]).1
  change (countActions written timed).Sound manager
  have within := sound.within
  have same := sound.counted
  refine ⟨frame ▸ counted, frame ▸ ⟨?_, fun host => ?_⟩⟩
  · rw [← counted.cluster]
    have cluster := same.cluster ▸ within.cluster
    simp only [PlanManager.full, not_or, not_le] at room
    unfold countActions
    split
    · exact Int.add_one_le_of_lt room.2
    · exact cluster
  · rw [← counted.hosts]
    have hosts := same.hosts host ▸ within.hosts host
    simp only [PlanManager.full, not_or, not_le] at room
    unfold countActions
    split
    · by_cases chosen : host = action.hostId
      · subst chosen
        simpa [timed, written] using Int.add_one_le_of_lt room.1
      · simpa [timed, written, chosen] using hosts
    · exact hosts

theorem started_startAction (answer : Bool × Int) :
    (manager.startAction answer execution before action after).started =
      execution.started ++ [(before.length, manager.operation action)] :=
  (foldl_countActions_frame [_]).2

theorem readyPositions_startAction (parts : execution.actions = before ++ action :: after)
    (ready : action.state = .ready) (earliest : ∀ earlier ∈ before, earlier.state ≠ .ready) (answer : Bool × Int) :
    readyPositions execution.actions =
      before.length :: readyPositions (manager.startAction answer execution before action after).actions := by
  have none_before : before.findIdxs (·.state = .ready) = [] := List.findIdxs_eq_nil_iff.2 (by simpa using earliest)
  have frame : (manager.startAction answer execution before action after).actions = before ++
      { action with timestamp := answer.2, state := if answer.1 then .applying else .error } :: after :=
    (foldl_countActions_frame [_]).1
  have started : (if answer.1 then PlanState.applying else .error) ≠ .ready := by
    split <;> simp
  rw [frame, readyPositions, readyPositions, parts, List.findIdxs_append, List.findIdxs_append, none_before]
  simp [ready, started]

/-- Actions are started from the first one on, within the limits, and the loop ends where none
is left or a limit is reached. -/
theorem loop_sound (fuel : ℕ) (sound : execution.Sound manager)
    (enough : (readyPositions execution.actions).length ≤ fuel) : let result := manager.loop answers fuel execution
    result.Sound manager ∧
      (∃ begun, result.started = execution.started ++ begun ∧
        readyPositions execution.actions = begun.map Prod.fst ++ readyPositions result.actions) ∧
      ((∀ action ∈ result.actions, action.state ≠ .ready) ∨ ∃ action ∈ result.actions, action.state = .applying) := by
  induction fuel generalizing execution with
  | zero =>
    refine ⟨sound, ⟨[], by simp [PlanManager.loop], by simp [PlanManager.loop]⟩, .inl ?_⟩
    simpa [readyPositions, PlanManager.loop] using enough
  | succ fuel induction =>
    simp only [PlanManager.loop]
    split
    · rename_i nothing
      exact ⟨sound, ⟨[], by simp, by simp⟩, .inl (getNextAction_none nothing)⟩
    · rename_i before action after next
      obtain ⟨parts, ready, earliest⟩ := getNextAction_some next
      split
      · rename_i full
        exact ⟨sound, ⟨[], by simp, by simp⟩, .inr (full_running sound.counted full)⟩
      · rename_i room
        have positions := @readyPositions_startAction manager _ _ _ _ parts ready earliest
          (answers execution.started.length)
        have fewer := congrArg List.length positions
        rw [List.length_cons] at fewer
        obtain ⟨sound, ⟨begun, log, order⟩, ended⟩ :=
          induction (sound_startAction sound parts ready room (answers execution.started.length)) (by omega)
        refine ⟨sound, ⟨(before.length, manager.operation action) :: begun, ?_, ?_⟩, ended⟩
        · rw [log, started_startAction, List.append_assoc, List.singleton_append]
        · rw [positions, order, List.map_cons, List.cons_append]

def finalState (actions : List PlanAction) : PlanState :=
  if ∃ action ∈ actions, action.state = .error then .error
  else if ∃ action ∈ actions, action.state = .timeout then .timeout
  else .done

theorem finalState_cases (actions : List PlanAction) :
    finalState actions = .error ∨ finalState actions = .timeout ∨ finalState actions = .done := by
  unfold finalState
  split
  · exact .inl rfl
  · split
    · exact .inr (.inl rfl)
    · exact .inr (.inr rfl)

theorem completedState_eq (state : PlanState) (actions : List PlanAction) : completedState state actions =
      if ∃ action ∈ actions, action.state = .ready ∨ action.state = .applying then .none
      else if state = .error ∨ finalState actions = .error then some .error
      else if finalState actions = .timeout then some .timeout
      else some state := by
  induction actions generalizing state with
  | nil => by_cases error : state = .error <;> simp [completedState, finalState, error]
  | cons action rest induction =>
    simp only [completedState, induction, finalState, List.exists_mem_cons_iff]
    by_cases pending : ∃ later ∈ rest, later.state = .ready ∨ later.state = .applying <;>
      by_cases failed : ∃ later ∈ rest, later.state = .error <;>
      by_cases late : ∃ later ∈ rest, later.state = .timeout <;> cases action.state <;>
      by_cases error : state = .error <;> simp [pending, failed, late, error]

structure Plan.Finished (plan : Plan) : Prop where
  left : plan.state ≠ .applying
  finished : ∀ action ∈ plan.actions, action.state ≠ .ready ∧ action.state ≠ .applying
  state : plan.state = finalState plan.actions

theorem checkCompleted_finished (started : ∀ action ∈ plan.actions, action.state ≠ .ready) :
    plan.checkCompleted.Finished ∨ ∃ action ∈ plan.checkCompleted.actions, action.state = .applying := by
  by_cases running : ∃ action ∈ plan.actions, action.state = .applying
  · right
    unfold Plan.checkCompleted
    split <;> exact running
  · left
    have nothingLeft : ¬ ∃ action ∈ plan.actions, action.state = .ready ∨ action.state = .applying :=
      fun ⟨action, member, state⟩ => state.elim (started action member) fun applying => running ⟨action, member, applying⟩
    have completed : completedState .done plan.actions = some (finalState plan.actions) := by
      rw [completedState_eq, if_neg nothingLeft]
      rcases finalState_cases plan.actions with state | state | state <;> simp [state]
    rw [Plan.checkCompleted, completed]
    refine ⟨?_, fun action member => ?_, rfl⟩
    · change finalState plan.actions ≠ .applying
      rcases finalState_cases plan.actions with state | state | state <;> simp [state]
    · exact not_or.1 fun state => nothingLeft ⟨action, member, state⟩

theorem checkCompleted_actions (plan : Plan) : plan.checkCompleted.actions = plan.actions := by
  unfold Plan.checkCompleted
  split <;> rfl

theorem readyPositions_timeoutActions : readyPositions (timeoutActions now timeout actions) = readyPositions actions := by
  unfold readyPositions timeoutActions
  rw [List.findIdxs_map]
  congr 1
  funext action
  simp only [Function.comp_apply]
  split <;> simp_all

theorem executePlan_limits_progress (manager : PlanManager) (answers : ℕ → Bool × Int) (now : Int) (plan : Plan)
    (applying : plan.state = .applying) (within : manager.WithinLimits plan.actions) :
    let (result, started) := manager.executePlan answers now plan
    manager.WithinLimits result.actions ∧
      readyPositions plan.actions = started.map Prod.fst ++ readyPositions result.actions ∧
      (result.Finished ∨ ∃ action ∈ result.actions, action.state = .applying) := by
  let actions := timeoutActions now manager.actionTimeout plan.actions
  let counted := actions.foldl countActions ⟨actions, fun _ => 0, 0, []⟩
  obtain ⟨same, nothing⟩ := @foldl_countActions_frame ⟨actions, fun _ => 0, 0, []⟩ actions
  have sound : counted.Sound manager := by
    refine ⟨?_, same ▸ withinLimits_timeoutActions within⟩
    have none_counted : Execution.Counted ⟨actions, fun _ => 0, 0, []⟩ [] := ⟨rfl, fun _ => rfl⟩
    exact same ▸ counted_foldl none_counted actions
  obtain ⟨sound, ⟨begun, log, order⟩, ended⟩ :=
    @loop_sound _ _ answers (readyPositions actions).length sound (same ▸ le_rfl)
  simp only [PlanManager.executePlan, applying, ne_eq, not_true_eq_false, if_false, checkCompleted_actions]
  refine ⟨sound.within, ?_, ?_⟩
  · rw [log, nothing, List.nil_append, ← order, same, readyPositions_timeoutActions]
  · rcases ended with started | running
    · simpa only [checkCompleted_actions] using checkCompleted_finished started
    · exact .inr running

def twoMigrations : Plan :=
  ⟨0, .applying, [⟨0, 7, 5, -1, "migrate", [], .ready, 0⟩, ⟨1, 8, 5, -1, "migrate", [], .ready, 0⟩]⟩

/-- The host takes one action at a time: the second migration waits for the first. -/
theorem executePlan_twoMigrations :
    let result := ((PlanManager.create 1 10 0 0 60).executePlan (fun _ => (true, 3)) 3 twoMigrations).1
    (PlanManager.create 1 10 0 0 60).WithinLimits result.actions ∧ readyPositions result.actions = [1] :=
  ⟨(executePlan_limits_progress _ _ _ twoMigrations rfl
    ⟨by decide, fun host => by simp [runningOn, twoMigrations, PlanManager.create]⟩).1, by decide⟩

end OpenNebula.Schedm
