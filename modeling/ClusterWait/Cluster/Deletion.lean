import ClusterWait.Cluster.Lookup
import ClusterWait.Cluster.Readiness

/-! # Deleting, and waiting until things are gone

An object is gone when the cluster says that it does not exist; every other answer, a failed request
included, is tried again.

* `awaitNodeGone`, `awaitMachinesGone`: a node is gone; in one sweep, all machines of a list are.
* `awaitMachineSetsGone`: sets one after the other, each in two phases. A short one waits until the
  deletion of the set has begun, so that a longer one, which waits until its machines and then the
  set are gone, is only spent on a set that is being deleted.
* `deleteMachineSets`: deletes sets one after the other, up to the first that cannot be. -/

namespace ClusterWait

open Text.Decimal (render)

variable {τ : Type}

/-! ### Nodes -/

/-- **What the search for a node decides:** it has to be gone. -/
def judgeNodeGone (name : String) : Except RequestError (Option Node) → Attempt Unit
  | .ok none => .done ()
  | .ok (some _) => .retry ("node " ++ name ++ " still exists")
  | .error e => .retry ("error querying api for node " ++ name ++ ": " ++ e.message)

/-- **Waits until a node is gone.** -/
def awaitNodeGone (service : Service τ) (timeouts : Timeouts) (name : String) (c : Context) :
    Wait (Traffic τ) (Except WaitError Unit) :=
  Poll.untilDone ⟨timeouts.retryMedium, some timeouts.waitLong⟩ c fun _ => do
    pure (judgeNodeGone name (← Node.api.find service name))

/-! ### Machines -/

/-- What the search for a machine decides: it has to be gone. -/
def judgeMachineGone (name : String) : Except RequestError (Option Machine) → Attempt Unit
  | .ok none => .done ()
  | .ok (some _) => .retry ("machine " ++ name ++ " not yet deleted")
  | .error e => .retry ("error querying api for machine " ++ name ++ ": " ++ e.message)

/-- **A sweep:** looks for each machine in turn, up to the first that is not known to be gone. -/
def sweepMachines (service : Service τ) : List Machine → Act (Traffic τ) (Attempt Unit)
  | [] => pure (.done ())
  | machine :: rest => do
    let found ← (Machine.api machine.metadata.namespaceAny).find service machine.nameAny
    match judgeMachineGone machine.nameAny found with
    | .done () => sweepMachines service rest
    | decision => pure decision

/-- **Waits until one sweep finds none of the machines.** -/
def awaitMachinesGone (service : Service τ) (timeouts : Timeouts) (machines : List Machine)
    (c : Context) : Wait (Traffic τ) (Except WaitError Unit) :=
  Poll.untilDone ⟨timeouts.retryMedium, some timeouts.waitLong⟩ c fun _ =>
    sweepMachines service machines

/-! ### Machine sets -/

/-- What the search for a set decides in the first phase: its deletion has to have begun. -/
def judgeDeletionBegun (name : String) : Except RequestError (Option MachineSet) → Attempt Unit
  | .ok none => .done ()
  | .ok (some set) =>
    if set.metadata.deletionTimestamp.isSome then .done ()
    else .retry ("MachineSet " ++ name ++ " still exists and does not have a deletion timestamp")
  | .error e => .retry ("could not fetch MachineSet " ++ name ++ ": " ++ e.message)

/-- What the list of a set's machines decides in the second phase, nothing when there are none. -/
def judgeMachinesLeft (name : String) : Except RequestError (List Machine) → Option (Attempt Unit)
  | .error e => some (.retry ("could not fetch Machines for MachineSet " ++ name ++ ": "
      ++ e.message))
  | .ok machines =>
    if machines.isEmpty then none
    else some (.retry (render machines.length ++ " Machines still present for MachineSet " ++ name))

/-- What the search for a set without machines decides in the second phase. -/
def judgeSetGone (name : String) : Except RequestError (Option MachineSet) → Attempt Unit
  | .ok none => .done ()
  | .ok (some _) => .retry ("MachineSet " ++ name ++ " still present, but has no Machines")
  | .error e => .retry ("could not fetch MachineSet " ++ name ++ ": " ++ e.message)

def findMachineSet (service : Service τ) (set : MachineSet) :
    Act (Traffic τ) (Except RequestError (Option MachineSet)) :=
  (MachineSet.api set.namespaceAny).find service set.nameAny

/-- An attempt of the second phase: the set is only looked for when it has no machines left. -/
def drainAttempt (service : Service τ) (set : MachineSet) : Act (Traffic τ) (Attempt Unit) := do
  match judgeMachinesLeft set.nameAny
      (← listMachines service set.namespaceAny (some set.spec.selector)) with
  | some decision => pure decision
  | none => pure (judgeSetGone set.nameAny (← findMachineSet service set))

/-- The first phase: waits until the deletion of a set has begun. -/
def awaitDeletionBegun (service : Service τ) (timeouts : Timeouts) (set : MachineSet)
    (c : Context) : Wait (Traffic τ) (Except WaitError Unit) :=
  Poll.untilDone ⟨timeouts.retryShort, some timeouts.waitShort⟩ c fun _ => do
    pure (judgeDeletionBegun set.nameAny (← findMachineSet service set))

/-- The second phase: waits until a set and its machines are gone. -/
def awaitDrained (service : Service τ) (timeouts : Timeouts) (set : MachineSet) (c : Context) :
    Wait (Traffic τ) (Except WaitError Unit) :=
  Poll.untilDone ⟨timeouts.retryMedium, some timeouts.waitLong⟩ c fun _ => drainAttempt service set

/-- Both phases for one set. -/
def awaitMachineSetGone (service : Service τ) (timeouts : Timeouts) (set : MachineSet)
    (c : Context) : Wait (Traffic τ) (Except WaitError Unit) := do
  match ← awaitDeletionBegun service timeouts set c with
  | .error e => pure (.error e)
  | .ok () => awaitDrained service timeouts set c

/-- **Waits until each set and its machines are gone,** one set after the other. -/
def awaitMachineSetsGone (service : Service τ) (timeouts : Timeouts) (c : Context) :
    List MachineSet → Wait (Traffic τ) (Except WaitError Unit)
  | [] => pure (.ok ())
  | set :: rest => do
    match ← awaitMachineSetGone service timeouts set c with
    | .error e => pure (.error e)
    | .ok () => awaitMachineSetsGone service timeouts c rest

/-- **Deletes sets** one after the other, up to the first that cannot be deleted. -/
def deleteMachineSets (service : Service τ) :
    List MachineSet → Act (Traffic τ) (Except RequestError Unit)
  | [] => pure (.ok ())
  | set :: rest => do
    match ← (MachineSet.api set.namespaceAny).delete service set.nameAny with
    | .error e => pure (.error e)
    | .ok () => deleteMachineSets service rest

end ClusterWait
