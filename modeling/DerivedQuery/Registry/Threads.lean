import DerivedQuery.Registry.Basic

/-!
# A registry that threads share

Several threads use one registry at the same time. A lock protects the slots, a condition variable
wakes the threads that wait for a type, and in between every thread runs on its own. Here this is a
machine that takes one atomic step of one thread at a time: a section under the lock, a call of the
inspector's description, or a notification. Every interleaving of the threads is a sequence of such
steps.

A slot belongs to the thread that claimed it. A request for a type that another thread constructs
waits: it leaves the lock and joins the waiting threads in the same step. The thread that publishes
or releases a slot notifies *after* it has left the lock, in a step of its own, and a notification
wakes all waiting threads, whatever type they wait for; each looks at its type again.

While a thread constructs a type, the types whose construction it has interrupted for this one are
its *frames*. An association whose target has a slot already is skipped without waiting, so a cycle
of types cannot make threads wait for each other.

## Main definitions

* `Activity`, `Frame`, `Thread`, `Pool`
* `TypeSource.stepThread?`: one step of one thread
* `TypeSource.Step`: the steps of a pool, spurious wakeups included
* `Registry.run`: one schedule of a pool
-/

namespace DerivedQuery

/-- The result of a request for an entity. -/
abbrev Outcome := Except MetadataError Entity

/-- What a thread does next. -/
inductive Activity where
  /-- Takes up its next request, if there is one. -/
  | idle
  /-- Looks at the slot of a type. -/
  | requesting (name : String)
  /-- Waits until the slot of a type may have changed. -/
  | waiting (name : String)
  /-- Has claimed a type and asks the inspector to describe it. -/
  | describing (name : String)
  /-- The inspector makes its own requests before it answers. -/
  | asking (name : String) (asks : List String)
  /-- Visits the targets of the associations that are left. -/
  | linking (entity : Entity) (rest : List Property)
  /-- Gives up the construction of a type. -/
  | failing (name : String) (error : MetadataError)
  /-- Has changed a slot and tells the waiting threads. -/
  | notifying (outcome : Outcome)

/-- A construction that a thread has interrupted for another one. -/
inductive Frame where
  /-- The target of an association is under construction. -/
  | linking (entity : Entity) (property : Property) (rest : List Property)
  /-- The inspector waits for an entity that it requested. -/
  | asking (name : String) (rest : List String)

/-- A thread with the requests it still has to make and the outcomes of those it has made. -/
structure Thread where
  requests : List String
  outcomes : List Outcome := []
  frames : List Frame := []
  activity : Activity := .idle

/-- The slots, the descriptions made so far with the thread that made them, and the threads. -/
structure Pool where
  slots : Slots := []
  described : List (Nat × String) := []
  threads : List Thread

namespace Thread

/-- The thread has nothing left to do. -/
def isFinished (thread : Thread) : Bool :=
  match thread.activity with
  | .idle => thread.requests.isEmpty
  | _ => false

/-- The thread sits among the waiting ones. -/
def isWaiting (thread : Thread) : Bool :=
  match thread.activity with
  | .waiting _ => true
  | _ => false

/-- Hands an outcome to the construction that was interrupted for it, or to the thread's client. -/
def resume (thread : Thread) (outcome : Outcome) : Thread :=
  match thread.frames with
  | [] => { thread with outcomes := thread.outcomes ++ [outcome], activity := .idle }
  | .asking name rest :: frames => { thread with frames, activity := .asking name rest }
  | .linking entity property rest :: frames =>
      match outcome with
      | .ok _ => { thread with frames, activity := .linking entity rest }
      | .error source =>
          { thread with
            frames
            activity := .failing entity.typeName
              (.association entity.typeName property.name source) }

/-- A waiting thread looks at its slot again. -/
def wake (thread : Thread) : Thread :=
  match thread.activity with
  | .waiting name => { thread with activity := .requesting name }
  | _ => thread

end Thread

namespace Pool

/-- One thread for each list of requests, and no slots. -/
def ofRequests (requests : List (List String)) : Pool :=
  { threads := requests.map fun requests => { requests } }

/-- Replaces a thread. -/
def setThread (pool : Pool) (i : Nat) (thread : Thread) : Pool :=
  { pool with threads := pool.threads.set i thread }

end Pool

namespace TypeSource

/-- A request at its beginning: a terminal type is refused at once. -/
def beginRequest (source : TypeSource) (thread : Thread) (name : String) : Thread :=
  if source.isTerminal name then thread.resume (.error (.terminalType name))
  else { thread with activity := .requesting name }

/-- The activity that follows the answer of the inspector. -/
def afterDescription (source : TypeSource) (name : String) : Activity :=
  match source.check name (source.describe? name) with
  | .ok entity => .linking entity entity.associations
  | .error error => .failing name error

/-- One step of thread `i`, which is `thread`, unless it has finished or waits. -/
def stepThread? (source : TypeSource) (i : Nat) (thread : Thread) (pool : Pool) : Option Pool :=
  match thread.activity with
  | .waiting _ => none
  | .idle =>
      match thread.requests with
      | [] => none
      | name :: requests => some <| pool.setThread i <|
          source.beginRequest { thread with requests } name
  | .requesting name =>
      match pool.slots.get? name with
      | some (.ready entity) => some <| pool.setThread i (thread.resume (.ok entity))
      | some (.pending builder) => some <| pool.setThread i <|
          if builder = i then thread.resume (.error (.cycle name))
          else { thread with activity := .waiting name }
      | none => some <|
          { pool with slots := pool.slots.claim name i }.setThread i
            { thread with activity := .describing name }
  | .describing name => some <|
      { pool with described := pool.described ++ [(i, name)] }.setThread i
        { thread with activity := .asking name (source.asksWhile name) }
  | .asking name [] => some <| pool.setThread i
      { thread with activity := source.afterDescription name }
  | .asking name (asked :: rest) => some <| pool.setThread i <|
      source.beginRequest { thread with frames := .asking name rest :: thread.frames } asked
  | .linking entity [] => some <|
      { pool with slots := pool.slots.publish entity.typeName entity }.setThread i
        { thread with activity := .notifying (.ok entity) }
  | .linking entity (property :: rest) =>
      if (pool.slots.get? property.actualType).isSome then
        some <| pool.setThread i { thread with activity := .linking entity rest }
      else
        some <| { pool with slots := pool.slots.claim property.actualType i }.setThread i
          { thread with
            frames := .linking entity property rest :: thread.frames
            activity := .describing property.actualType }
  | .failing name error => some <|
      { pool with slots := pool.slots.release name }.setThread i
        { thread with activity := .notifying (.error error) }
  | .notifying outcome => some <|
      { pool with threads := pool.threads.map Thread.wake }.setThread i (thread.resume outcome)

/-- One step of a pool: a step of some thread, or the spurious wakeup of a waiting one. -/
inductive Step (source : TypeSource) : Pool → Pool → Prop where
  | thread {pool next : Pool} (i : Nat) (thread : Thread) (hThread : pool.threads[i]? = some thread)
      (hStep : source.stepThread? i thread pool = some next) : Step source pool next
  | wakeup {pool : Pool} (i : Nat) (thread : Thread) (hThread : pool.threads[i]? = some thread)
      (hWaiting : thread.isWaiting) : Step source pool (pool.setThread i thread.wake)

/-- Lets each of some threads take one step if it can. There is no result if none can. -/
def stepEach? (source : TypeSource) : List Nat → Pool → Option Pool
  | [], _ => none
  | i :: rest, pool =>
      match pool.threads[i]?.bind fun thread => source.stepThread? i thread pool with
      | some next => some ((source.stepEach? rest next).getD next)
      | none => source.stepEach? rest pool

/-- Runs a pool until no thread can take a step, with the threads taking turns. The fuel bounds the
number of turns. -/
def run (source : TypeSource) : (fuel : Nat) → Pool → Pool
  | 0, pool => pool
  | fuel + 1, pool =>
      match source.stepEach? (List.range pool.threads.length) pool with
      | some next => source.run fuel next
      | none => pool

end TypeSource

/-- Runs the threads of a pool on a registry, taking turns. -/
def Registry.run (registry : Registry) (fuel : Nat) (pool : Pool) : Pool :=
  registry.source.run fuel pool

end DerivedQuery
