import DerivedQuery.Registry.Threads

/-!
# The lock of a shared registry

The machine of `Registry/Threads` takes whole sections under the lock as single steps. Here the lock
itself is part of the state, so a thread that has taken it can be overtaken by what the others do
without it: a description, a notification, or taking up the next request.

A thread takes the lock before it looks at the slots and leaves it in the same step in which it is
done with them. A thread that has to wait leaves the lock and joins the waiting threads in one step,
so no notification can fall in between. A thread that was woken has to take the lock again, as every
thread does that requests a type.

## Main definitions

* `GuardedPool`: a pool and the thread that holds its lock
* `TypeSource.Advance`: what a thread does by itself
* `TypeSource.GuardedStep`: the steps of a guarded pool, spurious wakeups included
-/

namespace DerivedQuery

/-- The next step of a thread reads the slots, or changes them. -/
def Activity.usesSlots : Activity → Bool
  | .requesting _ => true
  | .linking _ _ => true
  | .failing _ _ => true
  | _ => false

/-- A pool and the thread that holds the lock of its slots, if one does. -/
structure GuardedPool where
  pool : Pool
  holder : Option Nat := none

/-- One thread for each list of requests, no slots, and a free lock. -/
def GuardedPool.ofRequests (requests : List (List String)) : GuardedPool :=
  { pool := .ofRequests requests }

namespace TypeSource

/-- What a thread does by itself: it takes the lock if the lock is free, it does its work on the
slots and leaves the lock, or it does what needs no lock. -/
inductive Advance (source : TypeSource) : GuardedPool → GuardedPool → Prop where
  | lock {pool : Pool} (i : Nat) (thread : Thread) (hThread : pool.threads[i]? = some thread)
      (hUses : thread.activity.usesSlots = true) : Advance source ⟨pool, none⟩ ⟨pool, some i⟩
  | unlock {pool next : Pool} (i : Nat) (thread : Thread) (hThread : pool.threads[i]? = some thread)
      (hUses : thread.activity.usesSlots = true)
      (hStep : source.stepThread? i thread pool = some next) :
      Advance source ⟨pool, some i⟩ ⟨next, none⟩
  | outside {pool next : Pool} {holder : Option Nat} (i : Nat) (thread : Thread)
      (hThread : pool.threads[i]? = some thread) (hUses : thread.activity.usesSlots = false)
      (hStep : source.stepThread? i thread pool = some next) :
      Advance source ⟨pool, holder⟩ ⟨next, holder⟩

/-- One step of a guarded pool: a thread advances, or a waiting one wakes up without reason. -/
inductive GuardedStep (source : TypeSource) : GuardedPool → GuardedPool → Prop where
  | advance {before after : GuardedPool} (hAdvance : Advance source before after) :
      GuardedStep source before after
  | wakeup {pool : Pool} {holder : Option Nat} (i : Nat) (thread : Thread)
      (hThread : pool.threads[i]? = some thread) (hWaiting : thread.isWaiting) :
      GuardedStep source ⟨pool, holder⟩ ⟨pool.setThread i thread.wake, holder⟩

end TypeSource

end DerivedQuery
