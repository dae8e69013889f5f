namespace ResourceServer

/-!
# Telling tasks to stop

A shutdown is a signal to all tasks that listen for it. The signal is kept
once: a task that has several of them to see is told how many it has missed
and then sees the last. Signals that nobody listens for are not kept.
-/

/-- The signals sent, and where each of those who listen stands. -/
structure Shutdown where
  sent : Nat
  /-- How many signals each listener has seen or was too early for. -/
  listeners : List (Option Nat)
deriving Repr, DecidableEq

/-- What a listener learns when it looks for signals. -/
inductive Wakeup where
  | woken
  | waiting
  /-- So many signals were missed. -/
  | missed (count : Nat)
  /-- The listener has left. -/
  | gone
deriving Repr, DecidableEq

namespace Shutdown

/-- No signals and nobody who listens. -/
def start : Shutdown := ⟨0, []⟩

/-- How many signals are kept. -/
def capacity : Nat := 1

/-- How many listen. -/
def listenerCount (shutdown : Shutdown) : Nat :=
  shutdown.listeners.countP Option.isSome

/-- One more listener, for signals to come. -/
def subscribe (shutdown : Shutdown) : Shutdown :=
  { shutdown with listeners := shutdown.listeners ++ [some shutdown.sent] }

/-- Send a signal to all who listen. -/
def trigger (shutdown : Shutdown) : Shutdown :=
  if shutdown.listenerCount = 0 then
    shutdown
  else
    { shutdown with sent := shutdown.sent + 1 }

/-- A listener leaves. -/
def leave (shutdown : Shutdown) (index : Nat) : Shutdown :=
  { shutdown with listeners := shutdown.listeners.set index none }

/-- What a listener that has seen some signals learns, and what it has seen then. -/
def look (sent seen : Nat) : Wakeup × Nat :=
  if sent ≤ seen then (.waiting, seen)
  else if capacity < sent - seen then
    (.missed (sent - seen - capacity), sent - capacity)
  else (.woken, seen + 1)

/-- What a listener learns, without waiting for signals. -/
def poll (shutdown : Shutdown) (index : Nat) : Wakeup × Shutdown :=
  match shutdown.listeners[index]? with
  | some (some seen) =>
      let (wakeup, seen) := look shutdown.sent seen
      (wakeup,
        { shutdown with listeners := shutdown.listeners.set index (some seen) })
  | _ => (.gone, shutdown)

end Shutdown

end ResourceServer
