import FlowAudit.Delivery.Worker

/-!
# Sending records to several sinks

A dispatcher has a lane for each sink: a worker with its queue. A record that is dispatched is added
to every queue; lanes share nothing else but the clock and the request to stop, so no sink has an
influence on another one.

When the dispatcher stops, its workers are given a grace period to take what waits in their queues;
those that are still busy at its end are cut off. A worker that is cut off does not close its sink,
and what waits in its queue is abandoned.
-/

namespace FlowAudit.Delivery

/-- A sink with its worker. -/
structure Lane (α : Type) where
  name : String
  worker : Worker α
  deriving Repr, Inhabited

/-- What became of a sink when everything has stopped. -/
structure SinkReport where
  name : String
  stats : SinkStats
  /-- Records that still waited in the queue. -/
  abandoned : Nat
  deriving DecidableEq, Repr, Inhabited

/-- The lanes of all sinks, in the order of the sinks. -/
structure Dispatcher (α : Type) where
  settings : DeliverySettings
  lanes : List (Lane α)
  /-- The time on the virtual clock. -/
  time : Nat
  deriving Repr, Inhabited

namespace Lane

variable {α : Type}

/-- The lane with its worker changed. -/
def map (l : Lane α) (f : Worker α → Worker α) : Lane α :=
  { l with worker := f l.worker }

/-- What became of the sink of a lane. -/
def report (l : Lane α) : SinkReport :=
  ⟨l.name, l.worker.stats, l.worker.queue.items.length⟩

end Lane

namespace Dispatcher

variable {α : Type}

/-- A dispatcher at time zero for sinks with the given names and reactions. -/
def new (settings : DeliverySettings) (sinks : List (String × List Reaction)) : Dispatcher α where
  settings := settings
  lanes := sinks.map fun s => ⟨s.1, .new settings s.2⟩
  time := 0

/-- The dispatcher with all workers changed in the same way. -/
def mapWorkers (d : Dispatcher α) (f : Worker α → Worker α) : Dispatcher α :=
  { d with lanes := d.lanes.map (·.map f) }

/-- Adds a record to every queue. -/
def dispatch (d : Dispatcher α) (a : α) : Dispatcher α :=
  d.mapWorkers (·.push a)

/-- Lets time pass. -/
def wait (d : Dispatcher α) (duration : Nat) : Dispatcher α :=
  let time := d.time + duration
  { d.mapWorkers (·.waitUntil time) with time }

/-- What becomes of a worker when the dispatcher stops: it is asked to stop, its queue is closed, and
it runs until the end of the grace period. -/
def drain (settings : DeliverySettings) (time : Nat) (w : Worker α) : Worker α :=
  w.stop.close.advance (time + settings.shutdownGrace.toNat)

/-- Stops the dispatcher: all workers run until the end of the grace period. The time is then that of
the last worker to finish or, if one did not finish, the end of the grace period. -/
def shutdown (d : Dispatcher α) : Dispatcher α :=
  let stopped := d.mapWorkers (drain d.settings d.time)
  let time :=
    if stopped.lanes.all (·.worker.isFinished) then
      stopped.lanes.foldl (fun t l => max t l.worker.time) d.time
    else
      d.time + d.settings.shutdownGrace.toNat
  { stopped with time }

/-- What became of each sink. -/
def reports (d : Dispatcher α) : List SinkReport :=
  d.lanes.map Lane.report

end Dispatcher

end FlowAudit.Delivery
