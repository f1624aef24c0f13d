import RingCache.Outcome

/-!
# Shared loads

Callers ask for keys. The first caller of a key starts a load and leads; callers
that come while it runs wait for it, and all of them end with its one result. A
leader may also be cancelled, or its load may crash: then nobody learns a
result, and the waiters ask anew, so that one of them leads with a load of its
own.

Each load in flight has a record under its key, with a ticket that no other
load has. A waiter holds the ticket of the load it waits for. `step` takes one
event and lets every caller that can go on do so, one after the other in the
order in which they came; it answers what was called and who ended.

What a load does is given by `Loads`: it acts on a world that all callers
share, and it either ends at once or stops at a stage from which an outcome of
the call it waits for lets it go on.
-/

namespace RingCache

/-- How far a load has come when it stops running. -/
inductive Progress (σ ρ : Type) where
  /-- It waits for the end of a call. -/
  | blocked (stage : σ)
  /-- It has a result. -/
  | returned (result : ρ)
  /-- It never returns. -/
  | crashed

/-- What callers and their loads do to the world `ω`; a caller brings a plan
`κ`, a load stops at a stage `σ`, makes calls `γ` and has a result `ρ`. -/
structure Loads (ω κ σ γ ρ : Type) where
  /-- A caller comes; it may get a result without a load. -/
  greet : ω -> String -> κ -> ω × Option ρ
  /-- A load of a key starts. -/
  start : ω -> String -> κ -> ω × List γ × Progress σ ρ
  /-- The call that a load waits for ends. -/
  resume : ω -> String -> κ -> σ -> Outcome -> ω × List γ × Progress σ ρ
  /-- A caller receives the result of another caller's load. -/
  share : ω -> ω

/-- What a caller is doing. -/
inductive Phase (σ ρ : Type) where
  /-- It leads the load with this ticket, which waits at a stage. -/
  | leading (ticket : Nat) (stage : σ)
  /-- It waits for the load with this ticket. -/
  | waiting (ticket : Nat)
  /-- The load it waited for has ended, with a result or without. -/
  | told (result : Option ρ)

/-- Somebody who asked for a key and has not ended. -/
structure Caller (κ σ ρ : Type) where
  /-- The number of the caller. -/
  id : Nat
  /-- The key asked for. -/
  key : String
  /-- How the caller loads the key if it has to. -/
  plan : κ
  /-- What the caller is doing. -/
  phase : Phase σ ρ

/-- How a caller ends. -/
inductive Ending (ρ : Type) where
  /-- With a result. -/
  | returned (result : ρ)
  /-- It was cancelled. -/
  | cancelled
  /-- Its own load crashed. -/
  | crashed

/-- What can be seen of a step. -/
inductive Notice (γ ρ : Type) where
  /-- The load of a caller makes a call. -/
  | called (caller : Nat) (call : γ)
  /-- A caller ends. -/
  | ended (caller : Nat) (key : String) (ending : Ending ρ)

/-- The callers of a world, and the records of the loads in flight. -/
structure Flight (ω κ σ ρ : Type) where
  /-- What all callers share. -/
  world : ω
  /-- The key and the ticket of each load in flight. -/
  records : List (String × Nat) := []
  /-- The next ticket. -/
  nextTicket : Nat := 0
  /-- The number of the next caller. -/
  nextCaller : Nat := 0
  /-- The callers that have not ended, in the order in which they came. -/
  callers : List (Caller κ σ ρ) := []

/-- What can happen to a flight from outside. -/
inductive Flight.Event (κ : Type) where
  /-- Somebody asks for a key. -/
  | start (key : String) (plan : κ)
  /-- The call that the load of a key waits for ends. -/
  | finish (key : String) (outcome : Outcome)
  /-- The caller that leads the load of a key is cancelled. -/
  | cancelLeader (key : String)
  /-- A caller that waits for the load of a key is cancelled. -/
  | cancelWaiter (key : String)

namespace Phase

variable {σ ρ : Type}

/-- Whether a caller can go on. -/
def isTold : Phase σ ρ -> Bool
  | .told _ => true
  | _ => false

/-- Whether a caller leads. -/
def isLeading : Phase σ ρ -> Bool
  | .leading _ _ => true
  | _ => false

/-- Whether a caller waits. -/
def isWaiting : Phase σ ρ -> Bool
  | .waiting _ => true
  | _ => false

/-- The phase after the load with a ticket has ended. -/
def tell (ticket : Nat) (result : Option ρ) : Phase σ ρ -> Phase σ ρ
  | .waiting own => if own = ticket then .told result else .waiting own
  | phase => phase

end Phase

namespace Flight

variable {ω κ σ γ ρ : Type}

/-- The number of loads in flight. -/
def inFlight (flight : Flight ω κ σ ρ) : Nat :=
  flight.records.length

/-- The caller that leads the load of a key. -/
def leader? (flight : Flight ω κ σ ρ) (key : String) : Option (Caller κ σ ρ) :=
  flight.callers.find? fun caller => caller.key == key && caller.phase.isLeading

/-- The first caller that waits for the load of a key. -/
def waiter? (flight : Flight ω κ σ ρ) (key : String) : Option (Caller κ σ ρ) :=
  flight.callers.find? fun caller => caller.key == key && caller.phase.isWaiting

/-- Add a caller after those that came before. -/
def add (flight : Flight ω κ σ ρ) (caller : Caller κ σ ρ) : Flight ω κ σ ρ :=
  { flight with callers := flight.callers ++ [caller] }

/-- Take a caller out. -/
def remove (flight : Flight ω κ σ ρ) (id : Nat) : Flight ω κ σ ρ :=
  { flight with callers := flight.callers.filter fun caller => caller.id != id }

/-- The load of a key has ended: its record goes, and those who wait for the
load with this ticket are told. -/
def release (flight : Flight ω κ σ ρ) (key : String) (ticket : Nat) (result : Option ρ) :
    Flight ω κ σ ρ :=
  { flight with
    records := flight.records.filter fun record => record.1 != key
    callers := flight.callers.map fun caller =>
      { caller with phase := caller.phase.tell ticket result } }

/-- A leader whose load has come so far goes on leading, or ends. -/
def land (flight : Flight ω κ σ ρ) (id : Nat) (key : String) (plan : κ) (ticket : Nat) :
    Progress σ ρ -> Flight ω κ σ ρ × List (Notice γ ρ)
  | .blocked stage => (flight.add ⟨id, key, plan, .leading ticket stage⟩, [])
  | .returned result =>
      (flight.release key ticket (some result), [.ended id key (.returned result)])
  | .crashed => (flight.release key ticket none, [.ended id key .crashed])

/-- A caller waits for the load of its key in flight, or leads a new one. -/
def enter (loads : Loads ω κ σ γ ρ) (flight : Flight ω κ σ ρ) (id : Nat) (key : String)
    (plan : κ) : Flight ω κ σ ρ × List (Notice γ ρ) :=
  match flight.records.lookup key with
  | some ticket => (flight.add ⟨id, key, plan, .waiting ticket⟩, [])
  | none =>
      let ticket := flight.nextTicket
      let started := loads.start flight.world key plan
      let leading : Flight ω κ σ ρ :=
        { flight with
          world := started.1
          records := (key, ticket) :: flight.records
          nextTicket := ticket + 1 }
      let landed := leading.land id key plan ticket started.2.2
      (landed.1, started.2.1.map (.called id) ++ landed.2)

/-- A caller that has been told goes on: it ends with the result, or asks
anew. -/
def wake (loads : Loads ω κ σ γ ρ) (flight : Flight ω κ σ ρ) (caller : Caller κ σ ρ) :
    Flight ω κ σ ρ × List (Notice γ ρ) :=
  match caller.phase with
  | .told (some result) =>
      ({ flight with world := loads.share flight.world },
        [.ended caller.id caller.key (.returned result)])
  | .told none => flight.enter loads caller.id caller.key caller.plan
  | _ => (flight.add caller, [])

/-- Let callers go on, one after the other. -/
def wakeAll (loads : Loads ω κ σ γ ρ) (flight : Flight ω κ σ ρ) :
    List (Caller κ σ ρ) -> Flight ω κ σ ρ × List (Notice γ ρ)
  | [] => (flight, [])
  | caller :: rest =>
      let woken := flight.wake loads caller
      let others := woken.1.wakeAll loads rest
      (others.1, woken.2 ++ others.2)

/-- Let every caller that has been told go on. None of them can be told again
meanwhile, since each one either ends or belongs to a load that is blocked. -/
def settle (loads : Loads ω κ σ γ ρ) (flight : Flight ω κ σ ρ) :
    Flight ω κ σ ρ × List (Notice γ ρ) :=
  let told := flight.callers.filter fun caller => caller.phase.isTold
  let others := flight.callers.filter fun caller => !caller.phase.isTold
  wakeAll loads { flight with callers := others } told

/-- The next caller asks for a key. -/
def ask (loads : Loads ω κ σ γ ρ) (flight : Flight ω κ σ ρ) (key : String) (plan : κ) :
    Flight ω κ σ ρ × List (Notice γ ρ) :=
  let id := flight.nextCaller
  let greeted := loads.greet flight.world key plan
  let flight := { flight with world := greeted.1, nextCaller := id + 1 }
  match greeted.2 with
  | some result => (flight, [.ended id key (.returned result)])
  | none => flight.enter loads id key plan

/-- The call that the load of a key waits for ends. -/
def finish (loads : Loads ω κ σ γ ρ) (flight : Flight ω κ σ ρ) (key : String)
    (outcome : Outcome) : Flight ω κ σ ρ × List (Notice γ ρ) :=
  match flight.leader? key with
  | some ⟨id, key, plan, .leading ticket stage⟩ =>
      let resumed := loads.resume flight.world key plan stage outcome
      let landed := { flight.remove id with world := resumed.1 }.land id key plan ticket
        resumed.2.2
      (landed.1, resumed.2.1.map (.called id) ++ landed.2)
  | _ => (flight, [])

/-- The caller that leads the load of a key is cancelled. -/
def cancelLeader (flight : Flight ω κ σ ρ) (key : String) :
    Flight ω κ σ ρ × List (Notice γ ρ) :=
  match flight.leader? key with
  | some ⟨id, key, _, .leading ticket _⟩ =>
      ((flight.remove id).release key ticket none, [.ended id key .cancelled])
  | _ => (flight, [])

/-- A caller that waits for the load of a key is cancelled. -/
def cancelWaiter (flight : Flight ω κ σ ρ) (key : String) :
    Flight ω κ σ ρ × List (Notice γ ρ) :=
  match flight.waiter? key with
  | some caller => (flight.remove caller.id, [.ended caller.id caller.key .cancelled])
  | none => (flight, [])

/-- What an event does before others go on. -/
def apply (loads : Loads ω κ σ γ ρ) (flight : Flight ω κ σ ρ) :
    Event κ -> Flight ω κ σ ρ × List (Notice γ ρ)
  | .start key plan => flight.ask loads key plan
  | .finish key outcome => flight.finish loads key outcome
  | .cancelLeader key => flight.cancelLeader key
  | .cancelWaiter key => flight.cancelWaiter key

/-- An event happens, and every caller that can go on does. -/
def step (loads : Loads ω κ σ γ ρ) (flight : Flight ω κ σ ρ) (event : Event κ) :
    Flight ω κ σ ρ × List (Notice γ ρ) :=
  let applied := flight.apply loads event
  let settled := applied.1.settle loads
  (settled.1, applied.2 ++ settled.2)

/-- Events happen one after the other. -/
def run (loads : Loads ω κ σ γ ρ) (flight : Flight ω κ σ ρ) :
    List (Event κ) -> Flight ω κ σ ρ × List (Notice γ ρ)
  | [] => (flight, [])
  | event :: rest =>
      let stepped := flight.step loads event
      let others := stepped.1.run loads rest
      (others.1, stepped.2 ++ others.2)

end Flight

end RingCache
