import RingCache.Flight
import RingCache.LocalCache
import RingCache.Source
import RingCache.Text.Quoted

/-!
# Groups

A group is a named set of keys with one source. A lookup is answered

1. at once, if the key is empty or its value is kept here;
2. by the peer that the picker names for the key, if there is one; such a value
   is not kept here;
3. by the source, if there is no peer or the peer fails; such a value is kept.

Lookups of one key that miss at the same time share a single pass through 2 and
3. So a group is a flight over `GroupState`, in which a load is such a pass.
-/

namespace RingCache

/-- Somebody who may know a value of a group. -/
structure Peer where
  /-- Where the peer is. -/
  address : String
  /-- The reply to a fetch of a group's key. -/
  fetch : String -> String -> Reply

/-- Names the peer that owns a key, unless the key is owned here. -/
abbrev Picker := String -> Option Peer

/-- What the lookups of a group act on. -/
structure GroupState where
  /-- The name of the group. -/
  name : String
  /-- Where values come from. -/
  source : Source
  /-- How many calls the source has had. -/
  sourceCalls : Nat := 0
  /-- Who names the owners of keys, once somebody does. -/
  picker : Option Picker := none
  /-- How often it has been asked. -/
  picks : Nat := 0
  /-- The values kept here. -/
  cache : LocalCache
  /-- What the group counts. -/
  counters : Counters := {}

/-- A call that a pass makes. -/
inductive Call where
  /-- A fetch of a group's key from a peer. -/
  | fetch (peer : Peer) (group key : String)
  /-- A call of the source for a key. -/
  | load (key : String)

/-- Where a pass waits. -/
inductive Stage where
  /-- For the end of a fetch. -/
  | fetching (peer : Peer)
  /-- For the end of a call of the source. -/
  | loading

/-- How far a pass has come. -/
abbrev Pass := GroupState × List Call × Progress Stage Result

namespace GroupState

/-- Count a thing once. -/
def count (state : GroupState) (counter : Counter) : GroupState :=
  { state with counters := state.counters.count counter }

/-- Keep a value from the source. -/
def keep (state : GroupState) (key : String) (value : Octets) : GroupState :=
  let written := state.cache.put key value
  { state with
    cache := written.1
    counters := state.counters.add .eviction written.2.length }

/-- A lookup comes: without a key it fails, and a key with a value kept here is
a hit. -/
def greet (state : GroupState) (key : String) : GroupState × Option Result :=
  if key.isEmpty then (state, some (.error .emptyKey))
  else
    let state := state.count .get
    match state.cache.get? key with
    | some (value, cache) => ({ state with cache := cache }.count .hit, some (.ok value))
    | none => (state.count .load, none)

/-- The source has answered, or crashed. -/
def loaded (state : GroupState) (key : String) (outcome : Outcome) :
    GroupState × Progress Stage Result :=
  match outcome.answer? with
  | some (.ok value) => ((state.keep key value).count .localLoad, .returned (.ok value))
  | some (.error text) => (state.count .localError, .returned (.error (.loader text)))
  | none => (state, .crashed)

/-- Call the source. -/
def load (state : GroupState) (key : String) : Pass :=
  let called := { state with sourceCalls := state.sourceCalls + 1 }
  match state.source.load state.sourceCalls key with
  | .held => (called, [.load key], .blocked .loading)
  | .now outcome =>
      let ended := called.loaded key outcome
      (ended.1, [.load key], ended.2)

/-- A peer has answered, or the fetch crashed; if the peer failed, the source is
called. -/
def fetched (state : GroupState) (key : String) (outcome : Outcome) : Pass :=
  match outcome.result? with
  | some (.ok value) => (state.count .peerLoad, [], .returned (.ok value))
  | some (.error _) => (state.count .peerError).load key
  | none => (state, [], .crashed)

/-- The peer that owns a key, if the picker names one. -/
def owner? (state : GroupState) (key : String) : Option Peer :=
  state.picker.bind (· key)

/-- Ask the picker, if there is one. -/
def pick (state : GroupState) (key : String) : GroupState × Option Peer :=
  match state.picker with
  | none => (state, none)
  | some picker => ({ state with picks := state.picks + 1 }, picker key)

/-- A pass starts: the peer that owns the key is asked, or else the source. -/
def start (state : GroupState) (key : String) : Pass :=
  let picked := state.pick key
  match picked.2 with
  | none => picked.1.load key
  | some peer =>
      let call := Call.fetch peer state.name key
      match peer.fetch state.name key with
      | .held => (picked.1, [call], .blocked (.fetching peer))
      | .now outcome =>
          let pass := picked.1.fetched key outcome
          (pass.1, call :: pass.2.1, pass.2.2)

/-- The call that a pass waits for has ended. -/
def resume (state : GroupState) (key : String) (stage : Stage) (outcome : Outcome) : Pass :=
  match stage with
  | .fetching _ => state.fetched key outcome
  | .loading =>
      let ended := state.loaded key outcome
      (ended.1, [], ended.2)

end GroupState

/-- The lookups of a group and what they act on. -/
abbrev Group := Flight GroupState Unit Stage Result

namespace Group

/-- What lookups do. -/
def loads : Loads GroupState Unit Stage Call Result where
  greet state key _ := state.greet key
  start state key _ := state.start key
  resume state key _ stage outcome := state.resume key stage outcome
  share state := state.count .sharedLoad

/-- A group that has seen no lookup. -/
def create (name : String) (budget : Nat) (source : Source) : Group :=
  { world := { name := name, source := source, cache := { budget := budget } } }

/-- What can happen to a group. -/
inductive Event where
  /-- Somebody looks a key up. -/
  | lookup (key : String)
  /-- The call that the pass of a key waits for ends. -/
  | finish (key : String) (outcome : Outcome)
  /-- The lookup that makes the pass of a key is cancelled. -/
  | cancelLeader (key : String)
  /-- A lookup that waits for the pass of a key is cancelled. -/
  | cancelWaiter (key : String)
  /-- A picker is offered; a group takes only the first one. -/
  | register (picker : Picker)

/-- A picker is offered. -/
def register (group : Group) (picker : Picker) : Except Failure Group :=
  match group.world.picker with
  | some _ => .error (.peersAlreadyRegistered group.world.name)
  | none => .ok { group with world := { group.world with picker := some picker } }

/-- An event happens, and every lookup that can go on does. -/
def step (group : Group) : Event -> Group × List (Notice Call Result)
  | .lookup key => Flight.step loads group (.start key ())
  | .finish key outcome => Flight.step loads group (.finish key outcome)
  | .cancelLeader key => Flight.step loads group (.cancelLeader key)
  | .cancelWaiter key => Flight.step loads group (.cancelWaiter key)
  | .register picker => ((group.register picker).toOption.getD group, [])

/-- Events happen one after the other. -/
def run (group : Group) : List Event -> Group × List (Notice Call Result)
  | [] => (group, [])
  | event :: rest =>
      let stepped := group.step event
      let others := run stepped.1 rest
      (others.1, stepped.2 ++ others.2)

/-- The name of a group. -/
def name (group : Group) : String :=
  group.world.name

/-- Whether the value of a key is kept here. -/
def isCached (group : Group) (key : String) : Bool :=
  group.world.cache.contains key

/-- The counters, with what is kept. -/
def snapshot (group : Group) : Snapshot :=
  { toCounters := group.world.counters
    entries := group.world.cache.size
    bytes := group.world.cache.used }

/-- The stage of the pass of a key. -/
def stage? (group : Group) (key : String) : Option Stage :=
  match (group.leader? key).map Caller.phase with
  | some (.leading _ stage) => some stage
  | _ => none

/-- The diagnostic line of a group. -/
def describe (group : Group) : String :=
  "Group \x7b name: " ++ Quoted.quote group.name ++ ", main_cache: " ++
    group.world.cache.describe group.world.counters ++ ", has_peers: " ++
    toString group.world.picker.isSome ++ " \x7d"

end Group

end RingCache
