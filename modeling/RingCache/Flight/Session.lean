import RingCache.Flight

/-!
# Flights of callers with loads of their own

The plainest use of a flight: there is nothing to share but the loads
themselves, and each caller says how the call of its load replies. A call is
seen as the key it is made for.
-/

namespace RingCache

/-- A flight in which each caller brings the reply of its own load. -/
abbrev Session := Flight Unit Reply Unit Result

namespace Session

/-- What the end of a call makes of a load. -/
def progress (outcome : Outcome) : Progress Unit Result :=
  match outcome.result? with
  | some result => .returned result
  | none => .crashed

/-- Every load makes one call and ends with it. -/
def loads : Loads Unit Reply Unit String Result where
  greet _ _ _ := ((), none)
  start _ key plan :=
    match plan with
    | .held => ((), [key], .blocked ())
    | .now outcome => ((), [key], progress outcome)
  resume _ _ _ _ outcome := ((), [], progress outcome)
  share _ := ()

/-- A session without callers. -/
def empty : Session := { world := () }

/-- An event happens, and every caller that can go on does. -/
def step (session : Session) (event : Flight.Event Reply) :
    Session × List (Notice String Result) :=
  Flight.step loads session event

end Session

end RingCache
