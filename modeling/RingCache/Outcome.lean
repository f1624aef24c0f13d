import RingCache.Failure
import RingCache.Text.Utf8

/-!
# Outcomes of calls

A node calls two things that it does not control: the source of a group and a
peer. Either may answer at once or hold its answer back (`Reply`), and either
may give octets, fail in one of two ways, or crash (`Outcome`). The same
outcome means different things to the two callers: a peer's failure is a
`Failure` of its own, while all that a source's failure leaves is its text.
-/

namespace RingCache

/-- What a lookup gives. -/
abbrev Result := Except Failure Octets

/-- How a call to a source or a peer ends. -/
inductive Outcome where
  /-- The call gives octets. -/
  | value (octets : Octets)
  /-- The call fails for reasons, the outermost first. -/
  | chain (reasons : List String)
  /-- The call fails with a failure. -/
  | failure (cause : Failure)
  /-- The call never returns to its caller. -/
  | crash
  deriving Repr

/-- The answer to a call. -/
inductive Reply where
  /-- The call ends at once. -/
  | now (outcome : Outcome)
  /-- The call ends when somebody ends it. -/
  | held
  deriving Repr

namespace Outcome

/-- Reasons as one text. -/
def joined (reasons : List String) : String :=
  String.intercalate ": " reasons

/-- The outcome as a lookup's result, for a call that returns. -/
def result? : Outcome -> Option Result
  | .value octets => some (.ok octets)
  | .chain reasons => some (.error (.loader (joined reasons)))
  | .failure cause => some (.error cause)
  | .crash => none

/-- The outcome as a source's answer, for a call that returns: octets, or the
text of the failure. -/
def answer? : Outcome -> Option (Except String Octets)
  | .value octets => some (.ok octets)
  | .chain reasons => some (.error (joined reasons))
  | .failure cause => some (.error cause.message)
  | .crash => none

end Outcome

end RingCache
