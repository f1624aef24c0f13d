import RingCache.Group

/-!
# What lookups and passes leave alone

A lookup that comes either fails for want of a key, is a hit, or is counted and goes
on (`greet_of_answered`, `greet_of_missed`). A pass is made of few changes of the
group, so that what each of these keeps is kept by the whole pass (`PassInvariant`).
-/

namespace RingCache.GroupState

variable {state : GroupState} {key : String}

/-! ## Lookups that come -/

/-- A lookup that is not answered at once is counted as one that needs a load. -/
theorem greet_of_missed (missed : (state.greet key).2 = none) :
    key.isEmpty = false ∧ (state.greet key).1 = (state.count .get).count .load := by
  rw [greet] at missed ⊢
  split at missed
  · cases missed
  · rename_i named
    rw [if_neg named]
    dsimp only at missed ⊢
    split at missed
    · cases missed
    · exact ⟨by simpa using named, rfl⟩

/-- A lookup that is answered at once has no key, or is a hit. -/
theorem greet_of_answered {result : Result} (answered : (state.greet key).2 = some result) :
    (key.isEmpty = true ∧ result = .error .emptyKey ∧ (state.greet key).1 = state) ∨
      (key.isEmpty = false ∧ ∃ value cache, state.cache.get? key = some (value, cache) ∧
        result = .ok value ∧
        (state.greet key).1 = { state.count .get with cache := cache }.count .hit) := by
  rw [greet] at answered ⊢
  split at answered
  · rename_i unnamed
    rw [if_pos unnamed]
    exact .inl ⟨unnamed, (Option.some.inj answered).symm, rfl⟩
  · rename_i named
    rw [if_neg named]
    dsimp only at answered ⊢
    split at answered
    · rename_i value cache read
      exact .inr ⟨by simpa using named, value, cache, read, (Option.some.inj answered).symm, rfl⟩
    · cases answered

/-! ## Passes -/

/-- Asking the picker changes nothing but how often it has been asked. -/
theorem pick_frame (state : GroupState) (key : String) :
    (state.pick key).1 = { state with picks := (state.pick key).1.picks } := by
  rw [pick]
  split <;> rfl

/-- A property of groups that is kept by the changes which a pass of a key is made
of. -/
structure PassInvariant (holds : GroupState → Prop) (key : String) : Prop where
  counts : ∀ state counter, holds state → holds (state.count counter)
  keeps : ∀ state value, holds state → holds (state.keep key value)
  calls : ∀ state, holds state → holds { state with sourceCalls := state.sourceCalls + 1 }

namespace PassInvariant

variable {holds : GroupState → Prop}

/-- It is kept when the call of the source ends. -/
theorem loaded (invariant : PassInvariant holds key) (now : holds state) (outcome : Outcome) :
    holds (state.loaded key outcome).1 := by
  rw [GroupState.loaded]
  split
  · exact invariant.counts _ _ (invariant.keeps _ _ now)
  · exact invariant.counts _ _ now
  · exact now

/-- It is kept when the source is called. -/
theorem load (invariant : PassInvariant holds key) (now : holds state) :
    holds (state.load key).1 := by
  have called := invariant.calls state now
  rw [GroupState.load]
  dsimp only
  split
  · exact called
  · exact invariant.loaded called _

/-- It is kept when a fetch ends. -/
theorem fetched (invariant : PassInvariant holds key) (now : holds state) (outcome : Outcome) :
    holds (state.fetched key outcome).1 := by
  rw [GroupState.fetched]
  split
  · exact invariant.counts _ _ now
  · exact invariant.load (invariant.counts _ _ now)
  · exact now

/-- It is kept when a pass starts, once the picker has been asked. -/
theorem start (invariant : PassInvariant holds key) (picked : holds (state.pick key).1) :
    holds (state.start key).1 := by
  rw [GroupState.start]
  dsimp only
  split
  · exact invariant.load picked
  · split
    · exact picked
    · exact invariant.fetched picked _

/-- It is kept when a pass goes on. -/
theorem resume (invariant : PassInvariant holds key) (now : holds state) (stage : Stage)
    (outcome : Outcome) : holds (state.resume key stage outcome).1 := by
  cases stage with
  | fetching peer => exact invariant.fetched now outcome
  | loading => exact invariant.loaded now outcome

end PassInvariant

end RingCache.GroupState
