import Phrasebook.Proofs.Retry

namespace Phrasebook.RetryPolicy

variable {ε α σ : Type}

/-- Where the loop stands. -/
inductive Loop (ε α σ : Type) where
  | trying (attempt : UInt32) (state : σ)
  | ended (outcome : Except ε α) (state : σ)
  /-- The counter has no next value. -/
  | overflowed

/-- One attempt, and what becomes of the counter after it. -/
def turn (policy : RetryPolicy) (limit : UInt32) (wait : Nat → σ → σ)
    (operation : σ → Except ε α × σ) (retryable : ε → Bool) : Loop ε α σ → Loop ε α σ
  | .trying attempt state =>
      match operation (wait (policy.pause attempt.toNat) state) with
      | (.ok value, state) => .ended (.ok value) state
      | (.error error, state) =>
          if !retryable error then .ended (.error error) state
          else if limit ≤ attempt then .ended (.error error) state
          else if attempt.toNat + 1 < UInt32.size then .trying (attempt + 1) state
          else .overflowed
  | loop => loop

def turns (policy : RetryPolicy) (limit : UInt32) (wait : Nat → σ → σ)
    (operation : σ → Except ε α × σ) (retryable : ε → Bool) : Nat → Loop ε α σ → Loop ε α σ
  | 0, loop => loop
  | count + 1, loop =>
      policy.turn limit wait operation retryable
        (policy.turns limit wait operation retryable count loop)

/-- What has been asked of an operation: how often it was tried, and the pauses before that. -/
structure Calls where
  made : Nat
  pauses : List Nat

def Calls.wait (time : Nat) (calls : Calls) : Calls :=
  { calls with pauses := calls.pauses ++ [time] }

/-- The operation whose attempts have the given outcomes. -/
def Calls.next (outcomes : Nat → Except ε α) (calls : Calls) : Except ε α × Calls :=
  (outcomes calls.made, { calls with made := calls.made + 1 })

def limited (policy : RetryPolicy) (limit : UInt32) : RetryPolicy :=
  { policy with maxRetries := limit.toNat }

/-- The calls of the attempts before the one with a number. -/
def callsBefore (policy : RetryPolicy) (attempt : Nat) : Calls :=
  ⟨attempt, (List.range attempt).map policy.pause⟩

/-- Where the loop stands after a number of turns, if attempts have the given outcomes. -/
def loopAfter (policy : RetryPolicy) (limit : UInt32) (retryable : ε → Bool)
    (outcomes : Nat → Except ε α) (count : Nat) : Loop ε α Calls :=
  policy.turns limit Calls.wait (Calls.next outcomes) retryable count
    (.trying 0 (policy.callsBefore 0))

/-- The outcome of an attempt is a success or an error that is not to be tried again, or the attempt
has no retry left. -/
inductive Final (limit : UInt32) (retryable : ε → Bool) (attempt : Nat) : Except ε α → Prop where
  | succeeded (value : α) : Final limit retryable attempt (.ok value)
  | rejected {error : ε} (refused : retryable error = false) :
      Final limit retryable attempt (.error error)
  | exhausted {outcome : Except ε α} (used : attempt = limit.toNat) :
      Final limit retryable attempt outcome

variable {policy : RetryPolicy} {limit : UInt32} {retryable : ε → Bool}
  {outcomes : Nat → Except ε α} {attempt last : Nat}

theorem next_wait (policy : RetryPolicy) (outcomes : Nat → Except ε α) (attempt : Nat) :
    Calls.next outcomes (Calls.wait (policy.pause attempt) (policy.callsBefore attempt)) =
      (outcomes attempt, policy.callsBefore (attempt + 1)) := by
  simp [Calls.next, Calls.wait, callsBefore, List.range_succ]

theorem retried_of_not_final (goesOn : ¬ Final limit retryable attempt (outcomes attempt)) :
    attempt ≠ limit.toNat ∧ ∃ error, outcomes attempt = .error error ∧ retryable error = true := by
  refine ⟨fun used => goesOn (.exhausted used), ?_⟩
  cases outcome : outcomes attempt with
  | ok value =>
      rw [outcome] at goesOn
      exact absurd (.succeeded value) goesOn
  | error error =>
      rw [outcome] at goesOn
      cases again : retryable error with
      | true => exact ⟨error, rfl, again⟩
      | false => exact absurd (.rejected again) goesOn

theorem not_final_of_retried {error : ε} (failed : outcomes attempt = .error error)
    (again : retryable error = true) (left : attempt < limit.toNat) :
    ¬ Final limit retryable attempt (outcomes attempt) := by
  rw [failed]
  rintro (_ | refused | used)
  · rw [again] at refused
    contradiction
  · omega

theorem turn_of_final (within : attempt ≤ limit.toNat)
    (final : Final limit retryable attempt (outcomes attempt)) :
    policy.turn limit Calls.wait (Calls.next outcomes) retryable
        (.trying (.ofNat attempt) (policy.callsBefore attempt)) =
      .ended (outcomes attempt) (policy.callsBefore (attempt + 1)) := by
  have counted : (UInt32.ofNat attempt).toNat = attempt :=
    UInt32.toNat_ofNat_of_lt (Nat.lt_of_le_of_lt within limit.toNat_lt)
  simp only [turn, counted, next_wait]
  generalize outcomes attempt = outcome at final
  cases final with
  | succeeded value => rfl
  | rejected refused => simp [refused]
  | exhausted used =>
      have reached : limit ≤ UInt32.ofNat attempt :=
        UInt32.le_iff_toNat_le.mpr (Nat.le_of_eq (used.symm.trans counted.symm))
      cases outcome with
      | ok value => rfl
      | error error => simp [reached]

theorem turn_of_not_final (within : attempt ≤ limit.toNat)
    (goesOn : ¬ Final limit retryable attempt (outcomes attempt)) :
    policy.turn limit Calls.wait (Calls.next outcomes) retryable
        (.trying (.ofNat attempt) (policy.callsBefore attempt)) =
      .trying (.ofNat (attempt + 1)) (policy.callsBefore (attempt + 1)) := by
  obtain ⟨unused, error, failed, again⟩ := retried_of_not_final goesOn
  have small : limit.toNat < UInt32.size := limit.toNat_lt
  have counted : (UInt32.ofNat attempt).toNat = attempt := UInt32.toNat_ofNat_of_lt (by omega)
  have left : ¬ limit ≤ UInt32.ofNat attempt := by
    rw [UInt32.le_iff_toNat_le, counted]
    omega
  have next : attempt + 1 < UInt32.size := by omega
  simp only [turn, counted, next_wait, failed, again, if_neg left, if_pos next]
  simp [UInt32.ofNat_add]

theorem loopAfter_of_not_final (within : attempt ≤ limit.toNat)
    (goesOn : ∀ earlier < attempt, ¬ Final limit retryable earlier (outcomes earlier)) :
    policy.loopAfter limit retryable outcomes attempt =
      .trying (.ofNat attempt) (policy.callsBefore attempt) := by
  induction attempt with
  | zero => rfl
  | succ attempt ih =>
      have before := ih (by omega) fun earlier less => goesOn earlier (by omega)
      unfold loopAfter at before ⊢
      rw [turns, before, turn_of_not_final (by omega) (goesOn attempt (by omega))]

theorem loopAfter_of_final (within : last ≤ limit.toNat)
    (goesOn : ∀ earlier < last, ¬ Final limit retryable earlier (outcomes earlier))
    (final : Final limit retryable last (outcomes last)) {count : Nat} (done : last < count) :
    policy.loopAfter limit retryable outcomes count =
      .ended (outcomes last) (policy.callsBefore (last + 1)) := by
  induction done with
  | refl =>
      have before : policy.loopAfter limit retryable outcomes last = _ :=
        loopAfter_of_not_final within goesOn
      unfold loopAfter at before ⊢
      rw [turns, before, turn_of_final within final]
  | step _ ih =>
      -- the loop stays where it has ended
      unfold loopAfter at ih ⊢
      rw [turns, ih]
      rfl

theorem run_final (policy : RetryPolicy) (limit : UInt32) (retryable : ε → Bool)
    (outcomes : Nat → Except ε α) :
    ∃ last, last ≤ limit.toNat ∧ Final limit retryable last (outcomes last) ∧
      (∀ earlier < last, ¬ Final limit retryable earlier (outcomes earlier)) ∧
      (policy.limited limit).run Calls.wait (Calls.next outcomes) retryable
        (policy.callsBefore 0) = (outcomes last, policy.callsBefore (last + 1)) := by
  -- what is kept says where the calls stand, and that every attempt so far was retried
  let kept (attempt : Nat) (calls : Calls) : Prop :=
    calls = policy.callsBefore attempt ∧
      ∀ earlier < attempt, ∃ error, outcomes earlier = .error error ∧ retryable error = true
  have step : ∀ attempt before error after, kept attempt before →
      Calls.next outcomes (Calls.wait (policy.pause attempt) before) = (.error error, after) →
      retryable error = true → kept (attempt + 1) after := by
    rintro attempt _ error after ⟨rfl, retried⟩ failed again
    rw [next_wait] at failed
    obtain ⟨isError, rfl⟩ := Prod.mk.inj failed
    refine ⟨rfl, fun earlier less => ?_⟩
    rcases Nat.lt_succ_iff_lt_or_eq.mp less with less | rfl
    · exact retried earlier less
    · exact ⟨error, isError, again⟩
  obtain ⟨last, _, within, ⟨rfl, retried⟩, result, ends⟩ :=
    run_cases (policy.limited limit) Calls.wait (Calls.next outcomes) retryable kept step
      ⟨rfl, fun _ less => absurd less (Nat.not_lt_zero _)⟩
  have paused : (policy.limited limit).pause last = policy.pause last := rfl
  rw [paused, next_wait] at result ends
  refine ⟨last, within, ?_, fun earlier less => ?_, result⟩
  · rcases ends with used | refused
    · exact .exhausted used
    · dsimp only at refused
      generalize outcomes last = outcome at refused
      cases outcome with
      | ok value => exact .succeeded value
      | error error => exact .rejected (refused error rfl)
  · obtain ⟨error, failed, again⟩ := retried earlier less
    exact not_final_of_retried failed again (Nat.lt_of_lt_of_le less within)

/-- There is a first final attempt, it is the last one that is made, and its outcome is the result.
The loop gets there with one turn for each attempt, and its counter never lacks a next value. -/
theorem run_first_final (policy : RetryPolicy) (limit : UInt32) (retryable : ε → Bool)
    (outcomes : Nat → Except ε α) :
    ∃ last, Final limit retryable last (outcomes last) ∧
      (∀ earlier < last, ¬ Final limit retryable earlier (outcomes earlier)) ∧
      (policy.limited limit).run Calls.wait (Calls.next outcomes) retryable
        (policy.callsBefore 0) = (outcomes last, policy.callsBefore (last + 1)) ∧
      (∀ attempt ≤ last, policy.loopAfter limit retryable outcomes attempt =
        .trying (.ofNat attempt) (policy.callsBefore attempt)) ∧
      (∀ count > last, policy.loopAfter limit retryable outcomes count =
        .ended (outcomes last) (policy.callsBefore (last + 1))) ∧
      ∀ count, policy.loopAfter limit retryable outcomes count ≠ .overflowed := by
  obtain ⟨last, within, final, goesOn, result⟩ := run_final policy limit retryable outcomes
  have trying : ∀ attempt ≤ last, policy.loopAfter limit retryable outcomes attempt =
      .trying (.ofNat attempt) (policy.callsBefore attempt) := fun attempt less =>
    loopAfter_of_not_final (Nat.le_trans less within) fun earlier before =>
      goesOn earlier (Nat.lt_of_lt_of_le before less)
  have ended : ∀ count > last, policy.loopAfter limit retryable outcomes count =
      .ended (outcomes last) (policy.callsBefore (last + 1)) := fun count =>
    loopAfter_of_final within goesOn final
  refine ⟨last, final, goesOn, result, trying, ended, fun count => ?_⟩
  rcases Nat.lt_or_ge last count with done | less
  · rw [ended count done]
    exact nofun
  · rw [trying count less]
    exact nofun

end Phrasebook.RetryPolicy
