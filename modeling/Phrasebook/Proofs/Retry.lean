import Phrasebook.Retry

namespace Phrasebook.RetryPolicy

variable {policy : RetryPolicy} {wait : Nat → σ → σ} {operation : σ → Except ε α × σ}
  {retryable : ε → Bool} {remaining attempt : Nat} {state after : σ} {value : α} {error : ε}
  {richWait : Nat → τ → τ} {richOperation : τ → Except ε α × τ} {forget : τ → σ}

theorem attemptsFrom_of_ok
    (succeeded : operation (wait (policy.pause attempt) state) = (.ok value, after)) :
    policy.attemptsFrom wait operation retryable remaining attempt state = (.ok value, after) := by
  unfold attemptsFrom
  rw [succeeded]

theorem attemptsFrom_of_retryable
    (failed : operation (wait (policy.pause attempt) state) = (.error error, after))
    (again : retryable error = true) :
    policy.attemptsFrom wait operation retryable (remaining + 1) attempt state =
      policy.attemptsFrom wait operation retryable remaining (attempt + 1) after := by
  rw [attemptsFrom, failed]
  exact if_pos again

theorem attemptsFrom_of_final
    (failed : operation (wait (policy.pause attempt) state) = (.error error, after))
    (final : remaining = 0 ∨ retryable error = false) :
    policy.attemptsFrom wait operation retryable remaining attempt state =
      (.error error, after) := by
  unfold attemptsFrom
  rw [failed]
  rcases final with rfl | final
  · exact ite_self _
  · exact if_neg (Bool.eq_false_iff.mp final)

theorem attemptsFrom_cases (policy : RetryPolicy) (wait : Nat → σ → σ)
    (operation : σ → Except ε α × σ) (retryable : ε → Bool) (kept : Nat → σ → Prop)
    (step : ∀ attempt before error after, kept attempt before →
      operation (wait (policy.pause attempt) before) = (.error error, after) →
      retryable error = true → kept (attempt + 1) after)
    (remaining attempt : Nat) {state : σ} (start : kept attempt state) :
    ∃ last before, last ≤ attempt + remaining ∧ kept last before ∧
      policy.attemptsFrom wait operation retryable remaining attempt state =
        operation (wait (policy.pause last) before) ∧
      (last = attempt + remaining ∨ ∀ error,
        (operation (wait (policy.pause last) before)).1 = .error error →
          retryable error = false) := by
  induction remaining generalizing attempt state with
  | zero =>
      refine ⟨attempt, state, Nat.le_refl _, start, ?_, .inl rfl⟩
      rcases tried : operation (wait (policy.pause attempt) state) with ⟨error | value, after⟩
      · exact attemptsFrom_of_final tried (.inl rfl)
      · exact attemptsFrom_of_ok tried
  | succ remaining ih =>
      rcases tried : operation (wait (policy.pause attempt) state) with ⟨error | value, after⟩
      · cases again : retryable error with
        | true =>
            rw [attemptsFrom_of_retryable tried again]
            obtain ⟨last, before, bound, keeps, result, ends⟩ :=
              ih (attempt + 1) (step attempt state error after start tried again)
            exact ⟨last, before, by omega, keeps, result, ends.imp_left (by omega)⟩
        | false =>
            refine ⟨attempt, state, by omega, start, ?_, .inr fun other same => ?_⟩
            · rw [attemptsFrom_of_final tried (.inr again), tried]
            rw [tried] at same
            cases same
            exact again
      · refine ⟨attempt, state, by omega, start, ?_, .inr fun other same => ?_⟩
        · rw [attemptsFrom_of_ok tried, tried]
        rw [tried] at same
        contradiction

/-- What failed attempts keep holds before the last one, which gives the result: no retry is left
after it, or it asks for none. -/
theorem run_cases (policy : RetryPolicy) (wait : Nat → σ → σ)
    (operation : σ → Except ε α × σ) (retryable : ε → Bool) (kept : Nat → σ → Prop)
    (step : ∀ attempt before error after, kept attempt before →
      operation (wait (policy.pause attempt) before) = (.error error, after) →
      retryable error = true → kept (attempt + 1) after)
    {state : σ} (start : kept 0 state) :
    ∃ last before, last ≤ policy.maxRetries ∧ kept last before ∧
      policy.run wait operation retryable state = operation (wait (policy.pause last) before) ∧
      (last = policy.maxRetries ∨ ∀ error,
        (operation (wait (policy.pause last) before)).1 = .error error →
          retryable error = false) := by
  have fromFirst :=
    attemptsFrom_cases policy wait operation retryable kept step policy.maxRetries 0 start
  rwa [Nat.zero_add] at fromFirst

theorem attemptsFrom_map
    (waits : ∀ time state, forget (richWait time state) = wait time (forget state))
    (operates : ∀ state, (richOperation state).map id forget = operation (forget state))
    (remaining attempt : Nat) (state : τ) :
    (policy.attemptsFrom richWait richOperation retryable remaining attempt state).map id forget =
      policy.attemptsFrom wait operation retryable remaining attempt (forget state) := by
  induction remaining generalizing attempt state with
  | zero =>
      have forgotten := operates (richWait (policy.pause attempt) state)
      rw [waits] at forgotten
      rcases tried : richOperation (richWait (policy.pause attempt) state) with
        ⟨error | value, after⟩ <;> rw [tried] at forgotten
      · rw [attemptsFrom_of_final tried (.inl rfl), attemptsFrom_of_final forgotten.symm (.inl rfl)]
        rfl
      · rw [attemptsFrom_of_ok tried, attemptsFrom_of_ok forgotten.symm]
        rfl
  | succ remaining ih =>
      have forgotten := operates (richWait (policy.pause attempt) state)
      rw [waits] at forgotten
      rcases tried : richOperation (richWait (policy.pause attempt) state) with
        ⟨error | value, after⟩ <;> rw [tried] at forgotten
      · cases again : retryable error with
        | true =>
            rw [attemptsFrom_of_retryable tried again,
              attemptsFrom_of_retryable forgotten.symm again]
            exact ih (attempt + 1) after
        | false =>
            rw [attemptsFrom_of_final tried (.inr again),
              attemptsFrom_of_final forgotten.symm (.inr again)]
            rfl
      · rw [attemptsFrom_of_ok tried, attemptsFrom_of_ok forgotten.symm]
        rfl

/-- What a state has beside the one that the operation acts on changes nothing. -/
theorem run_map
    (waits : ∀ time state, forget (richWait time state) = wait time (forget state))
    (operates : ∀ state, (richOperation state).map id forget = operation (forget state))
    (state : τ) :
    (policy.run richWait richOperation retryable state).map id forget =
      policy.run wait operation retryable (forget state) :=
  attemptsFrom_map waits operates policy.maxRetries 0 state

end Phrasebook.RetryPolicy
