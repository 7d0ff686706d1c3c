import Phrasebook.Number.Binary64

namespace Phrasebook

structure RetryPolicy where
  /-- The number of attempts after the first one. -/
  maxRetries : Nat
  /-- The delay before the first of them, in milliseconds. -/
  baseDelay : Nat
  maxDelay : Nat
  multiplier : Binary64

namespace RetryPolicy

def standard (maxRetries : Nat) : RetryPolicy :=
  ⟨maxRetries, 250, 5000, .ofInt 2⟩

def withDelays (maxRetries baseDelay maxDelay : Nat) : RetryPolicy :=
  ⟨maxRetries, baseDelay, maxDelay, .ofInt 2⟩

/-- The delay before an attempt in milliseconds; the first attempt is number zero and has none. -/
def delay (policy : RetryPolicy) (attempt : Nat) : Nat :=
  match attempt with
  | 0 => 0
  | retries + 1 =>
      let growth := policy.multiplier.powerOfWord (.ofNat retries)
      let grown := (Binary64.ofInt policy.baseDelay).mul growth
      min (grown.clampToNat (UInt64.size - 1)) policy.maxDelay

/-- The longest time that is waited at once, in milliseconds: thirty years of 365 days. -/
def longestPause : Nat := 30 * 365 * 24 * 60 * 60 * 1000

def pause (policy : RetryPolicy) (attempt : Nat) : Nat :=
  min (policy.delay attempt) longestPause

/-- Attempts from a given number on, with `remaining` retries left: the first success, or the first
error that is not to be retried or has no retry left. -/
def attemptsFrom (policy : RetryPolicy) (wait : Nat → σ → σ) (operation : σ → Except ε α × σ)
    (retryable : ε → Bool) : Nat → Nat → σ → Except ε α × σ
  | remaining, attempt, state =>
      match operation (wait (policy.pause attempt) state) with
      | (.ok value, state) => (.ok value, state)
      | (.error error, state) =>
          if retryable error then
            match remaining with
            | 0 => (.error error, state)
            | remaining + 1 =>
                attemptsFrom policy wait operation retryable remaining (attempt + 1) state
          else
            (.error error, state)

def run (policy : RetryPolicy) (wait : Nat → σ → σ) (operation : σ → Except ε α × σ)
    (retryable : ε → Bool) (state : σ) : Except ε α × σ :=
  policy.attemptsFrom wait operation retryable policy.maxRetries 0 state

end RetryPolicy

end Phrasebook
