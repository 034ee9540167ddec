import TableQuery.Number.Word
import TableQuery.Settings.Basic

/-!
# Trying again

An operation that fails is tried again, up to a number of attempts, with a pause in between that
doubles each time and has an upper bound. At least one attempt is made, and a failure that is known
to be permanent ends the attempts.
-/

namespace TableQuery

namespace Retry

/-- Two to the power of an attempt, whose number is taken as a word of 32 bits, or the greatest
word where that does not fit. -/
def factor (attempt : Nat) : Nat :=
  let k := attempt % Word.count 32
  if k < 64 then Word.count k else Word.greatest 64

/-- The milliseconds to wait after an attempt: a base that doubles with each attempt, some
milliseconds more, and at most an upper bound. -/
def delay (attempt base bound jitter : Nat) : Nat :=
  min (Word.saturate 64 (Word.saturate 64 (base * factor attempt) + jitter)) bound

/-- The attempts that follow the one with a given number, while some are left. -/
def attemptsFrom {m : Type → Type} [Monad m] {ε α : Type} (pause : Nat → m Unit)
    (operation : m (Except ε α)) (retryable : ε → Bool) : Nat → Nat → m (Except ε α)
  | 0, _ => operation
  | left + 1, attempt => do
    match ← operation with
    | .ok value => return .ok value
    | .error e =>
      if retryable e then
        pause attempt
        attemptsFrom pause operation retryable left (attempt + 1)
      else return .error e

/-- Runs an operation until it succeeds, fails for good or has been tried often enough. -/
def whenRetryable {m : Type → Type} [Monad m] {ε α : Type} (attempts : Nat) (pause : Nat → m Unit)
    (operation : m (Except ε α)) (retryable : ε → Bool) : m (Except ε α) :=
  attemptsFrom pause operation retryable (attempts - 1) 1

/-- Runs an operation until it succeeds or has been tried often enough. -/
def always {m : Type → Type} [Monad m] {ε α : Type} (attempts : Nat) (pause : Nat → m Unit)
    (operation : m (Except ε α)) : m (Except ε α) :=
  whenRetryable attempts pause operation fun _ => true

end Retry

/-- The milliseconds to wait after an attempt. -/
def RetrySettings.delay (s : RetrySettings) (attempt jitter : Nat) : Nat :=
  Retry.delay attempt s.baseDelay s.maxDelay jitter

end TableQuery
