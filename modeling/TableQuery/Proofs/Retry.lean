import Mathlib.Order.Bounds.Basic
import TableQuery.Retry

/-!
# Retry — how often an operation is tried, and how long it waits in between

An operation is given by its outcomes, one for every time that it could be run, and what happens is
noted in a journal (`noted`, `notedPause`). The journal of a run holds attempts with one pause
between each two of them, and the run ends with the outcome of the last attempt. This is the first
outcome that is final, a success or a failure for good, if the limit lets it come to that
(`attempts_exact`).

A pause lasts as long as unbounded arithmetic says: that the power, the product and the sum are cut
to words of 64 bits is hidden by the upper bound, which is such a word itself (`delay_exact`).
-/

namespace TableQuery
namespace Retry

/-! ## The journal -/

/-- What happens while an operation is tried. -/
inductive Event where
  | attempt
  /-- The pause behind the attempt with a number. -/
  | pause (attempt : Nat)
  deriving DecidableEq

/-- What is noted of a number of attempts: each two of them have one pause between them, and nothing
follows the last one. -/
def journal : Nat → List Event
  | 0 => []
  | 1 => [.attempt]
  | n + 2 => journal (n + 1) ++ [.pause (n + 1), .attempt]

/-- What is noted before another attempt is made, after a number of them. -/
def awaiting : Nat → List Event
  | 0 => []
  | n + 1 => journal (n + 1) ++ [.pause (n + 1)]

theorem awaiting_attempt (n : Nat) : awaiting n ++ [.attempt] = journal (n + 1) := by
  cases n with
  | zero => rfl
  | succ n => simp [awaiting, journal]

theorem count_journal (n : Nat) : (journal n).count .attempt = n := by
  fun_induction journal n with
  | case1 => rfl
  | case2 => rfl
  | case3 n ih => simp [ih]

/-- The pauses are numbered from one, and there are as many as attempts but one. -/
theorem pause_mem_journal_iff {n attempt : Nat} :
    .pause attempt ∈ journal n ↔ 1 ≤ attempt ∧ attempt < n := by
  fun_induction journal n with
  | case1 => simp
  | case2 =>
      rw [List.mem_singleton]
      constructor
      · intro h
        cases h
      · intro h
        omega
  | case3 n ih =>
      rw [List.mem_append, ih]
      simp only [List.mem_cons, Event.pause.injEq, reduceCtorEq, List.not_mem_nil, or_false]
      omega

theorem count_awaiting (n : Nat) : (awaiting n).count .attempt = n := by
  cases n with
  | zero => rfl
  | succ n => simp [awaiting, count_journal]

/-! ## Runs -/

variable {ε α : Type}

/-- The operation with these outcomes, of which the next one comes up every time. -/
def noted (outcome : Nat → Except ε α) : StateM (List Event) (Except ε α) := fun events =>
  (outcome (events.count .attempt), events ++ [.attempt])

def notedPause (attempt : Nat) : StateM (List Event) Unit := fun events =>
  ((), events ++ [.pause attempt])

/-- After this outcome nothing more is tried, whatever the limit: a success, or a failure for
good. -/
def IsFinal (retryable : ε → Bool) : Except ε α → Prop
  | .ok _ => True
  | .error e => retryable e = false

variable (outcome : Nat → Except ε α) (retryable : ε → Bool)

/-- One more attempt after `n` of them brings the outcome with this number. -/
theorem noted_awaiting (n : Nat) :
    (noted outcome).run (awaiting n) = (outcome n, journal (n + 1)) := by
  have hRun : (noted outcome).run (awaiting n) =
      (outcome ((awaiting n).count .attempt), awaiting n ++ [.attempt]) := rfl
  rw [hRun, count_awaiting, awaiting_attempt]

/-- An outcome that is final is the result, and after any other there is a pause. -/
theorem run_attemptsFrom_succ (left n : Nat) :
    (attemptsFrom notedPause (noted outcome) retryable (left + 1) (n + 1)).run (awaiting n) =
      match outcome n with
      | .ok value => (.ok value, journal (n + 1))
      | .error e =>
        if retryable e then
          (attemptsFrom notedPause (noted outcome) retryable left (n + 2)).run (awaiting (n + 1))
        else (.error e, journal (n + 1)) := by
  have hBind {β γ : Type} (x : StateM (List Event) β) (f : β → StateM (List Event) γ)
      (events : List Event) :
      (x >>= f).run events = (f (x.run events).1).run (x.run events).2 := rfl
  rw [attemptsFrom, hBind, noted_awaiting]
  cases outcome n with
  | ok value => rfl
  | error e =>
      cases hRetry : retryable e with
      | false =>
          simp only [hRetry]
          rfl
      | true =>
          simp only [hRetry, if_true]
          rfl

/-- With some attempts left after `n` of them, those are made that it takes to come to a final
outcome, or all. -/
theorem exists_run_attemptsFrom (left n : Nat) :
    ∃ last, n ≤ last ∧ last ≤ n + left ∧
      (attemptsFrom notedPause (noted outcome) retryable left (n + 1)).run (awaiting n) =
        (outcome last, journal (last + 1)) ∧
      (∀ i, n ≤ i → i < last → ¬ IsFinal retryable (outcome i)) ∧
      (last < n + left → IsFinal retryable (outcome last)) := by
  induction left generalizing n with
  | zero =>
      refine ⟨n, Nat.le_refl n, Nat.le_refl n, noted_awaiting outcome n, ?_, ?_⟩
      · intro i hi hLast
        omega
      · intro hLeft
        omega
  | succ left ih =>
      rw [run_attemptsFrom_succ]
      cases hOutcome : outcome n with
      | ok value =>
          refine ⟨n, Nat.le_refl n, Nat.le_add_right n _, by rw [hOutcome], ?_, ?_⟩
          · intro i hi hLast
            omega
          · intro _
            rw [hOutcome]
            trivial
      | error e =>
          cases hRetry : retryable e with
          | false =>
              refine ⟨n, Nat.le_refl n, Nat.le_add_right n _, by simp [hOutcome, hRetry], ?_, ?_⟩
              · intro i hi hLast
                omega
              · intro _
                rw [hOutcome]
                exact hRetry
          | true =>
              rcases ih (n + 1) with ⟨last, hFirst, hLast, hRun, hBefore, hFinal⟩
              refine ⟨last, by omega, by omega, by simpa [hRetry] using hRun, ?_, ?_⟩
              · intro i hi hiLast
                by_cases hNow : i = n
                · rw [hNow, hOutcome]
                  simp [IsFinal, hRetry]
                · exact hBefore i (by omega) hiLast
              · intro hLeft
                exact hFinal (by omega)

/-- The number of attempts under a limit, which counts as one if it is zero, where these outcomes
are final: up to the first of them, if it comes within the limit, and else as many as the limit
says. -/
structure IsCount (limit : Nat) (final : Set Nat) (n : Nat) : Prop where
  pos : 0 < n
  of_isLeast : ∀ i, IsLeast final i → n = min (i + 1) (max 1 limit)
  of_empty : final = ∅ → n = max 1 limit

theorem exists_run_whenRetryable (limit : Nat) :
    ∃ n, IsCount limit {i | IsFinal retryable (outcome i)} n ∧
      (whenRetryable limit notedPause (noted outcome) retryable).run [] =
        (outcome (n - 1), journal n) := by
  rcases exists_run_attemptsFrom outcome retryable (limit - 1) 0 with
    ⟨last, -, hLast, hRun, hBefore, hFinal⟩
  refine ⟨last + 1, ⟨Nat.succ_pos last, ?_, ?_⟩, hRun⟩
  · rintro i ⟨hFirst, hLeast⟩
    have hReached : ¬ i < last := fun hEarlier => hBefore i (Nat.zero_le i) hEarlier hFirst
    have hPassed : last < limit - 1 → i ≤ last := fun hLeft => hLeast (hFinal (by omega))
    omega
  · intro hNone
    have hAll : ¬ last < 0 + (limit - 1) := by
      intro hLeft
      have hMem : last ∈ {i | IsFinal retryable (outcome i)} := hFinal hLeft
      rw [hNone] at hMem
      exact hMem
    omega

/-- Whatever the limit, the outcomes and the failures that are tried again, the attempts come to an
end. The operation is run up to its first final outcome or as often as the limit allows, there is
one pause between each two runs and none behind the last one, and the outcome of this one is the
result. Where every failure is tried again, only a success is final. -/
theorem attempts_exact (limit : Nat) :
    (∃ n, IsCount limit {i | IsFinal retryable (outcome i)} n ∧
      (journal n).count .attempt = n ∧
      (whenRetryable limit notedPause (noted outcome) retryable).run [] =
        (outcome (n - 1), journal n)) ∧
    ∃ n, IsCount limit {i | ∃ value, outcome i = .ok value} n ∧
      (always limit notedPause (noted outcome)).run [] = (outcome (n - 1), journal n) := by
  constructor
  · rcases exists_run_whenRetryable outcome retryable limit with ⟨n, hCount, hRun⟩
    exact ⟨n, hCount, count_journal n, hRun⟩
  · have hSuccess : {i | IsFinal (fun _ => true) (outcome i)} =
        {i | ∃ value, outcome i = .ok value} := by
      ext i
      cases hOutcome : outcome i <;> simp [IsFinal, hOutcome]
    rw [← hSuccess]
    exact exists_run_whenRetryable outcome (fun _ => true) limit

/-- Failing for good ends the attempts before the limit does. -/
example : (whenRetryable 5 notedPause (noted fun i => if i < 2 then .error i else .error 9)
    (fun e : Nat => e < 9)).run ([] : List Event) =
      ((.error 9 : Except Nat Unit), [.attempt, .pause 1, .attempt, .pause 2, .attempt]) := rfl

/-! ## Delays -/

/-- Under an upper bound that is a word itself, cutting a number to a word is not seen. -/
theorem min_saturate {bits bound : Nat} (h : bound ≤ Word.greatest bits) (n : Nat) :
    min (Word.saturate bits n) bound = min n bound := by
  rw [Word.saturate, Nat.min_assoc, Nat.min_eq_right h]

/-- What is added to the number later makes no difference: a sum is no less than its parts. -/
theorem min_saturate_add {bits bound : Nat} (h : bound ≤ Word.greatest bits) (n m : Nat) :
    min (Word.saturate bits n + m) bound = min (n + m) bound := by
  unfold Word.saturate
  omega

theorem factor_eq_pow {attempt : Nat} (h : attempt < 64) : factor attempt = Nat.pow 2 attempt := by
  have hWord : attempt % Word.count 32 = attempt :=
    Nat.mod_eq_of_lt (Nat.lt_trans h (by decide))
  simp only [factor, hWord, if_pos h]
  rfl

theorem factor_eq_greatest {attempt : Nat} (h : 64 ≤ attempt) (hWord : attempt < Word.count 32) :
    factor attempt = Word.greatest 64 := by
  simp only [factor, Nat.mod_eq_of_lt hWord, if_neg (Nat.not_lt.2 h)]

/-- A power that is no word has brought every base but zero beyond the upper bound. -/
theorem min_mul_factor {bound : Nat} (hBound : bound ≤ Word.greatest 64) (base jitter : Nat)
    {attempt : Nat} (hWord : attempt < Word.count 32) :
    min (base * factor attempt + jitter) bound =
      min (base * Nat.pow 2 attempt + jitter) bound := by
  by_cases hFits : attempt < 64
  · rw [factor_eq_pow hFits]
  · have hLate : 64 ≤ attempt := Nat.not_lt.1 hFits
    cases base with
    | zero => rw [Nat.zero_mul, Nat.zero_mul]
    | succ base =>
        have hPower : Word.greatest 64 ≤ Nat.pow 2 attempt :=
          Nat.le_trans (Nat.sub_le _ _) (Nat.pow_le_pow_right (by decide) hLate)
        have hBeyond {power : Nat} (h : Word.greatest 64 ≤ power) :
            bound ≤ (base + 1) * power + jitter :=
          calc
            bound ≤ Word.greatest 64 := hBound
            _ ≤ power := h
            _ ≤ (base + 1) * power := Nat.le_mul_of_pos_left power (Nat.succ_pos base)
            _ ≤ (base + 1) * power + jitter := Nat.le_add_right _ _
        rw [factor_eq_greatest hLate hWord, Nat.min_eq_right (hBeyond (Nat.le_refl _)),
          Nat.min_eq_right (hBeyond hPower)]

theorem delay_eq_min {bound : Nat} (hBound : bound ≤ Word.greatest 64) (base jitter : Nat)
    {attempt : Nat} (hWord : attempt < Word.count 32) :
    delay attempt base bound jitter = min bound (base * Nat.pow 2 attempt + jitter) :=
  calc
    delay attempt base bound jitter
        = min (Word.saturate 64 (base * factor attempt) + jitter) bound := min_saturate hBound _
    _ = min (base * factor attempt + jitter) bound := min_saturate_add hBound _ jitter
    _ = min (base * Nat.pow 2 attempt + jitter) bound := min_mul_factor hBound base jitter hWord
    _ = min bound (base * Nat.pow 2 attempt + jitter) := Nat.min_comm _ _

/-- The attempts behind which a run can wait are those before the last one that is allowed. -/
theorem of_pause_mem_run {limit attempt : Nat}
    (h : Event.pause attempt ∈
      ((whenRetryable limit notedPause (noted outcome) retryable).run []).2) :
    1 ≤ attempt ∧ attempt < max 1 limit := by
  rcases exists_run_attemptsFrom outcome retryable (limit - 1) 0 with ⟨last, -, hLast, hRun, -, -⟩
  have hJournal : ((whenRetryable limit notedPause (noted outcome) retryable).run []).2 =
      journal (last + 1) := congrArg Prod.snd hRun
  rw [hJournal] at h
  have hNumbered := pause_mem_journal_iff.1 h
  omega

/-- With an upper bound of 64 bits the delay is the base times two to the power of the attempt and
the jitter, in unbounded numbers, or the upper bound if that is less. So it keeps to the bound, gets
no shorter from one attempt to a later one, and is the bound itself, whatever the jitter, once the
base has been doubled often enough to reach it. The attempts are those of 32 bits, and a run whose
limit has 32 bits waits behind no others. -/
theorem delay_exact {bound : Nat} (hBound : bound ≤ Word.greatest 64) (base : Nat) :
    (∀ attempt < Word.count 32, ∀ jitter,
      delay attempt base bound jitter = min bound (base * Nat.pow 2 attempt + jitter)) ∧
    (∀ attempt jitter, delay attempt base bound jitter ≤ bound) ∧
    (∀ attempt later jitter, attempt ≤ later → later < Word.count 32 →
      delay attempt base bound jitter ≤ delay later base bound jitter) ∧
    (∀ attempt < Word.count 32, bound ≤ base * Nat.pow 2 attempt →
      ∀ jitter, delay attempt base bound jitter = bound) ∧
    ∀ limit ≤ Word.greatest 32, ∀ attempt,
      Event.pause attempt ∈
        ((whenRetryable limit notedPause (noted outcome) retryable).run []).2 →
      1 ≤ attempt ∧ attempt < Word.count 32 := by
  refine ⟨?_, ?_, ?_, ?_, ?_⟩
  · intro attempt hWord jitter
    exact delay_eq_min hBound base jitter hWord
  · intro attempt jitter
    exact Nat.min_le_right _ _
  · intro attempt later jitter hLater hWord
    rw [delay_eq_min hBound base jitter (Nat.lt_of_le_of_lt hLater hWord),
      delay_eq_min hBound base jitter hWord]
    have hPower : Nat.pow 2 attempt ≤ Nat.pow 2 later := Nat.pow_le_pow_right (by decide) hLater
    have hProduct := Nat.mul_le_mul_left base hPower
    omega
  · intro attempt hWord hReached jitter
    rw [delay_eq_min hBound base jitter hWord]
    exact Nat.min_eq_left (Nat.le_add_right_of_le hReached)
  · intro limit hLimit attempt hPause
    have hNumbered := of_pause_mem_run outcome retryable hPause
    have hGreatest : Word.greatest 32 < Word.count 32 := by decide
    have hOne : 1 ≤ Word.greatest 32 := by decide
    omega

/-- With the greatest word as its bound, the delay behind the sixty-fourth attempt is the first one
to be cut. -/
theorem delay_exact_greatest :
    delay 63 1 (Word.greatest 64) 999 = Nat.pow 2 63 + 999 ∧
      delay 64 1 (Word.greatest 64) 999 = Word.greatest 64 ∧
      delay 63 1 (Word.greatest 64) 0 ≤ delay 64 1 (Word.greatest 64) 0 ∧
      1 ≤ 2 ∧ 2 < Word.count 32 := by
  have hBound : Word.greatest 64 ≤ Word.greatest 64 := Nat.le_refl _
  rcases delay_exact (fun _ => (.error () : Except Unit Unit)) (fun _ => true) hBound 1 with
    ⟨hExact, -, hLater, hReached, hPauses⟩
  refine ⟨?_, ?_, ?_, ?_⟩
  · exact (hExact 63 (by decide) 999).trans (by decide)
  · exact hReached 64 (by decide) (by decide) 999
  · exact hLater 63 64 0 (by decide) (by decide)
  · exact hPauses 3 (by decide) 2 (by decide)

end Retry
end TableQuery
