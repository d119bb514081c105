import VersionOperator.Proofs.Controller.Backoff

namespace VersionOperator

open Text (wordLimit)

namespace Delay

/-- What the two delays in hand are together when the n-th delay is asked for. At first there is one
delay alone, and the one before the second is the shortest even if that is beyond the longest. -/
def inHand (least most : Duration) : Nat → Nat
  | 0 => 0
  | 1 => least.nanos
  | 2 => least.nanos + (fibonacci least most 2).nanos
  | n + 3 => (fibonacci least most (n + 2)).nanos + (fibonacci least most (n + 3)).nanos

def first (least most : Duration) (n : Nat) : List Duration :=
  (List.range n).map fun i => nth least most (i + 1)

variable (least most : Duration)

theorem inHand_succ (n : Nat) :
    inHand least most (n + 1) = (nth least most n).nanos + (nth least most (n + 1)).nanos := by
  match n with
  | 0 => rw [nth_zero]; exact (Nat.zero_add _).symm
  | 1 => rfl
  | n + 2 => rw [nth, if_neg (by omega), nth, if_neg (by omega), inHand]

theorem length_first (n : Nat) : (first least most n).length = n := by
  rw [first, List.length_map, List.length_range]

theorem first_succ (n : Nat) :
    first least most (n + 1) = first least most n ++ [nth least most (n + 1)] := by
  rw [first, List.range_succ, List.map_append]
  rfl

variable {least most} (h : least ≤ most)
include h

theorem nth_mono {m n : Nat} (hmn : m ≤ n) : nth least most m ≤ nth least most n := by
  have hfib : Nat.fib m * least.nanos ≤ Nat.fib n * least.nanos :=
    Nat.mul_le_mul_right _ (Nat.fib_mono hmn)
  rw [nth_of_le h, nth_of_le h]
  exact min_le_min_right most.nanos hfib

theorem nth_le (n : Nat) : nth least most n ≤ most := by
  rw [nth_of_le h]
  exact Nat.min_le_right _ _

theorem pairwise_first (n : Nat) : (first least most n).Pairwise (· ≤ ·) := by
  apply List.pairwise_map.mpr
  apply List.pairwise_lt_range.imp
  intro i j hij
  exact nth_mono h (by omega)

end Delay

namespace Backoff

open Delay (nth inHand first)

/-- The statements of a call for the next delay, in their order. The sum of the two delays in hand
is taken before either of them is written. -/
def advance : EStateM Unit Backoff Duration := do
  let delay := (← get).current
  match (← get).previous.plus? (← get).current with
  | none => throw ()
  | some sum =>
    modify fun b => { b with previous := b.current }
    modify fun b => { b with current := sum.shorter b.max }
    return delay

inductive Call where
  | next
  | reset
deriving DecidableEq

/-- What is told of a call: a delay, that there was none because the time is too long, or, of a
reset, nothing. -/
inductive Answer where
  | delay (d : Duration)
  | overflow
  | done
deriving DecidableEq

def Answer.delay? : Answer → Option Duration
  | delay d => some d
  | overflow => none
  | done => none

/-- What is told of a call, and what it leaves. A call that fails leaves what it has written. -/
def Call.act : Call → Backoff → Answer × Backoff
  | next, b =>
    match advance.run b with
    | .ok delay left => (.delay delay, left)
    | .error _ left => (.overflow, left)
  | reset, b => (.done, b.reset)

theorem run_advance (b : Backoff) :
    advance.run b = match b.next? with
      | some (delay, left) => .ok delay left
      | none => .error () b := by
  rw [next?]
  simp only [advance, EStateM.run_bind, EStateM.run_get]
  cases b.previous.plus? b.current with
  | none => rfl
  | some sum => rfl

/-- A call that fails has written nothing. -/
theorem act_next (b : Backoff) :
    Call.next.act b = match b.next? with
      | some (delay, left) => (.delay delay, left)
      | none => (.overflow, b) := by
  rw [Call.act, run_advance]
  cases b.next? with
  | none => rfl
  | some next => rfl

theorem act_next_of_overflow {b : Backoff} (h : (Call.next.act b).1 = .overflow) :
    Call.next.act b = (.overflow, b) := by
  rw [act_next] at h ⊢
  cases hnext : b.next? with
  | none => rfl
  | some next =>
    rw [hnext] at h
    cases h

section Standing

variable (least most : Duration)

theorem next?_standing_eq (n : Nat) :
    (standing least most n).next? =
      if inHand least most (n + 1) < wordLimit * 1000000000 then
        some (nth least most (n + 1), standing least most (n + 1))
      else none := by
  rw [Delay.inHand_succ]
  split
  · rename_i hfits
    exact next?_standing hfits
  · rename_i hlong
    have hplus : (nth least most n).plus? (nth least most (n + 1)) = none := dif_neg hlong
    simp only [next?, standing, hplus, Option.map_none]

theorem act_next_standing (n : Nat) :
    Call.next.act (standing least most n) =
      if inHand least most (n + 1) < wordLimit * 1000000000 then
        (.delay (nth least most (n + 1)), standing least most (n + 1))
      else (.overflow, standing least most n) := by
  rw [act_next, next?_standing_eq]
  by_cases hfits : inHand least most (n + 1) < wordLimit * 1000000000
  · rw [if_pos hfits, if_pos hfits]
  · rw [if_neg hfits, if_neg hfits]

theorem act_reset_standing (n : Nat) :
    Call.reset.act (standing least most n) = (.done, start least most) := rfl

end Standing

/-- The delays after calls, the first one in front. A call that fails does not end the run. -/
def after (b : Backoff) (calls : List Call) : Backoff :=
  calls.foldl (fun b call => (call.act b).2) b

def answers (b : Backoff) : List Call → List Answer
  | [] => []
  | call :: calls => (call.act b).1 :: (call.act b).2.answers calls

def Answer.tell (told : List Duration) : Answer → List Duration
  | delay d => told ++ [d]
  | overflow => told
  | done => []

/-- The delays that were told since the last reset, or since the start. -/
def told (answers : List Answer) : List Duration :=
  answers.foldl Answer.tell []

theorem after_concat (b : Backoff) (calls : List Call) (call : Call) :
    b.after (calls ++ [call]) = (call.act (b.after calls)).2 := by
  rw [after, List.foldl_append]
  rfl

theorem answers_concat (b : Backoff) (calls : List Call) (call : Call) :
    b.answers (calls ++ [call]) = b.answers calls ++ [(call.act (b.after calls)).1] := by
  induction calls generalizing b with
  | nil => rfl
  | cons earlier calls ih =>
    rw [List.cons_append, answers, ih, answers]
    rfl

theorem told_concat (answers : List Answer) (answer : Answer) :
    told (answers ++ [answer]) = answer.tell (told answers) := by
  rw [told, List.foldl_append]
  rfl

theorem stays_after {b : Backoff} (h : Call.next.act b = (.overflow, b)) (k : Nat) :
    b.answers (List.replicate k .next) = List.replicate k .overflow ∧
      b.after (List.replicate k .next) = b := by
  induction k with
  | zero => exact ⟨rfl, rfl⟩
  | succ k ih =>
    obtain ⟨hanswers, hafter⟩ := ih
    rw [List.replicate_succ, answers, h, hanswers, after, List.foldl_cons, h]
    exact ⟨rfl, hafter⟩

section Run

variable (least most : Duration)

theorem exists_standing (calls : List Call) :
    ∃ n, (start least most).after calls = standing least most n ∧
      told ((start least most).answers calls) = first least most n := by
  induction calls using List.reverseRecOn with
  | nil => exact ⟨0, (standing_zero least most).symm, rfl⟩
  | append_singleton calls call ih =>
    obtain ⟨n, hafter, htold⟩ := ih
    rw [after_concat, answers_concat, told_concat, hafter, htold]
    cases call with
    | next =>
      rw [act_next_standing]
      split
      · exact ⟨n + 1, rfl, (Delay.first_succ least most n).symm⟩
      · -- A call that fails leaves the delays as well as what was told.
        exact ⟨n, rfl, rfl⟩
    | reset => exact ⟨0, (standing_zero least most).symm, rfl⟩

theorem exists_nth_of_mem_answers {d : Duration} {calls : List Call}
    (h : .delay d ∈ (start least most).answers calls) : ∃ n, d = nth least most n := by
  induction calls using List.reverseRecOn with
  | nil => cases h
  | append_singleton calls call ih =>
    rw [answers_concat, List.mem_append, List.mem_singleton] at h
    obtain hearlier | hlast := h
    · exact ih hearlier
    · obtain ⟨n, hafter, -⟩ := exists_standing least most calls
      rw [hafter] at hlast
      cases call with
      | next =>
        rw [act_next_standing] at hlast
        split at hlast
        · exact ⟨n + 1, Answer.delay.inj hlast⟩
        · cases hlast
      | reset => cases hlast

end Run

end Backoff

namespace Backoffs

open Backoff (Call)

variable {b : Backoffs} {key : String}

def callsFor (key : String) (attempts : List (Attempt String)) : List Call :=
  (attempts.filter fun a => a.key = key).map fun a => if a.failed then .next else .reset

theorem callsFor_concat_of_ne {a : Attempt String} (h : a.key ≠ key)
    (attempts : List (Attempt String)) :
    callsFor key (attempts ++ [a]) = callsFor key attempts := by
  simp [callsFor, h]

theorem callsFor_concat_self (key : String) (failed : Bool) (attempts : List (Attempt String)) :
    callsFor key (attempts ++ [⟨key, failed⟩]) =
      callsFor key attempts ++ [if failed then .next else .reset] := by
  simp [callsFor]

theorem delay_recordError (b : Backoffs) (key : String) :
    (b.recordError key).1 = (Call.next.act (b.failures key).backoff).1.delay? := by
  cases hnext : (b.failures key).backoff.next? with
  | none => simp only [recordError, hnext, Backoff.act_next]; rfl
  | some next => simp only [recordError, hnext, Backoff.act_next]; rfl

theorem backoff_attempt_failure :
    ((b.attempt ⟨key, true⟩).failures key).backoff =
      (Call.next.act (b.failures key).backoff).2 := by
  cases hnext : (b.failures key).backoff.next? with
  | none =>
    simp only [attempt, if_true, recordError, hnext, Backoff.act_next]
    rw [failures_assign_self]
  | some next =>
    rw [failures_attempt_failure hnext, Backoff.act_next, hnext]

theorem backoff_failures_after (least most : Duration) (attempts : List (Attempt String))
    (key : String) :
    ((after { min := least, max := most } attempts).failures key).backoff =
      (Backoff.start least most).after (callsFor key attempts) := by
  induction attempts using List.reverseRecOn with
  | nil => rfl
  | append_singleton attempts a ih =>
    rw [after_concat]
    by_cases h : a.key = key
    · obtain ⟨own, failed⟩ := a
      obtain rfl : own = key := h
      rw [callsFor_concat_self, Backoff.after_concat, ← ih]
      cases failed with
      | true => exact backoff_attempt_failure
      | false => rw [failures_attempt_success]; rfl
    · rw [failures_attempt_of_ne h, callsFor_concat_of_ne h, ih]

end Backoffs

namespace Backoff

open Delay (nth inHand)

/-- After any calls, the n-th delay since the last reset is the shortest one for the first, else
that one times the n-th Fibonacci number, up to the longest. A call for it fails just where the two
delays in hand are together beyond the longest time there is. A call that fails changes nothing, so
all calls behind it fail as well up to the next reset, which takes the delays back to the start.
Unless the shortest delay is beyond the longest, the delays never go down and none is beyond the
longest. The delays of a resource among others are those of the calls for it alone. -/
theorem delays_until_overflow (least most : Duration) (calls : List Call) :
    let b := (start least most).after calls
    let answers := (start least most).answers calls
    let n := (told answers).length + 1
    ((Call.next.act b).1 =
      if inHand least most n < wordLimit * 1000000000 then .delay (nth least most n)
      else .overflow) ∧
    ((Call.next.act b).1 = .overflow →
      (Call.next.act b).2 = b ∧
      ∀ k, b.answers (List.replicate k .next) = List.replicate k .overflow ∧
        b.after (List.replicate k .next) = b) ∧
    Call.reset.act b = (.done, start least most) ∧
    (least ≤ most → (told answers).Pairwise (· ≤ ·) ∧ ∀ d, .delay d ∈ answers → d ≤ most) ∧
    ∀ attempts key, Backoffs.callsFor key attempts = calls →
      ((Backoffs.after { min := least, max := most } attempts).recordError key).1 =
        (Call.next.act b).1.delay? := by
  intro b answers n
  obtain ⟨k, hafter, htold⟩ := exists_standing least most calls
  -- All that the calls leave behind is how many delays were told since the last reset.
  have hn : n = k + 1 := by
    change (told ((start least most).answers calls)).length + 1 = k + 1
    rw [htold, Delay.length_first]
  refine ⟨?_, ?_, ?_, ?_, ?_⟩
  · change (Call.next.act ((start least most).after calls)).1 = _
    rw [hn, hafter, act_next_standing]
    split
    · rfl
    · rfl
  · intro hoverflow
    have hstays := act_next_of_overflow hoverflow
    exact ⟨congrArg Prod.snd hstays, stays_after hstays⟩
  · change Call.reset.act ((start least most).after calls) = _
    rw [hafter, act_reset_standing]
  · intro hle
    constructor
    · change (told ((start least most).answers calls)).Pairwise _
      rw [htold]
      exact Delay.pairwise_first hle k
    · intro d hd
      obtain ⟨m, rfl⟩ := exists_nth_of_mem_answers least most hd
      exact Delay.nth_le hle m
  · rintro attempts key rfl
    rw [Backoffs.delay_recordError, Backoffs.backoff_failures_after]

/-- After the shortest delay, again the shortest and twice the shortest, the two delays in hand are
five quarters of 2^64 seconds. The calls behind them fail until a reset, also for a resource with
failures of another one between its own. -/
theorem delays_until_overflow_fourth :
    let least := Duration.ofSeconds (2 ^ 62)
    let most := Duration.ofSeconds (2 ^ 64)
    let calls : List Call := [.next, .reset, .next, .next, .next, .next]
    let b := (start least most).after calls
    let answers := (start least most).answers calls
    let own : Attempt String := ⟨"dynatrace/a", true⟩
    let other : Attempt String := ⟨"dynatrace/b", true⟩
    let attempts := [own, ⟨"dynatrace/a", false⟩, other, own, own, other, own, own]
    (least ≤ most ∧ (Call.next.act b).1 = .overflow ∧
      .delay (Duration.ofSeconds (2 ^ 63)) ∈ answers ∧
      Backoffs.callsFor "dynatrace/a" attempts = calls) ∧
    told answers = [least, least, Duration.ofSeconds (2 ^ 63)] ∧
    (Call.next.act b).2 = b ∧
    b.answers [.next, .next] = [.overflow, .overflow] ∧
    Call.reset.act b = (.done, start least most) ∧
    (told answers).Pairwise (· ≤ ·) ∧
    Duration.ofSeconds (2 ^ 63) ≤ most ∧
    ((Backoffs.after { min := least, max := most } attempts).recordError "dynatrace/a").1 =
      none := by
  intro least most calls b answers own other attempts
  have hle : least ≤ most := by decide
  have hmem : .delay (Duration.ofSeconds (2 ^ 63)) ∈ answers := by decide
  have hcalls : Backoffs.callsFor "dynatrace/a" attempts = calls := by decide
  obtain ⟨hnext, hstays, hreset, horder, hown⟩ := delays_until_overflow least most calls
  have hoverflow : (Call.next.act b).1 = .overflow := hnext.trans (by decide)
  obtain ⟨hsame, hagain⟩ := hstays hoverflow
  obtain ⟨hpairwise, hmost⟩ := horder hle
  exact ⟨⟨hle, hoverflow, hmem, hcalls⟩, by decide, hsame, (hagain 2).1, hreset, hpairwise,
    hmost _ hmem, (hown attempts "dynatrace/a" hcalls).trans (by decide)⟩

end Backoff

end VersionOperator
