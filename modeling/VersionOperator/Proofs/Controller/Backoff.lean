import Mathlib.Data.List.Induction
import Mathlib.Data.Nat.Fib.Basic
import VersionOperator.Controller.Backoff

namespace VersionOperator

open Text (wordLimit)

namespace Delay

/-- The shortest delay times a Fibonacci number, but no more than the longest delay. -/
def fibonacci (least most : Duration) (n : Nat) : Duration where
  nanos := min (Nat.fib n * least.nanos) most.nanos
  nanos_lt := Nat.lt_of_le_of_lt (Nat.min_le_right _ _) most.nanos_lt

/-- The n-th delay. The first one is the shortest even if that is beyond the longest: it is given
before anything is held against the longest. -/
def nth (least most : Duration) (n : Nat) : Duration :=
  if n = 1 then least else fibonacci least most n

variable (least most : Duration)

theorem nanos_fibonacci (n : Nat) :
    (fibonacci least most n).nanos = min (Nat.fib n * least.nanos) most.nanos := rfl

theorem nth_zero : nth least most 0 = Duration.zero := by
  apply Duration.ext
  simp [nth, nanos_fibonacci, Duration.zero]

theorem nanos_nth {n : Nat} (h : n ≠ 1) :
    (nth least most n).nanos = min (Nat.fib n * least.nanos) most.nanos := by
  rw [nth, if_neg h, nanos_fibonacci]

/-- Each delay is the sum of the two before it, up to the longest. Where one of the two has come to
the longest already, the sum is beyond it. -/
theorem nanos_nth_add_two (n : Nat) :
    (nth least most (n + 2)).nanos =
      min ((nth least most n).nanos + (nth least most (n + 1)).nanos) most.nanos := by
  have hfib : Nat.fib (n + 2) * least.nanos =
      Nat.fib n * least.nanos + Nat.fib (n + 1) * least.nanos := by
    rw [← Nat.add_mul, ← Nat.fib_add_two]
  have hone : (nth least most 1).nanos = Nat.fib 1 * least.nanos := by
    simp [nth]
  have hnext : n + 2 ≠ 1 := by omega
  rw [nanos_nth _ _ hnext, hfib]
  match n with
  | 0 => simp [nth_zero, hone, Duration.zero]
  | 1 =>
    rw [hone, nanos_nth _ _ (by decide)]
    omega
  | n + 2 =>
    rw [nanos_nth _ _ (by omega), nanos_nth _ _ (by omega)]
    omega

variable {least most}

theorem nth_of_le (h : least ≤ most) (n : Nat) : nth least most n = fibonacci least most n := by
  unfold nth
  split
  · rename_i hone
    apply Duration.ext
    rw [hone, nanos_fibonacci, Nat.fib_one, Nat.one_mul]
    exact (Nat.min_eq_left h).symm
  · rfl

end Delay

namespace Backoff

open Delay (nth)

/-- The backoff of a resource after that many delays. -/
def standing (least most : Duration) (n : Nat) : Backoff :=
  ⟨least, nth least most n, nth least most (n + 1), most⟩

variable {least most : Duration}

theorem standing_zero (least most : Duration) : standing least most 0 = start least most := by
  rw [standing, Delay.nth_zero]
  rfl

theorem reset_standing (least most : Duration) (n : Nat) :
    (standing least most n).reset = start least most := rfl

/-- A backoff gives its next delay, unless that one and the delay before it are together beyond the
longest time there is. -/
theorem next?_standing {n : Nat}
    (h : (nth least most n).nanos + (nth least most (n + 1)).nanos < wordLimit * 1000000000) :
    (standing least most n).next? =
      some (nth least most (n + 1), standing least most (n + 1)) := by
  have hplus : (nth least most n).plus? (nth least most (n + 1)) = some ⟨_, h⟩ := dif_pos h
  have hsum : Duration.shorter ⟨_, h⟩ most = nth least most (n + 2) := by
    apply Duration.ext
    rw [Duration.nanos_shorter, Delay.nanos_nth_add_two]
  simp only [next?, standing, hplus, Option.map_some, hsum]

end Backoff

structure Attempt (κ : Type) where
  key : κ
  failed : Bool
deriving DecidableEq

/-- How often in a row something has failed: how many attempts there have been at it since the last
one that succeeded, or since the start. -/
def failuresInARow {κ : Type} [DecidableEq κ] (key : κ) (attempts : List (Attempt κ)) : Nat :=
  (attempts.reverse.takeWhile fun a => ¬ (a.key = key ∧ a.failed = false)).countP
    fun a => a.key = key

section FailuresInARow

variable {κ : Type} [DecidableEq κ] {key : κ} {a : Attempt κ}

@[simp] theorem failuresInARow_nil (key : κ) : failuresInARow key [] = 0 := rfl

theorem failuresInARow_concat_of_ne (h : a.key ≠ key) (attempts : List (Attempt κ)) :
    failuresInARow key (attempts ++ [a]) = failuresInARow key attempts := by
  simp [failuresInARow, h]

theorem failuresInARow_concat_failure (attempts : List (Attempt κ)) :
    failuresInARow key (attempts ++ [⟨key, true⟩]) = failuresInARow key attempts + 1 := by
  simp [failuresInARow]

theorem failuresInARow_concat_success (attempts : List (Attempt κ)) :
    failuresInARow key (attempts ++ [⟨key, false⟩]) = 0 := by
  simp [failuresInARow]

theorem failuresInARow_filter (key : κ) (attempts : List (Attempt κ)) :
    failuresInARow key (attempts.filter fun a => a.key = key) = failuresInARow key attempts := by
  induction attempts using List.reverseRecOn with
  | nil => rfl
  | append_singleton attempts a ih =>
    by_cases h : a.key = key
    · obtain ⟨own, failed⟩ := a
      obtain rfl : own = key := h
      rw [List.filter_append, List.filter_cons_of_pos (by simp), List.filter_nil]
      cases failed with
      | true => rw [failuresInARow_concat_failure, failuresInARow_concat_failure, ih]
      | false => rw [failuresInARow_concat_success, failuresInARow_concat_success]
    · rw [List.filter_append, List.filter_cons_of_neg (by simp [h]), List.filter_nil,
        List.append_nil, ih, failuresInARow_concat_of_ne h]

end FailuresInARow

namespace Backoffs

variable {b : Backoffs} {key other : String}

def attempt (b : Backoffs) (a : Attempt String) : Backoffs :=
  if a.failed then (b.recordError a.key).2.2 else b.reset a.key

def after (b : Backoffs) (attempts : List (Attempt String)) : Backoffs :=
  attempts.foldl attempt b

theorem after_concat (b : Backoffs) (attempts : List (Attempt String)) (a : Attempt String) :
    b.after (attempts ++ [a]) = (b.after attempts).attempt a := by
  rw [after, List.foldl_append]
  rfl

/-- An attempt writes what is recorded of its resource, or nothing. -/
theorem attempt_eq_or (b : Backoffs) (a : Attempt String) :
    b.attempt a = b ∨
      ∃ recorded, b.attempt a = { b with entries := assign a.key recorded b.entries } := by
  unfold attempt
  split
  · cases hnext : (b.failures a.key).backoff.next? with
    | none => exact .inr ⟨_, by simp only [recordError, hnext]; rfl⟩
    | some next => exact .inr ⟨_, by simp only [recordError, hnext]; rfl⟩
  · cases hfind : b.find? a.key with
    | none => exact .inl (by simp only [reset, hfind])
    | some recorded => exact .inr ⟨_, by simp only [reset, hfind]; rfl⟩

theorem find?_attempt_of_ne {a : Attempt String} (h : a.key ≠ key) (b : Backoffs) :
    (b.attempt a).find? key = b.find? key := by
  rcases b.attempt_eq_or a with hsame | ⟨recorded, hassign⟩
  · rw [hsame]
  · rw [hassign, find?, find?, find?_assign_of_ne (Ne.symm h)]

theorem failures_attempt_of_ne {a : Attempt String} (h : a.key ≠ key) (b : Backoffs) :
    (b.attempt a).failures key = b.failures key := by
  have hfind := find?_attempt_of_ne h b
  rcases b.attempt_eq_or a with hsame | ⟨recorded, hassign⟩
  · rw [hsame]
  · rw [failures, failures, hfind, hassign]

theorem failures_assign_self (recorded : Failures) :
    ({ b with entries := assign key recorded b.entries } : Backoffs).failures key = recorded := by
  rw [failures, find?, find?_assign_self]
  rfl

theorem failures_attempt_failure {delay : Duration} {backoff : Backoff}
    (h : (b.failures key).backoff.next? = some (delay, backoff)) :
    (b.attempt ⟨key, true⟩).failures key = ⟨backoff, (b.failures key).count + 1⟩ := by
  simp only [attempt, if_true, recordError, h]
  exact failures_assign_self _

theorem attempt_success_of_unseen (h : b.find? key = none) : b.attempt ⟨key, false⟩ = b := by
  change b.reset key = b
  rw [reset, h]

theorem failures_attempt_success :
    (b.attempt ⟨key, false⟩).failures key = ⟨(b.failures key).backoff.reset, 0⟩ := by
  cases hfind : b.find? key with
  | none =>
    rw [attempt_success_of_unseen hfind, failures, hfind]
    rfl
  | some recorded =>
    change (b.reset key).failures key = _
    rw [reset, hfind, failures_assign_self, failures, hfind, Option.getD_some]

def afterFailures (least most : Duration) (n : Nat) : Failures :=
  ⟨Backoff.standing least most n, UInt32.ofNat n⟩

theorem count_afterFailures_add_one (least most : Duration) (n : Nat) :
    (afterFailures least most n).count + 1 = UInt32.ofNat (n + 1) := by
  rw [UInt32.ofNat_add]
  rfl

section Run

variable {least most : Duration} (hle : least ≤ most)
  (hmost : 2 * most.nanos < wordLimit * 1000000000)
include hle hmost

theorem next?_afterFailures (n : Nat) :
    (afterFailures least most n).backoff.next? =
      some (Delay.fibonacci least most (n + 1), Backoff.standing least most (n + 1)) := by
  have hbound : ∀ n, (Delay.fibonacci least most n).nanos ≤ most.nanos := fun _ =>
    Nat.min_le_right _ _
  have hlast := hbound n
  have hnext := hbound (n + 1)
  rw [← Delay.nth_of_le hle] at hlast hnext ⊢
  exact Backoff.next?_standing (by omega)

theorem recordError_of_failures {n : Nat} (h : b.failures key = afterFailures least most n) :
    b.recordError key =
      (some (Delay.fibonacci least most (n + 1)), UInt32.ofNat (n + 1),
        b.attempt ⟨key, true⟩) := by
  have hnext := next?_afterFailures hle hmost n
  simp only [attempt, if_true, recordError, h, hnext, count_afterFailures_add_one]

theorem failures_after (attempts : List (Attempt String)) (key : String) :
    (after { min := least, max := most } attempts).failures key =
      afterFailures least most (failuresInARow key attempts) := by
  induction attempts using List.reverseRecOn with
  | nil =>
    rw [failuresInARow_nil, afterFailures, Backoff.standing_zero]
    rfl
  | append_singleton attempts a ih =>
    rw [after_concat]
    by_cases h : a.key = key
    · obtain ⟨own, failed⟩ := a
      obtain rfl : own = key := h
      cases failed with
      | true =>
        have hnext := next?_afterFailures hle hmost (failuresInARow own attempts)
        rw [← ih] at hnext
        rw [failures_attempt_failure hnext, failuresInARow_concat_failure, ih,
          count_afterFailures_add_one]
        rfl
      | false =>
        rw [failures_attempt_success, failuresInARow_concat_success, ih, afterFailures,
          afterFailures, Backoff.reset_standing, Backoff.standing_zero]
        rfl
    · rw [failures_attempt_of_ne h, failuresInARow_concat_of_ne h, ih]

end Run

theorem find?_after_eq_none (least most : Duration) {attempts : List (Attempt String)}
    (h : ∀ a ∈ attempts, a.key = key → a.failed = false) :
    (after { min := least, max := most } attempts).find? key = none := by
  induction attempts using List.reverseRecOn with
  | nil => rfl
  | append_singleton attempts a ih =>
    have hearlier := ih fun a ha => h a (List.mem_append_left _ ha)
    rw [after_concat]
    by_cases hkey : a.key = key
    · have hfailed : a.failed = false := h a (by simp) hkey
      obtain ⟨own, failed⟩ := a
      obtain rfl : own = key := hkey
      obtain rfl : failed = false := hfailed
      rw [attempt_success_of_unseen hearlier, hearlier]
    · rw [find?_attempt_of_ne hkey, hearlier]

def answer (b : Backoffs) (key : String) : Option Duration × UInt32 :=
  ((b.recordError key).1, (b.recordError key).2.1)

/-- The delay after a failure is never missing. It is the shortest one times the Fibonacci number of
the failures in a row, up to the longest one; attempts at other resources have no part in it. The
count is that of the failures in a row as long as 32 bits hold it. And a success of a resource that
never failed leaves everything as it was. -/
theorem delays_follow_failures {least most : Duration} (hle : least ≤ most)
    (hmost : 2 * most.nanos < wordLimit * 1000000000) (attempts : List (Attempt String))
    (key : String) :
    let start : Backoffs := { min := least, max := most }
    let n := failuresInARow key attempts + 1
    (start.after attempts).answer key = (some (Delay.fibonacci least most n), UInt32.ofNat n) ∧
    (n < 2 ^ 32 → ((start.after attempts).answer key).2.toNat = n) ∧
    (start.after (attempts.filter fun a => a.key = key)).answer key =
      (start.after attempts).answer key ∧
    ((∀ a ∈ attempts, a.key = key → a.failed = false) →
      (start.after attempts).attempt ⟨key, false⟩ = start.after attempts) := by
  intro start n
  have hanswer : ∀ attempts, (start.after attempts).answer key =
      (some (Delay.fibonacci least most (failuresInARow key attempts + 1)),
        UInt32.ofNat (failuresInARow key attempts + 1)) := by
    intro attempts
    rw [answer, recordError_of_failures hle hmost (failures_after hle hmost attempts key)]
  refine ⟨hanswer attempts, ?_, ?_, ?_⟩
  · intro hn
    rw [hanswer]
    exact UInt32.toNat_ofNat_of_lt hn
  · rw [hanswer, hanswer, failuresInARow_filter]
  · intro h
    exact attempt_success_of_unseen (find?_after_eq_none least most h)

/-- Eight failures of one resource, with a failure and two successes of others between them. -/
theorem delays_follow_failures_eighth :
    let least := Duration.ofSeconds 60
    let most := Duration.ofSeconds 600
    let start : Backoffs := { min := least, max := most }
    let own : Attempt String := ⟨"dynatrace/a", true⟩
    let attempts : List (Attempt String) :=
      [own, ⟨"dynatrace/a", false⟩, own, own, own, ⟨"dynatrace/b", true⟩, own, own,
        ⟨"dynatrace/b", false⟩, ⟨"dynatrace/c", false⟩, own, own]
    (least ≤ most ∧ 2 * most.nanos < wordLimit * 1000000000 ∧
      failuresInARow "dynatrace/a" attempts + 1 < 2 ^ 32 ∧
      ∀ a ∈ attempts, a.key = "dynatrace/c" → a.failed = false) ∧
    (start.after attempts).answer "dynatrace/a" = (some (Duration.ofSeconds 600), 8) ∧
    ((start.after attempts).answer "dynatrace/a").2.toNat = 8 ∧
    (start.after attempts).answer "dynatrace/c" = (some (Duration.ofSeconds 60), 1) ∧
    (start.after attempts).attempt ⟨"dynatrace/c", false⟩ = start.after attempts := by
  intro least most start own attempts
  have hle : least ≤ most := by decide
  have hmost : 2 * most.nanos < wordLimit * 1000000000 := by decide
  have hnever : ∀ a ∈ attempts, a.key = "dynatrace/c" → a.failed = false := by decide
  have hfew : failuresInARow "dynatrace/a" attempts + 1 < 2 ^ 32 := by decide
  obtain ⟨heighth, hcount, _, _⟩ := delays_follow_failures hle hmost attempts "dynatrace/a"
  obtain ⟨hfirst, _, _, hunseen⟩ := delays_follow_failures hle hmost attempts "dynatrace/c"
  exact ⟨⟨hle, hmost, hfew, hnever⟩, heighth.trans (by decide), hcount hfew,
    hfirst.trans (by decide), hunseen hnever⟩

end Backoffs

end VersionOperator
