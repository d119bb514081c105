import VersionOperator.Proofs.Resolution.Settling

/-!
Since when a condition has been as it is. A pass that ends with the status and the reason that it
found keeps the transition time, with one exception: a pass that settles on something says so in the
ledger first, and a failure of the final check is then written over that, as if the failure of the
pass before had been overcome in between.
-/

namespace VersionOperator.Component

variable {c : Component} {policy : ProbePolicy} {now : Instant} {entry : Entry}

/-- The pass settles on something that does not pass the final check. -/
structure FailsCheck (c : Component) (policy : ProbePolicy) (now : Instant) (entry : Entry) :
    Prop where
  settles : c.Settles policy now entry.status
  invalid : ∃ error, (c.pass policy now entry).result = .error error

section Since

variable {old new : Condition}

/-- The report of a pass that settles holds, and the failure after it does not: the time of both is
that of the pass. -/
theorem since_of_failsCheck (h : c.FailsCheck policy now entry)
    (hnew : (c.pass policy now entry).entry.conditions.find? c.kind = some new) :
    new.since = now := by
  obtain ⟨hsettles, error, herror⟩ := h
  obtain ⟨draft, probed, ⟨_, report, htype, hholds, hdraft⟩, hpass⟩ := exists_draft hsettles
  rw [hpass, result_settle] at herror
  rw [hpass, c.settle_of_invalid probed herror, hdraft] at hnew
  obtain ⟨told, htold, hstatus, _, _⟩ := Ledger.exists_find?_put htype entry.conditions
  have hturned : told.status ≠ (Condition.failed c.kind error now).status := by
    rw [hstatus, hholds]
    simp [Condition.failed]
  exact Ledger.since_put_of_turned (by simp) htold hnew hturned

theorem since_of_settles (hsettles : c.Settles policy now entry.status)
    (hok : (c.pass policy now entry).result = .ok ())
    (hold : entry.conditions.find? c.kind = some old)
    (hnew : (c.pass policy now entry).entry.conditions.find? c.kind = some new)
    (hstatus : new.status = old.status) (hreason : new.reason = old.reason) :
    new.since = old.since := by
  obtain ⟨draft, probed, ⟨_, report, htype, _, hdraft⟩, hpass⟩ := exists_draft hsettles
  rw [hpass, result_settle] at hok
  rw [hpass, c.settle_of_valid probed hok, hdraft] at hnew
  exact Ledger.since_put_of_same htype hold hnew hstatus hreason

theorem since_of_idles (hidles : c.Idles policy now entry.status)
    (hold : entry.conditions.find? c.kind = some old)
    (hnew : (c.pass policy now entry).entry.conditions.find? c.kind = some new)
    (hstatus : new.status = old.status) (hreason : new.reason = old.reason) :
    new.since = old.since := by
  rcases hidles.pass_eq with ⟨_, hpass⟩ | ⟨error, hpass⟩
  · rw [hpass, hold] at hnew
    rw [Option.some.inj hnew]
  · rw [hpass] at hnew
    exact Ledger.since_put_of_same (Condition.type_failed c.kind now error) hold hnew hstatus
      hreason

theorem enabled_of_find?_pass
    (hnew : (c.pass policy now entry).entry.conditions.find? c.kind = some new) :
    c.enabled = true := by
  rw [← Bool.not_eq_false]
  intro hdisabled
  rw [pass_eq_carryOut, decision_eq_clear_iff.mpr hdisabled, carryOut,
    Ledger.find?_clear_self] at hnew
  exact absurd hnew (by simp)

end Since

/-- A condition that a pass leaves with the status and the reason that it found has kept its
transition time, unless the pass fails its final check. Then the condition starts anew. -/
theorem unturned_condition_keeps_since (c : Component) (policy : ProbePolicy) (now : Instant)
    (entry : Entry) {old new : Condition} (hold : entry.conditions.find? c.kind = some old)
    (hnew : (c.pass policy now entry).entry.conditions.find? c.kind = some new)
    (hstatus : new.status = old.status) (hreason : new.reason = old.reason) :
    (¬ c.FailsCheck policy now entry → new.since = old.since) ∧
      (c.FailsCheck policy now entry → new.since = now) := by
  refine ⟨?_, fun h => since_of_failsCheck h hnew⟩
  intro hpasses
  rcases settles_or_idles (enabled_of_find?_pass hnew) policy now entry.status with
    hsettles | hidles
  · cases hresult : (c.pass policy now entry).result with
    | ok _ => exact since_of_settles hsettles hresult hold hnew hstatus hreason
    | error error => exact absurd ⟨hsettles, error, hresult⟩ hpasses
  · exact since_of_idles hidles hold hnew hstatus hreason

/-- Without a token the pass fails for the same reason again, and only the first time counts. -/
theorem unturned_condition_keeps_since_withoutToken :
    let c := (Round.classic {} (.withoutToken "none") 0).component .oneAgent
    let policy : ProbePolicy := { timeout := Duration.ofSeconds 30 }
    let now := Instant.newYear.plusMinutes 1
    let entry := (c.pass policy Instant.newYear ⟨{}, []⟩).entry
    ∃ old new : Condition, (entry.conditions.find? c.kind = some old ∧
        (c.pass policy now entry).entry.conditions.find? c.kind = some new ∧
        new.status = old.status ∧ new.reason = old.reason) ∧
      new.since = .newYear ∧
      (¬ c.FailsCheck policy now entry → new.since = old.since) ∧
      (c.FailsCheck policy now entry → new.since = now) :=
  ⟨_, _, ⟨rfl, rfl, rfl, rfl⟩, rfl, unturned_condition_keeps_since _ _ _ _ rfl rfl rfl rfl⟩

/-- The tenant names an empty version, so there is a record that fails the final check, twice for
the same reason; but the condition is that of the second time. -/
theorem failed_check_starts_condition_anew :
    let r := { Round.classic {} (.naming "") 0 with
      metadata := { annotations := [(FeatureFlags.automaticRegistryKey, "false")] } }
    let c := r.component .oneAgent
    let policy : ProbePolicy := { timeout := Duration.ofSeconds 30 }
    let now := Instant.newYear.plusMinutes 1
    let entry := (c.pass policy Instant.newYear ⟨{}, []⟩).entry
    ∃ old new : Condition, entry.conditions.find? c.kind = some old ∧
      (c.pass policy now entry).entry.conditions.find? c.kind = some new ∧
      new.status = old.status ∧ new.reason = old.reason ∧ new.since ≠ old.since :=
  ⟨_, _, rfl, rfl, rfl, rfl, by decide⟩

end VersionOperator.Component
