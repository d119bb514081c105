import VersionOperator.Proofs.Resolution.Runs

namespace VersionOperator

open Ledger (entriesOf)

/-- What a condition that holds says of the record of its component: where the version came from,
and, if it came from the tenant, which one it is. Any other condition does not hold. -/
structure Condition.Describes (c : Condition) (s : VersionStatus) : Prop where
  verified : c.status = .yes → c.reason = "Verified" →
    s.source = some .tenantRegistry ∧
      c.message = "Version " ++ s.version ++ " resolved from the tenant registry"
  downgradeSkipped : c.status = .yes → c.reason = "DowngradeSkipped" →
    s.source = some .tenantRegistry ∧
      ∃ candidate, c.message =
        "Keeping version " ++ s.version ++ ", update to older version " ++ candidate ++ " skipped"
  verificationSkipped : c.status = .yes → c.reason = "VerificationSkipped" →
    s.source = some .customImage ∨ s.source = some .customVersion
  otherwise : ¬ (c.status = .yes ∧
    c.reason ∈ ["Verified", "DowngradeSkipped", "VerificationSkipped"]) → c.status = .no

namespace Condition

variable {kind : ComponentKind} {now : Instant} {s : VersionStatus}

theorem describes_verified (h : s.source = some .tenantRegistry) :
    (verified kind s.version now).Describes s where
  verified _ _ := ⟨h, rfl⟩
  downgradeSkipped _ hreason := absurd hreason (by simp [Condition.verified])
  verificationSkipped _ hreason := absurd hreason (by simp [Condition.verified])
  otherwise h := absurd ⟨rfl, by simp [Condition.verified]⟩ h

theorem describes_downgradeSkipped (h : s.source = some .tenantRegistry) (candidate : String) :
    (downgradeSkipped kind s.version candidate now).Describes s where
  verified _ hreason := absurd hreason (by simp [Condition.downgradeSkipped])
  downgradeSkipped _ _ := ⟨h, candidate, rfl⟩
  verificationSkipped _ hreason := absurd hreason (by simp [Condition.downgradeSkipped])
  otherwise h := absurd ⟨rfl, by simp [Condition.downgradeSkipped]⟩ h

theorem describes_verificationSkipped
    (h : s.source = some .customImage ∨ s.source = some .customVersion) :
    (verificationSkipped kind now).Describes s where
  verified _ hreason := absurd hreason (by simp [Condition.verificationSkipped])
  downgradeSkipped _ hreason := absurd hreason (by simp [Condition.verificationSkipped])
  verificationSkipped _ _ := h
  otherwise h := absurd ⟨rfl, by simp [Condition.verificationSkipped]⟩ h

theorem describes_failed (error : VersionError) : (failed kind error now).Describes s where
  verified hstatus := absurd hstatus (by simp [failed])
  downgradeSkipped hstatus := absurd hstatus (by simp [failed])
  verificationSkipped hstatus := absurd hstatus (by simp [failed])
  otherwise _ := rfl

theorem Describes.over {new old : Condition} (h : new.Describes s) :
    (new.over old).1.Describes s := by
  refine ⟨?_, ?_, ?_, ?_⟩
  · simpa using h.verified
  · simpa using h.downgradeSkipped
  · simpa using h.verificationSkipped
  · simpa using h.otherwise

end Condition

/-- The component has one entry in the ledger, and that describes the record. -/
def Entry.Described (kind : ComponentKind) (entry : Entry) : Prop :=
  ∃ c, entriesOf kind entry.conditions = [c] ∧ c.Describes entry.status

/-- The component has a described record, or no record and no entry in the ledger. -/
def Entry.Accounted (kind : ComponentKind) (entry : Entry) : Prop :=
  entry.Described kind ∨ entriesOf kind entry.conditions = [] ∧ entry.status = {}

namespace Entry

variable {kind : ComponentKind} {a b : Entry}

theorem Described.of_alike (halike : a.Alike kind b) (h : b.Described kind) : a.Described kind := by
  obtain ⟨c, hc, hdescribes⟩ := h
  exact ⟨c, halike.entries.trans hc, halike.status ▸ hdescribes⟩

theorem Accounted.of_alike (halike : a.Alike kind b) (h : b.Accounted kind) : a.Accounted kind := by
  rcases h with h | ⟨hentries, hstatus⟩
  · exact .inl (h.of_alike halike)
  · exact .inr ⟨halike.entries.trans hentries, halike.status.trans hstatus⟩

theorem Accounted.length_le_one (h : a.Accounted kind) :
    (entriesOf kind a.conditions).length ≤ 1 := by
  rcases h with ⟨c, hc, _⟩ | ⟨hentries, _⟩
  · simp [hc]
  · simp [hentries]

theorem described_put {ledger : Ledger} {new : Condition} {s : VersionStatus}
    (hone : (entriesOf kind ledger).length ≤ 1) (hnew : new.type = kind.conditionType)
    (hdescribes : new.Describes s) : Entry.Described kind ⟨s, ledger.put new⟩ := by
  rw [Described, Ledger.entriesOf_put_self hnew]
  cases hentries : entriesOf kind ledger with
  | nil => exact ⟨new, rfl, hdescribes⟩
  | cons c rest =>
    have hc : c.type = kind.conditionType :=
      (Ledger.mem_entriesOf_iff.mp (hentries ▸ List.mem_cons_self)).2
    have hrest : rest = [] := by simpa [hentries] using hone
    refine ⟨(new.over c).1, ?_, hdescribes.over⟩
    rw [hrest, Ledger.put_cons, if_pos (hc.trans hnew.symm)]

end Entry

namespace Component

variable {c : Component} {now : Instant} {entry : Entry}

theorem described_settle {status : VersionStatus} {report : Condition} (probed : Bool)
    (hone : (entriesOf c.kind entry.conditions).length ≤ 1)
    (htype : report.type = c.kind.conditionType)
    (hdescribes : report.Describes (status.markProbed c.source now)) :
    (c.settle now probed ⟨status, entry.conditions.put report⟩).entry.Described c.kind := by
  have hput := Entry.described_put hone htype hdescribes
  cases hvalid : c.validate (status.markProbed c.source now) with
  | ok _ =>
    rw [c.settle_of_valid probed hvalid]
    exact hput
  | error error =>
    rw [c.settle_of_invalid probed hvalid]
    have hstill := Entry.Accounted.length_le_one (.inl hput)
    exact Entry.described_put hstill (by simp) (Condition.describes_failed error)

theorem described_pass (policy : ProbePolicy) (now : Instant) (h : entry.Accounted c.kind)
    (henabled : c.enabled = true) :
    (c.pass policy now entry).entry.Described c.kind := by
  have hone := h.length_le_one
  rw [pass_eq_carryOut]
  cases hdecision : c.decision policy now entry.status with
  | clear => exact absurd hdecision (decision_ne_clear henabled)
  | skip =>
    -- Nothing is written, so the entry has to be described already.
    rcases h with h | ⟨_, hempty⟩
    · exact h
    · rw [hempty] at hdecision
      exact absurd hdecision decision_empty_ne_skip
  | pin image =>
    obtain ⟨_, hsource, _⟩ := decision_eq_pin_iff.mp hdecision
    refine described_settle false hone (by simp) ?_
    exact Condition.describes_verificationSkipped (.inl (by simp [hsource]))
  | keep candidate =>
    obtain ⟨_, _, _, _, hkeeps⟩ := decision_eq_keep_iff.mp hdecision
    obtain ⟨hsource, _, _⟩ := keepsRecord_eq_true_iff.mp hkeeps
    refine described_settle true hone (by simp) ?_
    exact Condition.describes_downgradeSkipped
      (s := entry.status.markProbed c.source now) (by simp [hsource]) candidate.version
  | adopt candidate =>
    obtain ⟨_, himage, _, _, _⟩ := decision_eq_adopt_iff.mp hdecision
    refine described_settle true hone (by split <;> simp) ?_
    split
    · rename_i hsource
      exact Condition.describes_verificationSkipped (.inr (by simp [hsource]))
    · rename_i hversion
      -- Neither image nor version is pinned, so the tenant is the one source left.
      have hsource : c.source = .tenantRegistry := by
        cases hsource : c.source <;> simp_all
      exact Condition.describes_verified
        (s := { candidate with lastProbe := entry.status.lastProbe }.markProbed c.source now)
        (by simp [hsource])
  | fail error =>
    exact Entry.described_put hone (by simp) (Condition.describes_failed error)

theorem accounted_pass (policy : ProbePolicy) (now : Instant) (h : entry.Accounted c.kind) :
    (c.pass policy now entry).entry.Accounted c.kind := by
  cases henabled : c.enabled with
  | false =>
    rw [pass_of_disabled policy now henabled]
    exact .inr ⟨by simp, rfl⟩
  | true => exact .inl (described_pass policy now h henabled)

end Component

namespace Round

variable {r : Round} {kind : ComponentKind} {entry : Entry}

theorem described_attend (h : entry.Accounted kind) (henabled : (r.component kind).enabled = true) :
    (r.attend kind entry).entry.Described kind := by
  have hpass := Component.described_pass (c := r.component kind) r.policy (r.clock kind)
    (by rwa [kind_component]) henabled
  rwa [kind_component] at hpass

theorem accounted_attend (h : entry.Accounted kind) :
    (r.attend kind entry).entry.Accounted kind := by
  have hpass := Component.accounted_pass (c := r.component kind) r.policy (r.clock kind)
    (by rwa [kind_component])
  rwa [kind_component] at hpass

end Round

theorem accounted_statusAfter (rounds : List Round) (kind : ComponentKind) :
    (((statusAfter none rounds).getD {}).entry kind).Accounted kind := by
  apply invariant_statusAfter kind
  · intro a b halike h
    exact h.of_alike halike
  · intro r _ entry h
    exact Round.accounted_attend h
  · exact .inr ⟨rfl, by cases kind <;> rfl⟩

namespace Round

variable {r : Round} {kind : ComponentKind}

theorem described_resolve (before : List Round) (henabled : (r.component kind).enabled = true) :
    ((r.resolve (statusAfter none before)).status.entry kind).Described kind :=
  (described_attend (accounted_statusAfter before kind) henabled).of_alike (r.entry_resolve _ kind)

theorem entry_resolve_of_disabled (henabled : (r.component kind).enabled = false)
    (status : Option DynaKubeStatus) :
    entriesOf kind (r.resolve status).status.conditions = [] ∧
      (r.resolve status).status.record kind = {} := by
  have halike := r.entry_resolve status kind
  rw [attend, Component.pass_of_disabled r.policy (r.clock kind) henabled, kind_component] at halike
  exact ⟨halike.entries.trans (Ledger.entriesOf_clear_self kind _), halike.status⟩

end Round

/-- After every pass of a run from nothing: a component has at most one entry in the ledger, and
none exactly when the pass was not asked for it, in which case it has no record either; and every
entry describes the record. -/
theorem ledger_describes_records (before : List Round) (r : Round) (kind : ComponentKind) :
    (entriesOf kind (r.resolve (statusAfter none before)).status.conditions).length ≤ 1 ∧
    (entriesOf kind (r.resolve (statusAfter none before)).status.conditions = [] ↔
      (r.component kind).enabled = false) ∧
    ((r.component kind).enabled = false →
      (r.resolve (statusAfter none before)).status.record kind = {}) ∧
    ∀ c ∈ (r.resolve (statusAfter none before)).status.conditions, c.type = kind.conditionType →
      c.Describes ((r.resolve (statusAfter none before)).status.record kind) := by
  cases henabled : (r.component kind).enabled with
  | false =>
    obtain ⟨hentries, hrecord⟩ := Round.entry_resolve_of_disabled henabled (statusAfter none before)
    refine ⟨by simp [hentries], by simp [hentries], fun _ => hrecord, ?_⟩
    intro c hc htype
    have hmem := Ledger.mem_entriesOf_iff.mpr ⟨hc, htype⟩
    rw [hentries] at hmem
    exact absurd hmem List.not_mem_nil
  | true =>
    obtain ⟨c, hentries, hdescribes⟩ := Round.described_resolve before henabled
    change entriesOf kind (r.resolve (statusAfter none before)).status.conditions = [c] at hentries
    refine ⟨by simp [hentries], by simp [hentries], by simp, ?_⟩
    intro d hd htype
    have hmem := Ledger.mem_entriesOf_iff.mpr ⟨hd, htype⟩
    rw [hentries] at hmem
    obtain rfl := List.mem_singleton.mp hmem
    exact hdescribes

theorem ledger_describes_kept_version :
    let r := Round.classic {} (.naming "1.2.2") 1
    let state := (r.resolve (statusAfter none [Round.classic {} (.naming "1.2.3") 0])).status
    ∃ c ∈ state.conditions, c.type = ComponentKind.oneAgent.conditionType ∧ c.status = .yes ∧
      c.reason = "DowngradeSkipped" ∧ c.Describes state.oneAgent :=
  ⟨_, .head _, rfl, rfl, rfl, (ledger_describes_records _ _ .oneAgent).2.2.2 _ (.head _) rfl⟩

end VersionOperator
