import VersionOperator.Proofs.AgentVersion.Order
import VersionOperator.Proofs.Resolution.Components

/-!
A pass over one component that succeeded, made once more with no limit on how often the component is
looked up. It comes to the same version, image, source and condition again, whatever the time and
whatever other components have written to the ledger. The one exception is a guard that is asked to
compare the record with itself and cannot.
-/

namespace VersionOperator

open Tenant

/-- The records agree but for the time of the last look-up. -/
structure VersionStatus.SameButProbe (a b : VersionStatus) : Prop where
  version : a.version = b.version
  image : a.image = b.image
  source : a.source = b.source

namespace VersionStatus

theorem SameButProbe.refl (s : VersionStatus) : s.SameButProbe s := ⟨rfl, rfl, rfl⟩

theorem SameButProbe.symm {a b : VersionStatus} (h : a.SameButProbe b) : b.SameButProbe a :=
  ⟨h.version.symm, h.image.symm, h.source.symm⟩

theorem SameButProbe.trans {a b d : VersionStatus} (hab : a.SameButProbe b)
    (hbd : b.SameButProbe d) : a.SameButProbe d :=
  ⟨hab.version.trans hbd.version, hab.image.trans hbd.image, hab.source.trans hbd.source⟩

theorem sameButProbe_markProbed {s : VersionStatus} {source : VersionSource}
    (h : s.source = some source) (now : Instant) : (s.markProbed source now).SameButProbe s :=
  ⟨rfl, rfl, h.symm⟩

theorem SameButProbe.isEmpty_eq {a b : VersionStatus} (h : a.SameButProbe b) :
    a.isEmpty = b.isEmpty := by
  rw [isEmpty, isEmpty, h.version, h.image]

end VersionStatus

open VersionStatus (SameButProbe)

namespace Component

/-- The guard and the check of the component do not look at the time of the last look-up. The guard
never turns down the version that is on record; where it turns another one down, the record is from
the tenant and can be compared. -/
structure Steady (c : Component) : Prop where
  isDowngrade_congr : ∀ {a b : VersionStatus} (candidate : String), a.SameButProbe b →
    c.isDowngrade a candidate = c.isDowngrade b candidate
  validate_congr : ∀ {a b : VersionStatus}, a.SameButProbe b → c.validate a = c.validate b
  armed : ∀ {recorded : VersionStatus} {candidate : String},
    c.isDowngrade recorded candidate = .ok true →
      recorded.source = some .tenantRegistry ∧ c.isDowngrade recorded recorded.version = .ok false
  not_older : ∀ recorded : VersionStatus, c.isDowngrade recorded recorded.version ≠ .ok true

theorem steady_requireVersion (name : String) {a b : VersionStatus} (h : a.SameButProbe b) :
    requireVersion name a = requireVersion name b := by
  rw [requireVersion, requireVersion, h.version]

theorem oneAgentIsDowngrade_self_ne (recorded : VersionStatus) :
    oneAgentIsDowngrade recorded recorded.version ≠ .ok true := by
  unfold oneAgentIsDowngrade
  split
  · intro h
    obtain ⟨v, w, hv, hw, holder⟩ := isDowngrade_eq_ok_iff.mp h
    obtain rfl : v = w := Except.ok.inj (hv.symm.trans hw)
    simp at holder
  · simp

theorem steady_ofKind (dk : DynaKube) (client : Client) (kind : ComponentKind) :
    (ofKind dk client kind).Steady := by
  cases kind with
  | activeGate =>
    exact ⟨fun _ _ => rfl, steady_requireVersion _, fun h => by simp [ofKind, activeGate] at h,
      fun _ => by simp [ofKind, activeGate]⟩
  | oneAgent =>
    refine ⟨?_, steady_requireVersion _, ?_, oneAgentIsDowngrade_self_ne⟩
    · intro a b candidate h
      change oneAgentIsDowngrade a candidate = oneAgentIsDowngrade b candidate
      rw [oneAgentIsDowngrade, oneAgentIsDowngrade, h.source, h.version]
    · intro recorded candidate h
      change oneAgentIsDowngrade recorded candidate = .ok true at h
      change _ ∧ oneAgentIsDowngrade recorded recorded.version = .ok false
      unfold oneAgentIsDowngrade at h ⊢
      split at h
      · rename_i harmed
        obtain ⟨v, _, hv, _, _⟩ := isDowngrade_eq_ok_iff.mp h
        rw [if_pos harmed]
        exact ⟨harmed.1, isDowngrade_self_of_parse hv⟩
      · simp at h
  | codeModules =>
    exact ⟨fun _ _ => rfl, fun _ => rfl, fun h => by simp [ofKind, codeModules] at h,
      fun _ => by simp [ofKind, codeModules]⟩

variable {c : Component} {policy : ProbePolicy}

theorem isDue_iff_of_no_threshold (hpolicy : policy.threshold = none) (now : Instant)
    (recorded : VersionStatus) :
    c.isDue policy now recorded = true ↔
      c.source = .customVersion ∨ recorded.isEmpty = true ∨ recorded.source ≠ some c.source ∨
        c.autoUpdate = true := by
  rw [isDue_iff, hpolicy]
  simp

theorem isDue_congr (hpolicy : policy.threshold = none) {a b : VersionStatus}
    (h : a.SameButProbe b) (t₁ t₂ : Instant) : c.isDue policy t₁ a = c.isDue policy t₂ b := by
  rw [Bool.eq_iff_iff, isDue_iff_of_no_threshold hpolicy, isDue_iff_of_no_threshold hpolicy,
    h.isEmpty_eq, h.source]

variable {t₁ t₂ : Instant} {first second : Entry}

theorem put_again {kind : ComponentKind} {ledger ledger' : Ledger} {report report' : Condition}
    (htype : report.type = kind.conditionType)
    (hfind : ledger'.find? kind = (ledger.put report).find? kind)
    (hstatus : report.status = report'.status) (hreason : report.reason = report'.reason)
    (hmessage : report.message = report'.message) (htype' : report'.type = kind.conditionType) :
    ledger'.put report' = ledger' := by
  obtain ⟨entry, hentry, htold⟩ := Ledger.exists_find?_put htype ledger
  exact Ledger.put_eq_self htype' (hfind.trans hentry) (htold.1.trans hstatus)
    (htold.2.1.trans hreason) (htold.2.2.trans hmessage)

/-- The guard cannot compare the record with itself, and the next pass is to ask it to, since the
component follows the tenant and is due. -/
structure Stalls (c : Component) (policy : ProbePolicy) (now : Instant) (recorded : VersionStatus)
    (error : VersionError) : Prop where
  enabled : c.enabled = true
  source : c.source = .tenantRegistry
  due : c.isDue policy now recorded = true
  version : recorded.version ≠ ""
  guard : c.isDowngrade recorded recorded.version = .error error

/-- What a repeated pass comes to: the same again but for the time of the look-up, or, if the guard
cannot compare the record with itself, the failure of the guard. -/
inductive Repeats (c : Component) (policy : ProbePolicy) (now : Instant) (entry : Entry) :
    PassOutcome → Prop
  | same {s : VersionStatus} (probed : Bool) (h : s.SameButProbe entry.status)
      (hstalls : ∀ error, ¬ c.Stalls policy now entry.status error) :
      Repeats c policy now entry ⟨⟨s, entry.conditions⟩, probed, .ok ()⟩
  | stalled {error : VersionError} (h : c.Stalls policy now entry.status error) :
      Repeats c policy now entry ⟨c.withFailure error now entry, true, .error error⟩

namespace Repeats

variable {entry : Entry} {outcome : PassOutcome} (h : c.Repeats policy t₂ entry outcome)
include h

theorem sameButProbe : outcome.entry.status.SameButProbe entry.status := by
  cases h with
  | same probed h _ => exact h
  | stalled h => exact .refl _

theorem conditions_of_ok (hok : outcome.result = .ok ()) :
    outcome.entry.conditions = entry.conditions := by
  cases h with
  | same probed h _ => rfl
  | stalled h => exact absurd hok (by simp)

theorem result_eq_error_iff {error : VersionError} :
    outcome.result = .error error ↔ c.Stalls policy t₂ entry.status error := by
  cases h with
  | same probed h hstalls => simp [hstalls error]
  | stalled h =>
    constructor
    · intro he
      exact Except.error.inj he ▸ h
    · intro h'
      obtain rfl := Except.error.inj (h.guard.symm.trans h'.guard)
      rfl

end Repeats

/-- What the next pass finds after one that settled on an entry and succeeded. -/
structure Leaves (c : Component) (now : Instant) (settled next : Entry) : Prop where
  valid : c.validate (settled.status.markProbed c.source now) = .ok ()
  status : next.status = settled.status.markProbed c.source now
  find : next.conditions.find? c.kind = settled.conditions.find? c.kind

theorem leaves_of_settle {settled : Entry} {probed : Bool}
    (hok : (c.settle t₁ probed settled).result = .ok ())
    (hsecond : second.Alike c.kind (c.settle t₁ probed settled).entry) :
    c.Leaves t₁ settled second := by
  rw [result_settle] at hok
  rw [c.settle_of_valid probed hok] at hsecond
  exact ⟨hok, hsecond.status, hsecond.find?⟩

theorem repeats_settle {status : VersionStatus} {report : Condition} {probed : Bool}
    (hsame : (status.markProbed c.source t₂).SameButProbe second.status)
    (hvalid : c.validate (status.markProbed c.source t₂) = .ok ())
    (hput : second.conditions.put report = second.conditions)
    (hstalls : ∀ error, ¬ c.Stalls policy t₂ second.status error) :
    c.Repeats policy t₂ second
      (c.settle t₂ probed ⟨status, second.conditions.put report⟩) := by
  rw [hput, c.settle_of_valid probed hvalid]
  exact .same probed hsame hstalls

theorem repeats_of_not_due (henabled : c.enabled = true) (himage : c.source ≠ .customImage)
    (hdue : c.isDue policy t₂ second.status = false) :
    c.Repeats policy t₂ second (c.pass policy t₂ second) := by
  rw [pass_eq_carryOut, decision_eq_skip_iff.mpr ⟨henabled, himage, hdue⟩, carryOut]
  refine .same false (.refl _) ?_
  intro error hstalls
  rw [hstalls.due] at hdue
  exact absurd hdue (by decide)

section Own

variable {recorded candidate : VersionStatus} (hversion : candidate.version = recorded.version)
include hversion

theorem keepsRecord_own_eq_error_iff {error : VersionError} :
    c.keepsRecord recorded candidate = .error error ↔
      c.source = .tenantRegistry ∧ recorded.version ≠ "" ∧
        c.isDowngrade recorded recorded.version = .error error := by
  rw [keepsRecord_eq_error_iff, hversion]

theorem keeps_eq_false (hc : c.Steady) {keeps : Bool}
    (h : c.keepsRecord recorded candidate = .ok keeps) : keeps = false := by
  unfold keepsRecord at h
  rw [hversion] at h
  split at h
  · cases keeps with
    | false => rfl
    | true => exact absurd h (hc.not_older recorded)
  · exact (Except.ok.inj h).symm

end Own

section Cases

variable (hc : c.Steady) (hpolicy : policy.threshold = none)
include hc

theorem repeats_pin {image : String}
    (hdecision : c.decision policy t₁ first.status = .pin image)
    (hsecond : c.Leaves t₁ (c.pinned image t₁ first) second) :
    c.Repeats policy t₂ second (c.pass policy t₂ second) := by
  obtain ⟨hvalid, hstatus, hfind⟩ := hsecond
  obtain ⟨henabled, hsource, himage⟩ := decision_eq_pin_iff.mp hdecision
  have hagain : c.decision policy t₂ second.status = .pin image :=
    decision_eq_pin_iff.mpr ⟨henabled, hsource, himage⟩
  rw [pass_eq_carryOut, hagain, carryOut, pinned]
  refine repeats_settle ?_ ?_ ?_ ?_
  · rw [hstatus]
    exact ⟨rfl, rfl, rfl⟩
  · rw [← hvalid]
    exact hc.validate_congr (by rw [hstatus]; exact ⟨rfl, rfl, rfl⟩)
  · exact put_again (by simp) hfind rfl rfl rfl (by simp)
  · intro error hstalls
    exact absurd (hsource.symm.trans hstalls.source) (by decide)

theorem repeats_adopt {candidate : VersionStatus}
    (hdecision : c.decision policy t₁ first.status = .adopt candidate)
    (hsecond : c.Leaves t₁ (c.adopted candidate t₁ first) second) :
    c.Repeats policy t₂ second (c.pass policy t₂ second) := by
  obtain ⟨hvalid, hstatus, hfind⟩ := hsecond
  obtain ⟨henabled, himage, _, hcandidate, _⟩ := decision_eq_adopt_iff.mp hdecision
  have hversion : candidate.version = second.status.version := by rw [hstatus]; rfl
  cases hdue : c.isDue policy t₂ second.status with
  | false => exact repeats_of_not_due henabled himage hdue
  | true =>
    -- The candidate is the one on record, so the guard compares the record with itself.
    cases hkeeps : c.keepsRecord second.status candidate with
    | error error =>
      rw [pass_eq_carryOut, decision_eq_fail_iff.mpr
        ⟨henabled, himage, hdue, .inr ⟨candidate, hcandidate, hkeeps⟩⟩, carryOut]
      obtain ⟨hsource, hne, hguard⟩ := (keepsRecord_own_eq_error_iff hversion).mp hkeeps
      exact .stalled ⟨henabled, hsource, hdue, hne, hguard⟩
    | ok keeps =>
      obtain rfl : keeps = false := keeps_eq_false hversion hc hkeeps
      rw [pass_eq_carryOut, decision_eq_adopt_iff.mpr
        ⟨henabled, himage, hdue, hcandidate, hkeeps⟩, carryOut, adopted]
      refine repeats_settle ?_ ?_ ?_ ?_
      · rw [hstatus]
        exact ⟨rfl, rfl, rfl⟩
      · rw [← hvalid]
        exact hc.validate_congr ⟨rfl, rfl, rfl⟩
      · refine put_again (by split <;> simp) hfind ?_ ?_ ?_ (by split <;> simp)
        all_goals split <;> rfl
      · intro error hstalls
        rw [(keepsRecord_own_eq_error_iff hversion).mpr
          ⟨hstalls.source, hstalls.version, hstalls.guard⟩] at hkeeps
        exact absurd hkeeps (by simp)

include hpolicy

theorem repeats_keep {candidate : VersionStatus}
    (hdecision : c.decision policy t₁ first.status = .keep candidate)
    (hsecond : c.Leaves t₁ (c.kept candidate t₁ first) second) :
    c.Repeats policy t₂ second (c.pass policy t₂ second) := by
  obtain ⟨hvalid, hstatus, hfind⟩ := hsecond
  obtain ⟨henabled, himage, hdue, hcandidate, hkeeps⟩ := decision_eq_keep_iff.mp hdecision
  obtain ⟨hsource, _, hguard⟩ := keepsRecord_eq_true_iff.mp hkeeps
  obtain ⟨hrecorded, hself⟩ := hc.armed hguard
  -- The guard turned a candidate down, so the record had the source that is written now.
  have hsame : second.status.SameButProbe first.status := by
    rw [hstatus]
    apply VersionStatus.sameButProbe_markProbed
    rw [hsource]
    exact hrecorded
  have hagain : c.decision policy t₂ second.status = .keep candidate := by
    refine decision_eq_keep_iff.mpr ⟨henabled, himage, ?_, hcandidate, ?_⟩
    · rw [← hdue]
      exact isDue_congr hpolicy hsame t₂ t₁
    · rw [← hkeeps, keepsRecord, keepsRecord, hc.isDowngrade_congr candidate.version hsame]
  rw [pass_eq_carryOut, hagain, carryOut, kept]
  refine repeats_settle ?_ ?_ ?_ ?_
  · apply VersionStatus.sameButProbe_markProbed
    rw [hstatus]
    rfl
  · rw [← hvalid]
    exact hc.validate_congr (by rw [hstatus]; exact ⟨rfl, rfl, rfl⟩)
  · exact put_again (by simp) hfind rfl rfl (by rw [hstatus]; rfl) (by simp)
  · intro error hstalls
    have hstall := hstalls.guard
    rw [hsame.version, hc.isDowngrade_congr first.status.version hsame, hself] at hstall
    exact absurd hstall (by simp)

/-- A pass that succeeded, made again on what it left: whatever other components have written to the
ledger since then, and whatever the time. -/
theorem repeats_of_ok (hok : (c.pass policy t₁ first).result = .ok ())
    (hsecond : second.Alike c.kind (c.pass policy t₁ first).entry) :
    c.Repeats policy t₂ second (c.pass policy t₂ second) := by
  rw [pass_eq_carryOut] at hok hsecond
  cases hdecision : c.decision policy t₁ first.status with
  | clear =>
    rw [hdecision] at hsecond
    -- Nothing is left to take away: the first pass has emptied record and ledger of the component.
    have hdisabled := decision_eq_clear_iff.mp hdecision
    rw [pass_eq_carryOut, decision_eq_clear_iff.mpr hdisabled, carryOut,
      Ledger.clear_eq_self (hsecond.find?.trans (Ledger.find?_clear_self _ _))]
    refine .same false (hsecond.status ▸ .refl _) ?_
    intro error hstalls
    rw [hstalls.enabled] at hdisabled
    exact absurd hdisabled (by decide)
  | skip =>
    have hstatus := hsecond.status
    rw [hdecision, carryOut] at hstatus
    obtain ⟨henabled, himage, hdue⟩ := decision_eq_skip_iff.mp hdecision
    refine repeats_of_not_due henabled himage ?_
    rw [← hdue, hstatus]
    exact isDue_congr hpolicy (.refl _) t₂ t₁
  | pin image =>
    rw [hdecision, carryOut] at hok hsecond
    exact repeats_pin hc hdecision (leaves_of_settle hok hsecond)
  | keep candidate =>
    rw [hdecision, carryOut] at hok hsecond
    exact repeats_keep hc hpolicy hdecision (leaves_of_settle hok hsecond)
  | adopt candidate =>
    rw [hdecision, carryOut] at hok hsecond
    exact repeats_adopt hc hdecision (leaves_of_settle hok hsecond)
  | fail error =>
    rw [hdecision, carryOut] at hok
    exact absurd hok (by simp)

end Cases

theorem settled_of_due {now : Instant} {entry : Entry} (henabled : c.enabled = true)
    (hsource : c.source ≠ .customImage) (hdue : c.isDue policy now entry.status = true)
    (hok : (c.pass policy now entry).result = .ok ()) :
    (c.pass policy now entry).entry.status.source = some c.source ∧
      c.validate (c.pass policy now entry).entry.status = .ok () := by
  rw [pass_eq_carryOut] at hok ⊢
  cases hdecision : c.decision policy now entry.status with
  | clear => exact absurd hdecision (decision_ne_clear henabled)
  | pin image => exact absurd (decision_eq_pin_iff.mp hdecision).2.1 hsource
  | skip =>
    rw [decision_eq_skip_iff, hdue] at hdecision
    exact absurd hdecision.2.2 (by decide)
  | keep candidate =>
    rw [hdecision, carryOut, result_settle] at hok
    rw [carryOut, status_settle]
    exact ⟨rfl, hok⟩
  | adopt candidate =>
    rw [hdecision, carryOut, result_settle] at hok
    rw [carryOut, status_settle]
    exact ⟨rfl, hok⟩
  | fail error =>
    rw [hdecision, carryOut] at hok
    exact absurd hok (by simp)

end Component

end VersionOperator
