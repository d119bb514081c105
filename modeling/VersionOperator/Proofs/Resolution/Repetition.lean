import VersionOperator.Proofs.Resolution.Runs
import VersionOperator.Proofs.Resolution.Steady

namespace VersionOperator

namespace Component

theorem oneAgentIsDowngrade_self_eq_error_iff {recorded : VersionStatus} {error : VersionError} :
    oneAgentIsDowngrade recorded recorded.version = .error error ↔
      recorded.source = some .tenantRegistry ∧ recorded.version ≠ "" ∧
        ∃ fault, AgentVersion.parse recorded.version = .error fault ∧
          error = .invalidVersion recorded.version fault.message := by
  unfold oneAgentIsDowngrade
  split
  · rename_i h
    cases hparse : AgentVersion.parse recorded.version with
    | ok v => simp [isDowngrade_self_of_parse hparse]
    | error fault => simp [isDowngrade_self_of_parse_error hparse, h, eq_comm]
  · rename_i h
    simp only [reduceCtorEq, false_iff]
    rintro ⟨hsource, hne, _⟩
    exact h ⟨hsource, hne⟩

end Component

namespace Round

variable (r : Round) (status : Option DynaKubeStatus) (clock : Clock)

def atTime : Round :=
  { r with clock }

/-- The round once more at another time, on what it left itself. -/
def twice : Resolution :=
  (r.atTime clock).resolve (some (r.resolve status).status)

/-- The host agent follows the tenant by itself, and its record holds a version that cannot be
read. -/
structure HoldsUnreadable (recorded : VersionStatus) (fault : VersionFault) : Prop where
  followsTenant : r.FollowsTenant
  autoUpdate : (r.resource none).oneAgentAutoUpdate = true
  version : AgentVersion.parse recorded.version = .error fault

variable {r status clock} (hpolicy : r.policy.threshold = none)
include hpolicy

theorem stalls_oneAgent_iff (now : Instant) {entry : Entry}
    (hok : (r.attend .oneAgent entry).result = .ok ())
    {error : VersionError} :
    (r.component .oneAgent).Stalls r.policy now (r.attend .oneAgent entry).entry.status error ↔
      ∃ fault, r.HoldsUnreadable (r.attend .oneAgent entry).entry.status fault ∧
        error = .invalidVersion (r.attend .oneAgent entry).entry.status.version fault.message := by
  constructor
  · rintro ⟨henabled, hsource, hdue, hne, hguard⟩
    obtain ⟨hrecorded, _, fault, hfault, rfl⟩ :=
      Component.oneAgentIsDowngrade_self_eq_error_iff.mp hguard
    refine ⟨fault, ⟨followsTenant_iff.mpr ⟨henabled, hsource⟩, ?_, hfault⟩, rfl⟩
    rw [Component.isDue_iff_of_no_threshold hpolicy, hsource, hrecorded] at hdue
    rcases hdue with h | h | h | h
    · exact absurd h (by decide)
    · simp [VersionStatus.isEmpty, hne] at h
    · exact absurd rfl h
    · exact h
  · rintro ⟨fault, ⟨hfollows, hauto, hfault⟩, rfl⟩
    obtain ⟨henabled, hsource⟩ := followsTenant_iff.mp hfollows
    have hdue : ∀ now recorded, (r.component .oneAgent).isDue r.policy now recorded = true := by
      intro now recorded
      rw [Component.isDue_iff_of_no_threshold hpolicy]
      exact .inr (.inr (.inr hauto))
    obtain ⟨hrecorded, hvalid⟩ := Component.settled_of_due henabled (by simp [hsource])
      (hdue (r.clock .oneAgent) entry.status) hok
    -- A record without version would not have passed the final check of the pass before.
    have hne : (r.attend .oneAgent entry).entry.status.version ≠ "" := by
      intro he
      change Component.requireVersion "OneAgent" (r.attend .oneAgent entry).entry.status = .ok ()
        at hvalid
      simp [Component.requireVersion, he] at hvalid
    refine ⟨henabled, hsource, hdue now _, hne, ?_⟩
    exact Component.oneAgentIsDowngrade_self_eq_error_iff.mpr
      ⟨hrecorded.trans (congrArg some hsource), hne, fault, hfault, rfl⟩

variable (hok : (r.resolve status).result = .ok ())
include hok

theorem repeats_twice (kind : ComponentKind) {entry : Entry}
    (hentry : entry.Alike kind ((r.resolve status).status.entry kind)) :
    (r.component kind).Repeats r.policy (clock kind) entry
      ((r.atTime clock).attend kind entry) := by
  refine Component.repeats_of_ok (Component.steady_ofKind _ _ _) hpolicy
    ((r.result_resolve_eq_ok_iff status).mp hok kind) ?_
  rw [kind_component]
  exact hentry.trans (r.entry_resolve status kind)

theorem stalls_iff (now : Instant) {kind : ComponentKind} {error : VersionError} :
    (r.component kind).Stalls r.policy now ((r.resolve status).status.record kind) error ↔
      kind = .oneAgent ∧ ∃ fault, r.HoldsUnreadable (r.resolve status).status.oneAgent fault ∧
        error = .invalidVersion (r.resolve status).status.oneAgent.version fault.message := by
  cases kind with
  | activeGate =>
    simp only [reduceCtorEq, false_and, iff_false]
    intro hstalls
    exact absurd hstalls.guard (by simp [component, Component.ofKind, Component.activeGate])
  | oneAgent =>
    have hstatus : (r.resolve status).status.oneAgent =
        (r.attend .oneAgent ((status.getD {}).entry .oneAgent)).entry.status :=
      (r.entry_resolve status .oneAgent).status
    simp only [true_and, DynaKubeStatus.record, hstatus]
    exact stalls_oneAgent_iff hpolicy now ((r.result_resolve_eq_ok_iff status).mp hok .oneAgent)
  | codeModules =>
    simp only [reduceCtorEq, false_and, iff_false]
    intro hstalls
    exact absurd hstalls.guard (by simp [component, Component.ofKind, Component.codeModules])

theorem attend_twice_eq_error_iff (clock : Clock) (kind : ComponentKind) {error : VersionError} :
    ((r.atTime clock).attend kind ((r.resolve status).status.entry kind)).result = .error error ↔
      kind = .oneAgent ∧ ∃ fault, r.HoldsUnreadable (r.resolve status).status.oneAgent fault ∧
        error = .invalidVersion (r.resolve status).status.oneAgent.version fault.message :=
  (repeats_twice hpolicy hok kind (.refl _)).result_eq_error_iff.trans
    (stalls_iff hpolicy hok (clock kind))

theorem record_twice (kind : ComponentKind) :
    ((r.twice status clock).status.record kind).SameButProbe
      ((r.resolve status).status.record kind) := by
  have hstatus := ((r.atTime clock).entry_resolve (some (r.resolve status).status) kind).status
  change ((r.twice status clock).status.record kind) = _ at hstatus
  rw [hstatus]
  exact (repeats_twice hpolicy hok kind (.refl _)).sameButProbe

theorem result_twice_eq_ok_iff :
    (r.twice status clock).result = .ok () ↔
      ∀ fault, ¬ r.HoldsUnreadable (r.resolve status).status.oneAgent fault := by
  rw [twice, result_resolve_eq_ok_iff]
  constructor
  · intro h fault hunreadable
    have herror := (attend_twice_eq_error_iff hpolicy hok clock .oneAgent).mpr
      ⟨rfl, fault, hunreadable, rfl⟩
    exact absurd ((h .oneAgent).symm.trans herror) (by simp)
  · intro h kind
    cases hresult :
        ((r.atTime clock).attend kind ((r.resolve status).status.entry kind)).result with
    | ok _ => exact hresult
    | error error =>
      obtain ⟨_, fault, hunreadable, _⟩ :=
        (attend_twice_eq_error_iff hpolicy hok clock kind).mp hresult
      exact absurd hunreadable (h fault)

theorem conditions_twice (hagain : (r.twice status clock).result = .ok ()) :
    (r.twice status clock).status.conditions = (r.resolve status).status.conditions := by
  apply conditions_resolve
  intro kind entry hentry
  apply (repeats_twice hpolicy hok kind hentry).conditions_of_ok
  rw [result_attend_of_alike _ hentry]
  exact ((r.atTime clock).result_resolve_eq_ok_iff _).mp hagain kind

theorem result_twice_of_unreadable {fault : VersionFault}
    (h : r.HoldsUnreadable (r.resolve status).status.oneAgent fault) :
    (r.twice status clock).result =
      .error (.components [(ComponentKind.oneAgent.name,
        .invalidVersion (r.resolve status).status.oneAgent.version fault.message)]) := by
  apply result_resolve_of_one
  · exact (attend_twice_eq_error_iff hpolicy hok clock .oneAgent).mpr ⟨rfl, fault, h, rfl⟩
  · intro other hother
    cases hresult :
        ((r.atTime clock).attend other ((r.resolve status).status.entry other)).result with
    | ok _ => exact hresult
    | error error =>
      exact absurd ((attend_twice_eq_error_iff hpolicy hok clock other).mp hresult).1 hother

end Round

/-- A pass that succeeded, made again with the same answers: all records stay but for the time of
the look-up. It succeeds, and then leaves the whole ledger as it was, unless the host agent follows
the tenant by itself and holds a version that cannot be read; then it fails with that alone. -/
theorem resolve_twice {r : Round} (hpolicy : r.policy.threshold = none)
    {status : Option DynaKubeStatus} (hok : (r.resolve status).result = .ok ()) (clock : Clock) :
    (∀ kind, ((r.twice status clock).status.record kind).SameButProbe
      ((r.resolve status).status.record kind)) ∧
    ((r.twice status clock).result = .ok () ↔
      ∀ fault, ¬ r.HoldsUnreadable (r.resolve status).status.oneAgent fault) ∧
    ((r.twice status clock).result = .ok () →
      (r.twice status clock).status.conditions = (r.resolve status).status.conditions) ∧
    ∀ fault, r.HoldsUnreadable (r.resolve status).status.oneAgent fault →
      (r.twice status clock).result =
        .error (.components [(ComponentKind.oneAgent.name,
          .invalidVersion (r.resolve status).status.oneAgent.version fault.message)]) := by
  refine ⟨Round.record_twice hpolicy hok, Round.result_twice_eq_ok_iff hpolicy hok,
    Round.conditions_twice hpolicy hok, ?_⟩
  intro fault h
  exact Round.result_twice_of_unreadable hpolicy hok h

theorem resolve_twice_numbered :
    let r := Round.classic {} (.naming "1.2.3") 0
    let clock := Clock.still (Instant.newYear.plusMinutes 1)
    (r.policy.threshold = none ∧ (r.resolve none).result = .ok ()) ∧
      (∀ kind, ((r.twice none clock).status.record kind).SameButProbe
        ((r.resolve none).status.record kind)) ∧
      ((r.twice none clock).result = .ok () ↔
        ∀ fault, ¬ r.HoldsUnreadable (r.resolve none).status.oneAgent fault) ∧
      ((r.twice none clock).result = .ok () →
        (r.twice none clock).status.conditions = (r.resolve none).status.conditions) ∧
      ∀ fault, r.HoldsUnreadable (r.resolve none).status.oneAgent fault →
        (r.twice none clock).result =
          .error (.components [(ComponentKind.oneAgent.name,
            .invalidVersion (r.resolve none).status.oneAgent.version fault.message)]) :=
  ⟨⟨rfl, rfl⟩, resolve_twice rfl rfl _⟩

/-- A tag that is no version is taken over as long as nothing is on record to compare it with, and
then makes the next pass fail. -/
theorem resolve_twice_latest :
    let r := Round.classic {} (.naming "latest") 0
    let clock := Clock.still (Instant.newYear.plusMinutes 1)
    (r.resolve none).result = .ok () ∧
      (r.twice none clock).result = .error (.components [("oneagent",
        .invalidVersion "latest" "expected at least major.minor.release")]) :=
  ⟨rfl, rfl⟩

end VersionOperator
