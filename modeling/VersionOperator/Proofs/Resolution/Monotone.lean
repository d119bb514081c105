import VersionOperator.Proofs.Resolution.Candidates
import VersionOperator.Proofs.Resolution.Runs

/-!
The version of a host agent that follows its tenant never goes back. The guard against older
versions compares every candidate, because a tenant over HTTP names no empty version; what passes
the guard can be read, so the guard can compare the next candidate too.
-/

namespace VersionOperator

open Tenant

/-- The record holds a version that the tenant named and that can be read. -/
structure VersionStatus.Guarded (s : VersionStatus) (v : AgentVersion) : Prop where
  source : s.source = some .tenantRegistry
  version : AgentVersion.parse s.version = .ok v

theorem oneAgentIsDowngrade_eq_ok {recorded : VersionStatus} {v : AgentVersion}
    (h : recorded.Guarded v) {candidate : String} {older : Bool}
    (hok : Component.oneAgentIsDowngrade recorded candidate = .ok older) :
    ∃ w, AgentVersion.parse candidate = .ok w ∧ w.older v = older := by
  have hne : recorded.version ≠ "" := by
    intro he
    have hparse := h.version
    rw [he, AgentVersion.parse_empty] at hparse
    exact absurd hparse (by simp)
  rw [Component.oneAgentIsDowngrade, if_pos ⟨h.source, hne⟩, isDowngrade_eq_ok_iff] at hok
  obtain ⟨v', w, hv', hw, holder⟩ := hok
  obtain rfl : v = v' := Except.ok.inj (h.version.symm.trans hv')
  exact ⟨w, hw, holder⟩

namespace Round

theorem guarded_attend {r : Round} (hfollows : r.FollowsTenant) (hhttp : r.OverHttp) {entry : Entry}
    {v : AgentVersion} (h : entry.status.Guarded v) :
    ∃ w, (r.attend .oneAgent entry).entry.status.Guarded w ∧ (compare v w).isLE = true := by
  have ⟨henabled, hsource⟩ := followsTenant_iff.mp hfollows
  have hsame : (compare v v).isLE = true := by
    rw [Std.ReflOrd.compare_self]
    rfl
  rw [attend, Component.pass_eq_carryOut]
  cases hdecision : (r.component .oneAgent).decision r.policy (r.clock .oneAgent) entry.status with
  | clear => exact absurd hdecision (Component.decision_ne_clear henabled)
  | pin image =>
    rw [Component.decision_eq_pin_iff, hsource] at hdecision
    exact absurd hdecision.2.1 (by decide)
  | skip => exact ⟨v, h, hsame⟩
  | fail error => exact ⟨v, h, hsame⟩
  | keep candidate =>
    refine ⟨v, ⟨?_, ?_⟩, hsame⟩
    · simp [Component.carryOut, hsource]
    · simpa [Component.carryOut, Component.kept] using h.version
  | adopt candidate =>
    obtain ⟨_, _, _, hcandidate, hkeeps⟩ := Component.decision_eq_adopt_iff.mp hdecision
    -- The guard does not look at a candidate without version, but none gets this far.
    have hne : candidate.version ≠ "" := by
      obtain ⟨transport, complaint, baseUrl, token, hclient⟩ := hhttp
      have hyields := Component.yields_oneAgentProbe (r.resource none)
        (hclient ▸ answersInFull_httpClient transport complaint baseUrl token)
      have hprobe := (Component.candidate_eq_ok_iff.mp hcandidate).2
      change (Component.oneAgentProbe (r.resource none) r.client).result = .ok candidate at hprobe
      rw [hprobe] at hyields
      exact ne_empty_of_not_blank hyields.version
    rw [Component.keepsRecord, if_pos ⟨hsource, hne⟩] at hkeeps
    obtain ⟨w, hw, holder⟩ := oneAgentIsDowngrade_eq_ok h hkeeps
    refine ⟨w, ⟨?_, ?_⟩, AgentVersion.older_eq_false_iff.mp holder⟩
    · simp [Component.carryOut, hsource]
    · simpa [Component.carryOut, Component.adopted] using hw

end Round

theorem guarded_statusAfter (status : Option DynaKubeStatus) {rounds : List Round}
    (hrounds : ∀ r ∈ rounds, r.FollowsTenant ∧ r.OverHttp) {v : AgentVersion}
    (h : (status.getD {}).oneAgent.Guarded v) :
    ∃ w, ((statusAfter status rounds).getD {}).oneAgent.Guarded w ∧ (compare v w).isLE = true := by
  refine record_invariant_statusAfter .oneAgent
    (P := fun recorded => ∃ w, recorded.Guarded w ∧ (compare v w).isLE = true) ?_ ?_
  · rintro r hr entry ⟨u, hu, hvu⟩
    obtain ⟨w, hw, huw⟩ := Round.guarded_attend (hrounds r hr).1 (hrounds r hr).2 hu
    exact ⟨w, hw, Std.TransOrd.isLE_trans hvu huw⟩
  · refine ⟨v, h, ?_⟩
    rw [Std.ReflOrd.compare_self]
    rfl

/-- The version of a host agent that follows its tenant never goes back: after every pass it can be
read, it came from the tenant, and it is not older than after any earlier pass of the run, nor than
at the start. -/
theorem oneAgent_version_never_back (s : DynaKubeStatus) {start : AgentVersion}
    (hsource : s.oneAgent.source = some .tenantRegistry)
    (hversion : AgentVersion.parse s.oneAgent.version = .ok start) (earlier later : List Round)
    (hrounds : ∀ r ∈ earlier ++ later, r.FollowsTenant ∧ r.OverHttp) :
    ∃ a b u v, statusAfter (some s) earlier = some a ∧
      statusAfter (some s) (earlier ++ later) = some b ∧
      a.oneAgent.source = some .tenantRegistry ∧ AgentVersion.parse a.oneAgent.version = .ok u ∧
      b.oneAgent.source = some .tenantRegistry ∧ AgentVersion.parse b.oneAgent.version = .ok v ∧
      (compare u v).isLE = true := by
  obtain ⟨a, ha⟩ := exists_statusAfter s earlier
  obtain ⟨b, hb⟩ := exists_statusAfter a later
  have hearlier : ∀ r ∈ earlier, r.FollowsTenant ∧ r.OverHttp := fun r hr =>
    hrounds r (List.mem_append_left later hr)
  have hlater : ∀ r ∈ later, r.FollowsTenant ∧ r.OverHttp := fun r hr =>
    hrounds r (List.mem_append_right earlier hr)
  obtain ⟨u, hu, _⟩ := guarded_statusAfter (some s) hearlier ⟨hsource, hversion⟩
  rw [ha] at hu
  obtain ⟨v, hv, huv⟩ := guarded_statusAfter (some a) hlater hu
  rw [hb] at hv
  exact ⟨a, b, u, v, ha, by rw [statusAfter_append, ha, hb], hu.source, hu.version, hv.source,
    hv.version, huv⟩

/-- A pass in which the tenant has a newer version, one in which it has an older one, and one on a
broken network. The first takes the newer version over, and it stays. -/
theorem oneAgent_version_never_back_upgrade :
    let image (tag : String) :=
      "\x7b\"source\": \"tenant.example/linux/oneagent\", \"tag\": \"" ++ tag ++ "\"\x7d"
    let reply (tag : String) : Transport := fun _ =>
      Timed.now (.response 200 (some (image tag).toUTF8.toList))
    let round (transport : Transport) (minutes : Int) : Round :=
      Round.classic {} (httpClient transport (fun _ _ => "") "https://x" "token") minutes
    let earlier := [round (reply "1.10.0") 0]
    let later := [round (reply "1.9.5") 1, round unreachable 2]
    let s : DynaKubeStatus := { oneAgent := { version := "1.9.0", source := some .tenantRegistry } }
    (s.oneAgent.source = some .tenantRegistry ∧
      AgentVersion.parse s.oneAgent.version = .ok ⟨[1, 9, 0]⟩ ∧
      ∀ r ∈ earlier ++ later, r.FollowsTenant ∧ r.OverHttp) ∧
    (((statusAfter (some s) earlier).getD {}).oneAgent.version = "1.10.0" ∧
      ((statusAfter (some s) (earlier ++ later)).getD {}).oneAgent.version = "1.10.0") ∧
    ∃ a b u v, statusAfter (some s) earlier = some a ∧
      statusAfter (some s) (earlier ++ later) = some b ∧
      a.oneAgent.source = some .tenantRegistry ∧ AgentVersion.parse a.oneAgent.version = .ok u ∧
      b.oneAgent.source = some .tenantRegistry ∧ AgentVersion.parse b.oneAgent.version = .ok v ∧
      (compare u v).isLE = true := by
  intro image reply round earlier later s
  have hround : ∀ transport minutes,
      (round transport minutes).FollowsTenant ∧ (round transport minutes).OverHttp :=
    fun _ _ => ⟨⟨rfl, rfl, rfl⟩, _, fun _ _ => "", _, _, rfl⟩
  have hrounds : ∀ r ∈ earlier ++ later, r.FollowsTenant ∧ r.OverHttp :=
    List.forall_mem_cons.mpr ⟨hround _ _, List.forall_mem_cons.mpr
      ⟨hround _ _, List.forall_mem_singleton.mpr (hround _ _)⟩⟩
  have hversion : AgentVersion.parse s.oneAgent.version = .ok ⟨[1, 9, 0]⟩ := by decide
  exact ⟨⟨rfl, hversion, hrounds⟩, ⟨by decide +kernel, by decide +kernel⟩,
    oneAgent_version_never_back s rfl hversion earlier later hrounds⟩

end VersionOperator
