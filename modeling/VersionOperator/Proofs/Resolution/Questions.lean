import VersionOperator.Proofs.Resolution.Failure
import VersionOperator.Proofs.Resolution.Interference

namespace VersionOperator

open Tenant

def Tenant.Query.subject : Query → ComponentKind
  | .agentVersion .host => .oneAgent
  | .agentVersion .modules => .codeModules
  | .gatewayVersion => .activeGate
  | .latestImage .oneAgent => .oneAgent
  | .latestImage .activeGate => .activeGate

namespace Component

variable {c : Component} {policy : ProbePolicy} {now : Instant} {entry : Entry}

theorem probed_pass_iff :
    (c.pass policy now entry).probed = true ↔ c.LooksUp policy now entry.status := by
  rw [pass_eq_carryOut]
  cases hdecision : c.decision policy now entry.status with
  | clear =>
    simp only [carryOut, Bool.false_eq_true, false_iff]
    rintro ⟨henabled, _, _⟩
    exact decision_ne_clear henabled hdecision
  | skip =>
    simp only [carryOut, Bool.false_eq_true, false_iff]
    rintro ⟨_, _, hdue⟩
    rw [decision_eq_skip_iff, hdue] at hdecision
    exact absurd hdecision.2.2 (by decide)
  | pin image =>
    simp only [carryOut, probed_settle, Bool.false_eq_true, false_iff]
    rintro ⟨_, hsource, _⟩
    exact hsource (decision_eq_pin_iff.mp hdecision).2.1
  | keep candidate =>
    obtain ⟨henabled, hsource, hdue, _⟩ := decision_eq_keep_iff.mp hdecision
    simp only [carryOut, probed_settle, true_iff]
    exact ⟨henabled, hsource, hdue⟩
  | adopt candidate =>
    obtain ⟨henabled, hsource, hdue, _⟩ := decision_eq_adopt_iff.mp hdecision
    simp only [carryOut, probed_settle, true_iff]
    exact ⟨henabled, hsource, hdue⟩
  | fail error =>
    simp only [carryOut, true_iff]
    exact (decision_eq_fail_iff_unsettled.mp hdecision).1

section Subject

variable {dk : DynaKube} {client : Client} {query : Query}

theorem subject_of_mem_activeGateProbe (h : query ∈ (activeGateProbe dk client).asked) :
    query.subject = .activeGate := by
  unfold activeGateProbe at h
  repeat' split at h
  all_goals simp [Probe.asking, Probe.refused] at h
  all_goals rw [h]; rfl

theorem subject_of_mem_oneAgentProbe (h : query ∈ (oneAgentProbe dk client).asked) :
    query.subject = .oneAgent := by
  unfold oneAgentProbe at h
  repeat' split at h
  all_goals simp [Probe.asking, Probe.refused, Probe.known] at h
  all_goals rw [h]; rfl

theorem subject_of_mem_codeModulesProbe (h : query ∈ (codeModulesProbe dk client).asked) :
    query.subject = .codeModules := by
  unfold codeModulesProbe at h
  repeat' split at h
  all_goals simp [Probe.asking, Probe.known] at h
  all_goals rw [h]; rfl

theorem subject_of_mem_asked {kind : ComponentKind}
    (h : query ∈ (ofKind dk client kind).probe.asked) : query.subject = kind := by
  cases kind with
  | activeGate => exact subject_of_mem_activeGateProbe h
  | oneAgent => exact subject_of_mem_oneAgentProbe h
  | codeModules => exact subject_of_mem_codeModulesProbe h

end Subject

end Component

def Resolution.AsksAbout (resolution : Resolution) (kind : ComponentKind) : Prop :=
  ∃ query ∈ resolution.asked, query.subject = kind

instance (resolution : Resolution) (kind : ComponentKind) :
    Decidable (resolution.AsksAbout kind) :=
  inferInstanceAs (Decidable (∃ query ∈ _, _))

theorem asked_resolveVersions (policy : ProbePolicy) (clock : Clock) (dk : DynaKube)
    (client : Client) :
    (resolveVersions policy clock dk client).asked =
      ComponentKind.all.flatMap fun kind =>
        (componentPass policy clock dk client kind).asked (Component.ofKind dk client kind) :=
  asked_passes policy clock dk client ComponentKind.nodup_all

section Subject

variable {policy : ProbePolicy} {clock : Clock} {dk : DynaKube} {client : Client}
  {kind : ComponentKind}

theorem subject_of_mem_asked_componentPass {query : Query}
    (h : query ∈ (componentPass policy clock dk client kind).asked
      (Component.ofKind dk client kind)) : query.subject = kind := by
  rw [PassOutcome.asked] at h
  split at h
  · exact Component.subject_of_mem_asked h
  · exact absurd h List.not_mem_nil

variable (policy clock dk client kind)

theorem filter_asked_resolveVersions :
    (resolveVersions policy clock dk client).asked.filter (fun query => query.subject = kind) =
      (componentPass policy clock dk client kind).asked (Component.ofKind dk client kind) := by
  have hown : ∀ other, ((componentPass policy clock dk client other).asked
        (Component.ofKind dk client other)).filter (fun query => query.subject = kind) =
      if other = kind then
        (componentPass policy clock dk client kind).asked (Component.ofKind dk client kind)
      else [] := by
    intro other
    split
    · rename_i hother
      subst hother
      rw [List.filter_eq_self]
      intro query hquery
      exact decide_eq_true (subject_of_mem_asked_componentPass hquery)
    · rename_i hother
      rw [List.filter_eq_nil_iff]
      intro query hquery
      rw [subject_of_mem_asked_componentPass hquery]
      simpa using hother
  rw [asked_resolveVersions, List.filter_flatMap]
  simp only [hown]
  cases kind <;> simp [ComponentKind.all]

end Subject

namespace Round

variable {r : Round} {status : Option DynaKubeStatus} {kind : ComponentKind} {query : Query}

def LooksUp (r : Round) (status : Option DynaKubeStatus) (kind : ComponentKind) : Prop :=
  (r.component kind).LooksUp r.policy (r.clock kind) ((status.getD {}).record kind)

theorem mem_asked_resolve_iff :
    query ∈ (r.resolve status).asked ↔
      ∃ kind, r.LooksUp status kind ∧ query ∈ (r.component kind).probe.asked := by
  simp only [resolve, asked_resolveVersions, List.mem_flatMap, PassOutcome.asked,
    componentPass_resource, ofKind_resource, ComponentKind.mem_all, true_and]
  apply exists_congr
  intro kind
  have hprobed : (r.attend kind ((status.getD {}).entry kind)).probed = true ↔
      r.LooksUp status kind := Component.probed_pass_iff
  rw [← hprobed]
  split
  · rename_i h
    simp [h]
  · rename_i h
    simp [h]

theorem asksAbout_resolve_iff :
    (r.resolve status).AsksAbout kind ↔
      r.LooksUp status kind ∧ (r.component kind).probe.asked ≠ [] := by
  simp only [Resolution.AsksAbout, mem_asked_resolve_iff]
  constructor
  · rintro ⟨query, ⟨other, hlooks, hquery⟩, hsubject⟩
    obtain rfl : other = kind := (Component.subject_of_mem_asked hquery).symm.trans hsubject
    exact ⟨hlooks, List.ne_nil_of_mem hquery⟩
  · rintro ⟨hlooks, hasked⟩
    obtain ⟨query, hquery⟩ := List.exists_mem_of_ne_nil _ hasked
    exact ⟨query, ⟨kind, hlooks, hquery⟩, Component.subject_of_mem_asked hquery⟩

end Round

end VersionOperator
