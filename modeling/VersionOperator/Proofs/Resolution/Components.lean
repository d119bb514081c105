import VersionOperator.Proofs.Resolution.Frame
import VersionOperator.Resolution.Reconcile
import Mathlib.Data.List.Basic

namespace VersionOperator

open Ledger (entriesOf)
open Tenant

def DynaKubeStatus.entry (s : DynaKubeStatus) (kind : ComponentKind) : Entry :=
  ⟨s.record kind, s.conditions⟩

def DynaKube.recorded (dk : DynaKube) : DynaKubeStatus :=
  dk.status.getD {}

namespace ComponentKind

theorem nodup_all : all.Nodup := by decide

theorem name_inj {a b : ComponentKind} : a.name = b.name ↔ a = b := by
  cases a <;> cases b <;> simp [name]

end ComponentKind

/-- A pass over one component of the resource, as if there were no other. -/
def componentPass (policy : ProbePolicy) (clock : Clock) (dk : DynaKube) (client : Client)
    (kind : ComponentKind) : PassOutcome :=
  (Component.ofKind dk client kind).pass policy (clock kind) (dk.recorded.entry kind)

def PassOutcome.failure? (outcome : PassOutcome) (name : String) : Option (String × VersionError) :=
  match outcome.result with
  | .ok () => none
  | .error error => some (name, error)

theorem PassOutcome.failure?_of_ok {outcome : PassOutcome} (h : outcome.result = .ok ())
    (name : String) : outcome.failure? name = none := by
  simp [failure?, h]

theorem PassOutcome.failure?_of_error {outcome : PassOutcome} {error : VersionError}
    (h : outcome.result = .error error) (name : String) :
    outcome.failure? name = some (name, error) := by
  simp [failure?, h]

namespace Entry.Alike

variable {kind : ComponentKind} {a b d : Entry}

theorem refl (a : Entry) : a.Alike kind a := ⟨rfl, rfl⟩

theorem symm (h : a.Alike kind b) : b.Alike kind a := ⟨h.status.symm, h.entries.symm⟩

theorem trans (hab : a.Alike kind b) (hbd : b.Alike kind d) : a.Alike kind d :=
  ⟨hab.status.trans hbd.status, hab.entries.trans hbd.entries⟩

theorem find? (h : a.Alike kind b) : a.conditions.find? kind = b.conditions.find? kind := by
  rw [← Ledger.head?_entriesOf, h.entries, Ledger.head?_entriesOf]

end Entry.Alike

namespace Progress

variable (policy : ProbePolicy) (clock : Clock) (p : Progress) (c : Component)

theorem entry_step_self :
    (p.step policy clock c).entry c.kind =
      (c.pass policy (clock c.kind) (p.entry c.kind)).entry := by
  simp [entry, step, DynaKubeStatus.record, DynaKubeStatus.withRecord]
  cases c.kind <;> rfl

theorem entry_step_of_ne {other : ComponentKind} (h : other ≠ c.kind) :
    ((p.step policy clock c).entry other).Alike other (p.entry other) := by
  refine ⟨?_, c.entriesOf_pass_of_ne (clock c.kind) h policy (p.entry c.kind)⟩
  exact p.status.record_withRecord_of_ne h _

theorem failures_step :
    (p.step policy clock c).failures =
      p.failures ++ ((c.pass policy (clock c.kind) (p.entry c.kind)).failure? c.name).toList := by
  simp only [step, PassOutcome.failure?]
  cases (c.pass policy (clock c.kind) (p.entry c.kind)).result with
  | ok _ => simp
  | error error => simp

variable (dk : DynaKube) (client : Client)

def stepAll (order : List ComponentKind) : Progress :=
  (order.map (Component.ofKind dk client)).foldl (step policy clock) p

theorem stepAll_cons (head : ComponentKind) (rest : List ComponentKind) :
    p.stepAll policy clock dk client (head :: rest) =
      (p.step policy clock (Component.ofKind dk client head)).stepAll policy clock dk client
        rest := rfl

variable {dk client}

theorem alike_pass_ofKind {kind : ComponentKind} {a b : Entry} (h : a.Alike kind b) :
    ((Component.ofKind dk client kind).pass policy (clock kind) a).entry.Alike kind
      ((Component.ofKind dk client kind).pass policy (clock kind) b).entry := by
  simpa using (Component.ofKind dk client kind).alike_pass (clock kind) policy (by simpa using h)

theorem failure?_pass_ofKind {kind : ComponentKind} {a b : Entry} (h : a.Alike kind b) :
    ((Component.ofKind dk client kind).pass policy (clock kind) a).failure? kind.name =
      ((Component.ofKind dk client kind).pass policy (clock kind) b).failure? kind.name := by
  have hresult := (Component.ofKind dk client kind).result_pass_of_alike (clock kind) policy
    (a := a) (b := b) (by simpa using h)
  simp only [PassOutcome.failure?, hresult]

theorem entry_step_ofKind (kind : ComponentKind) :
    (p.step policy clock (Component.ofKind dk client kind)).entry kind =
      ((Component.ofKind dk client kind).pass policy (clock kind) (p.entry kind)).entry := by
  simpa using p.entry_step_self policy clock (Component.ofKind dk client kind)

theorem entry_step_ofKind_of_ne {kind other : ComponentKind} (h : other ≠ kind) :
    ((p.step policy clock (Component.ofKind dk client kind)).entry other).Alike other
      (p.entry other) :=
  p.entry_step_of_ne policy clock (Component.ofKind dk client kind) (by simpa using h)

theorem entry_stepAll_of_not_mem {order : List ComponentKind} {kind : ComponentKind}
    (h : kind ∉ order) :
    ((p.stepAll policy clock dk client order).entry kind).Alike kind (p.entry kind) := by
  induction order generalizing p with
  | nil => exact .refl _
  | cons head rest ih =>
    rw [List.mem_cons, not_or] at h
    rw [stepAll_cons]
    exact (ih _ h.2).trans (p.entry_step_ofKind_of_ne policy clock h.1)

/-- The pass over a component comes to what it does alone, wherever it stands in the order. -/
theorem entry_stepAll_of_mem {order : List ComponentKind} (horder : order.Nodup)
    {kind : ComponentKind} (h : kind ∈ order) :
    ((p.stepAll policy clock dk client order).entry kind).Alike kind
      ((Component.ofKind dk client kind).pass policy (clock kind) (p.entry kind)).entry := by
  induction order generalizing p with
  | nil => simp at h
  | cons head rest ih =>
    obtain ⟨hhead, hrest⟩ := List.nodup_cons.mp horder
    rw [stepAll_cons]
    rcases List.mem_cons.mp h with rfl | hmem
    · rw [← entry_step_ofKind]
      exact entry_stepAll_of_not_mem policy clock _ hhead
    · have hne : kind ≠ head := fun he => hhead (he ▸ hmem)
      exact (ih _ hrest hmem).trans
        (alike_pass_ofKind policy clock (p.entry_step_ofKind_of_ne policy clock hne))

theorem failures_stepAll {order : List ComponentKind} (horder : order.Nodup) :
    (p.stepAll policy clock dk client order).failures =
      p.failures ++ order.filterMap fun kind =>
        ((Component.ofKind dk client kind).pass policy (clock kind) (p.entry kind)).failure?
          kind.name := by
  induction order generalizing p with
  | nil => simp [stepAll]
  | cons head rest ih =>
    obtain ⟨hhead, hrest⟩ := List.nodup_cons.mp horder
    have hsame : ∀ kind ∈ rest,
        ((Component.ofKind dk client kind).pass policy (clock kind)
          ((p.step policy clock (Component.ofKind dk client head)).entry kind)).failure? kind.name =
        ((Component.ofKind dk client kind).pass policy (clock kind) (p.entry kind)).failure?
          kind.name := by
      intro kind hmem
      have hne : kind ≠ head := fun he => hhead (he ▸ hmem)
      exact failure?_pass_ofKind policy clock (p.entry_step_ofKind_of_ne policy clock hne)
    rw [stepAll_cons, ih _ hrest, failures_step, List.filterMap_congr hsame, List.append_assoc]
    simp only [Component.kind_ofKind, Component.name_ofKind, List.filterMap_cons]
    cases ((Component.ofKind dk client head).pass policy (clock head) (p.entry head)).failure?
        head.name <;>
      rfl

theorem conditions_stepAll {order : List ComponentKind} (horder : order.Nodup)
    (hsilent : ∀ kind ∈ order, ∀ entry : Entry, entry.Alike kind (p.entry kind) →
      ((Component.ofKind dk client kind).pass policy (clock kind) entry).entry.conditions =
        entry.conditions) :
    (p.stepAll policy clock dk client order).status.conditions = p.status.conditions := by
  induction order generalizing p with
  | nil => rfl
  | cons head rest ih =>
    obtain ⟨hhead, hrest⟩ := List.nodup_cons.mp horder
    rw [stepAll_cons, ih _ hrest]
    · have hkind : (p.step policy clock (Component.ofKind dk client head)).entry head = _ :=
        p.entry_step_ofKind policy clock head
      exact (congrArg Entry.conditions hkind).trans
        (hsilent head List.mem_cons_self (p.entry head) (.refl _))
    · intro kind hmem entry hentry
      have hne : kind ≠ head := fun he => hhead (he ▸ hmem)
      exact hsilent kind (List.mem_cons_of_mem _ hmem) entry
        (hentry.trans (p.entry_step_ofKind_of_ne policy clock hne))

end Progress

namespace Resolution

def failures (resolution : Resolution) : List (String × VersionError) :=
  match resolution.result with
  | .error (.components failures) => failures
  | _ => []

def Reports (resolution : Resolution) (kind : ComponentKind) : Prop :=
  kind.name ∈ resolution.failures.map Prod.fst

instance (resolution : Resolution) (kind : ComponentKind) : Decidable (resolution.Reports kind) :=
  inferInstanceAs (Decidable (_ ∈ _))

end Resolution

section

variable (policy : ProbePolicy) (clock : Clock) (dk : DynaKube) (client : Client)

theorem entry_passes {order : List ComponentKind} (horder : order.Nodup) {kind : ComponentKind}
    (h : kind ∈ order) :
    ((passes policy clock dk client order).entry kind).Alike kind
      (componentPass policy clock dk client kind).entry :=
  Progress.entry_stepAll_of_mem policy clock { status := dk.recorded } horder h

theorem entry_resolveVersions (kind : ComponentKind) :
    ((resolveVersions policy clock dk client).status.entry kind).Alike kind
      (componentPass policy clock dk client kind).entry :=
  entry_passes policy clock dk client ComponentKind.nodup_all kind.mem_all

theorem conditions_resolveVersions
    (hsilent : ∀ (kind : ComponentKind) (entry : Entry),
      entry.Alike kind (dk.recorded.entry kind) →
      ((Component.ofKind dk client kind).pass policy (clock kind) entry).entry.conditions =
        entry.conditions) :
    (resolveVersions policy clock dk client).status.conditions = dk.recorded.conditions :=
  Progress.conditions_stepAll policy clock { status := dk.recorded } ComponentKind.nodup_all
    fun kind _ => hsilent kind

theorem failures_passes {order : List ComponentKind} (horder : order.Nodup) :
    (passes policy clock dk client order).failures =
      order.filterMap fun kind =>
        (componentPass policy clock dk client kind).failure? kind.name :=
  Progress.failures_stepAll policy clock { status := dk.recorded } horder

theorem result_resolveVersions :
    (resolveVersions policy clock dk client).result =
      if (passes policy clock dk client ComponentKind.all).failures.isEmpty then .ok ()
      else .error (.components (passes policy clock dk client ComponentKind.all).failures) := rfl

theorem failures_resolveVersions :
    (resolveVersions policy clock dk client).failures =
      ComponentKind.all.filterMap fun kind =>
        (componentPass policy clock dk client kind).failure? kind.name := by
  rw [← failures_passes _ _ _ _ ComponentKind.nodup_all, Resolution.failures,
    result_resolveVersions]
  cases (passes policy clock dk client ComponentKind.all).failures <;> rfl

theorem failure?_eq_some_iff {outcome : PassOutcome} {name : String}
    {failure : String × VersionError} :
    outcome.failure? name = some failure ↔
      failure.1 = name ∧ outcome.result = .error failure.2 := by
  unfold PassOutcome.failure?
  rcases failure with ⟨name', error⟩
  cases outcome.result with
  | ok _ => simp
  | error e => simp [eq_comm]

theorem mem_failures_resolveVersions_iff {failure : String × VersionError} :
    failure ∈ (resolveVersions policy clock dk client).failures ↔
      ∃ kind, failure.1 = kind.name ∧
        (componentPass policy clock dk client kind).result = .error failure.2 := by
  simp only [failures_resolveVersions, List.mem_filterMap, failure?_eq_some_iff]
  constructor
  · rintro ⟨kind, _, h⟩
    exact ⟨kind, h⟩
  · rintro ⟨kind, h⟩
    exact ⟨kind, kind.mem_all, h⟩

theorem reports_resolveVersions_iff {kind : ComponentKind} :
    (resolveVersions policy clock dk client).Reports kind ↔
      ∃ error, (componentPass policy clock dk client kind).result = .error error := by
  simp only [Resolution.Reports, List.mem_map, mem_failures_resolveVersions_iff]
  constructor
  · rintro ⟨failure, ⟨other, hname, herror⟩, hkind⟩
    have : other = kind := ComponentKind.name_inj.mp (hname.symm.trans hkind)
    exact ⟨failure.2, this ▸ herror⟩
  · rintro ⟨error, herror⟩
    exact ⟨(kind.name, error), ⟨kind, rfl, herror⟩, rfl⟩

theorem result_resolveVersions_eq_ok_iff :
    (resolveVersions policy clock dk client).result = .ok () ↔
      ∀ kind, (componentPass policy clock dk client kind).result = .ok () := by
  have hresult : (resolveVersions policy clock dk client).result = .ok () ↔
      (passes policy clock dk client ComponentKind.all).failures = [] := by
    rw [result_resolveVersions]
    cases (passes policy clock dk client ComponentKind.all).failures <;> simp
  rw [hresult, failures_passes _ _ _ _ ComponentKind.nodup_all, List.filterMap_eq_nil_iff]
  constructor
  · intro h kind
    cases hkind : (componentPass policy clock dk client kind).result with
    | ok _ => rfl
    | error error =>
      have := h kind kind.mem_all
      simp [PassOutcome.failure?_of_error hkind] at this
  · intro h kind _
    exact PassOutcome.failure?_of_ok (h kind) _

theorem result_resolveVersions_of_one {kind : ComponentKind} {error : VersionError}
    (herror : (componentPass policy clock dk client kind).result = .error error)
    (hothers : ∀ other, other ≠ kind →
      (componentPass policy clock dk client other).result = .ok ()) :
    (resolveVersions policy clock dk client).result =
      .error (.components [(kind.name, error)]) := by
  have hnone : ∀ other, other ≠ kind →
      (componentPass policy clock dk client other).failure? other.name = none := fun other h =>
    PassOutcome.failure?_of_ok (hothers other h) _
  have hfailures : (passes policy clock dk client ComponentKind.all).failures =
      [(kind.name, error)] := by
    rw [failures_passes _ _ _ _ ComponentKind.nodup_all, ComponentKind.all]
    cases kind <;> simp [hnone, PassOutcome.failure?_of_error herror]
  rw [result_resolveVersions, hfailures]
  rfl

end

end VersionOperator
