import Mathlib.Data.List.Nodup
import VersionOperator.Proofs.Ledger.Rewriting
import VersionOperator.Proofs.Resolution.Runs

namespace VersionOperator

open Ledger (Rewrites ReplacesFirst entriesOf foreign fresh inPlace)
open Tenant

namespace Component

variable (c : Component) (policy : ProbePolicy) (now : Instant)

theorem replacesFirst_settle {probed : Bool} {entry : Entry} {ledger : Ledger}
    (h : ReplacesFirst c.kind ledger entry.conditions) :
    ReplacesFirst c.kind ledger (c.settle now probed entry).entry.conditions := by
  cases hvalid : c.validate (entry.status.markProbed c.source now) with
  | ok _ =>
    rw [c.settle_of_valid probed hvalid]
    exact h
  | error error =>
    rw [c.settle_of_invalid probed hvalid]
    exact h.trans (Ledger.replacesFirst_put (by simp) _)

theorem rewrites_pass (entry : Entry) :
    Rewrites c.kind entry.conditions (c.pass policy now entry).entry.conditions := by
  rw [pass_eq_carryOut]
  cases c.decision policy now entry.status with
  | clear => exact Ledger.rewrites_clear c.kind entry.conditions
  | skip => exact Ledger.rewrites_refl c.kind entry.conditions
  | pin image =>
    apply ReplacesFirst.rewrites
    exact c.replacesFirst_settle now (Ledger.replacesFirst_put (by simp) _)
  | keep candidate =>
    apply ReplacesFirst.rewrites
    exact c.replacesFirst_settle now (Ledger.replacesFirst_put (by simp) _)
  | adopt candidate =>
    apply ReplacesFirst.rewrites
    exact c.replacesFirst_settle now (Ledger.replacesFirst_put (by split <;> simp) _)
  | fail error =>
    apply ReplacesFirst.rewrites
    exact Ledger.replacesFirst_put (by simp) _

theorem probed_pass_of_alike {a b : Entry} (h : a.Alike c.kind b) :
    (c.pass policy now a).probed = (c.pass policy now b).probed := by
  rw [pass_eq_carryOut, pass_eq_carryOut, h.status]
  cases c.decision policy now b.status with
  | clear => rfl
  | skip => rfl
  | pin image => rw [carryOut, carryOut, probed_settle, probed_settle]
  | keep candidate => rw [carryOut, carryOut, probed_settle, probed_settle]
  | adopt candidate => rw [carryOut, carryOut, probed_settle, probed_settle]
  | fail error => rfl

end Component

/-- The questions that a pass asked of the tenant, when it came to that. -/
def PassOutcome.asked (outcome : PassOutcome) (c : Component) : List Query :=
  if outcome.probed then c.probe.asked else []

namespace Progress

variable (policy : ProbePolicy) (clock : Clock) (p : Progress) {dk : DynaKube} {client : Client}

theorem asked_step (c : Component) :
    (p.step policy clock c).asked =
      p.asked ++ (c.pass policy (clock c.kind) (p.entry c.kind)).asked c := by
  simp only [step, PassOutcome.asked]
  split
  · rfl
  · rw [List.append_nil]

variable (dk client)

/-- The ledger that a component leaves when it runs alone on that state. -/
def alone (kind : ComponentKind) : Ledger :=
  ((Component.ofKind dk client kind).pass policy (clock kind) (p.entry kind)).entry.conditions

/-- A ledger in which a component has put, in the places of its entries, those that it leaves when
it runs alone. -/
def place (ledger : Ledger) (kind : ComponentKind) : Ledger :=
  inPlace kind (entriesOf kind (p.alone policy clock dk client kind)) ledger

def added (kind : ComponentKind) : Ledger :=
  fresh kind p.status.conditions (p.alone policy clock dk client kind)

variable {dk client}

theorem type_of_mem_alone {kind : ComponentKind} {entry : Condition}
    (h : entry ∈ entriesOf kind (p.alone policy clock dk client kind)) :
    entry.type = kind.conditionType :=
  (Ledger.mem_entriesOf_iff.mp h).2

theorem place_comm (kind other : ComponentKind) (ledger : Ledger) :
    p.place policy clock dk client (p.place policy clock dk client ledger kind) other =
      p.place policy clock dk client (p.place policy clock dk client ledger other) kind := by
  by_cases h : kind = other
  · rw [h]
  · exact Ledger.inPlace_comm h (fun _ => p.type_of_mem_alone policy clock)
      (fun _ => p.type_of_mem_alone policy clock)

theorem foldl_place_append {order : List ComponentKind} {rest : Ledger}
    (h : ∀ kind ∈ order, entriesOf kind rest = []) (ledger : Ledger) :
    order.foldl (p.place policy clock dk client) (ledger ++ rest) =
      order.foldl (p.place policy clock dk client) ledger ++ rest := by
  induction order generalizing ledger with
  | nil => rfl
  | cons head order ih =>
    rw [List.foldl_cons, List.foldl_cons, place,
      Ledger.inPlace_append (h head List.mem_cons_self)]
    exact ih (fun kind hmem => h kind (List.mem_cons_of_mem _ hmem)) _

section Order

variable {policy clock} {p p₀ : Progress} {head : ComponentKind} {order : List ComponentKind}

theorem alike_step (horder : (head :: order).Nodup)
    (h : ∀ kind ∈ head :: order, (p.entry kind).Alike kind (p₀.entry kind)) :
    ∀ kind ∈ order,
      ((p.step policy clock (Component.ofKind dk client head)).entry kind).Alike kind
        (p₀.entry kind) := by
  intro kind hmem
  have hne : kind ≠ head := fun he => (List.nodup_cons.mp horder).1 (he ▸ hmem)
  exact (p.entry_step_ofKind_of_ne policy clock hne).trans (h kind (List.mem_cons_of_mem _ hmem))

theorem conditions_step_of_alike (h : (p.entry head).Alike head (p₀.entry head)) :
    (p.step policy clock (Component.ofKind dk client head)).status.conditions =
      p₀.place policy clock dk client p.status.conditions head ++
        p₀.added policy clock dk client head := by
  have hentry : (p.step policy clock (Component.ofKind dk client head)).entry head =
      ((Component.ofKind dk client head).pass policy (clock head) (p.entry head)).entry :=
    p.entry_step_ofKind policy clock head
  have hstep : (p.step policy clock (Component.ofKind dk client head)).status.conditions =
      p.alone policy clock dk client head := by
    have hconditions := congrArg Entry.conditions hentry
    exact hconditions
  have hrewrites : Rewrites head p.status.conditions (p.alone policy clock dk client head) := by
    have hpass := (Component.ofKind dk client head).rewrites_pass policy (clock head) (p.entry head)
    rwa [Component.kind_ofKind] at hpass
  have halone : entriesOf head (p.alone policy clock dk client head) =
      entriesOf head (p₀.alone policy clock dk client head) :=
    (alike_pass_ofKind policy clock h).entries
  have hadded : fresh head p.status.conditions (p.alone policy clock dk client head) =
      p₀.added policy clock dk client head :=
    Ledger.fresh_congr h.entries halone
  rw [hstep, place, ← halone, ← hadded]
  exact hrewrites

theorem conditions_stepAll_of_alike (horder : order.Nodup)
    (h : ∀ kind ∈ order, (p.entry kind).Alike kind (p₀.entry kind)) :
    (p.stepAll policy clock dk client order).status.conditions =
      order.foldl (p₀.place policy clock dk client) p.status.conditions ++
        order.flatMap (p₀.added policy clock dk client) := by
  induction order generalizing p with
  | nil => simp [stepAll]
  | cons head order ih =>
    obtain ⟨hhead, hrest⟩ := List.nodup_cons.mp horder
    -- What the first component adds at the end is out of the way of all that come after it.
    have hnone : ∀ kind ∈ order, entriesOf kind (p₀.added policy clock dk client head) = [] := by
      intro kind hmem
      have hne : kind ≠ head := fun he => hhead (he ▸ hmem)
      exact Ledger.entriesOf_eq_nil_of_ne hne fun new hnew => (Ledger.mem_fresh hnew).1
    rw [stepAll_cons, ih hrest (alike_step horder h),
      conditions_step_of_alike (h head List.mem_cons_self), foldl_place_append _ _ _ hnone,
      List.append_assoc, List.foldl_cons, List.flatMap_cons]

theorem asked_stepAll_of_alike (horder : order.Nodup)
    (h : ∀ kind ∈ order, (p.entry kind).Alike kind (p₀.entry kind)) :
    (p.stepAll policy clock dk client order).asked =
      p.asked ++ order.flatMap fun kind =>
        ((Component.ofKind dk client kind).pass policy (clock kind) (p₀.entry kind)).asked
          (Component.ofKind dk client kind) := by
  induction order generalizing p with
  | nil => simp [stepAll]
  | cons head order ih =>
    have hhead : (p.entry head).Alike (Component.ofKind dk client head).kind (p₀.entry head) := by
      rw [Component.kind_ofKind]
      exact h head List.mem_cons_self
    have hprobed := (Component.ofKind dk client head).probed_pass_of_alike policy (clock head) hhead
    rw [stepAll_cons, ih (List.nodup_cons.mp horder).2 (alike_step horder h), asked_step,
      List.append_assoc, List.flatMap_cons, PassOutcome.asked, PassOutcome.asked,
      Component.kind_ofKind, hprobed]

theorem foreign_stepAll (policy : ProbePolicy) (clock : Clock) (p : Progress)
    (order : List ComponentKind) :
    foreign (p.stepAll policy clock dk client order).status.conditions =
      foreign p.status.conditions := by
  induction order generalizing p with
  | nil => rfl
  | cons head order ih =>
    rw [stepAll_cons, ih]
    exact Ledger.foreign_eq_of_clear_eq
      ((Component.ofKind dk client head).clear_pass _ policy (p.entry _))

theorem sameButAdded_stepAll (policy : ProbePolicy) (clock : Clock) (p : Progress)
    {order order' : List ComponentKind} (horder : order.Nodup) (h : order.Perm order') :
    Ledger.SameButAdded p.status.conditions
      (p.stepAll policy clock dk client order).status.conditions
      (p.stepAll policy clock dk client order').status.conditions := by
  have hsame : ∀ kind ∈ order, (p.entry kind).Alike kind (p.entry kind) := fun _ _ => .refl _
  have hsame' : ∀ kind ∈ order', (p.entry kind).Alike kind (p.entry kind) := fun _ _ => .refl _
  refine ⟨order.foldl (p.place policy clock dk client) p.status.conditions,
    order.flatMap (p.added policy clock dk client), order'.flatMap (p.added policy clock dk client),
    conditions_stepAll_of_alike horder hsame, ?_, h.flatMap_right _, ?_⟩
  · rw [conditions_stepAll_of_alike (h.nodup_iff.mp horder) hsame']
    congr 1
    apply (h.foldl_eq' _ _).symm
    intro kind _ other _ ledger
    exact p.place_comm policy clock kind other ledger
  · intro entry hentry old hold
    obtain ⟨kind, _, hmem⟩ := List.mem_flatMap.mp hentry
    obtain ⟨htype, hnone⟩ := Ledger.mem_fresh hmem
    rw [htype]
    exact hnone old hold

end Order

theorem asked_stepAll {order : List ComponentKind} (horder : order.Nodup) :
    (p.stepAll policy clock dk client order).asked =
      p.asked ++ order.flatMap fun kind =>
        ((Component.ofKind dk client kind).pass policy (clock kind) (p.entry kind)).asked
          (Component.ofKind dk client kind) :=
  asked_stepAll_of_alike horder fun _ _ => .refl _

end Progress

/-- What a pass over a resource leaves, asks and reports, as if it were still on its way. -/
def Resolution.progress (resolution : Resolution) : Progress :=
  ⟨resolution.status, resolution.asked, resolution.failures⟩

section

variable (policy : ProbePolicy) (clock : Clock) (dk : DynaKube) (client : Client)

def DynaKube.reconciled : DynaKube :=
  { dk with status := some (resolveVersions policy clock dk client).status }

/-- Passes over components have left the record and the condition of each as its pass alone leaves
them, and they have failed and asked as those do, one after another. -/
structure Progress.AsAlone (p : Progress) (order : List ComponentKind) : Prop where
  record : ∀ kind ∈ order,
    p.status.record kind = (passes policy clock dk client [kind]).status.record kind
  condition : ∀ kind ∈ order,
    p.status.conditions.find? kind =
      (passes policy clock dk client [kind]).status.conditions.find? kind
  failures : p.failures = order.flatMap fun kind => (passes policy clock dk client [kind]).failures
  asked : p.asked = order.flatMap fun kind => (passes policy clock dk client [kind]).asked

theorem asked_passes {order : List ComponentKind} (horder : order.Nodup) :
    (passes policy clock dk client order).asked =
      order.flatMap fun kind =>
        (componentPass policy clock dk client kind).asked (Component.ofKind dk client kind) :=
  Progress.asked_stepAll policy clock { status := dk.recorded } horder

theorem passes_asAlone {order : List ComponentKind} (horder : order.Nodup) :
    (passes policy clock dk client order).AsAlone policy clock dk client order := by
  have hentry : ∀ kind ∈ order,
      ((passes policy clock dk client order).entry kind).Alike kind
        ((passes policy clock dk client [kind]).entry kind) := by
    intro kind hmem
    have hone := entry_passes policy clock dk client (List.nodup_singleton kind)
      (List.mem_singleton_self kind)
    exact (entry_passes policy clock dk client horder hmem).trans hone.symm
  refine ⟨?_, ?_, ?_, ?_⟩
  · intro kind hmem
    exact (hentry kind hmem).status
  · intro kind hmem
    exact (hentry kind hmem).find?
  · simp only [failures_passes _ _ _ _ horder, failures_passes _ _ _ _ (List.nodup_singleton _),
      List.filterMap_eq_flatMap_toList, List.flatMap_singleton]
  · simp only [asked_passes _ _ _ _ horder, asked_passes _ _ _ _ (List.nodup_singleton _),
      List.flatMap_singleton]

theorem progress_resolveVersions :
    (resolveVersions policy clock dk client).progress =
      passes policy clock dk client ComponentKind.all := by
  have hfailures : (resolveVersions policy clock dk client).failures =
      (passes policy clock dk client ComponentKind.all).failures := by
    rw [failures_resolveVersions, failures_passes _ _ _ _ ComponentKind.nodup_all]
  rw [Resolution.progress, hfailures]
  rfl

/-- Two ways to pass over the components that came of one ledger: they have left the same, but for
the order of the failures and that of the entries added to the ledger. -/
structure Progress.SameButOrder (base : Ledger) (p p' : Progress) : Prop where
  record : ∀ kind, p.status.record kind = p'.status.record kind
  condition : ∀ kind, p.status.conditions.find? kind = p'.status.conditions.find? kind
  failures : p.failures.Perm p'.failures
  conditions : Ledger.SameButAdded base p.status.conditions p'.status.conditions

theorem passes_sameButOrder {order order' : List ComponentKind}
    (horder : order.Perm ComponentKind.all) (horder' : order'.Perm ComponentKind.all) :
    (passes policy clock dk client order).SameButOrder dk.recorded.conditions
      (passes policy clock dk client order') := by
  have hnodup : order.Nodup := horder.nodup_iff.mpr ComponentKind.nodup_all
  have hnodup' : order'.Nodup := horder'.nodup_iff.mpr ComponentKind.nodup_all
  have hmem : ∀ kind, kind ∈ order := fun kind => horder.mem_iff.mpr kind.mem_all
  have hmem' : ∀ kind, kind ∈ order' := fun kind => horder'.mem_iff.mpr kind.mem_all
  have halone := passes_asAlone policy clock dk client hnodup
  have halone' := passes_asAlone policy clock dk client hnodup'
  have hsame : order.Perm order' := horder.trans horder'.symm
  refine ⟨?_, ?_, ?_, ?_⟩
  · intro kind
    exact (halone.record kind (hmem kind)).trans (halone'.record kind (hmem' kind)).symm
  · intro kind
    exact (halone.condition kind (hmem kind)).trans (halone'.condition kind (hmem' kind)).symm
  · rw [halone.failures, halone'.failures]
    exact hsame.flatMap_right _
  · exact Progress.sameButAdded_stepAll policy clock { status := dk.recorded } hnodup hsame

theorem names_failures_sublist (outcome : ComponentKind → PassOutcome)
    (order : List ComponentKind) :
    ((order.filterMap fun kind => (outcome kind).failure? kind.name).map Prod.fst).Sublist
      (order.map ComponentKind.name) := by
  induction order with
  | nil => exact List.Sublist.slnil
  | cons head order ih =>
    simp only [List.filterMap_cons, List.map_cons]
    cases h : (outcome head).failure? head.name with
    | none => exact ih.cons _
    | some failure =>
      rw [List.map_cons, (failure?_eq_some_iff.mp h).1]
      exact ih.cons_cons _

theorem result_resolveVersions_of_failures :
    (resolveVersions policy clock dk client).result =
      if (resolveVersions policy clock dk client).failures = [] then .ok ()
      else .error (.components (resolveVersions policy clock dk client).failures) := by
  have hfailures := congrArg Progress.failures (progress_resolveVersions policy clock dk client)
  rw [result_resolveVersions, ← hfailures, Resolution.progress]
  simp only [List.isEmpty_iff]

/-- The passes over the components, in any two of the six orders, leave the same records and
conditions, fail the same way, and leave ledgers that differ in the order of new entries at most;
each component comes out as it does alone. A pass over the resource makes them all, whatever fails,
reports the failures in its own order, and leaves everything alone that is of no component. -/
theorem components_do_not_interfere {order order' : List ComponentKind}
    (horder : order.Perm ComponentKind.all) (horder' : order'.Perm ComponentKind.all) :
    (passes policy clock dk client order).AsAlone policy clock dk client order ∧
    (passes policy clock dk client order).SameButOrder dk.recorded.conditions
      (passes policy clock dk client order') ∧
    (resolveVersions policy clock dk client).progress.AsAlone policy clock dk client
      [.activeGate, .oneAgent, .codeModules] ∧
    ((resolveVersions policy clock dk client).failures.map Prod.fst).Sublist
      ["activegate", "oneagent", "codemodules"] ∧
    (resolveVersions policy clock dk client).result =
      (if (resolveVersions policy clock dk client).failures = [] then .ok ()
        else .error (.components (resolveVersions policy clock dk client).failures)) ∧
    foreign (dk.reconciled policy clock client).recorded.conditions =
      foreign dk.recorded.conditions ∧
    (dk.reconciled policy clock client).metadata = dk.metadata ∧
    (dk.reconciled policy clock client).spec = dk.spec := by
  have hnodup : order.Nodup := horder.nodup_iff.mpr ComponentKind.nodup_all
  refine ⟨passes_asAlone policy clock dk client hnodup,
    passes_sameButOrder policy clock dk client horder horder', ?_,
    ?_, result_resolveVersions_of_failures policy clock dk client, ?_, rfl, rfl⟩
  · rw [progress_resolveVersions]
    exact passes_asAlone policy clock dk client ComponentKind.nodup_all
  · rw [failures_resolveVersions]
    exact names_failures_sublist (componentPass policy clock dk client) ComponentKind.all
  · exact Progress.foreign_stepAll policy clock { status := dk.recorded } ComponentKind.all

end

/-- With no token two components fail, and each writes over the first of its entries or adds one;
the third is not asked for and loses what it had. The entries of no component stay. -/
theorem components_do_not_interfere_withoutToken :
    let entry (type : String) : Condition := ⟨type, .unknown, "Recorded", "", .newYear⟩
    let ledger := [entry "Ready", entry "OneAgentVersion", entry "CodeModulesVersion",
      entry "OneAgentVersion", entry "Ready"]
    let dk : DynaKube :=
      { metadata := {}
        spec :=
          { apiUrl := "https://tenant.example/api"
            activeGate := { capabilities := ["routing"] }
            oneAgent := { classicFullStack := some {} } }
        status := some { conditions := ledger } }
    let policy : ProbePolicy := { timeout := Duration.ofSeconds 30 }
    let client := Client.withoutToken "none"
    let order := [ComponentKind.codeModules, .oneAgent, .activeGate]
    let order' := [ComponentKind.activeGate, .codeModules, .oneAgent]
    (order.Perm ComponentKind.all ∧ order'.Perm ComponentKind.all) ∧
      ((passes policy (.still .newYear) dk client order).failures.map Prod.fst =
          ["oneagent", "activegate"] ∧
        (passes policy (.still .newYear) dk client order').status.conditions.map Condition.type =
          ["Ready", "OneAgentVersion", "OneAgentVersion", "Ready", "ActiveGateVersion"]) ∧
      (passes policy (.still .newYear) dk client order).AsAlone policy (.still .newYear) dk client
        order ∧
      (passes policy (.still .newYear) dk client order).SameButOrder dk.recorded.conditions
        (passes policy (.still .newYear) dk client order') ∧
      (resolveVersions policy (.still .newYear) dk client).progress.AsAlone policy
        (.still .newYear) dk client [.activeGate, .oneAgent, .codeModules] ∧
      ((resolveVersions policy (.still .newYear) dk client).failures.map Prod.fst).Sublist
        ["activegate", "oneagent", "codemodules"] ∧
      (resolveVersions policy (.still .newYear) dk client).result =
        (if (resolveVersions policy (.still .newYear) dk client).failures = [] then .ok ()
          else .error (.components (resolveVersions policy (.still .newYear) dk client).failures)) ∧
      foreign (dk.reconciled policy (.still .newYear) client).recorded.conditions =
        foreign dk.recorded.conditions ∧
      (dk.reconciled policy (.still .newYear) client).metadata = dk.metadata ∧
      (dk.reconciled policy (.still .newYear) client).spec = dk.spec := by
  intro entry ledger dk policy client order order'
  have horder : order.Perm ComponentKind.all := by decide
  have horder' : order'.Perm ComponentKind.all := by decide
  exact ⟨⟨horder, horder'⟩, ⟨rfl, rfl⟩,
    components_do_not_interfere policy (.still .newYear) dk client horder horder'⟩

end VersionOperator
