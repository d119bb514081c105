import VersionOperator.Proofs.Resource.RoundTrip
import VersionOperator.Resource.StatusPatch

namespace VersionOperator

open Json (lookup merge)

namespace Json

/-- The part of a document to which some names lead, one inside the other. -/
def within? : List String → Json → Option Json
  | [], document => some document
  | name :: rest, document => (document.get? name).bind (within? rest)

section OrNull

variable {ms : List (String × Json)}

theorem lookup_orNull (name other : String) (ms : List (String × Json)) :
    lookup name (orNull other ms) =
      if name = other then some ((lookup name ms).getD .null) else lookup name ms := by
  unfold orNull
  by_cases h : name = other
  · rw [if_pos h, h]
    split
    · rename_i value hsome
      rw [hsome, Option.getD_some]
    · rename_i hnone
      rw [lookup_append, hnone, lookup_cons_self, Option.none_or, Option.getD_none]
  · rw [if_neg h]
    split
    · rfl
    · rw [lookup_append, lookup_cons_of_ne (Ne.symm h), lookup, Option.or_none]

theorem nodup_orNull (other : String) (h : (ms.map Prod.fst).Nodup) :
    ((orNull other ms).map Prod.fst).Nodup := by
  unfold orNull
  split
  · exact h
  · rename_i hnone
    rw [List.map_append, List.nodup_append]
    refine ⟨h, by simp, ?_⟩
    intro name hmem other' hother hsame
    rw [List.map_cons, List.map_nil, List.mem_singleton] at hother
    rw [hsame, hother] at hmem
    exact lookup_eq_none_iff.mp hnone hmem

theorem lookup_foldl_orNull (name : String) (names : List String) (ms : List (String × Json)) :
    lookup name (names.foldl (fun ms name => orNull name ms) ms) =
      if name ∈ names then some ((lookup name ms).getD .null) else lookup name ms := by
  induction names generalizing ms with
  | nil => rfl
  | cons other names ih =>
    rw [List.foldl_cons, ih, lookup_orNull]
    by_cases h : name = other
    · simp [h]
    · simp [h]

theorem nodup_foldl_orNull (names : List String) (h : (ms.map Prod.fst).Nodup) :
    ((names.foldl (fun ms name => orNull name ms) ms).map Prod.fst).Nodup := by
  induction names generalizing ms with
  | nil => exact h
  | cons other names ih => exact ih (nodup_orNull other h)

end OrNull

end Json

namespace VersionStatus

variable (s : VersionStatus)

theorem names_toJson_sublist : (s.toJson.members.map Prod.fst).Sublist fieldNames := by
  have htext : ∀ name value, ((Json.memberUnlessEmpty name value).map Prod.fst).Sublist [name] := by
    intro name value
    unfold Json.memberUnlessEmpty
    split
    · exact List.nil_sublist _
    · exact List.Sublist.refl _
  have hoption : ∀ {α : Type} name (write : α → Json) value,
      ((Json.memberIf name write value).map Prod.fst).Sublist [name] := by
    intro α name write value
    cases value with
    | none => exact List.nil_sublist _
    | some _ => exact List.Sublist.refl _
  simp only [toJson, Json.members, List.map_append]
  exact (((htext _ _).append (htext _ _)).append (hoption _ _ _)).append (hoption _ _ _)

theorem mem_fieldNames_of_get?_toJson {name : String} {part : Json}
    (h : s.toJson.get? name = some part) : name ∈ fieldNames :=
  s.names_toJson_sublist.subset (Json.mem_of_lookup_eq_some h)

theorem exists_text_of_get?_toJson {name : String} {part : Json}
    (h : s.toJson.get? name = some part) : ∃ word, part = .text word := by
  have hname := s.mem_fieldNames_of_get?_toJson h
  rw [Json.get?] at h
  simp only [fieldNames, List.mem_cons, List.not_mem_nil, or_false] at hname
  rcases hname with rfl | rfl | rfl | rfl
  · rw [lookup_version] at h
    split at h
    · exact absurd h (by simp)
    · exact ⟨_, (Option.some.inj h).symm⟩
  · rw [lookup_imageID] at h
    split at h
    · exact absurd h (by simp)
    · exact ⟨_, (Option.some.inj h).symm⟩
  · rw [lookup_source] at h
    obtain ⟨source, _, rfl⟩ := Option.map_eq_some_iff.mp h
    exact ⟨_, rfl⟩
  · rw [lookup_lastProbeTimestamp] at h
    obtain ⟨t, _, rfl⟩ := Option.map_eq_some_iff.mp h
    exact ⟨_, rfl⟩

theorem get?_merge_patch {name : String} (h : name ∈ fieldNames) (old : Json) :
    (merge old s.patch).get? name = s.toJson.get? name := by
  have hnames : ((fieldNames.foldl (fun ms name => Json.orNull name ms) s.toJson.members).map
      Prod.fst).Nodup :=
    Json.nodup_foldl_orNull fieldNames (s.names_toJson_sublist.nodup (by decide))
  have hget := Json.get?_merge hnames name old
  rw [Json.lookup_foldl_orNull, if_pos h] at hget
  have hchange : (merge old s.patch).get? name =
      Json.changed (old.get? name) (some ((s.toJson.get? name).getD .null)) := hget
  rw [hchange]
  -- A field that the record leaves out is null in the patch, and so it is taken away.
  cases hpart : s.toJson.get? name with
  | none => rfl
  | some part =>
    obtain ⟨word, rfl⟩ := s.exists_text_of_get?_toJson hpart
    rw [Option.getD_some, Json.changed_of_ne_null _ (by simp), Json.merge_text]

variable {s}

theorem ofComponentJson?_merge_patch (h : s.HasFourDigitYear) (old : Json) :
    ofComponentJson? (merge old s.patch) = some s := by
  have hsame : ∀ name ∈ fieldNames,
      lookup name (merge old s.patch).members = lookup name s.toJson.members := by
    intro name hname
    exact s.get?_merge_patch hname old
  have hobject : merge old s.patch = .object (merge old s.patch).members := by
    rw [patch, merge]
    rfl
  rw [hobject, ofComponentJson?, Json.namedFields?, Option.bind_some, ofFields?_congr _ hsame,
    ofFields?_toJson _ h.inCalendar]

theorem within?_merge_patch (old : Json) {other : VersionStatus} {path : List String} {leaf : Json}
    (h : other.toJson.within? path = some leaf) (hleaf : leaf.object? = none) :
    (merge old s.patch).within? path = s.toJson.within? path := by
  cases path with
  | nil =>
    obtain rfl := Option.some.inj h
    exact absurd hleaf (by simp [toJson, Json.object?])
  | cons name rest =>
    obtain ⟨part, hpart, _⟩ := Option.bind_eq_some_iff.mp h
    rw [Json.within?, Json.within?, s.get?_merge_patch (other.mem_fieldNames_of_get?_toJson hpart)]

end VersionStatus

namespace DynaKubeStatus

def recordName : ComponentKind → String
  | .activeGate => "activeGate"
  | .oneAgent => "oneAgent"
  | .codeModules => "codeModules"

structure HasFourDigitYears (s : DynaKubeStatus) : Prop where
  record : ∀ kind, (s.record kind).HasFourDigitYear
  conditions : s.conditions.HasFourDigitYears

variable (s : DynaKubeStatus)

theorem get?_toJson_record (kind : ComponentKind) :
    s.toJson.get? (recordName kind) = some (s.record kind).toJson := by
  cases kind <;> rfl

theorem get?_toJson_conditions : s.toJson.get? "conditions" = some (Ledger.toJson s.conditions) :=
  rfl

theorem get?_toJson_eq_some {name : String} {part : Json} (h : s.toJson.get? name = some part) :
    (∃ kind, name = recordName kind ∧ part = (s.record kind).toJson) ∨
      name = "conditions" ∧ part = Ledger.toJson s.conditions := by
  have hname : name ∈ ["activeGate", "oneAgent", "codeModules", "conditions"] :=
    Json.mem_of_lookup_eq_some h
  simp only [List.mem_cons, List.not_mem_nil, or_false] at hname
  rcases hname with rfl | rfl | rfl | rfl
  · exact .inl ⟨.activeGate, rfl, (Option.some.inj h).symm⟩
  · exact .inl ⟨.oneAgent, rfl, (Option.some.inj h).symm⟩
  · exact .inl ⟨.codeModules, rfl, (Option.some.inj h).symm⟩
  · exact .inr ⟨rfl, (Option.some.inj h).symm⟩

theorem get?_merge_patch (name : String) (old : Json) :
    (merge old s.patch).get? name =
      Json.changed (old.get? name) (lookup name s.patch.members) := by
  have hnames : (s.patch.members.map Prod.fst).Nodup := by
    change ["activeGate", "oneAgent", "codeModules", "conditions"].Nodup
    decide
  exact Json.get?_merge hnames name old

theorem get?_merge_patch_record (old : Json) (kind : ComponentKind) :
    (merge old s.patch).get? (recordName kind) =
      some (merge ((old.get? (recordName kind)).getD .null) (s.record kind).patch) := by
  rw [get?_merge_patch]
  cases kind <;> rfl

theorem get?_merge_patch_conditions (old : Json) :
    (merge old s.patch).get? "conditions" = some (Ledger.toJson s.conditions) := by
  have hlist : merge ((old.get? "conditions").getD .null) (Ledger.toJson s.conditions) =
      Ledger.toJson s.conditions := Json.merge_list _ _
  rw [get?_merge_patch, ← hlist]
  rfl

variable {s}

theorem ofJson?_merge_patch (h : s.HasFourDigitYears) (old : Json) :
    ofJson? (merge old s.patch) = some s := by
  have hobject : merge old s.patch = .object (merge old s.patch).members := by
    rw [patch, merge]
    rfl
  have hrecord : ∀ place kind,
      (Fields.named (merge old s.patch).members).defaulted place (recordName kind) {}
        VersionStatus.ofComponentJson? = some (s.record kind) := by
    intro place kind
    have hget : lookup (recordName kind) (merge old s.patch).members = _ :=
      s.get?_merge_patch_record old kind
    rw [Fields.defaulted, Fields.find?, hget]
    exact VersionStatus.ofComponentJson?_merge_patch (h.record kind) _
  have hconditions :
      (Fields.named (merge old s.patch).members).defaulted 3 "conditions" [] Ledger.ofJson? =
        some s.conditions := by
    have hget : lookup "conditions" (merge old s.patch).members = _ :=
      s.get?_merge_patch_conditions old
    rw [Fields.defaulted, Fields.find?, hget]
    exact Ledger.ofJson?_toJson h.conditions.inCalendar
  have hactiveGate := hrecord 0 .activeGate
  have honeAgent := hrecord 1 .oneAgent
  have hcodeModules := hrecord 2 .codeModules
  simp only [recordName, record] at hactiveGate honeAgent hcodeModules
  rw [hobject, ofJson?, Json.fields?, Option.bind_eq_bind, Option.bind_some, hactiveGate, honeAgent,
    hcodeModules, hconditions]
  rfl

/-- Wherever a state may have a value, the patch puts what this state has there. -/
theorem within?_merge_patch (old : Json) {other : DynaKubeStatus} {path : List String} {leaf : Json}
    (h : other.toJson.within? path = some leaf) (hleaf : leaf.object? = none) :
    (merge old s.patch).within? path = s.toJson.within? path := by
  cases path with
  | nil =>
    obtain rfl := Option.some.inj h
    exact absurd hleaf (by simp [toJson, Json.object?])
  | cons name rest =>
    obtain ⟨part, hpart, hrest⟩ := Option.bind_eq_some_iff.mp h
    rw [Json.within?, Json.within?]
    rcases other.get?_toJson_eq_some hpart with ⟨kind, rfl, rfl⟩ | ⟨rfl, rfl⟩
    · rw [s.get?_merge_patch_record, s.get?_toJson_record]
      exact VersionStatus.within?_merge_patch _ hrest hleaf
    · rw [s.get?_merge_patch_conditions, s.get?_toJson_conditions]

end DynaKubeStatus

def Json.patched (document : Json) (states : List DynaKubeStatus) : Json :=
  states.foldl (fun document s => merge document (statusPatch s)) document

section Document

variable (document : Json) (s : DynaKubeStatus)

theorem get?_merge_statusPatch (name : String) :
    (merge document (statusPatch s)).get? name =
      Json.changed (document.get? name) (lookup name [("status", s.patch)]) := by
  apply Json.get?_merge
  change ["status"].Nodup
  decide

theorem get?_status_merge_statusPatch :
    (merge document (statusPatch s)).get? "status" =
      some (merge ((document.get? "status").getD .null) s.patch) := by
  rw [get?_merge_statusPatch]
  rfl

theorem get?_merge_statusPatch_of_ne {name : String} (h : name ≠ "status") :
    (merge document (statusPatch s)).get? name = document.get? name := by
  rw [get?_merge_statusPatch, Json.lookup_cons_of_ne (Ne.symm h)]
  rfl

theorem get?_patched_of_ne (states : List DynaKubeStatus) {name : String} (h : name ≠ "status") :
    (document.patched states).get? name = document.get? name := by
  induction states generalizing document with
  | nil => rfl
  | cons s rest ih => exact (ih _).trans (get?_merge_statusPatch_of_ne document s h)

theorem patched_concat (earlier : List DynaKubeStatus) :
    document.patched (earlier ++ [s]) = merge (document.patched earlier) (statusPatch s) := by
  rw [Json.patched, List.foldl_append]
  rfl

/-- After any patches the last state that was written is stored and nothing else: it reads back from
any document, and where any other state may have a value stands what this one has there. Outside the
state the document is as it was. -/
theorem patched_stores_last (earlier : List DynaKubeStatus) {s : DynaKubeStatus}
    (h : s.HasFourDigitYears) :
    ((document.patched (earlier ++ [s])).get? "status").bind DynaKubeStatus.ofJson? = some s ∧
    (∀ name, name ≠ "status" →
      (document.patched (earlier ++ [s])).get? name = document.get? name) ∧
    ∀ (other : DynaKubeStatus) (path : List String) (leaf : Json),
      other.toJson.within? path = some leaf → leaf.object? = none →
        (document.patched (earlier ++ [s])).within? ("status" :: path) =
          s.toJson.within? path := by
  refine ⟨?_, ?_, ?_⟩
  · rw [patched_concat, get?_status_merge_statusPatch, Option.bind_some]
    exact DynaKubeStatus.ofJson?_merge_patch h _
  · intro name hname
    exact get?_patched_of_ne document _ hname
  · intro other path leaf hpath hleaf
    rw [Json.within?, patched_concat, get?_status_merge_statusPatch, Option.bind_some]
    exact DynaKubeStatus.within?_merge_patch _ hpath hleaf

end Document

/-- A version that an earlier state had is gone, and so is a source that is no text. -/
theorem patched_stores_last_leap_second :
    let t : Instant :=
      ⟨⟨2016, 12, 31, by decide, by decide, by decide, by decide⟩, 86399, 1500000000, by decide,
        by decide, by decide⟩
    let document : Json := .object
      [("kind", .text "DynaKube"),
        ("status", .object
          [("activeGate", .text "none"), ("oneAgent", .object [("source", .list [])]),
            ("conditions", .null)])]
    let earlier : List DynaKubeStatus := [{ codeModules := { version := "1.2.3" } }]
    let s : DynaKubeStatus :=
      { oneAgent := { image := "oneagent", lastProbe := some t }
        conditions := [⟨"Ready", .yes, "Checked", "", t⟩] }
    s.HasFourDigitYears ∧
      ((document.patched (earlier ++ [s])).get? "status").bind DynaKubeStatus.ofJson? = some s ∧
      (∀ name, name ≠ "status" →
        (document.patched (earlier ++ [s])).get? name = document.get? name) ∧
      (∀ (other : DynaKubeStatus) (path : List String) (leaf : Json),
        other.toJson.within? path = some leaf → leaf.object? = none →
          (document.patched (earlier ++ [s])).within? ("status" :: path) =
            s.toJson.within? path) ∧
      (document.patched (earlier ++ [s])).within? ["status", "codeModules", "version"] = none ∧
      (document.patched (earlier ++ [s])).within? ["status", "oneAgent", "source"] = none := by
  intro t document earlier s
  have hyear : t.date.HasFourDigitYear := by decide
  have hyears : s.HasFourDigitYears := by
    refine ⟨?_, ?_⟩
    · intro kind probe hprobe
      cases kind with
      | oneAgent => rwa [← Option.some.inj hprobe]
      | activeGate => exact absurd hprobe (by simp [s, DynaKubeStatus.record])
      | codeModules => exact absurd hprobe (by simp [s, DynaKubeStatus.record])
    · intro entry hentry
      rwa [List.mem_singleton.mp hentry]
  obtain ⟨hstored, hothers, hfields⟩ := patched_stores_last document earlier hyears
  refine ⟨hyears, hstored, hothers, hfields, ?_, ?_⟩
  · exact hfields { codeModules := { version := "1.2.3" } } ["codeModules", "version"]
      (.text "1.2.3") rfl rfl
  · exact hfields { oneAgent := { source := some .customImage } } ["oneAgent", "source"]
      (.text "custom-image") rfl rfl

end VersionOperator
