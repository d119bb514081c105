import VersionOperator.Json.Pointer
import VersionOperator.Proofs.Resource.StatusPatch
import VersionOperator.Proofs.Schema.Structural
import VersionOperator.Schema.Definition

namespace VersionOperator.Definition

open Schema
open Json (Unseen)

theorem describes_describedText (description s : String) :
    (describedText description).Describes (.text s) :=
  .text (.inl rfl)

theorem describes_optionalText (description s : String) :
    (optionalText description).Describes (.text s) :=
  .text (.inl rfl)

theorem describes_moment (description : String) (nullable : Bool) (t : Instant) :
    (moment description nullable).Describes t.toJson :=
  .text (.inl rfl)

theorem describes_source (source : VersionSource) : Definition.source.Describes source.toJson := by
  refine .word ?_
  cases source <;> simp

theorem describes_record (description : String) (s : VersionStatus) :
    (record description).Describes s.toJson := by
  refine Declares.describes_object ?_ nofun
  refine .append (.append (.append ?_ ?_) ?_) ?_
  · exact declares_memberUnlessEmpty rfl (describes_describedText _ _)
  · exact declares_memberUnlessEmpty rfl (describes_describedText _ _)
  · exact declares_memberIf rfl fun source _ => describes_source source
  · exact declares_memberIf rfl fun t _ => describes_moment _ _ t

theorem describes_condition (entry : Condition) : condition.Describes entry.toJson := by
  have hword : entry.status.word ∈ [Truth.yes.word, Truth.no.word, Truth.unknown.word] := by
    cases entry.status <;> simp
  refine Declares.describes_object ?_ (by simp)
  refine .cons rfl (describes_describedText _ _) ?_
  refine .cons rfl (.text (.inr hword)) ?_
  refine .cons rfl (describes_describedText _ _) ?_
  refine .cons rfl (.text (.inl rfl)) ?_
  exact .cons rfl (describes_moment _ _ _) declares_nil

theorem describes_status (s : DynaKubeStatus) : status.Describes s.toJson := by
  have hconditions : ∀ entry ∈ s.conditions.map Condition.toJson, condition.Describes entry := by
    intro document hmem
    obtain ⟨entry, -, rfl⟩ := List.mem_map.mp hmem
    exact describes_condition entry
  refine Declares.describes_object ?_ nofun
  refine .cons rfl (describes_record _ _) ?_
  refine .cons rfl (describes_record _ _) ?_
  refine .cons rfl (describes_record _ _) ?_
  exact .cons rfl (.list hconditions) declares_nil

structure HasHostAgent (properties : List (String × Schema)) : Prop where
  image : properties.lookup "image" = some (optionalText "Custom OneAgent image")
  version : properties.lookup "version" = some (optionalText "Pinned OneAgent version")
  autoUpdate :
    properties.lookup "autoUpdate" = some (.boolean {
      description := some "Automatically follow the latest version (default: true)"
      nullable := true })

theorem hasHostAgent_hostAgentProperties : HasHostAgent hostAgentProperties :=
  ⟨rfl, rfl, rfl⟩

theorem hasHostAgent_cloudNative : HasHostAgent cloudNative.properties :=
  ⟨rfl, rfl, rfl⟩

theorem HasHostAgent.declares {properties : List (String × Schema)} (h : HasHostAgent properties)
    (host : HostAgent) : Declares properties host.members := by
  refine .append (.append ?_ ?_) ?_
  · exact declares_memberIf h.image fun s _ => describes_optionalText _ s
  · exact declares_memberIf h.version fun s _ => describes_optionalText _ s
  · exact declares_memberIf h.autoUpdate fun _ _ => .boolean

theorem describes_hostAgentMode (description : String) (host : HostAgent) :
    (hostAgentMode description).Describes host.toJson :=
  (hasHostAgent_hostAgentProperties.declares host).describes_object nofun

theorem describes_cloudNative (mode : CloudNative) : cloudNative.Describes mode.toJson := by
  refine Declares.describes_object ?_ nofun
  refine .append (hasHostAgent_cloudNative.declares mode.host) ?_
  exact declares_memberIf rfl fun s _ => describes_optionalText _ s

theorem describes_applicationMonitoring (mode : ApplicationMonitoring) :
    applicationMonitoring.Describes mode.toJson := by
  refine Declares.describes_object (.append ?_ ?_) nofun
  · exact declares_memberIf rfl fun s _ => describes_optionalText _ s
  · exact declares_memberIf rfl fun s _ => describes_optionalText _ s

theorem describes_oneAgent (modes : OneAgentSpec) : oneAgent.Describes modes.toJson := by
  refine Declares.describes_object ?_ nofun
  refine .append (.append (.append ?_ ?_) ?_) ?_
  · exact declares_memberIf rfl fun host _ => describes_hostAgentMode _ host
  · exact declares_memberIf rfl fun mode _ => describes_cloudNative mode
  · exact declares_memberIf rfl fun host _ => describes_hostAgentMode _ host
  · exact declares_memberIf rfl fun mode _ => describes_applicationMonitoring mode

theorem describes_activeGate (gate : ActiveGateSpec) : activeGate.Describes gate.toJson := by
  have hcapabilities : ∀ document ∈ gate.capabilities.map Json.text,
      (Schema.text {} none []).Describes document := by
    intro document hmem
    obtain ⟨s, -, rfl⟩ := List.mem_map.mp hmem
    exact .text (.inl rfl)
  refine Declares.describes_object ?_ nofun
  refine .cons rfl (.list hcapabilities) ?_
  exact declares_memberIf rfl fun s _ => describes_optionalText _ s

theorem describes_spec (s : DynaKubeSpec) : spec.Describes s.toJson := by
  refine Declares.describes_object ?_ (by simp)
  refine .cons rfl (describes_describedText _ _) ?_
  refine .append ?_ ?_
  · exact declares_memberIf rfl fun s _ => describes_optionalText _ s
  · exact .cons rfl (describes_activeGate _) (.cons rfl (describes_oneAgent _) declares_nil)

/-- The members of a resource that the server knows without being told. -/
def everyResource : List String := ["apiVersion", "kind", "metadata"]

def ownMembers (ms : List (String × Json)) : List (String × Json) :=
  ms.filter fun m => m.1 ∉ everyResource

def own : Json → Json :=
  overMembers ownMembers

/-- The resource as the server keeps it: what it does not know is taken away. -/
def prune : Json → Json :=
  overMembers fun ms =>
    ms.flatMap fun m => if m.1 ∈ everyResource then [m] else pruneMembers schema.properties [m]

theorem prune_eq_self {ms : List (String × Json)}
    (h : Declares schema.properties (ownMembers ms)) : prune (.object ms) = .object ms := by
  have hmember : ∀ m ∈ ms,
      (if m.1 ∈ everyResource then [m] else pruneMembers schema.properties [m]) = [m] := by
    intro m hmem
    split
    · rfl
    · rename_i hown
      obtain ⟨form, hform, hvalue⟩ := h m (List.mem_filter.mpr ⟨hmem, decide_eq_true hown⟩)
      apply pruneMembers_eq_self
      intro other hother
      obtain rfl := List.mem_singleton.mp hother
      exact ⟨form, hform, hvalue.prune_eq_self⟩
  rw [prune, overMembers, List.flatMap_congr hmember, List.flatMap_singleton']

theorem ownMembers_toJson (dk : DynaKube) :
    ownMembers dk.toJson.members =
      ("spec", dk.spec.toJson) :: Json.memberIf "status" DynaKubeStatus.toJson dk.status := by
  obtain ⟨metadata, spec, status⟩ := dk
  cases status <;> simp [ownMembers, everyResource, DynaKube.toJson, Json.members, Json.memberIf]

theorem declares_ownMembers (dk : DynaKube) :
    Declares schema.properties (ownMembers dk.toJson.members) := by
  rw [ownMembers_toJson]
  refine .cons rfl (describes_spec dk.spec) ?_
  exact declares_memberIf rfl fun status _ => describes_status status

theorem describes_own (dk : DynaKube) : schema.Describes (own dk.toJson) := by
  refine (declares_ownMembers dk).describes_object ?_
  rw [ownMembers_toJson]
  simp

theorem prune_toJson (dk : DynaKube) : prune dk.toJson = dk.toJson :=
  prune_eq_self (declares_ownMembers dk)

def sourcePath (kind : ComponentKind) : List Step :=
  [.member "status", .member (DynaKubeStatus.recordName kind), .member "source"]

theorem at?_sourcePath (kind : ComponentKind) :
    schema.at? (sourcePath kind) = some Definition.source := by
  cases kind <;> rfl

theorem untyped_schema :
    schema.untyped =
      [sourcePath .activeGate, sourcePath .codeModules, sourcePath .oneAgent] := by
  rfl

theorem type?_eq_none_iff {path : List Step} {form : Schema} (hform : schema.at? path = some form) :
    form.type? = none ↔ ∃ kind, path = sourcePath kind := by
  constructor
  · intro htype
    have hpath := mem_untyped hform htype
    rw [untyped_schema] at hpath
    simp only [List.mem_cons, List.not_mem_nil, or_false] at hpath
    rcases hpath with rfl | rfl | rfl
    · exact ⟨.activeGate, rfl⟩
    · exact ⟨.codeModules, rfl⟩
    · exact ⟨.oneAgent, rfl⟩
  · rintro ⟨kind, rfl⟩
    obtain rfl := Option.some.inj ((at?_sourcePath kind).symm.trans hform)
    rfl

theorem mem_memberIf {α : Type} {name other : String} {write : α → Json} {given : Option α}
    {value : Json} :
    (name, value) ∈ Json.memberIf other write given ↔
      name = other ∧ ∃ a ∈ given, value = write a := by
  cases given <;> simp [Json.memberIf]

theorem mem_members_record (s : DynaKubeStatus) (kind : ComponentKind) (value : Json) :
    (DynaKubeStatus.recordName kind, value) ∈ s.toJson.members ↔
      value = (s.record kind).toJson := by
  cases kind <;>
    simp [DynaKubeStatus.recordName, DynaKubeStatus.record, DynaKubeStatus.toJson, Json.members]

theorem mem_members_source (s : VersionStatus) (value : Json) :
    ("source", value) ∈ s.toJson.members ↔ ∃ source ∈ s.source, value = source.toJson := by
  have hunless (other given : String) (h : "source" ≠ other) :
      ("source", value) ∉ Json.memberUnlessEmpty other given := by
    rw [Json.memberUnlessEmpty]
    split <;> simp [h]
  simp [VersionStatus.toJson, Json.members, mem_memberIf, hunless]

/-- A source is written exactly for the components that have one on record. -/
theorem holds_source_iff (dk : DynaKube) (kind : ComponentKind) (part : Json) :
    (own dk.toJson).Holds (sourcePath kind) part ↔
      ∃ status ∈ dk.status, ∃ source ∈ (status.record kind).source, part = source.toJson := by
  have hmembers : (own dk.toJson).members =
      ("spec", dk.spec.toJson) :: Json.memberIf "status" DynaKubeStatus.toJson dk.status :=
    ownMembers_toJson dk
  have hstatus (value : Json) : ("status", value) ∈ (own dk.toJson).members ↔
      ∃ status ∈ dk.status, value = status.toJson := by
    simp [hmembers, mem_memberIf]
  simp only [sourcePath, Json.holds_member_iff, Json.holds_nil_iff, hstatus]
  constructor
  · rintro ⟨_, ⟨status, hstatus, rfl⟩, _, hrecord, _, hsource, rfl⟩
    obtain rfl := (mem_members_record status kind _).mp hrecord
    exact ⟨status, hstatus, (mem_members_source _ part).mp hsource⟩
  · rintro ⟨status, hstatus, hsource⟩
    refine ⟨status.toJson, ⟨status, hstatus, rfl⟩, ?_⟩
    refine ⟨(status.record kind).toJson, (mem_members_record status kind _).mpr rfl, part, ?_, rfl⟩
    exact (mem_members_source _ part).mpr hsource

theorem declares_part (dk : DynaKube) {path : List Step} {part : Json}
    (h : (own dk.toJson).Holds path part) :
    ∃ form, schema.at? path = some form ∧
      (form.Takes part ∨ form.Offers part ∧ ∃ kind, path = sourcePath kind) := by
  obtain ⟨form, hform, hpart⟩ := (describes_own dk).at? h
  refine ⟨form, hform, hpart.takes_or_offers.imp_right ?_⟩
  intro hoffers
  exact ⟨hoffers, (type?_eq_none_iff hform).mp hoffers.type?_eq_none⟩

theorem takesWhole_iff (dk : DynaKube) :
    schema.TakesWhole (own dk.toJson) ↔
      ∀ status ∈ dk.status, ∀ kind, (status.record kind).source = none := by
  constructor
  · intro htaken status hstatus kind
    rw [Option.eq_none_iff_forall_not_mem]
    intro source hsource
    obtain ⟨form, hform, htakes⟩ := htaken _ _ <|
      (holds_source_iff dk kind source.toJson).mpr ⟨status, hstatus, source, hsource, rfl⟩
    exact htakes.type?_ne_none ((type?_eq_none_iff hform).mpr ⟨kind, rfl⟩)
  · intro hnone path part hpart
    obtain ⟨form, hform, htakes | ⟨-, kind, rfl⟩⟩ := declares_part dk hpart
    · exact ⟨form, hform, htakes⟩
    · obtain ⟨status, hstatus, source, hsource, -⟩ := (holds_source_iff dk kind part).mp hpart
      exact absurd (hsource.symm.trans (hnone status hstatus kind)) nofun

section Filled

variable (ms : List (String × Json))

theorem record_filled (description : String) (isNothing : Json → Bool) :
    VersionStatus.ofFields? isNothing (.named (fillProperties (record description).properties ms)) =
      VersionStatus.ofFields? isNothing (.named ms) := by
  have hnodup : ((record description).properties.map Prod.fst).Nodup := by simp [record, properties]
  have hversion := defaulted_filled hnodup ms 0 "version" "" rfl (by rintro _ (_ | _))
    (unseen_text _ _ _ Json.text?)
  have himage := defaulted_filled hnodup ms 1 "imageID" "" rfl (by rintro _ (_ | _))
    (unseen_text _ _ _ Json.text?)
  have hsource := optional_filled hnodup ms 2 "source" rfl rfl
    (unseen_wordOrNull _ _ _ (VersionSource.ofJson? isNothing))
  have hprobe := optional_filled hnodup ms 3 "lastProbeTimestamp" rfl rfl
    (unseen_text _ _ _ Instant.ofJson?)
  rw [VersionStatus.ofFields?, VersionStatus.ofFields?, hversion, himage, hsource, hprobe]

theorem unseen_record (description : String) :
    Unseen (record description).Fills VersionStatus.ofComponentJson? :=
  unseen_object _ _ fun ms => record_filled ms description Json.isNullOrEmpty

theorem condition_filled :
    Condition.ofJson? (.object (fillProperties condition.properties ms)) =
      Condition.ofJson? (.object ms) := by
  have hnodup : (condition.properties.map Prod.fst).Nodup := by decide
  have htype := required_filled hnodup ms 0 "type" rfl rfl (unseen_text _ _ _ Json.text?)
  have hstatus := required_filled hnodup ms 1 "status" rfl rfl (unseen_text _ _ _ Truth.ofJson?)
  have hreason := required_filled hnodup ms 2 "reason" rfl rfl (unseen_text _ _ _ Json.text?)
  have hmessage := defaulted_filled hnodup ms 3 "message" "" rfl (by rintro _ (_ | _); rfl)
    (unseen_text _ _ _ Json.text?)
  have hsince := required_filled hnodup ms 4 "lastTransitionTime" rfl rfl
    (unseen_text _ _ _ Instant.ofJson?)
  simp only [Condition.ofJson?, Json.fields?, Option.bind_eq_bind, Option.bind_some, htype, hstatus,
    hreason, hmessage, hsince]

theorem unseen_condition : Unseen condition.Fills Condition.ofJson? :=
  unseen_object _ _ condition_filled

theorem status_filled :
    DynaKubeStatus.ofJson? (.object (fillProperties status.properties ms)) =
      DynaKubeStatus.ofJson? (.object ms) := by
  have hnodup : (status.properties.map Prod.fst).Nodup := by decide
  have hgate := defaulted_filled hnodup ms 0 "activeGate" {} rfl (by rintro _ (_ | _); rfl)
    (unseen_record _)
  have hagent := defaulted_filled hnodup ms 1 "oneAgent" {} rfl (by rintro _ (_ | _); rfl)
    (unseen_record _)
  have hmodules := defaulted_filled hnodup ms 2 "codeModules" {} rfl (by rintro _ (_ | _); rfl)
    (unseen_record _)
  have hconditions : (Fields.named (fillProperties status.properties ms)).defaulted 3 "conditions"
      [] Ledger.ofJson? = (Fields.named ms).defaulted 3 "conditions" [] Ledger.ofJson? :=
    defaulted_filled hnodup ms 3 "conditions" [] rfl (by rintro _ (_ | _); rfl)
      (unseen_list _ unseen_condition)
  simp only [DynaKubeStatus.ofJson?, Json.fields?, Option.bind_eq_bind, Option.bind_some, hgate,
    hagent, hmodules, hconditions]

theorem hostAgent_filled {properties : List (String × Schema)} (h : HasHostAgent properties)
    (hnodup : (properties.map Prod.fst).Nodup) :
    HostAgent.ofFields? (.named (fillProperties properties ms)) =
      HostAgent.ofFields? (.named ms) := by
  have himage := optional_filled hnodup ms 0 "image" h.image rfl (unseen_text _ _ _ Json.text?)
  have hversion := optional_filled hnodup ms 1 "version" h.version rfl
    (unseen_text _ _ _ Json.text?)
  have hupdate := optional_filled hnodup ms 2 "autoUpdate" h.autoUpdate rfl
    (unseen_boolean _ Json.bool?)
  rw [HostAgent.ofFields?, HostAgent.ofFields?, himage, hversion, hupdate]

theorem unseen_hostAgentMode (description : String) :
    Unseen (hostAgentMode description).Fills HostAgent.ofJson? :=
  unseen_object _ _ fun ms => hostAgent_filled ms hasHostAgent_hostAgentProperties (by decide)

theorem cloudNative_filled :
    CloudNative.ofJson? (.object (fillProperties cloudNative.properties ms)) =
      CloudNative.ofJson? (.object ms) := by
  have hnodup : (cloudNative.properties.map Prod.fst).Nodup := by decide
  have hhost := hostAgent_filled ms hasHostAgent_cloudNative hnodup
  have himage := optional_filled hnodup ms 1 "codeModulesImage" rfl rfl
    (unseen_text _ _ _ Json.text?)
  simp only [CloudNative.ofJson?, Json.namedFields?, Option.bind_eq_bind, Option.bind_some, hhost,
    himage]

theorem unseen_cloudNative : Unseen cloudNative.Fills CloudNative.ofJson? :=
  unseen_object _ _ cloudNative_filled

theorem applicationMonitoring_filled :
    ApplicationMonitoring.ofJson? (.object (fillProperties applicationMonitoring.properties ms)) =
      ApplicationMonitoring.ofJson? (.object ms) := by
  have hnodup : (applicationMonitoring.properties.map Prod.fst).Nodup := by decide
  have hversion := optional_filled hnodup ms 0 "version" rfl rfl (unseen_text _ _ _ Json.text?)
  have himage := optional_filled hnodup ms 1 "codeModulesImage" rfl rfl
    (unseen_text _ _ _ Json.text?)
  simp only [ApplicationMonitoring.ofJson?, Json.fields?, Option.bind_eq_bind, Option.bind_some,
    hversion, himage]

theorem unseen_applicationMonitoring :
    Unseen applicationMonitoring.Fills ApplicationMonitoring.ofJson? :=
  unseen_object _ _ applicationMonitoring_filled

theorem oneAgent_filled :
    OneAgentSpec.ofJson? (.object (fillProperties oneAgent.properties ms)) =
      OneAgentSpec.ofJson? (.object ms) := by
  have hnodup : (oneAgent.properties.map Prod.fst).Nodup := by decide
  have hclassic := optional_filled hnodup ms 0 "classicFullStack" rfl rfl (unseen_hostAgentMode _)
  have hcloud := optional_filled hnodup ms 1 "cloudNativeFullStack" rfl rfl unseen_cloudNative
  have hhost := optional_filled hnodup ms 2 "hostMonitoring" rfl rfl (unseen_hostAgentMode _)
  have happlication := optional_filled hnodup ms 3 "applicationMonitoring" rfl rfl
    unseen_applicationMonitoring
  simp only [OneAgentSpec.ofJson?, Json.fields?, Option.bind_eq_bind, Option.bind_some, hclassic,
    hcloud, hhost, happlication]

theorem unseen_oneAgent : Unseen oneAgent.Fills OneAgentSpec.ofJson? :=
  unseen_object _ _ oneAgent_filled

theorem activeGate_filled :
    ActiveGateSpec.ofJson? (.object (fillProperties activeGate.properties ms)) =
      ActiveGateSpec.ofJson? (.object ms) := by
  have hnodup : (activeGate.properties.map Prod.fst).Nodup := by decide
  have hcapabilities := defaulted_filled hnodup ms 0 "capabilities" [] rfl
    (by rintro _ (_ | _); rfl) (unseen_list _ (unseen_text _ _ _ Json.text?))
  have himage := optional_filled hnodup ms 1 "image" rfl rfl (unseen_text _ _ _ Json.text?)
  simp only [ActiveGateSpec.ofJson?, Json.fields?, Option.bind_eq_bind, Option.bind_some,
    hcapabilities, himage]

theorem unseen_activeGate : Unseen activeGate.Fills ActiveGateSpec.ofJson? :=
  unseen_object _ _ activeGate_filled

theorem spec_filled :
    DynaKubeSpec.ofJson? (.object (fillProperties spec.properties ms)) =
      DynaKubeSpec.ofJson? (.object ms) := by
  have hnodup : (spec.properties.map Prod.fst).Nodup := by decide
  have hurl := required_filled hnodup ms 0 "apiUrl" rfl rfl (unseen_text _ _ _ Json.text?)
  have htokens := optional_filled hnodup ms 1 "tokens" rfl rfl (unseen_text _ _ _ Json.text?)
  have hgate := defaulted_filled hnodup ms 2 "activeGate" {} rfl (by rintro _ (_ | _); rfl)
    unseen_activeGate
  have hagent := defaulted_filled hnodup ms 3 "oneAgent" {} rfl (by rintro _ (_ | _); rfl)
    unseen_oneAgent
  simp only [DynaKubeSpec.ofJson?, Json.fields?, Option.bind_eq_bind, Option.bind_some, hurl,
    htokens, hgate, hagent]

end Filled

/-- What is written of a resource is declared in its definition part by part, taken by the type
that stands there, and left whole by pruning, but a source has a choice of words in the place of a
type: so a resource is taken whole as long as no component has a source on record. A specification
and a state read alike whether the server has filled in the defaults or not. -/
theorem definition_agrees_with_documents (dk : DynaKube) :
    Definition.document.at? "/spec/versions/0/schema/openAPIV3Schema" = some schema.toJson ∧
      (∀ path, schema.toJson.declared? path = (schema.at? path).map Schema.toJson) ∧
      (∀ path form, schema.at? path = some form →
        form.toJson.get? "type" = form.type?.map .text ∧
          (form.type? = none ↔ ∃ kind, path = sourcePath kind)) ∧
      (∀ path part, (own dk.toJson).Holds path part →
        ∃ form, schema.at? path = some form ∧
          (form.Takes part ∨ form.Offers part ∧ ∃ kind, path = sourcePath kind)) ∧
      (schema.TakesWhole (own dk.toJson) ↔
        ∀ status ∈ dk.status, ∀ kind, (status.record kind).source = none) ∧
      Definition.prune dk.toJson = dk.toJson ∧
      (∀ document, DynaKubeSpec.ofJson? (spec.fill document) = DynaKubeSpec.ofJson? document) ∧
      ∀ document, DynaKubeStatus.ofJson? (status.fill document) =
        DynaKubeStatus.ofJson? document := by
  refine ⟨rfl, fun path => declared?_toJson path schema, ?_, ?_, takesWhole_iff dk, prune_toJson dk,
    ?_, ?_⟩
  · intro path form hform
    exact ⟨get?_type form, type?_eq_none_iff hform⟩
  · intro path part hpart
    exact declares_part dk hpart
  · intro document
    exact (unseen_object _ _ spec_filled).read_eq rfl
  · intro document
    exact (unseen_object _ _ status_filled).read_eq rfl

/-- The state has all its parts, so all its sources are offered and all the rest is taken; it reads
back as it was. Without the state all is taken. -/
theorem definition_agrees_with_documents_observed :
    let t : Instant :=
      ⟨⟨2024, 1, 1, by decide, by decide, by decide, by decide⟩, 0, 0, by decide, by decide,
        by decide⟩
    let record : VersionStatus :=
      { version := "1.2.3"
        image := "registry.example/linux/oneagent:1.2.3"
        source := some .tenantRegistry
        lastProbe := some t }
    let status : DynaKubeStatus :=
      { activeGate := record
        oneAgent := { record with source := some .customImage }
        codeModules := { record with source := some .customVersion }
        conditions := [⟨"OneAgentVersion", .yes, "Verified", "", t⟩] }
    let dk : DynaKube :=
      { metadata := { name := some "dynakube" }
        spec :=
          { apiUrl := "https://tenant.example/api"
            activeGate := { capabilities := ["routing"] }
            oneAgent := { cloudNativeFullStack := some {} } }
        status := some status }
    (∀ path part, (own dk.toJson).Holds path part →
      ∃ form, schema.at? path = some form ∧
        (form.Takes part ∨ form.Offers part ∧ ∃ kind, path = sourcePath kind)) ∧
      (∀ kind, ∃ part, (own dk.toJson).Holds (sourcePath kind) part) ∧
      Definition.prune dk.toJson = dk.toJson ∧
      DynaKubeSpec.ofJson? (Definition.spec.fill dk.spec.toJson) = some dk.spec ∧
      DynaKubeStatus.ofJson? (Definition.status.fill status.toJson) = some status ∧
      schema.TakesWhole (own { dk with status := none }.toJson) := by
  intro t record status dk
  have hcalendar : status.InCalendar := by
    constructor
    · rintro (_ | _ | _) t' ht <;>
        obtain rfl : t = t' := Option.some.inj ht <;> decide
    · intro entry hmem
      obtain rfl := List.mem_singleton.mp hmem
      decide
  obtain ⟨-, -, -, hparts, -, hprune, hspec, hstatus⟩ := definition_agrees_with_documents dk
  obtain ⟨-, -, -, -, hwhole, -⟩ := definition_agrees_with_documents { dk with status := none }
  refine ⟨hparts, ?_, hprune, ?_, ?_, ?_⟩
  · intro kind
    cases kind <;> exact ⟨_, (holds_source_iff dk _ _).mpr ⟨status, rfl, _, rfl, rfl⟩⟩
  · exact (hspec _).trans (DynaKubeSpec.ofJson?_toJson dk.spec)
  · exact (hstatus _).trans (DynaKubeStatus.ofJson?_toJson hcalendar)
  · exact hwhole.mpr fun _ hmem => absurd hmem (Option.not_mem_none _)

/-- The source of a version on record stands where no type is declared. The time of the last probe,
which may be left out too, and the status of a condition, which is one of a few words too, have a
type. -/
theorem recorded_source_is_untyped :
    let record : VersionStatus := { version := "1.2.3", source := some .tenantRegistry }
    let dk : DynaKube :=
      { metadata := {}
        spec := { apiUrl := "https://tenant.example/api" }
        status := some { oneAgent := record } }
    let parts := Definition.document.at?
      "/spec/versions/0/schema/openAPIV3Schema/properties/status/properties"
    (own dk.toJson).Holds (sourcePath .oneAgent) (.text "tenant-registry") ∧
      parts.bind (Json.at? "/oneAgent/properties/source/type") = none ∧
      parts.bind (Json.at? "/oneAgent/properties/lastProbeTimestamp/type") =
        some (.text "string") ∧
      parts.bind (Json.at? "/conditions/items/properties/status/type") = some (.text "string") ∧
      ¬ schema.TakesWhole (own dk.toJson) := by
  intro record dk parts
  refine ⟨?_, rfl, rfl, rfl, ?_⟩
  · exact (holds_source_iff dk .oneAgent _).mpr ⟨_, rfl, .tenantRegistry, rfl, rfl⟩
  · intro htaken
    have hnone := (takesWhole_iff dk).mp htaken _ rfl .oneAgent
    exact absurd hnone (Option.some_ne_none _)

end VersionOperator.Definition
