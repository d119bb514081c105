import VersionOperator.Proofs.Json.Merge
import VersionOperator.Proofs.Time.RoundTrip
import VersionOperator.Resource.Decode
import VersionOperator.Resource.Encode

namespace VersionOperator

open Json (lookup)

namespace Json

@[simp] theorem lookup_memberIf {α : Type} (name other : String) (write : α → Json)
    (value : Option α) :
    lookup name (memberIf other write value) = if other = name then value.map write else none := by
  cases value with
  | none => simp [memberIf, lookup]
  | some _ => rfl

@[simp] theorem lookup_memberUnlessEmpty (name other value : String) :
    lookup name (memberUnlessEmpty other value) =
      if other = name ∧ value ≠ "" then some (.text value) else none := by
  by_cases h : value = ""
  · simp [memberUnlessEmpty, lookup, h]
  · simp [memberUnlessEmpty, lookup, h]

end Json

namespace Fields

variable {ms : List (String × Json)} {name : String}

theorem defaulted_named_text {value : String} (place : Nat)
    (h : lookup name ms = if value = "" then none else some (.text value)) :
    (named ms).defaulted place name "" Json.text? = some value := by
  rw [defaulted, find?, h]
  split
  · rename_i hnone
    split at hnone
    · rename_i hempty
      rw [hempty]
    · exact absurd hnone (by simp)
  · rename_i document hsome
    split at hsome
    · exact absurd hsome (by simp)
    · rw [← Option.some.inj hsome, Json.text?]

theorem optional_named_map {α : Type} {read : Json → Option α} {write : α → Json}
    {value : Option α} (place : Nat) (h : lookup name ms = value.map write)
    (hnull : ∀ a, write a ≠ .null) (hread : ∀ a ∈ value, read (write a) = some a) :
    (named ms).optional place name read = some value := by
  rw [optional, find?, h]
  cases value with
  | none => rfl
  | some a =>
    rw [Option.map_some]
    split
    · rename_i hnone
      exact absurd hnone (by simp)
    · rename_i hsome
      exact absurd (Option.some.inj hsome) (hnull a)
    · rename_i document _ hsome
      rw [← Option.some.inj hsome, hread a rfl, Option.map_some]

theorem optional_named_text {value : Option String} (place : Nat)
    (h : lookup name ms = value.map Json.text) :
    (named ms).optional place name Json.text? = some value :=
  optional_named_map place h (fun _ => Json.noConfusion) fun _ _ => rfl

end Fields

theorem all?_map {α β : Type} {read : β → Option α} {write : α → β} {items : List α}
    (h : ∀ item ∈ items, read (write item) = some item) :
    all? read (items.map write) = some items := by
  induction items with
  | nil => rfl
  | cons item rest ih =>
    have hitem := h item List.mem_cons_self
    have hrest := ih fun other hmem => h other (List.mem_cons_of_mem _ hmem)
    rw [List.map_cons, all?, hitem, hrest]

/-- The year is one of the calendar, as all years of four digits are. -/
def Instant.InCalendar (t : Instant) : Prop :=
  Time.isCalendarYear t.date.year = true

instance (t : Instant) : Decidable t.InCalendar :=
  inferInstanceAs (Decidable (_ = true))

theorem Instant.ofJson?_toJson {t : Instant} (h : t.InCalendar) :
    Instant.ofJson? t.toJson = some t := by
  rw [Instant.toJson, Instant.ofJson?, Json.text?, Option.bind_some, Time.read?_write h]

theorem VersionSource.ofJson?_toJson (isNothing : Json → Bool) (source : VersionSource) :
    VersionSource.ofJson? isNothing source.toJson = some source := by
  cases source <;> rfl

theorem Truth.ofJson?_word (truth : Truth) : Truth.ofJson? (.text truth.word) = some truth := by
  cases truth <;> rfl

namespace VersionStatus

def fieldNames : List String := ["version", "imageID", "source", "lastProbeTimestamp"]

/-- The time on record, if there is one, is in a year of four digits. -/
def HasFourDigitYear (s : VersionStatus) : Prop :=
  ∀ t ∈ s.lastProbe, t.date.HasFourDigitYear

def InCalendar (s : VersionStatus) : Prop :=
  ∀ t ∈ s.lastProbe, t.InCalendar

theorem HasFourDigitYear.inCalendar {s : VersionStatus} (h : s.HasFourDigitYear) :
    s.InCalendar := fun t ht => Time.isCalendarYear_of_hasFourDigitYear (h t ht)

variable (isNothing : Json → Bool)

theorem ofFields?_congr {ms ms' : List (String × Json)}
    (h : ∀ name ∈ fieldNames, lookup name ms = lookup name ms') :
    ofFields? isNothing (.named ms) = ofFields? isNothing (.named ms') := by
  have hversion := h "version" (by decide)
  have himage := h "imageID" (by decide)
  have hsource := h "source" (by decide)
  have hprobe := h "lastProbeTimestamp" (by decide)
  simp only [ofFields?, Fields.defaulted, Fields.optional, Fields.find?, hversion, himage, hsource,
    hprobe]

variable (s : VersionStatus)

@[simp] theorem lookup_version :
    lookup "version" s.toJson.members =
      if s.version = "" then none else some (.text s.version) := by
  simp [toJson, Json.members, Json.lookup_append]

@[simp] theorem lookup_imageID :
    lookup "imageID" s.toJson.members = if s.image = "" then none else some (.text s.image) := by
  simp [toJson, Json.members, Json.lookup_append]

@[simp] theorem lookup_source :
    lookup "source" s.toJson.members = s.source.map VersionSource.toJson := by
  simp [toJson, Json.members, Json.lookup_append]

@[simp] theorem lookup_lastProbeTimestamp :
    lookup "lastProbeTimestamp" s.toJson.members = s.lastProbe.map Instant.toJson := by
  simp [toJson, Json.members, Json.lookup_append]

variable {s}

theorem ofFields?_toJson (h : s.InCalendar) :
    ofFields? isNothing (.named s.toJson.members) = some s := by
  have hversion := Fields.defaulted_named_text 0 s.lookup_version
  have himage := Fields.defaulted_named_text 1 s.lookup_imageID
  have hsource := Fields.optional_named_map 2 s.lookup_source (fun _ => Json.noConfusion)
    fun source _ => source.ofJson?_toJson isNothing
  have hprobe := Fields.optional_named_map 3 s.lookup_lastProbeTimestamp
    (fun _ => Json.noConfusion) fun t ht => Instant.ofJson?_toJson (h t ht)
  rw [ofFields?, hversion, himage, hsource, hprobe]
  rfl

theorem ofJson?_toJson (h : s.InCalendar) : ofJson? s.toJson = some s :=
  ofFields?_toJson Json.isNull h

theorem ofComponentJson?_toJson (h : s.InCalendar) : ofComponentJson? s.toJson = some s :=
  ofFields?_toJson Json.isNullOrEmpty h

end VersionStatus

theorem Condition.ofJson?_toJson {entry : Condition} (h : entry.since.InCalendar) :
    Condition.ofJson? entry.toJson = some entry := by
  obtain ⟨type, status, reason, message, since⟩ := entry
  have hsince := Instant.ofJson?_toJson h
  simp [ofJson?, toJson, Json.fields?, Fields.required, Fields.defaulted, Fields.find?, lookup,
    Json.text?, Truth.ofJson?_word, hsince]

namespace Ledger

def HasFourDigitYears (ledger : Ledger) : Prop :=
  ∀ entry ∈ ledger, entry.since.date.HasFourDigitYear

def InCalendar (ledger : Ledger) : Prop :=
  ∀ entry ∈ ledger, entry.since.InCalendar

theorem HasFourDigitYears.inCalendar {ledger : Ledger} (h : ledger.HasFourDigitYears) :
    ledger.InCalendar := fun entry hmem => Time.isCalendarYear_of_hasFourDigitYear (h entry hmem)

theorem ofJson?_toJson {ledger : Ledger} (h : ledger.InCalendar) :
    Ledger.ofJson? (Ledger.toJson ledger) = some ledger := by
  rw [toJson, ofJson?, Json.list?, Option.bind_some]
  exact all?_map fun entry hmem => Condition.ofJson?_toJson (h entry hmem)

end Ledger

namespace DynaKubeStatus

/-- All times in the state are in years of the calendar. -/
structure InCalendar (s : DynaKubeStatus) : Prop where
  record : ∀ kind, (s.record kind).InCalendar
  conditions : s.conditions.InCalendar

theorem ofJson?_toJson {s : DynaKubeStatus} (h : s.InCalendar) : ofJson? s.toJson = some s := by
  have hgate := VersionStatus.ofComponentJson?_toJson (h.record .activeGate)
  have hagent := VersionStatus.ofComponentJson?_toJson (h.record .oneAgent)
  have hmodules := VersionStatus.ofComponentJson?_toJson (h.record .codeModules)
  have hconditions := Ledger.ofJson?_toJson h.conditions
  simp only [record] at hgate hagent hmodules
  simp [ofJson?, toJson, Json.fields?, Fields.defaulted, Fields.find?, lookup, hgate, hagent,
    hmodules, hconditions]

end DynaKubeStatus

theorem HostAgent.ofFields?_members (host : HostAgent) (others : List (String × Json))
    (himage : lookup "image" others = none) (hversion : lookup "version" others = none)
    (hupdate : lookup "autoUpdate" others = none) :
    ofFields? (.named (host.members ++ others)) = some host := by
  have himage' : lookup "image" (host.members ++ others) = host.image.map Json.text := by
    simp [members, Json.lookup_append, himage]
  have hversion' : lookup "version" (host.members ++ others) = host.version.map Json.text := by
    simp [members, Json.lookup_append, hversion]
  have hupdate' : lookup "autoUpdate" (host.members ++ others) = host.autoUpdate.map Json.bool := by
    simp [members, Json.lookup_append, hupdate]
  rw [ofFields?, Fields.optional_named_text 0 himage', Fields.optional_named_text 1 hversion',
    Fields.optional_named_map 2 hupdate' (fun _ => Json.noConfusion) fun _ _ => rfl]
  rfl

theorem HostAgent.ofJson?_toJson (host : HostAgent) : ofJson? host.toJson = some host := by
  have hmembers := host.ofFields?_members [] rfl rfl rfl
  rw [List.append_nil] at hmembers
  exact hmembers

theorem CloudNative.ofJson?_toJson (mode : CloudNative) : ofJson? mode.toJson = some mode := by
  have hfields : mode.toJson.namedFields? = some (.named (mode.host.members ++
      Json.memberIf "codeModulesImage" Json.text mode.codeModulesImage)) := rfl
  have hhost := mode.host.ofFields?_members
    (Json.memberIf "codeModulesImage" Json.text mode.codeModulesImage) (by simp) (by simp) (by simp)
  have himage : lookup "codeModulesImage" (mode.host.members ++
      Json.memberIf "codeModulesImage" Json.text mode.codeModulesImage) =
        mode.codeModulesImage.map Json.text := by
    simp [HostAgent.members, Json.lookup_append]
  simp only [ofJson?, hfields, Option.bind_eq_bind, Option.bind_some, hhost,
    Fields.optional_named_text 1 himage]
  rfl

theorem ApplicationMonitoring.ofJson?_toJson (mode : ApplicationMonitoring) :
    ofJson? mode.toJson = some mode := by
  have hfields : mode.toJson.fields? 2 = some (.named mode.toJson.members) := rfl
  have hversion : lookup "version" mode.toJson.members = mode.version.map Json.text := by
    simp [toJson, Json.members, Json.lookup_append]
  have himage : lookup "codeModulesImage" mode.toJson.members =
      mode.codeModulesImage.map Json.text := by
    simp [toJson, Json.members, Json.lookup_append]
  simp only [ofJson?, hfields, Option.bind_eq_bind, Option.bind_some,
    Fields.optional_named_text 0 hversion, Fields.optional_named_text 1 himage]
  rfl

theorem ActiveGateSpec.ofJson?_toJson (gate : ActiveGateSpec) :
    ofJson? gate.toJson = some gate := by
  have hfields : gate.toJson.fields? 2 = some (.named gate.toJson.members) := rfl
  have hlist : lookup "capabilities" gate.toJson.members =
      some (.list (gate.capabilities.map Json.text)) := by
    simp [toJson, Json.members, lookup]
  have hcapabilities : (Fields.named gate.toJson.members).defaulted 0 "capabilities" []
      (fun items => items.list?.bind (all? Json.text?)) = some gate.capabilities := by
    rw [Fields.defaulted, Fields.find?, hlist]
    exact all?_map fun _ _ => rfl
  have himage : lookup "image" gate.toJson.members = gate.image.map Json.text := by
    simp [toJson, Json.members, lookup]
  simp only [ofJson?, hfields, Option.bind_eq_bind, Option.bind_some, hcapabilities,
    Fields.optional_named_text 1 himage]
  rfl

theorem OneAgentSpec.ofJson?_toJson (modes : OneAgentSpec) : ofJson? modes.toJson = some modes := by
  have hfields : modes.toJson.fields? 4 = some (.named modes.toJson.members) := rfl
  have hclassic : lookup "classicFullStack" modes.toJson.members =
      modes.classicFullStack.map HostAgent.toJson := by
    simp [toJson, Json.members, Json.lookup_append]
  have hcloud : lookup "cloudNativeFullStack" modes.toJson.members =
      modes.cloudNativeFullStack.map CloudNative.toJson := by
    simp [toJson, Json.members, Json.lookup_append]
  have hhost : lookup "hostMonitoring" modes.toJson.members =
      modes.hostMonitoring.map HostAgent.toJson := by
    simp [toJson, Json.members, Json.lookup_append]
  have happlication : lookup "applicationMonitoring" modes.toJson.members =
      modes.applicationMonitoring.map ApplicationMonitoring.toJson := by
    simp [toJson, Json.members, Json.lookup_append]
  simp only [ofJson?, hfields, Option.bind_eq_bind, Option.bind_some,
    Fields.optional_named_map 0 hclassic (fun _ => Json.noConfusion) fun host _ =>
      host.ofJson?_toJson,
    Fields.optional_named_map 1 hcloud (fun _ => Json.noConfusion) fun mode _ =>
      mode.ofJson?_toJson,
    Fields.optional_named_map 2 hhost (fun _ => Json.noConfusion) fun host _ =>
      host.ofJson?_toJson,
    Fields.optional_named_map 3 happlication (fun _ => Json.noConfusion) fun mode _ =>
      mode.ofJson?_toJson]
  rfl

theorem DynaKubeSpec.ofJson?_toJson (spec : DynaKubeSpec) : ofJson? spec.toJson = some spec := by
  have hfields : spec.toJson.fields? 4 = some (.named spec.toJson.members) := rfl
  have hurl : lookup "apiUrl" spec.toJson.members = some (.text spec.apiUrl) := by
    simp [toJson, Json.members, lookup]
  have htokens : lookup "tokens" spec.toJson.members = spec.tokens.map Json.text := by
    simp [toJson, Json.members, lookup, Json.lookup_append]
  have hgate : lookup "activeGate" spec.toJson.members = some spec.activeGate.toJson := by
    simp [toJson, Json.members, lookup, Json.lookup_append]
  have hagent : lookup "oneAgent" spec.toJson.members = some spec.oneAgent.toJson := by
    simp [toJson, Json.members, lookup, Json.lookup_append]
  simp only [ofJson?, hfields, Option.bind_eq_bind, Option.bind_some, Fields.required,
    Fields.defaulted, Fields.find?, hurl, hgate, hagent, Fields.optional_named_text 1 htokens,
    Json.text?, ActiveGateSpec.ofJson?_toJson, OneAgentSpec.ofJson?_toJson]
  rfl

theorem Annotations.ofJson?_toJson (annotations : Annotations) :
    Annotations.ofJson? (Annotations.toJson annotations) = some annotations := by
  rw [toJson, ofJson?, Json.object?, Option.bind_some]
  exact all?_map fun _ _ => rfl

def Metadata.HasWordGeneration (m : Metadata) : Prop :=
  ∀ n ∈ m.generation, -9223372036854775808 ≤ n ∧ n < 9223372036854775808

theorem Metadata.ofJson?_toJson {m : Metadata} (h : m.HasWordGeneration) :
    ofJson? m.toJson = some m := by
  have hfields : m.toJson.namedFields? = some (.named m.toJson.members) := rfl
  have hname : lookup "name" m.toJson.members = m.name.map Json.text := by
    simp [toJson, Json.members, Json.lookup_append]
  have hnamespace : lookup "namespace" m.toJson.members = m.inNamespace.map Json.text := by
    simp [toJson, Json.members, Json.lookup_append]
  have hannotations : lookup "annotations" m.toJson.members =
      m.annotations.map Annotations.toJson := by
    simp [toJson, Json.members, Json.lookup_append]
  have hgeneration : lookup "generation" m.toJson.members = m.generation.map Json.integer := by
    simp [toJson, Json.members, Json.lookup_append]
  have huid : lookup "uid" m.toJson.members = m.uid.map Json.text := by
    simp [toJson, Json.members, Json.lookup_append]
  have hword : ∀ n ∈ m.generation, Json.signedWord? (.integer n) = some n := by
    intro n hn
    obtain ⟨hleast, hmost⟩ := h n hn
    simp [Json.signedWord?, Json.integer?, hleast, hmost]
  simp only [ofJson?, hfields, Option.bind_eq_bind, Option.bind_some,
    Fields.optional_named_text 0 hname, Fields.optional_named_text 1 hnamespace,
    Fields.optional_named_map 2 hannotations (fun _ => Json.noConfusion) fun annotations _ =>
      Annotations.ofJson?_toJson annotations,
    Fields.optional_named_map 3 hgeneration (fun _ => Json.noConfusion) hword,
    Fields.optional_named_text 4 huid]
  rfl

/-- All times in the state are in years of the calendar, and the generation fits into a signed
machine word. -/
structure DynaKube.Fits (dk : DynaKube) : Prop where
  generation : dk.metadata.HasWordGeneration
  status : ∀ status ∈ dk.status, status.InCalendar

theorem DynaKube.ofJson?_toJson {dk : DynaKube} (h : dk.Fits) : ofJson? dk.toJson = some dk := by
  have hfields : dk.toJson.fields? 3 = some (.named dk.toJson.members) := rfl
  have hmetadata : lookup "metadata" dk.toJson.members = some dk.metadata.toJson := by
    simp [toJson, Json.members, lookup]
  have hspec : lookup "spec" dk.toJson.members = some dk.spec.toJson := by
    simp [toJson, Json.members, lookup]
  have hstatus : lookup "status" dk.toJson.members = dk.status.map DynaKubeStatus.toJson := by
    simp [toJson, Json.members, lookup]
  have hread := Fields.optional_named_map 2 hstatus (fun _ => Json.noConfusion) fun status hmem =>
    DynaKubeStatus.ofJson?_toJson (h.status status hmem)
  simp only [ofJson?, hfields, Option.bind_eq_bind, Option.bind_some, Fields.required,
    Fields.find?, hmetadata, hspec, Fields.slot, hread, Metadata.ofJson?_toJson h.generation,
    DynaKubeSpec.ofJson?_toJson]
  rfl

end VersionOperator
