import Mathlib.Data.List.Forall2
import VersionOperator.Resource.Decode

namespace VersionOperator

namespace Json

/-- The names of the fields of a structure, and how the value of each may grow. -/
abbrev Known := List (String × (Json → Json → Prop))

/-- Members with others added to them whose names are not known. -/
inductive MembersGrow (known : Known) : List (String × Json) → List (String × Json) → Prop
  | nil : MembersGrow known [] []
  | added {name : String} {value : Json} {ms ms' : List (String × Json)}
      (hname : known.lookup name = none) (hrest : MembersGrow known ms ms') :
      MembersGrow known ms ((name, value) :: ms')
  | unknown {name : String} {value : Json} {ms ms' : List (String × Json)}
      (hname : known.lookup name = none) (hrest : MembersGrow known ms ms') :
      MembersGrow known ((name, value) :: ms) ((name, value) :: ms')
  | known {name : String} {grows : Json → Json → Prop} {value value' : Json}
      {ms ms' : List (String × Json)} (hname : known.lookup name = some grows)
      (hvalue : grows value value') (hrest : MembersGrow known ms ms') :
      MembersGrow known ((name, value) :: ms) ((name, value') :: ms')

/-- A document with unknown fields added to it, if it is an object. -/
inductive Grows (known : Known) : Json → Json → Prop
  | same (document : Json) : Grows known document document
  | object {ms ms' : List (String × Json)} (hmembers : MembersGrow known ms ms') :
      Grows known (.object ms) (.object ms')

/-- A document with items that may each have grown, if it is a list. -/
inductive ItemsGrow (grows : Json → Json → Prop) : Json → Json → Prop
  | same (document : Json) : ItemsGrow grows document document
  | list {items items' : List Json} (hitems : List.Forall₂ grows items items') :
      ItemsGrow grows (.list items) (.list items')

/-- A reading does not see how a document grows. What is null stays so, and nothing else becomes
null. -/
structure Unseen {α : Type} (grows : Json → Json → Prop) (read : Json → Option α) : Prop where
  read_eq : ∀ {a b}, grows a b → read b = read a
  null_iff : ∀ {a b}, grows a b → (b = .null ↔ a = .null)

variable {α : Type} {read : Json → Option α} {known : Known} {grows : Json → Json → Prop}
  {ms ms' : List (String × Json)} {name : String}

theorem unseen_eq (read : Json → Option α) : Unseen Eq read := by
  constructor
  · rintro a b rfl
    rfl
  · rintro a b rfl
    rfl

theorem ne_of_unknown {other : String} (hother : known.lookup other = none)
    (hname : known.lookup name = some grows) : other ≠ name := by
  rintro rfl
  exact absurd (hother.symm.trans hname) nofun

theorem MembersGrow.lookup (h : MembersGrow known ms ms') (hname : known.lookup name = some grows) :
    Option.Rel grows (Json.lookup name ms) (Json.lookup name ms') := by
  induction h with
  | nil => exact .none
  | added hother _ ih =>
    rw [Json.lookup, if_neg (ne_of_unknown hother hname)]
    exact ih
  | unknown hother _ ih =>
    have hne := ne_of_unknown hother hname
    rw [Json.lookup, Json.lookup, if_neg hne, if_neg hne]
    exact ih
  | @known other grows' value value' ms ms' hother hvalue _ ih =>
    rcases Decidable.em (other = name) with rfl | hne
    · obtain rfl := Option.some.inj (hother.symm.trans hname)
      rw [Json.lookup, Json.lookup, if_pos rfl, if_pos rfl]
      exact .some hvalue
    · rw [Json.lookup, Json.lookup, if_neg hne, if_neg hne]
      exact ih

end Json

open Json (Known MembersGrow Grows ItemsGrow Unseen)

namespace Fields

variable {α : Type} {read : Json → Option α} {known : Known} {grows : Json → Json → Prop}
  {ms ms' : List (String × Json)} {name : String}

section Rel

variable {before after : Fields} {place : Nat}

theorem required_of_rel
    (h : Option.Rel grows (before.find? place name) (after.find? place name))
    (hread : Unseen grows read) :
    after.required place name read = before.required place name read := by
  simp only [required]
  generalize before.find? place name = given, after.find? place name = given' at h
  cases h with
  | none => rfl
  | some hgrows => exact hread.read_eq hgrows

theorem defaulted_of_rel {default : α}
    (h : Option.Rel grows (before.find? place name) (after.find? place name))
    (hread : Unseen grows read) :
    after.defaulted place name default read = before.defaulted place name default read := by
  simp only [defaulted]
  generalize before.find? place name = given, after.find? place name = given' at h
  cases h with
  | none => rfl
  | some hgrows => exact hread.read_eq hgrows

theorem optional_of_none {fields : Fields} (h : fields.find? place name = none) :
    fields.optional place name read = some none := by
  rw [optional, h]

theorem optional_of_null {fields : Fields} (h : fields.find? place name = some .null) :
    fields.optional place name read = some none := by
  rw [optional, h]

theorem optional_of_ne_null {fields : Fields} {document : Json}
    (h : fields.find? place name = some document) (hnull : document ≠ .null) :
    fields.optional place name read = (read document).map some := by
  rw [optional, h]
  split
  · rename_i hnone
    exact absurd hnone nofun
  · rename_i hsome
    exact absurd (Option.some.inj hsome) hnull
  · rename_i hsome
    rw [Option.some.inj hsome]

theorem optional_of_rel
    (h : Option.Rel grows (before.find? place name) (after.find? place name))
    (hread : Unseen grows read) :
    after.optional place name read = before.optional place name read := by
  generalize hbefore : before.find? place name = given,
    hafter : after.find? place name = given' at h
  cases h with
  | none => rw [optional_of_none hbefore, optional_of_none hafter]
  | @some a b hgrows =>
    rcases Classical.em (a = .null) with hnull | hnull
    · rw [hnull] at hbefore
      rw [(hread.null_iff hgrows).mpr hnull] at hafter
      rw [optional_of_null hbefore, optional_of_null hafter]
    · have hnull' : b ≠ .null := fun hb => hnull ((hread.null_iff hgrows).mp hb)
      rw [optional_of_ne_null hbefore hnull, optional_of_ne_null hafter hnull',
        hread.read_eq hgrows]

end Rel

theorem required_grown (h : MembersGrow known ms ms') (place : Nat) (name : String)
    (hname : known.lookup name = some grows) (hread : Unseen grows read) :
    (named ms').required place name read = (named ms).required place name read :=
  required_of_rel (h.lookup hname) hread

theorem defaulted_grown (h : MembersGrow known ms ms') (place : Nat) (name : String) (default : α)
    (hname : known.lookup name = some grows) (hread : Unseen grows read) :
    (named ms').defaulted place name default read =
      (named ms).defaulted place name default read :=
  defaulted_of_rel (h.lookup hname) hread

theorem optional_grown (h : MembersGrow known ms ms') (place : Nat) (name : String)
    (hname : known.lookup name = some grows) (hread : Unseen grows read) :
    (named ms').optional place name read = (named ms).optional place name read :=
  optional_of_rel (h.lookup hname) hread

end Fields

section Reading

variable {α : Type} {known : Known} {grows : Json → Json → Prop}

theorem Json.Grows.null_iff {a b : Json} (h : Grows known a b) : b = .null ↔ a = .null := by
  cases h with
  | same _ => exact Iff.rfl
  | object _ => exact ⟨nofun, nofun⟩

theorem unseen_fields? (count : Nat) {read : Fields → Option α}
    (hread : ∀ {ms ms'}, MembersGrow known ms ms' → read (.named ms') = read (.named ms)) :
    Unseen (Grows known) fun document => (document.fields? count).bind read := by
  constructor
  · rintro a b (_ | hmembers)
    · rfl
    · exact hread hmembers
  · exact fun h => h.null_iff

theorem unseen_namedFields? {read : Fields → Option α}
    (hread : ∀ {ms ms'}, MembersGrow known ms ms' → read (.named ms') = read (.named ms)) :
    Unseen (Grows known) fun document => document.namedFields?.bind read := by
  constructor
  · rintro a b (_ | hmembers)
    · rfl
    · exact hread hmembers
  · exact fun h => h.null_iff

theorem all?_grown {read : Json → Option α} {items items' : List Json}
    (hread : Unseen grows read) (h : List.Forall₂ grows items items') :
    all? read items' = all? read items := by
  induction h with
  | nil => rfl
  | cons hitem _ ih => rw [all?, all?, hread.read_eq hitem, ih]

theorem unseen_list? {read : Json → Option α} (hread : Unseen grows read) :
    Unseen (ItemsGrow grows) fun document => document.list?.bind (all? read) := by
  constructor
  · rintro a b (_ | hitems)
    · rfl
    · exact all?_grown hread hitems
  · rintro a b (_ | hitems)
    · exact Iff.rfl
    · exact ⟨nofun, nofun⟩

end Reading

def VersionStatus.known : Known :=
  [("version", Eq), ("imageID", Eq), ("source", Eq), ("lastProbeTimestamp", Eq)]

def Condition.known : Known :=
  [("type", Eq), ("status", Eq), ("reason", Eq), ("message", Eq), ("lastTransitionTime", Eq)]

def DynaKubeStatus.known : Known :=
  [("activeGate", Grows VersionStatus.known), ("oneAgent", Grows VersionStatus.known),
    ("codeModules", Grows VersionStatus.known), ("conditions", ItemsGrow (Grows Condition.known))]

def HostAgent.known : Known :=
  [("image", Eq), ("version", Eq), ("autoUpdate", Eq)]

def CloudNative.known : Known :=
  HostAgent.known ++ [("codeModulesImage", Eq)]

def ApplicationMonitoring.known : Known :=
  [("version", Eq), ("codeModulesImage", Eq)]

def ActiveGateSpec.known : Known :=
  [("capabilities", Eq), ("image", Eq)]

def OneAgentSpec.known : Known :=
  [("classicFullStack", Grows HostAgent.known), ("cloudNativeFullStack", Grows CloudNative.known),
    ("hostMonitoring", Grows HostAgent.known),
    ("applicationMonitoring", Grows ApplicationMonitoring.known)]

def DynaKubeSpec.known : Known :=
  [("apiUrl", Eq), ("tokens", Eq), ("activeGate", Grows ActiveGateSpec.known),
    ("oneAgent", Grows OneAgentSpec.known)]

/-- Fields may be added to the resource itself, to what it asks for and to its state; how the
cluster knows it stays as it is. -/
def DynaKube.known : Known :=
  [("apiVersion", Eq), ("kind", Eq), ("metadata", Eq), ("spec", Grows DynaKubeSpec.known),
    ("status", Grows DynaKubeStatus.known)]

section Structures

variable {ms ms' : List (String × Json)}

theorem VersionStatus.ofFields?_grown (isNothing : Json → Bool)
    (h : MembersGrow VersionStatus.known ms ms') :
    ofFields? isNothing (.named ms') = ofFields? isNothing (.named ms) := by
  have hversion := Fields.defaulted_grown h 0 "version" "" rfl (Json.unseen_eq Json.text?)
  have himage := Fields.defaulted_grown h 1 "imageID" "" rfl (Json.unseen_eq Json.text?)
  have hsource := Fields.optional_grown h 2 "source" rfl
    (Json.unseen_eq (VersionSource.ofJson? isNothing))
  have hprobe := Fields.optional_grown h 3 "lastProbeTimestamp" rfl
    (Json.unseen_eq Instant.ofJson?)
  rw [ofFields?, ofFields?, hversion, himage, hsource, hprobe]

theorem VersionStatus.unseen_ofJson? :
    Unseen (Grows VersionStatus.known) VersionStatus.ofJson? :=
  unseen_fields? 4 (VersionStatus.ofFields?_grown Json.isNull)

theorem VersionStatus.unseen_ofComponentJson? :
    Unseen (Grows VersionStatus.known) VersionStatus.ofComponentJson? :=
  unseen_namedFields? (VersionStatus.ofFields?_grown Json.isNullOrEmpty)

theorem Condition.unseen_ofJson? : Unseen (Grows Condition.known) Condition.ofJson? := by
  apply unseen_fields? 5
  intro ms ms' h
  have htype := Fields.required_grown h 0 "type" rfl (Json.unseen_eq Json.text?)
  have hstatus := Fields.required_grown h 1 "status" rfl (Json.unseen_eq Truth.ofJson?)
  have hreason := Fields.required_grown h 2 "reason" rfl (Json.unseen_eq Json.text?)
  have hmessage := Fields.defaulted_grown h 3 "message" "" rfl (Json.unseen_eq Json.text?)
  have hsince := Fields.required_grown h 4 "lastTransitionTime" rfl
    (Json.unseen_eq Instant.ofJson?)
  rw [htype, hstatus, hreason, hmessage, hsince]

theorem Ledger.unseen_ofJson? : Unseen (ItemsGrow (Grows Condition.known)) Ledger.ofJson? :=
  unseen_list? Condition.unseen_ofJson?

theorem DynaKubeStatus.unseen_ofJson? :
    Unseen (Grows DynaKubeStatus.known) DynaKubeStatus.ofJson? := by
  apply unseen_fields? 4
  intro ms ms' h
  have hrecord := VersionStatus.unseen_ofComponentJson?
  have hgate := Fields.defaulted_grown h 0 "activeGate" {} rfl hrecord
  have hagent := Fields.defaulted_grown h 1 "oneAgent" {} rfl hrecord
  have hmodules := Fields.defaulted_grown h 2 "codeModules" {} rfl hrecord
  have hconditions := Fields.defaulted_grown h 3 "conditions" [] rfl Ledger.unseen_ofJson?
  rw [hgate, hagent, hmodules, hconditions]

theorem HostAgent.ofFields?_grown (others : Known)
    (h : MembersGrow (HostAgent.known ++ others) ms ms') :
    ofFields? (.named ms') = ofFields? (.named ms) := by
  have himage := Fields.optional_grown h 0 "image" rfl (Json.unseen_eq Json.text?)
  have hversion := Fields.optional_grown h 1 "version" rfl (Json.unseen_eq Json.text?)
  have hupdate := Fields.optional_grown h 2 "autoUpdate" rfl (Json.unseen_eq Json.bool?)
  rw [ofFields?, ofFields?, himage, hversion, hupdate]

theorem HostAgent.unseen_ofJson? : Unseen (Grows HostAgent.known) HostAgent.ofJson? :=
  unseen_fields? 3 (HostAgent.ofFields?_grown [])

theorem CloudNative.unseen_ofJson? : Unseen (Grows CloudNative.known) CloudNative.ofJson? := by
  apply unseen_namedFields?
  intro ms ms' h
  have hhost := HostAgent.ofFields?_grown [("codeModulesImage", Eq)] h
  have himage := Fields.optional_grown h 1 "codeModulesImage" rfl (Json.unseen_eq Json.text?)
  rw [hhost, himage]

theorem ApplicationMonitoring.unseen_ofJson? :
    Unseen (Grows ApplicationMonitoring.known) ApplicationMonitoring.ofJson? := by
  apply unseen_fields? 2
  intro ms ms' h
  have hversion := Fields.optional_grown h 0 "version" rfl (Json.unseen_eq Json.text?)
  have himage := Fields.optional_grown h 1 "codeModulesImage" rfl (Json.unseen_eq Json.text?)
  rw [hversion, himage]

theorem ActiveGateSpec.unseen_ofJson? :
    Unseen (Grows ActiveGateSpec.known) ActiveGateSpec.ofJson? := by
  apply unseen_fields? 2
  intro ms ms' h
  have hcapabilities := Fields.defaulted_grown h 0 "capabilities" [] rfl
    (Json.unseen_eq fun items => items.list?.bind (all? Json.text?))
  have himage := Fields.optional_grown h 1 "image" rfl (Json.unseen_eq Json.text?)
  rw [hcapabilities, himage]

theorem OneAgentSpec.unseen_ofJson? : Unseen (Grows OneAgentSpec.known) OneAgentSpec.ofJson? := by
  apply unseen_fields? 4
  intro ms ms' h
  have hclassic := Fields.optional_grown h 0 "classicFullStack" rfl HostAgent.unseen_ofJson?
  have hcloud := Fields.optional_grown h 1 "cloudNativeFullStack" rfl CloudNative.unseen_ofJson?
  have hhost := Fields.optional_grown h 2 "hostMonitoring" rfl HostAgent.unseen_ofJson?
  have happlication := Fields.optional_grown h 3 "applicationMonitoring" rfl
    ApplicationMonitoring.unseen_ofJson?
  rw [hclassic, hcloud, hhost, happlication]

theorem DynaKubeSpec.unseen_ofJson? : Unseen (Grows DynaKubeSpec.known) DynaKubeSpec.ofJson? := by
  apply unseen_fields? 4
  intro ms ms' h
  have hurl := Fields.required_grown h 0 "apiUrl" rfl (Json.unseen_eq Json.text?)
  have htokens := Fields.optional_grown h 1 "tokens" rfl (Json.unseen_eq Json.text?)
  have hgate := Fields.defaulted_grown h 2 "activeGate" {} rfl ActiveGateSpec.unseen_ofJson?
  have hagent := Fields.defaulted_grown h 3 "oneAgent" {} rfl OneAgentSpec.unseen_ofJson?
  rw [hurl, htokens, hgate, hagent]

theorem DynaKube.unseen_ofJson? : Unseen (Grows DynaKube.known) DynaKube.ofJson? := by
  apply unseen_fields? 3
  intro ms ms' h
  have hmetadata := Fields.required_grown h 0 "metadata" rfl (Json.unseen_eq Metadata.ofJson?)
  have hspec := Fields.required_grown h 1 "spec" rfl DynaKubeSpec.unseen_ofJson?
  have hstatus := Fields.optional_grown h 2 "status" rfl DynaKubeStatus.unseen_ofJson?
  rw [hmetadata, hspec, Fields.slot, Fields.slot, hstatus]

end Structures

end VersionOperator
