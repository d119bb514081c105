import VersionOperator.Proofs.Resource.RoundTrip
import VersionOperator.Proofs.Resource.UnknownFields

namespace VersionOperator

open Json (Grows Unseen)

/-- Writing and reading fit together: a value that can be written reads back, and so does any value
that was read; values are told apart by what is written of them; and what grows in a document is not
seen. -/
structure Faithful {α : Type} (write : α → Json) (read : Json → Option α) (Fits : α → Prop)
    (grows : Json → Json → Prop) : Prop where
  read_write : ∀ {a}, Fits a → read (write a) = some a
  rewrite : ∀ {document a}, read document = some a → read (write a) = some a
  write_inj : ∀ {a b}, Fits a → Fits b → write a = write b → a = b
  unknown : ∀ {a document}, Fits a → grows (write a) document → read document = some a

theorem Faithful.of_unseen {α : Type} {write : α → Json} {read : Json → Option α}
    {Fits : α → Prop} {grows : Json → Json → Prop}
    (hwrite : ∀ {a}, Fits a → read (write a) = some a)
    (hread : ∀ {document a}, read document = some a → Fits a) (hunseen : Unseen grows read) :
    Faithful write read Fits grows := by
  constructor
  · exact hwrite
  · exact fun h => hwrite (hread h)
  · intro a b ha hb h
    apply Option.some.inj
    rw [← hwrite ha, ← hwrite hb, h]
  · intro a document ha hgrows
    rw [hunseen.read_eq hgrows, hwrite ha]

namespace Fields

variable {α : Type} {read : Json → Option α} {fields : Fields} {place : Nat} {name : String}
  {P : α → Prop}

theorem of_required {a : α} (hread : ∀ {document a}, read document = some a → P a)
    (h : fields.required place name read = some a) : P a := by
  obtain ⟨document, _, hdocument⟩ := Option.bind_eq_some_iff.mp h
  exact hread hdocument

theorem of_optional {value : Option α} (hread : ∀ {document a}, read document = some a → P a)
    (h : fields.optional place name read = some value) : ∀ a ∈ value, P a := by
  rintro a rfl
  unfold optional at h
  split at h
  · exact absurd h nofun
  · exact absurd h nofun
  · obtain ⟨b, hdocument, hb⟩ := Option.map_eq_some_iff.mp h
    obtain rfl := Option.some.inj hb
    exact hread hdocument

theorem of_slot {value : Option α} (hread : ∀ {document a}, read document = some a → P a)
    (h : fields.slot place name read = some value) : ∀ a ∈ value, P a := by
  unfold slot at h
  split at h
  · exact of_optional hread h
  · split at h
    · exact of_optional hread h
    · exact absurd h nofun

theorem of_defaulted {a default : α} (hread : ∀ {document a}, read document = some a → P a)
    (hdefault : P default) (h : fields.defaulted place name default read = some a) : P a := by
  unfold defaulted at h
  split at h
  · rw [← Option.some.inj h]
    exact hdefault
  · exact hread h

end Fields

theorem forall_of_all? {α β : Type} {read : α → Option β} {P : β → Prop} {items : List α}
    {values : List β} (hread : ∀ {a b}, read a = some b → P b) (h : all? read items = some values) :
    ∀ b ∈ values, P b := by
  induction items generalizing values with
  | nil =>
    obtain rfl := Option.some.inj h
    exact fun _ hmem => absurd hmem List.not_mem_nil
  | cons item rest ih =>
    rw [all?] at h
    split at h
    · rename_i b bs hitem hrest
      obtain rfl := Option.some.inj h
      exact List.forall_mem_cons.mpr ⟨hread hitem, ih hrest⟩
    · exact absurd h (by simp)

theorem Instant.inCalendar_of_ofJson? {document : Json} {t : Instant}
    (h : Instant.ofJson? document = some t) : t.InCalendar := by
  obtain ⟨s, _, hs⟩ := Option.bind_eq_some_iff.mp h
  exact Time.isCalendarYear_of_read? hs

theorem VersionStatus.inCalendar_of_ofFields? {isNothing : Json → Bool} {fields : Fields}
    {s : VersionStatus} (h : ofFields? isNothing fields = some s) : s.InCalendar := by
  simp only [ofFields?, Option.bind_eq_bind, Option.bind_eq_some_iff] at h
  obtain ⟨_, _, _, _, _, _, lastProbe, hprobe, hs⟩ := h
  obtain rfl := Option.some.inj hs
  exact Fields.of_optional Instant.inCalendar_of_ofJson? hprobe

theorem VersionStatus.inCalendar_of_ofJson? {document : Json} {s : VersionStatus}
    (h : VersionStatus.ofJson? document = some s) : s.InCalendar := by
  obtain ⟨fields, _, hfields⟩ := Option.bind_eq_some_iff.mp h
  exact inCalendar_of_ofFields? hfields

theorem VersionStatus.inCalendar_of_ofComponentJson? {document : Json} {s : VersionStatus}
    (h : VersionStatus.ofComponentJson? document = some s) : s.InCalendar := by
  obtain ⟨fields, _, hfields⟩ := Option.bind_eq_some_iff.mp h
  exact inCalendar_of_ofFields? hfields

theorem Condition.inCalendar_of_ofJson? {document : Json} {entry : Condition}
    (h : Condition.ofJson? document = some entry) : entry.since.InCalendar := by
  simp only [ofJson?, Option.bind_eq_bind, Option.bind_eq_some_iff] at h
  obtain ⟨fields, _, _, _, _, _, _, _, _, _, since, hsince, hentry⟩ := h
  obtain rfl := Option.some.inj hentry
  exact Fields.of_required Instant.inCalendar_of_ofJson? hsince

theorem Ledger.inCalendar_of_ofJson? {document : Json} {ledger : Ledger}
    (h : Ledger.ofJson? document = some ledger) : ledger.InCalendar := by
  obtain ⟨items, _, hitems⟩ := Option.bind_eq_some_iff.mp h
  exact forall_of_all? Condition.inCalendar_of_ofJson? hitems

theorem DynaKubeStatus.inCalendar_of_ofJson? {document : Json} {s : DynaKubeStatus}
    (h : DynaKubeStatus.ofJson? document = some s) : s.InCalendar := by
  simp only [ofJson?, Option.bind_eq_bind, Option.bind_eq_some_iff] at h
  obtain ⟨fields, _, gate, hgate, agent, hagent, modules, hmodules, conditions, hconditions, hs⟩ :=
    h
  obtain rfl := Option.some.inj hs
  have hempty : VersionStatus.InCalendar {} := fun t ht => absurd ht (Option.not_mem_none t)
  constructor
  · rintro (_ | _ | _)
    · exact Fields.of_defaulted VersionStatus.inCalendar_of_ofComponentJson? hempty hgate
    · exact Fields.of_defaulted VersionStatus.inCalendar_of_ofComponentJson? hempty hagent
    · exact Fields.of_defaulted VersionStatus.inCalendar_of_ofComponentJson? hempty hmodules
  · apply Fields.of_defaulted Ledger.inCalendar_of_ofJson? _ hconditions
    exact fun entry hmem => absurd hmem List.not_mem_nil

theorem Metadata.hasWordGeneration_of_ofJson? {document : Json} {m : Metadata}
    (h : Metadata.ofJson? document = some m) : m.HasWordGeneration := by
  simp only [ofJson?, Option.bind_eq_bind, Option.bind_eq_some_iff] at h
  obtain ⟨fields, _, _, _, _, _, _, _, generation, hgeneration, _, _, hm⟩ := h
  obtain rfl := Option.some.inj hm
  have hword : ∀ {document n}, Json.signedWord? document = some n →
      -9223372036854775808 ≤ n ∧ n < 9223372036854775808 := by
    intro document n hn
    obtain ⟨_, hword⟩ := Option.filter_eq_some_iff.mp hn
    simpa using hword
  exact Fields.of_optional hword hgeneration

theorem DynaKube.fits_of_ofJson? {document : Json} {dk : DynaKube}
    (h : DynaKube.ofJson? document = some dk) : dk.Fits := by
  simp only [ofJson?, Option.bind_eq_bind, Option.bind_eq_some_iff] at h
  obtain ⟨fields, _, metadata, hmetadata, _, _, status, hstatus, hdk⟩ := h
  obtain rfl := Option.some.inj hdk
  constructor
  · exact Fields.of_required Metadata.hasWordGeneration_of_ofJson? hmetadata
  · exact Fields.of_slot DynaKubeStatus.inCalendar_of_ofJson? hstatus

/-- The whole resource, what it asks for, its state, a record and a condition are faithful. A year
of four digits is one of the calendar. -/
theorem resource_documents_are_faithful :
    Faithful DynaKube.toJson DynaKube.ofJson? DynaKube.Fits (Grows DynaKube.known) ∧
    Faithful DynaKubeSpec.toJson DynaKubeSpec.ofJson? (fun _ => True) (Grows DynaKubeSpec.known) ∧
    Faithful DynaKubeStatus.toJson DynaKubeStatus.ofJson? DynaKubeStatus.InCalendar
      (Grows DynaKubeStatus.known) ∧
    Faithful VersionStatus.toJson VersionStatus.ofJson? VersionStatus.InCalendar
      (Grows VersionStatus.known) ∧
    Faithful Condition.toJson Condition.ofJson? (fun entry => entry.since.InCalendar)
      (Grows Condition.known) := by
  refine ⟨?_, ?_, ?_, ?_, ?_⟩
  · exact .of_unseen DynaKube.ofJson?_toJson DynaKube.fits_of_ofJson? DynaKube.unseen_ofJson?
  · exact .of_unseen (fun _ => DynaKubeSpec.ofJson?_toJson _) (fun _ => trivial)
      DynaKubeSpec.unseen_ofJson?
  · exact .of_unseen DynaKubeStatus.ofJson?_toJson DynaKubeStatus.inCalendar_of_ofJson?
      DynaKubeStatus.unseen_ofJson?
  · exact .of_unseen VersionStatus.ofJson?_toJson VersionStatus.inCalendar_of_ofJson?
      VersionStatus.unseen_ofJson?
  · exact .of_unseen Condition.ofJson?_toJson Condition.inCalendar_of_ofJson?
      Condition.unseen_ofJson?

/-- The probe was in a leap second; fields of unknown names stand in what the resource asks for and
in the settings of its host agent. -/
theorem resource_documents_are_faithful_leap_second :
    let leap : Instant :=
      ⟨⟨2016, 12, 31, by decide, by decide, by decide, by decide⟩, 86399, 1500000000, by decide,
        by decide, by decide⟩
    let status : DynaKubeStatus := { oneAgent := { version := "1.2.3", lastProbe := some leap } }
    let dk : DynaKube :=
      { metadata := { name := some "dynakube", generation := some 3 }
        spec :=
          { apiUrl := "https://tenant.example/api", oneAgent := { classicFullStack := some {} } }
        status := some status }
    let modes : Json := .object [("classicFullStack", .object [("retries", .null)])]
    let document : Json :=
      .object
        [("apiVersion", .text DynaKube.apiVersion), ("kind", .text DynaKube.kind),
          ("metadata", dk.metadata.toJson),
          ("spec",
            .object
              [("retries", .integer 3), ("apiUrl", .text dk.spec.apiUrl),
                ("activeGate", dk.spec.activeGate.toJson), ("oneAgent", modes)]),
          ("status", status.toJson)]
    dk.Fits ∧ Grows DynaKube.known dk.toJson document ∧ DynaKube.ofJson? document = some dk := by
  intro leap status dk modes document
  have hfits : dk.Fits := by
    constructor
    · intro n hn
      obtain rfl : 3 = n := Option.some.inj hn
      decide
    · intro s hs
      obtain rfl : status = s := Option.some.inj hs
      constructor
      · rintro (_ | _ | _) t ht
        · exact absurd ht nofun
        · obtain rfl : leap = t := Option.some.inj ht
          decide
        · exact absurd ht nofun
      · exact fun entry hmem => absurd hmem List.not_mem_nil
  have hmodes : Grows OneAgentSpec.known dk.spec.oneAgent.toJson modes :=
    .object (.known rfl (.object (.added rfl .nil)) .nil)
  have hgrows : Grows DynaKube.known dk.toJson document := by
    refine .object <| .known rfl rfl <| .known rfl rfl <| .known rfl rfl <| .known rfl ?_ <|
      .known rfl (.same _) .nil
    exact .object <| .added rfl <| .known rfl rfl <| .known rfl (.same _) <|
      .known rfl hmodes .nil
  exact ⟨hfits, hgrows, resource_documents_are_faithful.1.unknown hfits hgrows⟩

end VersionOperator
