import VersionOperator.Proofs.Image.Grammar
import VersionOperator.Proofs.Resolution.Candidates
import VersionOperator.Proofs.Resolution.Questions
import Mathlib.Data.List.TakeWhile

namespace VersionOperator

open Tenant Text

namespace Image

theorem tagOf_eq_ok_iff {image tag : String} :
    tagOf image = .ok tag ↔ HasTag tag.toList (trim image.toList) := by
  rw [hasTag_iff]
  rcases Decidable.em (trim image.toList = []) with hempty | hne
  · rw [tagOf, hempty]
    constructor
    · intro h
      cases h
    · intro h
      cases h
  · rw [tagOf_of_referenceTag rfl hne]
    rcases referenceTag (trim image.toList) with fault | _ | found
    · simp
    · simp
    · simp [String.ext_iff]

theorem mem_dropWhile_iff {p : Char → Bool} {c : Char} (h : p c = false) (cs : List Char) :
    c ∈ cs.dropWhile p ↔ c ∈ cs := by
  refine ⟨fun hmem => (List.dropWhile_sublist p).mem hmem, ?_⟩
  intro hmem
  rw [← List.takeWhile_append_dropWhile (p := p) (l := cs)] at hmem
  refine (List.mem_append.mp hmem).resolve_left fun hstart => ?_
  exact absurd ((List.mem_takeWhile_imp hstart).symm.trans h) (by decide)

theorem IsDigest.slash_not_mem {digest : List Char} (h : IsDigest digest) : '/' ∉ digest := by
  obtain ⟨algorithm, hex, rfl, -, halgorithm, -, hhex⟩ := h
  intro hmem
  rcases List.mem_append.mp hmem with hmem | hmem
  · exact absurd (isAlgorithmChar_iff.mpr (halgorithm _ hmem)) (by decide)
  rcases List.mem_cons.mp hmem with heq | hmem
  · exact absurd heq (by decide)
  · exact absurd (isHexChar_iff.mpr (hhex _ hmem)) (by decide)

theorem IsTagText.not_blank {tag : List Char} (h : IsTagText tag) :
    ∀ c ∈ tag, isBlank c = false := by
  obtain ⟨d, ds, rfl, hd, -, hds⟩ := h
  intro c hc
  rcases List.mem_cons.mp hc with rfl | hc
  · exact not_blank_of_isTagStart (isTagStart_iff.mpr hd)
  · rcases hds c hc with hword | rfl | rfl
    · exact not_blank_of_isTagStart (isTagStart_iff.mpr hword)
    · decide
    · decide

theorem HasTag.isTagText {tag cs : List Char} (h : HasTag tag cs) : IsTagText tag := by
  cases h with
  | plain _ htag => exact htag
  | pinned _ htag _ => exact htag

section Compose

variable {before repository tag : List Char}

theorem isRepository_append (hrepository : IsRepository repository) (hat : '@' ∉ before) :
    IsRepository (before ++ '/' :: repository) := by
  obtain ⟨hat', last, ⟨hslash, hname⟩, hlast, hcolon⟩ := hrepository
  constructor
  · simp [hat, hat']
  · refine ⟨last, ⟨hslash, .inr ?_⟩, hlast, hcolon⟩
    rcases hname with rfl | ⟨path, rfl⟩
    · exact ⟨before, rfl⟩
    · exact ⟨before ++ '/' :: path, by simp⟩

/-- A digest cannot open before a repository: it would have to hold the slash in front of that. -/
theorem at_not_mem_of_hasTag (hrepository : '@' ∉ repository)
    (h : HasTag tag (before ++ '/' :: repository ++ ':' :: tag)) : '@' ∉ before := by
  generalize hcs : before ++ '/' :: repository ++ ':' :: tag = cs at h
  cases h with
  | plain hname _ =>
    obtain rfl := List.append_cancel_right hcs
    exact fun hmem => hname.1 (List.mem_append_left _ hmem)
  | pinned _ htag hdigest =>
    exfalso
    have hat : '@' ∉ '/' :: (repository ++ ':' :: tag) := by
      simp [hrepository, htag.not_mem (c := '@') (by decide)]
    rw [List.append_assoc, List.cons_append] at hcs
    rcases List.append_eq_append_iff.mp hcs with ⟨between, -, hrest⟩ | ⟨between, -, hrest⟩
    · rw [hrest] at hat
      exact hat (by simp)
    · have hslash : '/' ∈ between ++ '/' :: (repository ++ ':' :: tag) := by simp
      rw [← hrest] at hslash
      rcases List.mem_cons.mp hslash with heq | hmem
      · exact absurd heq (by decide)
      · exact hdigest.slash_not_mem hmem

theorem trim_compose (registry repository version : String) :
    trim (compose registry repository version).toList =
      trimStart (dropTrailing '/' registry.toList) ++ '/' :: repository.toList ++
        ':' :: trimEnd version.toList := by
  have hcompose : (compose registry repository version).toList =
      dropTrailing '/' registry.toList ++ '/' :: (repository.toList ++ ':' :: version.toList) := by
    simp [compose]
  rw [hcompose, trim_append_cons (by decide), trimEnd_append_cons (by decide), List.append_assoc,
    List.cons_append]

theorem tagOf_compose_eq_iff {repository : String} (hrepository : IsRepository repository.toList)
    (registry version : String) :
    tagOf (compose registry repository version) = .ok version ↔
      IsTagText version.toList ∧ '@' ∉ registry.toList := by
  have hregistry : '@' ∈ trimStart (dropTrailing '/' registry.toList) ↔ '@' ∈ registry.toList := by
    rw [trimStart, mem_dropWhile_iff (by decide), dropTrailing, List.mem_reverse,
      mem_dropWhile_iff (by decide), List.mem_reverse]
  rw [tagOf_eq_ok_iff, trim_compose, ← hregistry]
  constructor
  · intro h
    have htag := h.isTagText
    rw [trimEnd_of_not_blank htag.not_blank] at h
    exact ⟨htag, at_not_mem_of_hasTag hrepository.1 h⟩
  · rintro ⟨htag, hat⟩
    rw [trimEnd_of_not_blank htag.not_blank]
    exact .plain (isRepository_append hrepository hat) htag

end Compose

end Image

namespace Component

theorem probe_of_automaticRegistry {dk : DynaKube} {client : Client} {subject : ImageSubject}
    (hflag : dk.featureFlags.automaticRegistry = true)
    (hversion : (ofKind dk client (Query.latestImage subject).subject).customVersion = none) :
    (ofKind dk client (Query.latestImage subject).subject).probe =
      .asking (.latestImage subject) (client.latestImage subject) ofLatestImage := by
  cases subject with
  | activeGate =>
    change activeGateProbe dk client = _
    rw [activeGateProbe, if_pos hflag]
  | oneAgent =>
    change dk.oneAgentCustomVersion? = none at hversion
    change oneAgentProbe dk client = _
    simp only [oneAgentProbe, hversion, hflag, if_true]

theorem result_probe_of_automaticRegistry {dk : DynaKube} {client : Client}
    {subject : ImageSubject} {image : LatestImage}
    (hflag : dk.featureFlags.automaticRegistry = true)
    (hversion : (ofKind dk client (Query.latestImage subject).subject).customVersion = none)
    (hanswer : (client.latestImage subject).value = .ok image) :
    (ofKind dk client (Query.latestImage subject).subject).probe.result = ofLatestImage image := by
  rw [probe_of_automaticRegistry hflag hversion, Probe.asking, hanswer]

end Component

/-- The tag of a composed reference is the version just when the version is a tag and the registry
opens no digest. A look-up of the newest image succeeds just when the reference of the image has a
tag, and then it comes by that reference and that tag. -/
theorem image_and_version_belong_together :
    (∀ registry repository version : String, Image.IsRepository repository.toList →
      (Image.tagOf (Image.compose registry repository version) = .ok version ↔
        Image.IsTagText version.toList ∧ '@' ∉ registry.toList)) ∧
    ∀ (dk : DynaKube) (client : Client) (subject : ImageSubject) (image : LatestImage),
      let c := Component.ofKind dk client (Query.latestImage subject).subject
      dk.featureFlags.automaticRegistry = true → c.customVersion = none →
      (client.latestImage subject).value = .ok image →
      ∀ candidate, c.probe.result = .ok candidate ↔
        Image.tagOf candidate.image = .ok candidate.version ∧
          candidate = { version := candidate.version, image := image.uri } := by
  constructor
  · intro registry repository version hrepository
    exact Image.tagOf_compose_eq_iff hrepository registry version
  · intro dk client subject image c hflag hversion hanswer candidate
    rw [Component.result_probe_of_automaticRegistry hflag hversion hanswer,
      Component.ofLatestImage_eq_ok_iff]
    apply and_congr_left
    intro hcandidate
    rw [hcandidate]

/-- A registry with a port, and an image whose source has a port, a tag and the start of a digest,
with white space around it all. -/
theorem image_and_version_belong_together_port :
    let client : Client :=
      { Client.naming "" with
        latestImage := fun _ => Timed.now <| .ok
          ⟨"\t registry.example:5000/linux/oneagent:1.2.3@sha256", "0a1b\n"⟩ }
    let dk := (Round.classic {} client 0).resource none
    let image : LatestImage :=
      ⟨"\t registry.example:5000/linux/oneagent:1.2.3@sha256", "0a1b\n"⟩
    let candidate : VersionStatus := { version := "1.2.3", image := image.uri }
    let c := Component.ofKind dk client (Query.latestImage .oneAgent).subject
    (Image.IsRepository oneAgentRepository.toList ∧
      dk.featureFlags.automaticRegistry = true ∧ c.customVersion = none ∧
      (client.latestImage .oneAgent).value = .ok image) ∧
    (Image.tagOf (Image.compose "registry.example:5000/" oneAgentRepository "1.2.3") =
        .ok "1.2.3" ↔
      Image.IsTagText "1.2.3".toList ∧ '@' ∉ "registry.example:5000/".toList) ∧
    (c.probe.result = .ok candidate ↔
      Image.tagOf candidate.image = .ok candidate.version ∧
        candidate = { version := candidate.version, image := image.uri }) := by
  intro client dk image candidate c
  have hrepository : Image.IsRepository oneAgentRepository.toList :=
    ⟨by decide, "oneagent".toList, ⟨by decide, .inr ⟨"linux".toList, rfl⟩⟩, by decide, by decide⟩
  obtain ⟨hcompose, hlatest⟩ := image_and_version_belong_together
  exact ⟨⟨hrepository, rfl, rfl, rfl⟩, hcompose _ _ _ hrepository,
    hlatest dk client .oneAgent image rfl rfl rfl candidate⟩

end VersionOperator
