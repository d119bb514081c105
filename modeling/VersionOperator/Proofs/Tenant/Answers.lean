import VersionOperator.Image.Reference
import VersionOperator.Tenant.Http

namespace VersionOperator

open Text

theorem ne_empty_of_not_blank {s : String} (h : isBlankText s = false) : s ≠ "" := by
  rintro rfl
  exact absurd h (by decide)

namespace Image

theorem isTag_of_nameTag {name tag : List Char} (h : nameTag name = .ok (some tag)) :
    isTag tag = true := by
  unfold nameTag at h
  repeat' split at h
  all_goals simp_all

theorem isTag_of_referenceTag {cs tag : List Char} (h : referenceTag cs = .ok (some tag)) :
    isTag tag = true := by
  unfold referenceTag at h
  simp only at h
  split at h
  · simp at h
  · exact isTag_of_nameTag h

theorem isTag_of_tagOf {image tag : String} (h : tagOf image = .ok tag) :
    isTag tag.toList = true := by
  unfold tagOf at h
  repeat' split at h
  all_goals try simp at h
  rename_i hcs
  rw [← h, String.toList_ofList]
  exact isTag_of_referenceTag hcs

end Image

namespace Tenant

/-- A client whose answers, if they are no errors, are never blank where a version or the source of
an image is asked for. -/
structure Client.AnswersInFull (client : Client) : Prop where
  agentVersion : ∀ {installer version}, (client.agentVersion installer).value = .ok version →
    isBlankText version = false
  gatewayVersion : ∀ {version}, client.gatewayVersion.value = .ok version →
    isBlankText version = false
  imageSource : ∀ {subject image}, (client.latestImage subject).value = .ok image →
    isBlankText image.source = false

theorem Timed.value_andThen_eq_ok {ε α β : Type} {result : Timed (Except ε α)}
    {next : α → Except ε β} {b : β} (h : (result.andThen next).value = .ok b) :
    ∃ a, next a = .ok b := by
  unfold andThen at h
  simp only at h
  split at h
  · exact ⟨_, h⟩
  · simp at h

theorem not_blank_of_readVersionBody {name body version : String} {complaint : String → String}
    (h : readVersionBody name complaint body = .ok version) : isBlankText version = false := by
  unfold readVersionBody at h
  repeat' split at h
  all_goals simp_all

theorem not_blank_of_readImageBody {subject : ImageSubject} {complaint : String → String}
    {body : String} {image : LatestImage}
    (h : readImageBody subject complaint body = .ok image) : isBlankText image.source = false := by
  unfold readImageBody at h
  repeat' split at h
  all_goals simp_all

section Http

variable (transport : Transport) (complaint : Complaint) (baseUrl token : String)

theorem agentVersion_httpClient (installer : Installer) :
    (httpClient transport complaint baseUrl token).agentVersion installer =
      (Query.fetch transport baseUrl token (.agentVersion installer)).andThen
        (readVersionBody agentVersionField (complaint (.agentVersion installer))) := rfl

theorem gatewayVersion_httpClient :
    (httpClient transport complaint baseUrl token).gatewayVersion =
      (Query.fetch transport baseUrl token .gatewayVersion).andThen
        (readVersionBody gatewayVersionField (complaint .gatewayVersion)) := rfl

theorem latestImage_httpClient (subject : ImageSubject) :
    (httpClient transport complaint baseUrl token).latestImage subject =
      (Query.fetch transport baseUrl token (.latestImage subject)).andThen
        (readImageBody subject (complaint (.latestImage subject))) := rfl

theorem answersInFull_httpClient :
    (httpClient transport complaint baseUrl token).AnswersInFull := by
  refine ⟨?_, ?_, ?_⟩
  · intro installer version h
    rw [agentVersion_httpClient] at h
    obtain ⟨body, hbody⟩ := Timed.value_andThen_eq_ok h
    exact not_blank_of_readVersionBody hbody
  · intro version h
    rw [gatewayVersion_httpClient] at h
    obtain ⟨body, hbody⟩ := Timed.value_andThen_eq_ok h
    exact not_blank_of_readVersionBody hbody
  · intro subject image h
    rw [latestImage_httpClient] at h
    obtain ⟨body, hbody⟩ := Timed.value_andThen_eq_ok h
    exact not_blank_of_readImageBody hbody

end Http

theorem answersInFull_withoutToken (reason : String) :
    (Client.withoutToken reason).AnswersInFull :=
  ⟨fun h => by simp [Client.withoutToken, Timed.now] at h,
    fun h => by simp [Client.withoutToken, Timed.now] at h,
    fun h => by simp [Client.withoutToken, Timed.now] at h⟩

end Tenant

end VersionOperator
