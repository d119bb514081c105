import Mathlib.Data.List.TakeWhile
import VersionOperator.Proofs.Resolution.BlankSettings

namespace VersionOperator

open Tenant Text

namespace Address

abbrev mark : List Char := [':', '/', '/']

def IsBlank (cs : List Char) : Prop :=
  ∀ c ∈ cs, isBlank c = true

/-- A scheme has neither colon, slash nor white space. -/
def IsScheme (cs : List Char) : Prop :=
  cs ≠ [] ∧ ∀ c ∈ cs, c ≠ ':' ∧ c ≠ '/' ∧ isBlank c = false

/-- An authority, which may be empty, has neither slash nor white space. -/
def IsAuthority (cs : List Char) : Prop :=
  ∀ c ∈ cs, c ≠ '/' ∧ isBlank c = false

/-- Behind an authority there is nothing, or a slash comes first. -/
def IsRest (cs : List Char) : Prop :=
  cs = [] ∨ cs.head? = some '/'

instance (cs : List Char) : Decidable (IsBlank cs) :=
  List.decidableBAll _ cs

instance (cs : List Char) : Decidable (IsScheme cs) :=
  @instDecidableAnd _ _ inferInstance (List.decidableBAll _ cs)

instance (cs : List Char) : Decidable (IsAuthority cs) :=
  List.decidableBAll _ cs

instance (cs : List Char) : Decidable (IsRest cs) :=
  inferInstanceAs (Decidable (cs = [] ∨ cs.head? = some '/'))

inductive Surrounds (cs : List Char) : List Char → Prop
  | intro {before after : List Char} (hbefore : IsBlank before) (hafter : IsBlank after) :
      Surrounds cs (before ++ cs ++ after)

/-- The texts of an address with that authority. One without scheme has no mark, neither in its rest
nor where the authority ends. -/
inductive Names (authority : List Char) : List Char → Prop
  | withScheme {scheme rest text : List Char} (hscheme : IsScheme scheme) (hrest : IsRest rest)
      (htext : Surrounds (scheme ++ mark ++ (authority ++ rest)) text) : Names authority text
  | bare {rest text : List Char} (hrest : IsRest rest) (hmark : ¬ mark <:+: authority ++ rest)
      (htext : Surrounds (authority ++ rest) text) : Names authority text

def registryAt (host : List Char) : Option String :=
  if host = [] then none else some (String.ofList host)

section Parts

variable {scheme authority rest : List Char}

theorem IsAuthority.not_blank (h : IsAuthority authority) : ∀ c ∈ authority, isBlank c = false :=
  fun c hc => (h c hc).2

theorem IsRest.eq_nil_or_cons (h : IsRest rest) : rest = [] ∨ ∃ path, rest = '/' :: path := by
  rcases h with hnil | hhead
  · exact .inl hnil
  · exact .inr (List.head?_eq_some_iff.mp hhead)

theorem IsScheme.not_mark (h : IsScheme scheme) : ¬ mark <:+: scheme ++ mark.dropLast := by
  intro hwithin
  -- A mark takes two slashes, and up to here there is only one.
  have hcount := hwithin.sublist.count_le '/'
  have hscheme : scheme.count '/' = 0 :=
    List.count_eq_zero.mpr fun hmem => (h.2 _ hmem).2.1 rfl
  rw [List.count_append, hscheme] at hcount
  exact absurd hcount (by decide)

variable (hauthority : IsAuthority authority) (hrest : IsRest rest)
include hauthority hrest

theorem trimStart_authority : trimStart (authority ++ rest) = authority ++ rest := by
  cases authority with
  | nil =>
    obtain rfl | ⟨path, rfl⟩ := hrest.eq_nil_or_cons
    · rfl
    · exact trimStart_cons_of_not_blank (by decide) path
  | cons c authority => exact trimStart_cons_of_not_blank (hauthority c (by simp)).2 _

theorem firstPiece_authority : firstPiece '/' (trimEnd (authority ++ rest)) = authority := by
  have hslash : ∀ c ∈ authority, decide (c ≠ '/') = true :=
    fun c hc => decide_eq_true (hauthority c hc).1
  obtain rfl | ⟨path, rfl⟩ := hrest.eq_nil_or_cons
  · rw [List.append_nil, trimEnd_of_not_blank hauthority.not_blank]
    exact List.takeWhile_eq_self_iff.mpr hslash
  · rw [trimEnd_append_cons (by decide), firstPiece, List.takeWhile_append_of_pos hslash,
      List.takeWhile_cons_of_neg (by decide), List.append_nil]

end Parts

end Address

namespace DynaKube

open Address

theorem hostOf_surrounds {cs text : List Char} (h : Surrounds cs text) :
    hostOf text = hostOf cs := by
  obtain ⟨hbefore, hafter⟩ := h
  rw [hostOf, hostOf, trim_surrounded hbefore hafter]

theorem hostOf_of_not_mark {cs : List Char} (h : ¬ mark <:+: cs) :
    hostOf cs = firstPiece '/' (trim cs) := by
  have hcut : cutAt? mark (trim cs) = none :=
    cutAt?_eq_none_iff.mpr fun hwithin => h (hwithin.trans (isInfix_trim cs))
  rw [hostOf, hcut]

/-- What stands before the first mark has no part in the host, whatever it is. -/
theorem hostOf_append_mark {front : List Char} (h : ¬ mark <:+: front ++ mark.dropLast)
    (back : List Char) : hostOf (front ++ mark ++ back) = firstPiece '/' (trimEnd back) := by
  -- White space goes before the text is cut, and none of it is part of a mark.
  have htrim : trim (front ++ mark ++ back) = trimStart front ++ mark ++ trimEnd back := by
    have hcolon := trim_append_cons (c := ':') (by decide) front ('/' :: '/' :: back)
    have hslash := trimEnd_append_cons (c := '/') (by decide) ['/'] back
    rw [List.singleton_append] at hslash
    rw [List.append_assoc, List.append_assoc]
    exact hcolon.trans (by rw [hslash]; rfl)
  have hfirst : ¬ mark <:+: trimStart front ++ mark.dropLast := by
    obtain ⟨blank, hfront⟩ : trimStart front <:+ front := List.dropWhile_suffix isBlank
    rw [← hfront, List.append_assoc] at h
    exact fun hwithin => h (hwithin.trans (List.suffix_append blank _).isInfix)
  rw [hostOf, htrim, cutAt?_append_mark (by decide) hfirst]

theorem hostOf_of_names {authority text : List Char} (hauthority : IsAuthority authority)
    (h : Names authority text) : hostOf text = authority := by
  cases h with
  | withScheme hscheme hrest htext =>
    rw [hostOf_surrounds htext, hostOf_append_mark hscheme.not_mark,
      firstPiece_authority hauthority hrest]
  | bare hrest hmark htext =>
    rw [hostOf_surrounds htext, hostOf_of_not_mark hmark, trim,
      trimStart_authority hauthority hrest, firstPiece_authority hauthority hrest]

def withApiUrl (dk : DynaKube) (url : List Char) : DynaKube :=
  { dk with spec := { dk.spec with apiUrl := String.ofList url } }

theorem tenantRegistry?_withApiUrl (dk : DynaKube) (url : List Char) :
    tenantRegistry? (dk.withApiUrl url) = registryAt (hostOf url) := by
  have hurl : (dk.withApiUrl url).spec.apiUrl.toList = url := String.toList_ofList
  unfold tenantRegistry?
  rw [hurl]
  cases hostOf url with
  | nil => rfl
  | cons c host => rfl

end DynaKube

theorem Component.ofKind_withApiUrl {dk : DynaKube} {url url' : List Char}
    (h : DynaKube.tenantRegistry? (dk.withApiUrl url) =
      DynaKube.tenantRegistry? (dk.withApiUrl url'))
    (client : Client) (kind : ComponentKind) :
    ofKind (dk.withApiUrl url) client kind = ofKind (dk.withApiUrl url') client kind := by
  have hregistry : registry (dk.withApiUrl url) = registry (dk.withApiUrl url') := by
    rw [registry, registry, h]
  cases kind with
  | activeGate =>
    simp only [ofKind, activeGate, activeGateProbe, hregistry]
    rfl
  | oneAgent =>
    simp only [ofKind, oneAgent, oneAgentProbe, hregistry]
    rfl
  | codeModules => rfl

theorem Image.compose_authority {authority : List Char} (h : Address.IsAuthority authority)
    (repository version : String) :
    compose (String.ofList authority) repository version =
      String.ofList authority ++ "/" ++ repository ++ ":" ++ version := by
  have hslash : '/' ∉ authority := fun hmem => (h _ hmem).1 rfl
  rw [compose, String.toList_ofList, dropTrailing_of_not_mem hslash]

/-- An address gives the host of the registry as its authority. A version pass is the same for all
addresses with that authority, and composes its images there. What stands before the first mark is
taken for a scheme, whatever it is: the host is what stands behind the mark, up to the next
slash. -/
theorem registry_host_is_authority {authority : List Char}
    (hauthority : Address.IsAuthority authority) (dk : DynaKube) :
    (∀ url, Address.Names authority url →
      DynaKube.tenantRegistry? (dk.withApiUrl url) = Address.registryAt authority) ∧
    (∀ url url', Address.Names authority url → Address.Names authority url' →
      ∀ client policy clock, resolveVersions policy clock (dk.withApiUrl url) client =
        resolveVersions policy clock (dk.withApiUrl url') client) ∧
    (∀ repository version, Image.compose (String.ofList authority) repository version =
      String.ofList authority ++ "/" ++ repository ++ ":" ++ version) ∧
    ∀ front back url, ¬ Address.mark <:+: front ++ Address.mark.dropLast →
      Address.Surrounds (front ++ Address.mark ++ back) url →
      DynaKube.tenantRegistry? (dk.withApiUrl url) =
        Address.registryAt (firstPiece '/' (trimEnd back)) := by
  have hhost : ∀ url, Address.Names authority url →
      DynaKube.tenantRegistry? (dk.withApiUrl url) = Address.registryAt authority := by
    intro url hurl
    rw [DynaKube.tenantRegistry?_withApiUrl, DynaKube.hostOf_of_names hauthority hurl]
  refine ⟨hhost, ?_, Image.compose_authority hauthority, ?_⟩
  · intro url url' hurl hurl' client
    have hsame := (hhost url hurl).trans (hhost url' hurl').symm
    exact resolveVersions_congr rfl (Component.ofKind_withApiUrl hsame client)
  · intro front back url hfirst hurl
    rw [DynaKube.tenantRegistry?_withApiUrl, DynaKube.hostOf_surrounds hurl,
      DynaKube.hostOf_append_mark hfirst]

/-- A host with a port. One address has a scheme, a second mark in its query and white space around
it, the other one is the authority alone; and a text that opens with its only mark. -/
theorem registry_host_is_authority_port :
    let dk : DynaKube :=
      { metadata := { name := some "dynakube" }
        spec :=
          { apiUrl := ""
            oneAgent := { hostMonitoring := some { version := some "1.2.3" } } } }
    let authority := "tenant.example:9999".toList
    let full := "\t ".toList ++
      ("https".toList ++ Address.mark ++ (authority ++ "/e?next=http://other.example/".toList)) ++
      " \n".toList
    let bare := [] ++ (authority ++ []) ++ []
    let back := "other.example /".toList
    let opened := [] ++ ([] ++ Address.mark ++ back) ++ "\n".toList
    let client := Client.naming "1.2.4"
    let policy : ProbePolicy := { timeout := Duration.ofSeconds 30 }
    (Address.IsAuthority authority ∧ Address.Names authority full ∧
      Address.Names authority bare ∧ ¬ Address.mark <:+: [] ++ Address.mark.dropLast ∧
      Address.Surrounds ([] ++ Address.mark ++ back) opened) ∧
    DynaKube.tenantRegistry? (dk.withApiUrl full) = some "tenant.example:9999" ∧
    resolveVersions policy (.still .newYear) (dk.withApiUrl full) client =
      resolveVersions policy (.still .newYear) (dk.withApiUrl bare) client ∧
    Image.compose (String.ofList authority) oneAgentRepository "1.2.3" =
      "tenant.example:9999/linux/oneagent:1.2.3" ∧
    DynaKube.tenantRegistry? (dk.withApiUrl opened) = some "other.example " := by
  intro dk authority full bare back opened client policy
  have hauthority : Address.IsAuthority authority := by decide
  have hfull : Address.Names authority full :=
    .withScheme (by decide) (by decide) (.intro (by decide) (by decide))
  have hbare : Address.Names authority bare :=
    .bare (by decide) (cutAt?_eq_none_iff.mp (by decide)) (.intro (by decide) (by decide))
  have hfirst : ¬ Address.mark <:+: [] ++ Address.mark.dropLast :=
    cutAt?_eq_none_iff.mp (by decide)
  have hopened : Address.Surrounds ([] ++ Address.mark ++ back) opened :=
    .intro (by decide) (by decide)
  obtain ⟨hhost, hpass, himage, hmark⟩ := registry_host_is_authority hauthority dk
  exact ⟨⟨hauthority, hfull, hbare, hfirst, hopened⟩, (hhost full hfull).trans (by decide),
    hpass full bare hfull hbare client policy (.still .newYear),
    (himage oneAgentRepository "1.2.3").trans (by decide +kernel),
    (hmark [] back opened hfirst hopened).trans (by decide)⟩

/-- An address without scheme, with another address in its query: images are composed in the
registry of that other one. -/
theorem mark_in_rest_changes_host :
    let dk : DynaKube :=
      { metadata := { name := some "dynakube" }
        spec :=
          { apiUrl := "tenant.example/e?next=https://other.example/api"
            oneAgent := { hostMonitoring := some { version := some "1.2.3" } } } }
    let authority := "tenant.example".toList
    let rest := "/e?next=https://other.example/api".toList
    let policy : ProbePolicy := { timeout := Duration.ofSeconds 30 }
    (Address.IsAuthority authority ∧ Address.IsRest rest ∧
      dk.spec.apiUrl.toList = authority ++ rest) ∧
    Address.registryAt authority = some "tenant.example" ∧
    dk.tenantRegistry? = some "other.example" ∧
    (resolveVersions policy (.still .newYear) dk (Client.naming "1.2.4")).status.oneAgent.image =
      "other.example/linux/oneagent:1.2.3" := by
  intro dk authority rest policy
  exact ⟨⟨by decide, by decide, by decide⟩, by decide, by decide, by decide +kernel⟩

end VersionOperator
