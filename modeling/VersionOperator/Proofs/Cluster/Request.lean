import VersionOperator.Cluster.Store

namespace VersionOperator

/-- Letters, digits, hyphens and points, of which names in a cluster are made. -/
def isNameChar (c : Char) : Bool :=
  c.isAlphanum || c = '-' || c = '.'

namespace Url

open Text

theorem isPathChar_of_isNameChar {c : Char} (h : isNameChar c = true) : isPathChar c = true := by
  have hvisible : 0x20 < c.toNat := by
    change ((((decide (65 ≤ c.val ∧ c.val ≤ 90) || (decide (97 ≤ c.val) && decide (c.val ≤ 122))) ||
      (decide (48 ≤ c.val) && decide (c.val ≤ 57))) || decide (c = '-')) ||
        decide (c = '.')) = true at h
    simp only [Bool.or_eq_true, Bool.and_eq_true, decide_eq_true_eq, UInt32.le_iff_toNat_le] at h
    change 0x20 < c.val.toNat
    rcases h with (((⟨hleast, _⟩ | ⟨hleast, _⟩) | ⟨hleast, _⟩) | rfl) | rfl
    · exact Nat.lt_of_lt_of_le (by decide) hleast
    · exact Nat.lt_of_lt_of_le (by decide) hleast
    · exact Nat.lt_of_lt_of_le (by decide) hleast
    · decide
    · decide
  have hothers : c ∉ ['<', '>', '\x60'] := by
    simp only [List.mem_cons, List.not_mem_nil, or_false]
    rintro (rfl | rfl | rfl) <;> exact absurd h (by decide)
  simp only [isPathChar, Bool.and_eq_true, decide_eq_true_eq]
  exact ⟨hvisible, by simpa using hothers⟩

theorem utf8ByteSize_le (s : String) : s.utf8ByteSize ≤ 4 * s.length := by
  induction s using String.push_induction with
  | empty => exact Nat.le_refl 0
  | push s c ih =>
    have hsize := c.utf8Size_le_four
    rw [String.utf8ByteSize_push, String.length_push]
    omega

def Travels (s : String) : Prop :=
  ∀ c ∈ s.toList, isNameChar c = true ∨ c = '/'

theorem travels_of_all {s : String} (h : (s.toList.all fun c => isNameChar c || c = '/') = true) :
    Travels s := by
  intro c hc
  have hchar := List.all_eq_true.mp h c hc
  rw [Bool.or_eq_true, decide_eq_true_eq] at hchar
  exact hchar

theorem Travels.append {a b : String} (ha : Travels a) (hb : Travels b) : Travels (a ++ b) := by
  intro c hc
  rw [String.toList_append, List.mem_append] at hc
  exact hc.elim (ha c) (hb c)

theorem Travels.isPathChar {s : String} (h : Travels s) {c : Char} (hc : c ∈ s.toList) :
    isPathChar c = true ∧ c ≠ '?' ∧ c ≠ '#' := by
  rcases h c hc with hname | rfl
  · refine ⟨isPathChar_of_isNameChar hname, ?_, ?_⟩
    · rintro rfl
      exact absurd hname (by decide)
    · rintro rfl
      exact absurd hname (by decide)
  · decide

theorem targetPath_of_travels {s : String} (h : Travels s) (hlength : s.length ≤ 10000) :
    targetPath (s ++ "?") = .ok s := by
  have hsize : ¬ longestTarget < (s ++ "?").utf8ByteSize := by
    have hbound := utf8ByteSize_le (s ++ "?")
    rw [String.length_append] at hbound
    have hone : "?".length = 1 := rfl
    unfold longestTarget
    omega
  have hlist : (s ++ "?").toList = s.toList ++ ['?'] := String.toList_append
  have hfragment : splitAt '#' (s.toList ++ ['?']) = (s.toList ++ ['?'], none) := by
    rw [splitAt, cut?_eq_none_iff.mpr]
    rw [List.mem_append, List.mem_singleton]
    rintro (hmem | hmem)
    · exact (h.isPathChar hmem).2.2 rfl
    · exact absurd hmem (by decide)
  have hquery : splitAt '?' (s.toList ++ ['?']) = (s.toList, some []) := by
    rw [splitAt, cut?_eq_some_iff.mpr ⟨rfl, fun hmem => (h.isPathChar hmem).2.1 rfl⟩]
  have hall : s.toList.all Url.isPathChar = true :=
    List.all_eq_true.mpr fun c hc => (h.isPathChar hc).1
  simp only [targetPath, if_neg hsize, hlist, hfragment, hquery, hall, String.ofList_toList]
  rfl

end Url

theorem ClusterRequest.path_of_name_ne_empty {r : ClusterRequest} (h : r.name ≠ "") :
    r.path = (Url.targetPath r.target).mapError .target := by
  simp [path, h]

/-- A namespace and a name as the API server admits them: made of such characters, at most 253 of
them each, and the name not empty. -/
structure AdmittedNames (inNamespace name : String) : Prop where
  isNameChar_inNamespace : ∀ c ∈ inNamespace.toList, isNameChar c = true
  isNameChar_name : ∀ c ∈ name.toList, isNameChar c = true
  name_ne_empty : name ≠ ""
  length_inNamespace : inNamespace.length ≤ 253
  length_name : name.length ≤ 253

theorem AdmittedNames.isFormed_patchStatus {inNamespace name : String}
    (h : AdmittedNames inNamespace name) (change : Json) :
    (ClusterRequest.patchStatus inNamespace name change).isFormed = true := by
  obtain ⟨hinNamespace, hname, hne, hlengthInNamespace, hlengthName⟩ := h
  have hpath : Url.Travels ("/apis/" ++ DynaKube.apiVersion ++ "/namespaces/" ++ inNamespace ++
      "/dynakubes/" ++ name ++ "/status") := by
    have hends : Url.Travels ("/apis/" ++ DynaKube.apiVersion ++ "/namespaces/") ∧
        Url.Travels "/dynakubes/" ∧ Url.Travels "/status" := by
      refine ⟨?_, ?_, ?_⟩ <;> exact Url.travels_of_all (by decide)
    refine (((hends.1.append ?_).append hends.2.1).append ?_).append hends.2.2
    · exact fun c hc => .inl (hinNamespace c hc)
    · exact fun c hc => .inl (hname c hc)
  have hlength : ("/apis/" ++ DynaKube.apiVersion ++ "/namespaces/" ++ inNamespace ++
      "/dynakubes/" ++ name ++ "/status").length ≤ 10000 := by
    -- The fixed parts take 57 characters, and the two names take at most 506.
    have hends : ("/apis/" ++ DynaKube.apiVersion ++ "/namespaces/").length = 39 ∧
        "/dynakubes/".length = 11 ∧ "/status".length = 7 := by decide
    simp only [String.length_append] at *
    omega
  have hquery : ∀ before : String, before ++ "/status?" = before ++ "/status" ++ "?" := by
    intro before
    rw [String.append_assoc]
    exact congrArg (before ++ ·) (by decide)
  have htarget : Url.targetPath (ClusterRequest.patchStatus inNamespace name change).target = _ :=
    (congrArg Url.targetPath (hquery _)).trans (Url.targetPath_of_travels hpath hlength)
  have hrequest : (ClusterRequest.patchStatus inNamespace name change).name ≠ "" := hne
  rw [ClusterRequest.isFormed, ClusterRequest.path_of_name_ne_empty hrequest, htarget]
  rfl

end VersionOperator
