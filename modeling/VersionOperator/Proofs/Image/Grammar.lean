import VersionOperator.Image.Reference

namespace VersionOperator.Image

open Text

def IsDigit (c : Char) : Prop :=
  '0' ≤ c ∧ c ≤ '9'

def IsLower (c : Char) : Prop :=
  'a' ≤ c ∧ c ≤ 'z'

def IsUpper (c : Char) : Prop :=
  'A' ≤ c ∧ c ≤ 'Z'

def IsWordChar (c : Char) : Prop :=
  IsUpper c ∨ IsLower c ∨ IsDigit c ∨ c = '_'

/-- One character of a word and up to 127 more, which may be points and hyphens too. -/
def IsTagText (tag : List Char) : Prop :=
  ∃ c cs, tag = c :: cs ∧ IsWordChar c ∧ cs.length ≤ 127 ∧
    ∀ d ∈ cs, IsWordChar d ∨ d = '.' ∨ d = '-'

/-- The name of an algorithm, a colon and hexadecimal digits. -/
def IsDigest (digest : List Char) : Prop :=
  ∃ algorithm hex, digest = algorithm ++ ':' :: hex ∧
    algorithm ≠ [] ∧
    (∀ c ∈ algorithm, IsLower c ∨ IsDigit c ∨ c = '+' ∨ c = '.' ∨ c = '_' ∨ c = '-') ∧
    hex ≠ [] ∧ ∀ c ∈ hex, IsDigit c ∨ ('a' ≤ c ∧ c ≤ 'f') ∨ ('A' ≤ c ∧ c ≤ 'F')

/-- The part of a name behind its last slash, which is the whole name when there is none. -/
def EndsIn (name last : List Char) : Prop :=
  '/' ∉ last ∧ (name = last ∨ ∃ path, name = path ++ '/' :: last)

/-- A name that a tag may follow: it names a repository, and a colon stands in a port alone. -/
def IsRepository (name : List Char) : Prop :=
  '@' ∉ name ∧ ∃ last, EndsIn name last ∧ last ≠ [] ∧ ':' ∉ last

def IsBareName (name : List Char) : Prop :=
  '@' ∉ name ∧ name ≠ [] ∧ ∃ last, EndsIn name last ∧ ':' ∉ last

inductive HasTag (tag : List Char) : List Char → Prop
  | plain {name : List Char} (hname : IsRepository name) (htag : IsTagText tag) :
      HasTag tag (name ++ ':' :: tag)
  | pinned {name digest : List Char} (hname : IsRepository name) (htag : IsTagText tag)
      (hdigest : IsDigest digest) : HasTag tag (name ++ ':' :: tag ++ '@' :: digest)

inductive LacksTag : List Char → Prop
  | plain {name : List Char} (hname : IsBareName name) : LacksTag name
  | pinned {name digest : List Char} (hname : IsBareName name) (hdigest : IsDigest digest) :
      LacksTag (name ++ '@' :: digest)

section Chars

variable {c : Char}

theorem isDigit_iff : c.isDigit = true ↔ IsDigit c := by
  rw [Char.isDigit, Bool.and_eq_true, decide_eq_true_eq, decide_eq_true_eq]
  rfl

theorem isLower_iff : c.isLower = true ↔ IsLower c := by
  change (decide (c.val ≥ 'a'.val) && decide (c.val ≤ 'z'.val)) = true ↔ _
  rw [Bool.and_eq_true, decide_eq_true_eq, decide_eq_true_eq]
  rfl

theorem isUpper_iff : c.isUpper = true ↔ IsUpper c := by
  change decide (c.val ≥ 'A'.val ∧ c.val ≤ 'Z'.val) = true ↔ _
  rw [decide_eq_true_eq]
  rfl

theorem isTagStart_iff : isTagStart c = true ↔ IsWordChar c := by
  change (c.isUpper || c.isLower || c.isDigit || decide (c = '_')) = true ↔ _
  simp only [Bool.or_eq_true, decide_eq_true_eq, isUpper_iff, isLower_iff, isDigit_iff, IsWordChar,
    or_assoc]

theorem isTagChar_iff : isTagChar c = true ↔ IsWordChar c ∨ c = '.' ∨ c = '-' := by
  simp only [isTagChar, Bool.or_eq_true, decide_eq_true_eq, isTagStart_iff, or_assoc]

theorem isAlgorithmChar_iff :
    isAlgorithmChar c = true ↔
      IsLower c ∨ IsDigit c ∨ c = '+' ∨ c = '.' ∨ c = '_' ∨ c = '-' := by
  simp only [isAlgorithmChar, Bool.or_eq_true, decide_eq_true_eq, isLower_iff, isDigit_iff,
    or_assoc]

theorem isHexChar_iff :
    isHexChar c = true ↔ IsDigit c ∨ ('a' ≤ c ∧ c ≤ 'f') ∨ ('A' ≤ c ∧ c ≤ 'F') := by
  simp only [isHexChar, Bool.or_eq_true, Bool.and_eq_true, decide_eq_true_eq, isDigit_iff, or_assoc]

end Chars

theorem isTag_iff {tag : List Char} : isTag tag = true ↔ IsTagText tag := by
  cases tag with
  | nil =>
    refine iff_of_false (by decide) ?_
    rintro ⟨c, cs, htag, -⟩
    exact absurd htag nofun
  | cons c cs =>
    simp only [isTag, Bool.and_eq_true, decide_eq_true_eq, isTagStart_iff, List.all_eq_true,
      isTagChar_iff]
    constructor
    · rintro ⟨⟨hc, hcs⟩, hlength⟩
      exact ⟨c, cs, rfl, hc, hlength, hcs⟩
    · rintro ⟨d, ds, htag, hd, hlength, hds⟩
      obtain ⟨rfl, rfl⟩ := List.cons.inj htag
      exact ⟨⟨hd, hds⟩, hlength⟩

theorem IsTagText.not_mem {tag : List Char} (h : IsTagText tag) {c : Char}
    (hc : isTagChar c = false) : c ∉ tag := by
  obtain ⟨d, ds, rfl, hd, -, hds⟩ := h
  intro hmem
  have htrue : isTagChar c = true := by
    rw [isTagChar_iff]
    rcases List.mem_cons.mp hmem with rfl | hrest
    · exact .inl hd
    · exact hds c hrest
  exact Bool.false_ne_true (hc.symm.trans htrue)

theorem digestFault?_eq_none_iff {digest : List Char} :
    digestFault? digest = none ↔ IsDigest digest := by
  constructor
  · intro h
    rw [digestFault?] at h
    split at h
    · exact absurd h nofun
    split at h
    · exact absurd h nofun
    rename_i algorithm hex hcut
    split at h
    · exact absurd h nofun
    rename_i halgorithm
    split at h
    · exact absurd h nofun
    rename_i hhex
    simp only [not_or, Bool.not_eq_true', Bool.not_eq_false, List.all_eq_true, isAlgorithmChar_iff]
      at halgorithm
    simp only [not_or, Bool.not_eq_true', Bool.not_eq_false, List.all_eq_true, isHexChar_iff]
      at hhex
    exact ⟨algorithm, hex, (cut?_eq_some_iff.mp hcut).1, halgorithm.1, halgorithm.2, hhex.1,
      hhex.2⟩
  · rintro ⟨algorithm, hex, rfl, hne, halgorithm, hne', hhex⟩
    simp only [← isAlgorithmChar_iff, ← isHexChar_iff] at halgorithm hhex
    have hcolon : ':' ∉ algorithm := fun hmem => absurd (halgorithm _ hmem) (by decide)
    -- No character of a digest is the sign that opens one.
    have hat : '@' ∉ algorithm ++ ':' :: hex := by
      intro hmem
      rcases List.mem_append.mp hmem with hmem | hmem
      · exact absurd (halgorithm _ hmem) (by decide)
      rcases List.mem_cons.mp hmem with heq | hmem
      · exact absurd heq (by decide)
      · exact absurd (hhex _ hmem) (by decide)
    have hcut : cut? ':' (algorithm ++ ':' :: hex) = some (algorithm, hex) :=
      cut?_eq_some_iff.mpr ⟨rfl, hcolon⟩
    simp only [digestFault?, if_neg hat, hcut, List.all_eq_true.mpr halgorithm,
      List.all_eq_true.mpr hhex, hne, hne', Bool.not_true, Bool.false_eq_true, or_self, if_false]

theorem endsIn_iff {name last : List Char} : EndsIn name last ↔ lastPiece '/' name = last := by
  constructor
  · rintro ⟨hslash, rfl | ⟨path, rfl⟩⟩
    · exact lastPiece_of_not_mem hslash
    · exact lastPiece_append_cons hslash path
  · rintro rfl
    exact ⟨not_mem_lastPiece '/' name, eq_lastPiece_or '/' name⟩

theorem nameTag_eq_some_iff {name tag : List Char} :
    nameTag name = .ok (some tag) ↔
      ∃ repository, name = repository ++ ':' :: tag ∧
        (∃ last, EndsIn repository last ∧ last ≠ [] ∧ ':' ∉ last) ∧ IsTagText tag := by
  constructor
  · intro h
    rw [nameTag] at h
    split at h
    · exact absurd h nofun
    split at h
    · exact absurd h nofun
    rename_i last tag' hcut
    split at h
    · exact absurd h nofun
    rename_i hlast
    split at h
    · rename_i htag
      obtain rfl : tag' = tag := by simpa using h
      obtain ⟨hpiece, hcolon⟩ := cut?_eq_some_iff.mp hcut
      have hslash : '/' ∉ last := by
        intro hmem
        have hnot := not_mem_lastPiece '/' name
        rw [hpiece] at hnot
        exact hnot (List.mem_append_left _ hmem)
      -- What stands in front of the last piece belongs to the repository.
      have hname := eq_lastPiece_or '/' name
      rw [hpiece] at hname
      rcases hname with hname | ⟨path, hname⟩
      · exact ⟨last, hname, ⟨last, ⟨hslash, .inl rfl⟩, hlast, hcolon⟩, isTag_iff.mp htag⟩
      · refine ⟨path ++ '/' :: last, ?_, ⟨last, ⟨hslash, .inr ⟨path, rfl⟩⟩, hlast, hcolon⟩,
          isTag_iff.mp htag⟩
        rw [hname, List.append_assoc, List.cons_append]
    · exact absurd h nofun
  · rintro ⟨repository, rfl, ⟨last, hlast, hne, hcolon⟩, htag⟩
    -- A tag has no slash, so the last slash of the whole is that of the repository.
    have hslash : '/' ∉ ':' :: tag := by
      intro hmem
      rcases List.mem_cons.mp hmem with heq | hmem
      · exact absurd heq (by decide)
      · exact htag.not_mem (by decide) hmem
    have hpiece : lastPiece '/' (repository ++ ':' :: tag) = last ++ ':' :: tag := by
      rw [lastPiece_append_of_not_mem hslash, endsIn_iff.mp hlast]
    have hcut : cut? ':' (last ++ ':' :: tag) = some (last, tag) :=
      cut?_eq_some_iff.mpr ⟨rfl, hcolon⟩
    have hname : repository ++ ':' :: tag ≠ [] := List.append_ne_nil_of_right_ne_nil _ nofun
    simp only [nameTag, if_neg hname, hpiece, hcut, if_neg hne, isTag_iff.mpr htag, if_true]

theorem nameTag_eq_none_iff {name : List Char} :
    nameTag name = .ok none ↔ name ≠ [] ∧ ∃ last, EndsIn name last ∧ ':' ∉ last := by
  constructor
  · intro h
    rw [nameTag] at h
    split at h
    · exact absurd h nofun
    rename_i hname
    split at h
    · rename_i hcut
      exact ⟨hname, lastPiece '/' name, endsIn_iff.mpr rfl, cut?_eq_none_iff.mp hcut⟩
    split at h
    · exact absurd h nofun
    split at h
    · exact absurd h (by simp)
    · exact absurd h nofun
  · rintro ⟨hname, last, hlast, hcolon⟩
    have hcut : cut? ':' (lastPiece '/' name) = none := by
      rw [endsIn_iff.mp hlast]
      exact cut?_eq_none_iff.mpr hcolon
    simp only [nameTag, if_neg hname, hcut]

theorem referenceTag_of_not_mem {name : List Char} (h : '@' ∉ name) :
    referenceTag name = nameTag name := by
  simp only [referenceTag, splitDigest, cut?_eq_none_iff.mpr h, Option.bind_none]

theorem referenceTag_append {name : List Char} (h : '@' ∉ name) (digest : List Char) :
    referenceTag (name ++ '@' :: digest) =
      match digestFault? digest with
      | some fault => .error fault
      | none => nameTag name := by
  have hcut : cut? '@' (name ++ '@' :: digest) = some (name, digest) :=
    cut?_eq_some_iff.mpr ⟨rfl, h⟩
  cases hfault : digestFault? digest with
  | none | some _ => simp only [referenceTag, splitDigest, hcut, Option.bind_some, hfault]

theorem referenceTag_eq_ok_iff {cs : List Char} {result : Option (List Char)} :
    referenceTag cs = .ok result ↔
      ∃ name, '@' ∉ name ∧ nameTag name = .ok result ∧
        (cs = name ∨ ∃ digest, IsDigest digest ∧ cs = name ++ '@' :: digest) := by
  constructor
  · intro h
    cases hcut : cut? '@' cs with
    | none =>
      have hat := cut?_eq_none_iff.mp hcut
      rw [referenceTag_of_not_mem hat] at h
      exact ⟨cs, hat, h, .inl rfl⟩
    | some parts =>
      obtain ⟨name, digest⟩ := parts
      obtain ⟨rfl, hat⟩ := cut?_eq_some_iff.mp hcut
      rw [referenceTag_append hat] at h
      split at h
      · exact absurd h nofun
      · rename_i hdigest
        exact ⟨name, hat, h, .inr ⟨digest, digestFault?_eq_none_iff.mp hdigest, rfl⟩⟩
  · rintro ⟨name, hat, hname, rfl | ⟨digest, hdigest, rfl⟩⟩
    · rw [referenceTag_of_not_mem hat, hname]
    · rw [referenceTag_append hat, digestFault?_eq_none_iff.mpr hdigest, hname]

theorem hasTag_iff {tag cs : List Char} : HasTag tag cs ↔ referenceTag cs = .ok (some tag) := by
  have hat : ∀ {name : List Char}, IsTagText tag →
      ('@' ∉ name ++ ':' :: tag ↔ '@' ∉ name) := by
    intro name htag
    have hnot := htag.not_mem (c := '@') (by decide)
    simp [hnot]
  rw [referenceTag_eq_ok_iff]
  simp only [nameTag_eq_some_iff]
  constructor
  · rintro (⟨⟨hname, hlast⟩, htag⟩ | ⟨⟨hname, hlast⟩, htag, hdigest⟩)
    · exact ⟨_, (hat htag).mpr hname, ⟨_, rfl, hlast, htag⟩, .inl rfl⟩
    · exact ⟨_, (hat htag).mpr hname, ⟨_, rfl, hlast, htag⟩, .inr ⟨_, hdigest, rfl⟩⟩
  · rintro ⟨_, hname, ⟨repository, rfl, hlast, htag⟩, rfl | ⟨digest, hdigest, rfl⟩⟩
    · exact .plain ⟨(hat htag).mp hname, hlast⟩ htag
    · exact .pinned ⟨(hat htag).mp hname, hlast⟩ htag hdigest

theorem lacksTag_iff {cs : List Char} : LacksTag cs ↔ referenceTag cs = .ok none := by
  rw [referenceTag_eq_ok_iff]
  simp only [nameTag_eq_none_iff]
  constructor
  · rintro (⟨hat, hname⟩ | ⟨⟨hat, hname⟩, hdigest⟩)
    · exact ⟨_, hat, hname, .inl rfl⟩
    · exact ⟨_, hat, hname, .inr ⟨_, hdigest, rfl⟩⟩
  · rintro ⟨name, hat, hname, rfl | ⟨digest, hdigest, rfl⟩⟩
    · exact .plain ⟨hat, hname⟩
    · exact .pinned ⟨hat, hname⟩ hdigest

theorem tagOf_of_referenceTag {image : String} {cs : List Char} (hcs : trim image.toList = cs)
    (hne : cs ≠ []) :
    tagOf image =
      match referenceTag cs with
      | .ok (some tag) => .ok (String.ofList tag)
      | .ok none => .error (.noTag (String.ofList cs))
      | .error fault => .error (.malformed (String.ofList cs) fault.message) := by
  rw [tagOf, hcs]
  cases cs with
  | nil => exact absurd rfl hne
  | cons c rest => rfl

/-- The four things that reading a tag may come to, each for just the references that it is for: a
tag, nothing to read, no tag, and a text that is no reference at all. -/
theorem tagOf_follows_grammar (image : String) :
    (∀ tag : String, tagOf image = .ok tag ↔ HasTag tag.toList (trimmed image).toList) ∧
    (tagOf image = .error .empty ↔ trimmed image = "") ∧
    (tagOf image = .error (.noTag (trimmed image)) ↔ LacksTag (trimmed image).toList) ∧
    ((∃ reason, tagOf image = .error (.malformed (trimmed image) reason)) ↔
      trimmed image ≠ "" ∧ ¬ LacksTag (trimmed image).toList ∧
        ∀ tag, ¬ HasTag tag (trimmed image).toList) := by
  have hlist : (trimmed image).toList = trim image.toList := String.toList_ofList
  simp only [hasTag_iff, lacksTag_iff, hlist]
  generalize hcs : trim image.toList = cs
  rcases Decidable.em (cs = []) with rfl | hne
  · have hempty : trimmed image = "" := by rw [trimmed, hcs, String.ofList_nil]
    have htag : tagOf image = .error .empty := by rw [tagOf, hcs]
    have hread : referenceTag [] = .error .noRepository := rfl
    simp [hempty, htag, hread]
  · have hempty : trimmed image ≠ "" := by
      intro h
      rw [← hcs, ← hlist, h] at hne
      exact hne rfl
    have htext : String.ofList cs = trimmed image := by rw [trimmed, hcs]
    rw [tagOf_of_referenceTag hcs hne, htext]
    rcases hread : referenceTag cs with fault | _ | tag
    · simp [hempty]
    · simp [hempty]
    · simp [hempty, String.ext_iff, eq_comm]

end VersionOperator.Image
