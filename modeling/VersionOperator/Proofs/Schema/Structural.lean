import VersionOperator.Proofs.Resource.UnknownFields
import VersionOperator.Proofs.Schema.Paths
import VersionOperator.Resource.Encode

/-!
Structural schemas at work on a document. A schema describes a document that has the form, with all
members declared and the required ones there; from any other the members that are not declared are
taken away, and values are filled in where members with a default are left out. A choice of a word
or null has no type, which a structural schema must have everywhere, so the server does not accept
it: a part that stands at one is offered by the choice and not taken by a type.
-/

namespace VersionOperator.Schema

open Json (Unseen)

def note : Schema → SchemaNote
  | text note _ _ => note
  | boolean note => note
  | list note _ => note
  | object note _ _ => note
  | wordOrNull note _ _ => note

def isNullable : Schema → Bool
  | wordOrNull _ _ _ => false
  | schema => schema.note.nullable

def properties : Schema → List (String × Schema)
  | object _ properties _ => properties
  | _ => []

/-- The schema of the items of a list, which declares nothing where no list is meant. -/
def items : Schema → Schema
  | list _ items => items
  | _ => object {} [] []

/-- The value is of the type of the schema, has a word that it allows, and has the members that it
requires. Formats are not looked at, nor what the value holds. -/
inductive Takes : Schema → Json → Prop
  | null {schema : Schema} (h : schema.isNullable = true) : Takes schema .null
  | text {note : SchemaNote} {format : Option String} {words : List String} {s : String}
      (hword : words = [] ∨ s ∈ words) : Takes (.text note format words) (.text s)
  | boolean {note : SchemaNote} {b : Bool} : Takes (.boolean note) (.bool b)
  | list {note : SchemaNote} {items : Schema} {values : List Json} :
      Takes (.list note items) (.list values)
  | object {note : SchemaNote} {properties : List (String × Schema)} {required : List String}
      {ms : List (String × Json)} (hrequired : ∀ name ∈ required, name ∈ ms.map Prod.fst) :
      Takes (.object note properties required) (.object ms)

/-- The value is one that a choice spells out. -/
inductive Offers : Schema → Json → Prop
  | word {note : SchemaNote} {description s : String} {words : List String} (hword : s ∈ words) :
      Offers (.wordOrNull note description words) (.text s)
  | null {note : SchemaNote} {description : String} {words : List String} :
      Offers (.wordOrNull note description words) .null

/-- Every part of the document is declared at its path, with a type that takes it. -/
def TakesWhole (schema : Schema) (document : Json) : Prop :=
  ∀ path part, document.Holds path part → ∃ form, schema.at? path = some form ∧ form.Takes part

theorem Offers.type?_eq_none {form : Schema} {value : Json} (h : form.Offers value) :
    form.type? = none := by
  cases h <;> rfl

theorem Takes.type?_ne_none {form : Schema} {value : Json} (h : form.Takes value) :
    form.type? ≠ none := by
  cases form with
  | text _ _ _ | boolean _ | list _ _ | object _ _ _ => exact nofun
  | wordOrNull _ _ _ =>
    cases h with
    | null hnull => exact absurd hnull nofun

/-- The document is as the schema says, down to every member and item. -/
inductive Describes : Schema → Json → Prop
  | null {schema : Schema} (h : schema.isNullable = true) : Describes schema .null
  | text {note : SchemaNote} {format : Option String} {words : List String} {s : String}
      (hword : words = [] ∨ s ∈ words) : Describes (.text note format words) (.text s)
  | boolean {note : SchemaNote} {b : Bool} : Describes (.boolean note) (.bool b)
  | list {note : SchemaNote} {items : Schema} {values : List Json}
      (hitems : ∀ value ∈ values, Describes items value) :
      Describes (.list note items) (.list values)
  | object {note : SchemaNote} {properties : List (String × Schema)} {required : List String}
      {ms : List (String × Json)}
      (hdeclared : ∀ m ∈ ms, ∃ form, properties.lookup m.1 = some form)
      (hvalues : ∀ m ∈ ms, ∀ form, properties.lookup m.1 = some form → Describes form m.2)
      (hrequired : ∀ name ∈ required, name ∈ ms.map Prod.fst) :
      Describes (.object note properties required) (.object ms)
  | word {note : SchemaNote} {description s : String} {words : List String} (hword : s ∈ words) :
      Describes (.wordOrNull note description words) (.text s)

theorem Describes.takes_or_offers {form : Schema} {value : Json} (h : form.Describes value) :
    form.Takes value ∨ form.Offers value := by
  cases h with
  | null h => exact .inl (.null h)
  | text hword => exact .inl (.text hword)
  | boolean => exact .inl .boolean
  | list _ => exact .inl .list
  | object _ _ hrequired => exact .inl (.object hrequired)
  | word hword => exact .inr (.word hword)

theorem Describes.at? {schema : Schema} {document part : Json} {path : List Step}
    (h : schema.Describes document) (hpart : document.Holds path part) :
    ∃ form, schema.at? path = some form ∧ form.Describes part := by
  -- The schema goes down with the path, so it is not held fixed.
  induction hpart generalizing schema with
  | here document => exact ⟨schema, by rw [Schema.at?], h⟩
  | member hmem _ ih =>
    cases h with
    | object hdeclared hvalues _ =>
      obtain ⟨next, hnext⟩ := hdeclared _ hmem
      obtain ⟨form, hform, hpart⟩ := ih (hvalues _ hmem next hnext)
      exact ⟨form, by rw [Schema.at?, hnext, Option.bind_some, hform], hpart⟩
  | item hmem _ ih =>
    cases h with
    | list hitems => exact ih (hitems _ hmem)

def Declares (properties : List (String × Schema)) (ms : List (String × Json)) : Prop :=
  ∀ m ∈ ms, ∃ form, properties.lookup m.1 = some form ∧ form.Describes m.2

section Declares

variable {properties : List (String × Schema)} {form : Schema} {name : String}
  {ms ms' : List (String × Json)}

theorem declares_nil : Declares properties [] := nofun

theorem Declares.cons {value : Json} (hform : properties.lookup name = some form)
    (hvalue : form.Describes value) (hrest : Declares properties ms) :
    Declares properties ((name, value) :: ms) := by
  intro m hmem
  rcases List.mem_cons.mp hmem with rfl | hmem
  · exact ⟨form, hform, hvalue⟩
  · exact hrest m hmem

theorem Declares.append (h : Declares properties ms) (h' : Declares properties ms') :
    Declares properties (ms ++ ms') := by
  intro m hmem
  rcases List.mem_append.mp hmem with hmem | hmem
  · exact h m hmem
  · exact h' m hmem

theorem declares_memberIf {α : Type} {write : α → Json} {value : Option α}
    (hform : properties.lookup name = some form) (hvalue : ∀ a ∈ value, form.Describes (write a)) :
    Declares properties (Json.memberIf name write value) := by
  cases value with
  | none => exact declares_nil
  | some a => exact .cons hform (hvalue a rfl) declares_nil

theorem declares_memberUnlessEmpty {value : String} (hform : properties.lookup name = some form)
    (hvalue : form.Describes (.text value)) :
    Declares properties (Json.memberUnlessEmpty name value) := by
  rw [Json.memberUnlessEmpty]
  split
  · exact declares_nil
  · exact .cons hform hvalue declares_nil

theorem Declares.describes_object {note : SchemaNote} {required : List String}
    (h : Declares properties ms) (hrequired : ∀ name ∈ required, name ∈ ms.map Prod.fst) :
    (object note properties required).Describes (.object ms) := by
  refine .object ?_ ?_ hrequired
  · intro m hmem
    obtain ⟨form, hform, -⟩ := h m hmem
    exact ⟨form, hform⟩
  · intro m hmem form hform
    obtain ⟨form', hform', hvalue⟩ := h m hmem
    obtain rfl := Option.some.inj (hform.symm.trans hform')
    exact hvalue

end Declares

mutual

def prune (schema : Schema) : Json → Json
  | .object ms => .object (pruneMembers schema.properties ms)
  | .list values => .list (pruneItems schema.items values)
  | document => document

def pruneMembers (properties : List (String × Schema)) :
    List (String × Json) → List (String × Json)
  | [] => []
  | (name, value) :: rest =>
    match properties.lookup name with
    | some form => (name, form.prune value) :: pruneMembers properties rest
    | none => pruneMembers properties rest

def pruneItems (items : Schema) : List Json → List Json
  | [] => []
  | value :: rest => items.prune value :: pruneItems items rest

end

theorem pruneMembers_eq_self {properties : List (String × Schema)} {ms : List (String × Json)}
    (h : ∀ m ∈ ms, ∃ form, properties.lookup m.1 = some form ∧ form.prune m.2 = m.2) :
    pruneMembers properties ms = ms := by
  induction ms with
  | nil => rw [pruneMembers]
  | cons m rest ih =>
    obtain ⟨form, hform, hvalue⟩ := h m List.mem_cons_self
    have hrest := ih fun other hmem => h other (List.mem_cons_of_mem m hmem)
    rw [pruneMembers, hform]
    simp only [hvalue, hrest]

theorem pruneItems_eq_self {items : Schema} {values : List Json}
    (h : ∀ value ∈ values, items.prune value = value) : pruneItems items values = values := by
  induction values with
  | nil => rw [pruneItems]
  | cons value rest ih =>
    have hvalue := h value List.mem_cons_self
    have hrest := ih fun other hmem => h other (List.mem_cons_of_mem value hmem)
    rw [pruneItems, hvalue, hrest]

theorem Describes.prune_eq_self {schema : Schema} {document : Json}
    (h : schema.Describes document) : schema.prune document = document := by
  induction h with
  | null _ | text _ | boolean | word _ => simp only [prune]
  | list _ ih => rw [prune, items, pruneItems_eq_self ih]
  | object hdeclared _ _ ih =>
    have hmembers := pruneMembers_eq_self fun m hmem => by
      obtain ⟨form, hform⟩ := hdeclared m hmem
      exact ⟨form, hform, ih m hmem form hform⟩
    rw [prune, properties, hmembers]

def fillMember (name : String) (fill : Json → Json) (default : Option Json)
    (ms : List (String × Json)) : List (String × Json) :=
  match (Json.lookup name ms).or default with
  | some value => Json.assign name (fill value) ms
  | none => ms

def overMembers (f : List (String × Json) → List (String × Json)) : Json → Json
  | .object ms => .object (f ms)
  | document => document

def overItems (f : Json → Json) : Json → Json
  | .list values => .list (values.map f)
  | document => document

mutual

/-- The document with the defaults of the schema for all members that are left out. -/
def fill : Schema → Json → Json
  | object _ properties _, document => overMembers (fillProperties properties) document
  | list _ items, document => overItems items.fill document
  | text _ _ _, document => document
  | boolean _, document => document
  | wordOrNull _ _ _, document => document

def fillProperties :
    List (String × Schema) → List (String × Json) → List (String × Json)
  | [], ms => ms
  | (name, form) :: rest, ms =>
    fillProperties rest (fillMember name form.fill form.note.filledWith ms)

end

section Fill

variable {properties : List (String × Schema)} {form : Schema} {name : String}

theorem overMembers_eq_null_iff (f : List (String × Json) → List (String × Json))
    (document : Json) : overMembers f document = .null ↔ document = .null := by
  cases document <;> simp [overMembers]

theorem overItems_eq_null_iff (f : Json → Json) (document : Json) :
    overItems f document = .null ↔ document = .null := by
  cases document <;> simp [overItems]

theorem fill_eq_null_iff (schema : Schema) (document : Json) :
    schema.fill document = .null ↔ document = .null := by
  match schema with
  | text _ _ _ | boolean _ | wordOrNull _ _ _ => rw [fill]
  | list _ items => rw [fill, overItems_eq_null_iff]
  | object _ properties _ => rw [fill, overMembers_eq_null_iff]

theorem lookup_fillMember_self (fill : Json → Json) (default : Option Json)
    (ms : List (String × Json)) :
    Json.lookup name (fillMember name fill default ms) =
      ((Json.lookup name ms).or default).map fill := by
  rw [fillMember]
  split
  · rename_i value hvalue
    rw [Json.lookup_assign_self, hvalue, Option.map_some]
  · rename_i hnone
    rw [hnone, (Option.or_eq_none_iff.mp hnone).1, Option.map_none]

theorem lookup_fillMember_of_ne {other : String} (h : name ≠ other) (fill : Json → Json)
    (default : Option Json) (ms : List (String × Json)) :
    Json.lookup name (fillMember other fill default ms) = Json.lookup name ms := by
  rw [fillMember]
  split
  · exact Json.lookup_assign_of_ne h _ ms
  · rfl

theorem lookup_fillProperties_of_not_mem (h : name ∉ properties.map Prod.fst)
    (ms : List (String × Json)) :
    Json.lookup name (fillProperties properties ms) = Json.lookup name ms := by
  induction properties generalizing ms with
  | nil => rw [fillProperties]
  | cons property rest ih =>
    obtain ⟨other, form⟩ := property
    obtain ⟨hne, hnot⟩ := not_or.mp (mt List.mem_cons.mpr h)
    rw [fillProperties, ih hnot, lookup_fillMember_of_ne hne]

theorem lookup_fillProperties (hnodup : (properties.map Prod.fst).Nodup)
    (hform : properties.lookup name = some form) (ms : List (String × Json)) :
    Json.lookup name (fillProperties properties ms) =
      ((Json.lookup name ms).or form.note.filledWith).map form.fill := by
  induction properties generalizing ms with
  | nil => exact absurd hform nofun
  | cons property rest ih =>
    obtain ⟨other, form'⟩ := property
    obtain ⟨hnot, hrest⟩ := List.nodup_cons.mp hnodup
    rw [fillProperties]
    rw [List.lookup_cons] at hform
    split at hform
    · rename_i heq
      obtain rfl := eq_of_beq heq
      obtain rfl := Option.some.inj hform
      -- The names are distinct, so the properties that follow leave this member alone.
      rw [lookup_fillProperties_of_not_mem hnot, lookup_fillMember_self]
    · rename_i hne
      rw [ih hrest hform, lookup_fillMember_of_ne (ne_of_beq_false hne)]

end Fill

def Fills (schema : Schema) (document filled : Json) : Prop :=
  filled = schema.fill document

section Reading

variable {α : Type} {read : Json → Option α} {schema form : Schema} {name : String}
  {properties : List (String × Schema)}

theorem unseen_fills (h : ∀ document, read (schema.fill document) = read document) :
    Unseen schema.Fills read := by
  constructor
  · rintro a b rfl
    exact h a
  · rintro a b rfl
    exact fill_eq_null_iff schema a

theorem unseen_text (note : SchemaNote) (format : Option String) (words : List String)
    (read : Json → Option α) : Unseen (text note format words).Fills read :=
  unseen_fills fun _ => by rw [fill]

theorem unseen_boolean (note : SchemaNote) (read : Json → Option α) :
    Unseen (boolean note).Fills read :=
  unseen_fills fun _ => by rw [fill]

theorem unseen_wordOrNull (note : SchemaNote) (description : String) (words : List String)
    (read : Json → Option α) : Unseen (wordOrNull note description words).Fills read :=
  unseen_fills fun _ => by rw [fill]

theorem unseen_list (note : SchemaNote) (h : Unseen form.Fills read) :
    Unseen (list note form).Fills fun document => document.list?.bind (all? read) := by
  apply unseen_fills
  intro document
  rw [fill]
  cases document with
  | list values =>
    have hitems : List.Forall₂ form.Fills values (values.map form.fill) := by
      rw [List.forall₂_map_right_iff, List.forall₂_same]
      exact fun _ _ => rfl
    exact all?_grown h hitems
  | null | bool _ | integer _ | decimal _ | text _ | object _ => rfl

theorem unseen_object (note : SchemaNote) (required : List String)
    (h : ∀ ms, read (.object (fillProperties properties ms)) = read (.object ms)) :
    Unseen (object note properties required).Fills read := by
  apply unseen_fills
  intro document
  rw [fill]
  cases document with
  | object ms => exact h ms
  | null | bool _ | integer _ | decimal _ | text _ | list _ => rfl

variable (hnodup : (properties.map Prod.fst).Nodup) (ms : List (String × Json))

include hnodup

theorem rel_fillProperties (hform : properties.lookup name = some form)
    (hdefault : form.note.filledWith = none) :
    Option.Rel form.Fills (Json.lookup name ms)
      (Json.lookup name (fillProperties properties ms)) := by
  rw [lookup_fillProperties hnodup hform, hdefault, Option.or_none]
  cases Json.lookup name ms with
  | none => exact .none
  | some value => exact .some rfl

theorem required_filled (place : Nat) (name : String) (hform : properties.lookup name = some form)
    (hdefault : form.note.filledWith = none) (hread : Unseen form.Fills read) :
    (Fields.named (fillProperties properties ms)).required place name read =
      (Fields.named ms).required place name read :=
  Fields.required_of_rel (rel_fillProperties hnodup ms hform hdefault) hread

theorem optional_filled (place : Nat) (name : String) (hform : properties.lookup name = some form)
    (hdefault : form.note.filledWith = none) (hread : Unseen form.Fills read) :
    (Fields.named (fillProperties properties ms)).optional place name read =
      (Fields.named ms).optional place name read :=
  Fields.optional_of_rel (rel_fillProperties hnodup ms hform hdefault) hread

/-- A default of the schema is not seen where it reads as the default of the field. -/
theorem defaulted_filled (place : Nat) (name : String) (default : α)
    (hform : properties.lookup name = some form)
    (hdefault : ∀ value ∈ form.note.filledWith, read value = some default)
    (hread : Unseen form.Fills read) :
    (Fields.named (fillProperties properties ms)).defaulted place name default read =
      (Fields.named ms).defaulted place name default read := by
  simp only [Fields.defaulted, Fields.find?, lookup_fillProperties hnodup hform]
  cases Json.lookup name ms with
  | some value => exact hread.read_eq rfl
  | none =>
    cases hfilled : form.note.filledWith with
    | none => rfl
    | some value => exact (hread.read_eq rfl).trans (hdefault value hfilled)

end Reading

end VersionOperator.Schema
