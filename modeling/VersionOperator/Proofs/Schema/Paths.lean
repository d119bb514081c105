import VersionOperator.Proofs.Json.Merge
import VersionOperator.Schema.Basic

namespace VersionOperator

/-- A step down a document: to the member with a name, or to any item of a list. -/
inductive Step where
  | member (name : String)
  | item
deriving DecidableEq

namespace Json

inductive Holds : Json → List Step → Json → Prop
  | here (document : Json) : Holds document [] document
  | member {name : String} {value part : Json} {ms : List (String × Json)} {path : List Step}
      (hmem : (name, value) ∈ ms) (hpart : Holds value path part) :
      Holds (.object ms) (.member name :: path) part
  | item {value part : Json} {items : List Json} {path : List Step} (hmem : value ∈ items)
      (hpart : Holds value path part) : Holds (.list items) (.item :: path) part

theorem holds_nil_iff {document part : Json} : document.Holds [] part ↔ part = document := by
  constructor
  · rintro (_ | _)
    rfl
  · rintro rfl
    exact .here part

theorem holds_member_iff {name : String} {document part : Json} {path : List Step} :
    document.Holds (.member name :: path) part ↔
      ∃ value, (name, value) ∈ document.members ∧ value.Holds path part := by
  constructor
  · intro h
    cases h with
    | member hmem hpart => exact ⟨_, hmem, hpart⟩
  · rintro ⟨value, hmem, hpart⟩
    cases document with
    | object ms => exact .member hmem hpart
    | null | bool _ | integer _ | decimal _ | text _ | list _ => exact absurd hmem List.not_mem_nil

/-- What a schema, as a document, declares for the parts at a path. Only `properties` and `items`
declare something; what stands in a choice does not. -/
def declared? : List Step → Json → Option Json
  | [], document => some document
  | .member name :: path, document =>
    ((document.get? "properties").bind (get? name)).bind (declared? path)
  | .item :: path, document => (document.get? "items").bind (declared? path)

end Json

namespace Schema

open Json (declared? get? lookup lookup_append)

/-- The word for the type of a schema. A choice stands in the place of a type. -/
def type? : Schema → Option String
  | text _ _ _ => some "string"
  | boolean _ => some "boolean"
  | list _ _ => some "array"
  | object _ _ _ => some "object"
  | wordOrNull _ _ _ => none

def at? : List Step → Schema → Option Schema
  | [], schema => some schema
  | .member name :: path, object _ properties _ => (properties.lookup name).bind (at? path)
  | .item :: path, list _ items => items.at? path
  | _, _ => none

section Written

variable (note : SchemaNote)

@[simp] theorem lookup_member?_of_ne {name other : String} (h : other ≠ name)
    (value : Option Json) : lookup name (member? other value) = none := by
  cases value with
  | none => rfl
  | some value => rw [member?, lookup, if_neg h, lookup]

@[simp] theorem lookup_words?_of_ne {name other : String} (h : other ≠ name) (words : List String) :
    lookup name (words? other words) = none := by
  rw [words?]
  split
  · rfl
  · rw [lookup, if_neg h, lookup]

@[simp] theorem lookup_opening {name : String} (hd : "default" ≠ name) (hn : "description" ≠ name) :
    lookup name (opening note) = none := by
  rw [opening, lookup_append, lookup_member?_of_ne hd, lookup_member?_of_ne hn, Option.none_or]

@[simp] theorem lookup_nullability {name : String} (h : "nullable" ≠ name) :
    lookup name (nullability note) = none := by
  rw [nullability]
  split
  · rw [lookup, if_neg h, lookup]
  · rfl

end Written

theorem get?_type (schema : Schema) : schema.toJson.get? "type" = schema.type?.map .text := by
  cases schema <;> simp [toJson, textToJson, type?, get?, Json.members, lookup_append, lookup]

theorem get?_properties (schema : Schema) :
    schema.toJson.get? "properties" =
      match schema with
      | object _ properties _ => some (.object (propertiesToJson properties))
      | _ => none := by
  cases schema <;> simp [toJson, textToJson, get?, Json.members, lookup_append, lookup]

theorem get?_items (schema : Schema) :
    schema.toJson.get? "items" =
      match schema with
      | list _ items => some items.toJson
      | _ => none := by
  cases schema <;> simp [toJson, textToJson, get?, Json.members, lookup_append, lookup]

theorem lookup_propertiesToJson (name : String) (properties : List (String × Schema)) :
    lookup name (propertiesToJson properties) = (properties.lookup name).map toJson := by
  induction properties with
  | nil => rfl
  | cons property rest ih =>
    obtain ⟨other, form⟩ := property
    rw [propertiesToJson, lookup, List.lookup_cons, ih]
    by_cases h : other = name
    · simp [h]
    · rw [if_neg h, beq_false_of_ne (Ne.symm h)]

theorem declared?_toJson (path : List Step) (schema : Schema) :
    schema.toJson.declared? path = (schema.at? path).map toJson := by
  induction path generalizing schema with
  | nil => simp [declared?, at?]
  | cons step path ih =>
    cases step with
    | member name =>
      rw [declared?, get?_properties]
      cases schema with
      | object note properties required =>
        simp only [at?, Option.bind_some, get?, Json.members, lookup_propertiesToJson]
        cases properties.lookup name with
        | none => rfl
        | some form => exact ih form
      | text _ _ _ | boolean _ | list _ _ | wordOrNull _ _ _ => rfl
    | item =>
      rw [declared?, get?_items]
      cases schema with
      | list note items => exact ih items
      | text _ _ _ | boolean _ | object _ _ _ | wordOrNull _ _ _ => rfl

mutual

/-- The paths at which a choice stands in the place of a type. -/
def untyped : Schema → List (List Step)
  | list _ items => items.untyped.map (.item :: ·)
  | object _ properties _ => untypedProperties properties
  | wordOrNull _ _ _ => [[]]
  | text _ _ _ => []
  | boolean _ => []

def untypedProperties : List (String × Schema) → List (List Step)
  | [] => []
  | (name, form) :: rest => form.untyped.map (.member name :: ·) ++ untypedProperties rest

end

theorem mem_untypedProperties {name : String} {form : Schema} {path : List Step}
    {properties : List (String × Schema)} (hform : properties.lookup name = some form)
    (hpath : path ∈ form.untyped) : .member name :: path ∈ untypedProperties properties := by
  induction properties with
  | nil => exact absurd hform nofun
  | cons property rest ih =>
    obtain ⟨other, form'⟩ := property
    rw [untypedProperties, List.mem_append]
    rw [List.lookup_cons] at hform
    split at hform
    · rename_i heq
      obtain rfl := eq_of_beq heq
      obtain rfl := Option.some.inj hform
      exact .inl (List.mem_map_of_mem hpath)
    · exact .inr (ih hform)

theorem mem_untyped {path : List Step} {schema form : Schema} (hform : schema.at? path = some form)
    (htype : form.type? = none) : path ∈ schema.untyped := by
  induction path generalizing schema with
  | nil =>
    obtain rfl := Option.some.inj hform
    cases schema with
    | wordOrNull _ _ _ => simp [untyped]
    | text _ _ _ | boolean _ | list _ _ | object _ _ _ => exact absurd htype nofun
  | cons step path ih =>
    match step, schema with
    | .member name, object _ properties _ =>
      obtain ⟨next, hnext, hrest⟩ := Option.bind_eq_some_iff.mp hform
      rw [untyped]
      exact mem_untypedProperties hnext (ih hrest)
    | .item, list _ items =>
      rw [untyped]
      exact List.mem_map_of_mem (ih hform)

end Schema

end VersionOperator
