import VersionOperator.Json.Basic

namespace VersionOperator

/-- What a schema says besides the form: a description and a title for people, whether null will do,
and the value of a member that is left out. -/
structure SchemaNote where
  description : Option String := none
  title : Option String := none
  nullable : Bool := false
  filledWith : Option Json := none

/-- The form of a document. A text may be bound to a format or to a few words. In `wordOrNull` the
words, which have a description of their own, and null are spelled out as a choice that stands in
the place of a type. -/
inductive Schema where
  | text (note : SchemaNote) (format : Option String) (words : List String)
  | boolean (note : SchemaNote)
  | list (note : SchemaNote) (items : Schema)
  | object (note : SchemaNote) (properties : List (String × Schema)) (required : List String)
  | wordOrNull (note : SchemaNote) (description : String) (words : List String)

namespace Schema

def member? (name : String) : Option Json → List (String × Json)
  | some value => [(name, value)]
  | none => []

def opening (note : SchemaNote) : List (String × Json) :=
  member? "default" note.filledWith ++ member? "description" (note.description.map .text)

def nullability (note : SchemaNote) : List (String × Json) :=
  if note.nullable then [("nullable", .bool true)] else []

def words? (name : String) (words : List String) : List (String × Json) :=
  if words = [] then [] else [(name, .list (words.map .text))]

def textToJson (note : SchemaNote) (format : Option String) (words : List String) : Json :=
  .object <|
    opening note ++ words? "enum" words ++ member? "format" (format.map .text) ++
      nullability note ++ [("type", .text "string")]

mutual

def toJson : Schema → Json
  | text note format words => textToJson note format words
  | boolean note => .object (opening note ++ nullability note ++ [("type", .text "boolean")])
  | list note items =>
    .object <|
      opening note ++ [("items", items.toJson)] ++ nullability note ++ [("type", .text "array")]
  | object note properties required =>
    .object <|
      opening note ++ nullability note ++ [("properties", .object (propertiesToJson properties))] ++
        words? "required" required ++ member? "title" (note.title.map .text) ++
        [("type", .text "object")]
  | wordOrNull note description words =>
    .object <|
      ("anyOf",
        .list
          [textToJson { description := some description } none words,
            .object [("enum", .list [.null]), ("nullable", .bool true)]]) ::
        opening note

def propertiesToJson : List (String × Schema) → List (String × Json)
  | [] => []
  | (name, schema) :: rest => (name, schema.toJson) :: propertiesToJson rest

end

end Schema

end VersionOperator
