import VersionOperator.Json.Basic

namespace VersionOperator.Json

/-- One character inside a text: quotes, backslashes and control characters are escaped. -/
def writtenChar (c : Char) : String :=
  if c = '"' then "\\\""
  else if c = '\\' then "\\\\"
  else if c = '\n' then "\\n"
  else if c = '\r' then "\\r"
  else if c = '\t' then "\\t"
  else if c.toNat < 0x20 then
    "\\u00" ++ (if c.toNat < 0x10 then "0" else "1") ++
      String.ofList (Nat.toDigits 16 (c.toNat % 16))
  else String.singleton c

def writtenText (s : String) : String :=
  s.toList.foldl (fun out c => out ++ writtenChar c) "\"" ++ "\""

mutual

def writeOnto (out : String) : Json → String
  | .null => out ++ "null"
  | .bool true => out ++ "true"
  | .bool false => out ++ "false"
  | .integer n => out ++ toString n
  | .decimal written => out ++ written
  | .text s => out ++ writtenText s
  | .list items => writeItems (out ++ "[") true items ++ "]"
  | .object ms => writeMembers (out ++ "\x7b") true ms ++ "\x7d"

/-- The items added to the text so far, a comma before each but the first. -/
def writeItems (out : String) (first : Bool) : List Json → String
  | [] => out
  | item :: rest =>
    writeItems (writeOnto (if first then out else out ++ ",") item) false rest

def writeMembers (out : String) (first : Bool) : List (String × Json) → String
  | [] => out
  | (name, value) :: rest =>
    let opened := (if first then out else out ++ ",") ++ writtenText name ++ ":"
    writeMembers (writeOnto opened value) false rest

end

def write (document : Json) : String :=
  writeOnto "" document

end VersionOperator.Json
