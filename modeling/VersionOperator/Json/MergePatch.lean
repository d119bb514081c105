import VersionOperator.Json.Basic

namespace VersionOperator.Json

mutual

/-- The document after the change. A change that is an object treats a target of any other form as
an object without members. -/
def merge (target : Json) : Json → Json
  | .object changes => .object (mergeMembers target.members changes)
  | replacement => replacement

def mergeMembers (ms : List (String × Json)) : List (String × Json) → List (String × Json)
  | [] => ms
  | (name, .null) :: rest => mergeMembers (without name ms) rest
  | (name, change) :: rest =>
    mergeMembers (assign name (merge ((lookup name ms).getD .null) change) ms) rest

end

end VersionOperator.Json
