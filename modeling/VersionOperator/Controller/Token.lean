import VersionOperator.Controller.Error
import VersionOperator.Text.Blank
import VersionOperator.Text.Utf8

namespace VersionOperator

/-- A secret of the cluster: entries as bytes, and entries as text. -/
structure Secret where
  name : Option String := none
  data : Option (List (String × List UInt8)) := none
  stringData : Option (List (String × String)) := none

def apiTokenKey : String := "apiToken"

inductive TokenFault where
  | notText
  | empty
  | missing
deriving DecidableEq

def TokenFault.message (secret : String) : TokenFault → String
  | notText => apiTokenKey ++ " in secret " ++ secret ++ " is not valid UTF-8"
  | empty => apiTokenKey ++ " in secret " ++ secret ++ " is empty"
  | missing => "secret " ++ secret ++ " does not contain " ++ apiTokenKey

namespace Secret

def tokenItem? {α : Type} (entries : Option (List (String × α))) : Option α :=
  ((entries.getD []).find? fun entry => entry.1 = apiTokenKey).map Prod.snd

def usable (text : String) : Except TokenFault String :=
  let token := Text.trimmed text
  if token = "" then .error .empty else .ok token

def token (s : Secret) : Except TokenFault String :=
  match tokenItem? s.data with
  | some bytes =>
    match Text.readUtf8? bytes with
    | some text => usable text
    | none => .error .notText
  | none =>
    match tokenItem? s.stringData with
    | some text => usable text
    | none => .error .missing

def apiToken (s : Secret) : Except ControllerError String :=
  match s.token with
  | .ok token => .ok token
  | .error fault => .error (.tokenSecret (fault.message (s.name.getD "")))

end Secret

end VersionOperator
