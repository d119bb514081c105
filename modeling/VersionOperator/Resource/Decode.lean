import VersionOperator.Resource.DynaKube
import VersionOperator.Resource.Fields
import VersionOperator.Time.Rfc3339

namespace VersionOperator

def Instant.ofJson? (document : Json) : Option Instant :=
  document.text?.bind Time.read?

def VersionSource.ofJson? (isNothing : Json → Bool) (document : Json) : Option VersionSource :=
  (document.choice? isNothing).bind VersionSource.ofWord?

def VersionStatus.ofFields? (isNothing : Json → Bool) (fields : Fields) : Option VersionStatus := do
  let version ← fields.defaulted 0 "version" "" Json.text?
  let image ← fields.defaulted 1 "imageID" "" Json.text?
  let source ← fields.optional 2 "source" (VersionSource.ofJson? isNothing)
  let lastProbe ← fields.optional 3 "lastProbeTimestamp" Instant.ofJson?
  return { version, image, source, lastProbe }

def VersionStatus.ofJson? (document : Json) : Option VersionStatus :=
  (document.fields? 4).bind (VersionStatus.ofFields? Json.isNull)

def VersionStatus.ofComponentJson? (document : Json) : Option VersionStatus :=
  document.namedFields?.bind (VersionStatus.ofFields? Json.isNullOrEmpty)

def Truth.ofJson? (document : Json) : Option Truth :=
  (document.choice? Json.isNull).bind Truth.ofWord?

def Condition.ofJson? (document : Json) : Option Condition := do
  let fields ← document.fields? 5
  let type ← fields.required 0 "type" Json.text?
  let status ← fields.required 1 "status" Truth.ofJson?
  let reason ← fields.required 2 "reason" Json.text?
  let message ← fields.defaulted 3 "message" "" Json.text?
  let since ← fields.required 4 "lastTransitionTime" Instant.ofJson?
  return { type, status, reason, message, since }

def Ledger.ofJson? (document : Json) : Option Ledger :=
  document.list?.bind (all? Condition.ofJson?)

def DynaKubeStatus.ofJson? (document : Json) : Option DynaKubeStatus := do
  let fields ← document.fields? 4
  let activeGate ← fields.defaulted 0 "activeGate" {} VersionStatus.ofComponentJson?
  let oneAgent ← fields.defaulted 1 "oneAgent" {} VersionStatus.ofComponentJson?
  let codeModules ← fields.defaulted 2 "codeModules" {} VersionStatus.ofComponentJson?
  let conditions ← fields.defaulted 3 "conditions" [] Ledger.ofJson?
  return { activeGate, oneAgent, codeModules, conditions }

def HostAgent.ofFields? (fields : Fields) : Option HostAgent := do
  let image ← fields.optional 0 "image" Json.text?
  let version ← fields.optional 1 "version" Json.text?
  let autoUpdate ← fields.optional 2 "autoUpdate" Json.bool?
  return { image, version, autoUpdate }

def HostAgent.ofJson? (document : Json) : Option HostAgent :=
  (document.fields? 3).bind HostAgent.ofFields?

/-- The cloud-native mode, whose object also holds the settings of the host agent. -/
def CloudNative.ofJson? (document : Json) : Option CloudNative := do
  let fields ← document.namedFields?
  let host ← HostAgent.ofFields? fields
  let codeModulesImage ← fields.optional 1 "codeModulesImage" Json.text?
  return { host, codeModulesImage }

def ApplicationMonitoring.ofJson? (document : Json) : Option ApplicationMonitoring := do
  let fields ← document.fields? 2
  let version ← fields.optional 0 "version" Json.text?
  let codeModulesImage ← fields.optional 1 "codeModulesImage" Json.text?
  return { version, codeModulesImage }

def ActiveGateSpec.ofJson? (document : Json) : Option ActiveGateSpec := do
  let fields ← document.fields? 2
  let capabilities ← fields.defaulted 0 "capabilities" [] fun items =>
    items.list?.bind (all? Json.text?)
  let image ← fields.optional 1 "image" Json.text?
  return { capabilities, image }

def OneAgentSpec.ofJson? (document : Json) : Option OneAgentSpec := do
  let fields ← document.fields? 4
  let classicFullStack ← fields.optional 0 "classicFullStack" HostAgent.ofJson?
  let cloudNativeFullStack ← fields.optional 1 "cloudNativeFullStack" CloudNative.ofJson?
  let hostMonitoring ← fields.optional 2 "hostMonitoring" HostAgent.ofJson?
  let applicationMonitoring ←
    fields.optional 3 "applicationMonitoring" ApplicationMonitoring.ofJson?
  return { classicFullStack, cloudNativeFullStack, hostMonitoring, applicationMonitoring }

def DynaKubeSpec.ofJson? (document : Json) : Option DynaKubeSpec := do
  let fields ← document.fields? 4
  let apiUrl ← fields.required 0 "apiUrl" Json.text?
  let tokens ← fields.optional 1 "tokens" Json.text?
  let activeGate ← fields.defaulted 2 "activeGate" {} ActiveGateSpec.ofJson?
  let oneAgent ← fields.defaulted 3 "oneAgent" {} OneAgentSpec.ofJson?
  return { apiUrl, tokens, activeGate, oneAgent }

def Annotations.ofJson? (document : Json) : Option Annotations :=
  document.object?.bind (all? fun (name, value) => value.text?.map (name, ·))

def Json.signedWord? (document : Json) : Option Int :=
  document.integer?.filter fun n => -9223372036854775808 ≤ n && n < 9223372036854775808

def Metadata.ofJson? (document : Json) : Option Metadata := do
  let fields ← document.namedFields?
  let name ← fields.optional 0 "name" Json.text?
  let inNamespace ← fields.optional 1 "namespace" Json.text?
  let annotations ← fields.optional 2 "annotations" Annotations.ofJson?
  let generation ← fields.optional 3 "generation" Json.signedWord?
  let uid ← fields.optional 4 "uid" Json.text?
  return { name, inNamespace, annotations, generation, uid }

def DynaKube.ofJson? (document : Json) : Option DynaKube := do
  let fields ← document.fields? 3
  let metadata ← fields.required 0 "metadata" Metadata.ofJson?
  let spec ← fields.required 1 "spec" DynaKubeSpec.ofJson?
  let status ← fields.slot 2 "status" DynaKubeStatus.ofJson?
  return { metadata, spec, status }

end VersionOperator
