namespace VersionOperator

inductive ComponentKind where
  | activeGate
  | oneAgent
  | codeModules
deriving DecidableEq

namespace ComponentKind

def all : List ComponentKind := [activeGate, oneAgent, codeModules]

def name : ComponentKind → String
  | activeGate => "activegate"
  | oneAgent => "oneagent"
  | codeModules => "codemodules"

def conditionType : ComponentKind → String
  | activeGate => "ActiveGateVersion"
  | oneAgent => "OneAgentVersion"
  | codeModules => "CodeModulesVersion"

theorem mem_all (kind : ComponentKind) : kind ∈ all := by
  cases kind <;> simp [all]

theorem conditionType_inj {a b : ComponentKind} :
    a.conditionType = b.conditionType ↔ a = b := by
  cases a <;> cases b <;> simp [conditionType]

end ComponentKind

end VersionOperator
