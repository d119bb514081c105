import VersionOperator.Json.Yaml
import VersionOperator.Schema.Definition

def main : IO Unit :=
  IO.print (VersionOperator.Json.toYaml VersionOperator.Definition.document)
