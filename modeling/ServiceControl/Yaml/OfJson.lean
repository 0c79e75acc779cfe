import ServiceControl.Json.Value
import ServiceControl.Yaml.Value

/-!
# JSON data as YAML values

Every JSON value is a YAML value. The fields of an object keep their order.
-/

namespace ServiceControl.Yaml

mutual

/-- The YAML value of JSON data. -/
def Value.ofJson : Json → Value
  | .null => .null
  | .bool b => .bool b
  | .int i => .int i
  | .float x => .float x
  | .str s => .str s
  | .arr items => .seq (Value.ofItems items)
  | .obj fields => .map (Value.ofFields fields)
  | .fault => .null

/-- The YAML values of items. -/
def Value.ofItems : List Json → List Value
  | [] => []
  | j :: r => Value.ofJson j :: Value.ofItems r

/-- The YAML entries of fields. -/
def Value.ofFields : List (String × Json) → List (Value × Value)
  | [] => []
  | (k, j) :: r => (.str k, Value.ofJson j) :: Value.ofFields r

end

end ServiceControl.Yaml
