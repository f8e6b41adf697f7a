/-
What a key-value table needs beyond its plain attributes: capacities when it is billed for provisioned
throughput, and a description of its partition key.
-/
import CloudCanvas.Emission.Properties

namespace CloudCanvas

open Hcl

/-- Copies the listed properties, each under its own name, as far as they are present. -/
def Properties.copy (props : Properties) (names : List String) : Except EmissionError (List Item) :=
  match names with
  | [] => .ok []
  | name :: rest => do
    let value ← props.expr name
    let others ← props.copy rest
    return Item.attribute? name value ++ others

namespace KeyTable

/-- The billing mode in which capacities matter. -/
def provisioned : String := "PROVISIONED"

/-- The type of a partition key that names none. -/
def defaultKeyType : String := "S"

/-- The capacities of a table; they are read only when the billing mode is the provisioned one. -/
def capacities (props : Properties) : Except EmissionError (List Item) := do
  if (← props.text "billing_mode") = some provisioned then
    props.copy ["read_capacity", "write_capacity"]
  else
    return []

/-- The description of the partition key, when there is one. -/
def partitionKey (props : Properties) : Except EmissionError (List Item) := do
  match ← props.text "hash_key" with
  | none => return []
  | some key =>
    let type ← props.text "hash_key_type"
    return [.block "attribute" []
      [.attribute "name" (.string key), .attribute "type" (.string (type.getD defaultKeyType))]]

/-- The capacities and the partition key. -/
def details (props : Properties) : Except EmissionError (List Item) := do
  let first ← capacities props
  let second ← partitionKey props
  return first ++ second

end KeyTable

end CloudCanvas
