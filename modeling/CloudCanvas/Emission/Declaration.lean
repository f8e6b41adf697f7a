/-
The blocks that declare a node: the primary block, with the properties that are copied as they are and
what its kind adds to them, and the blocks that stand beside it. Tags and dependencies are added to the
primary block at the end.
-/
import CloudCanvas.Emission.Bucket
import CloudCanvas.Emission.Firewall
import CloudCanvas.Emission.KeyTable

namespace CloudCanvas

open Hcl

/-- The properties that the primary block takes over, in order. -/
def Kind.copied : Kind → List String
  | ec2 => ["ami", "instance_type", "key_name", "availability_zone", "associate_public_ip_address",
      "monitoring", "vpc_security_group_ids", "user_data"]
  | lambda => ["function_name", "runtime", "handler", "role", "filename", "memory_size", "timeout",
      "layers"]
  | s3 => ["bucket", "force_destroy"]
  | rds => ["identifier", "engine", "engine_version", "instance_class", "allocated_storage", "db_name",
      "username", "multi_az", "publicly_accessible", "skip_final_snapshot"]
  | dynamodb => ["name", "billing_mode", "hash_key"]
  | vpc => ["cidr_block", "enable_dns_support", "enable_dns_hostnames", "instance_tenancy"]
  | subnet => ["vpc_id", "cidr_block", "availability_zone", "map_public_ip_on_launch"]
  | securityGroup => ["name", "description"]

/-- What the primary block holds after the copied properties. -/
def Properties.details (props : Properties) : Except EmissionError (List Item) :=
  match props.kind with
  | .dynamodb => KeyTable.details props
  | .securityGroup => Firewall.rules props
  | _ => .ok []

/-- The blocks beside the primary one. -/
def Properties.companions (props : Properties) (name : String) : Except EmissionError (List Block) :=
  match props.kind with
  | .s3 => Bucket.companions props name
  | _ => .ok []

/-- The blocks of a node: its primary block and the blocks beside it. -/
structure Declaration where
  primary : Block
  companions : List Block

namespace Declaration

/-- Writes the blocks of a node of a kind under a name. -/
def emit (kind : Kind) (values : Json.Fields) (name : String) : Except EmissionError Declaration := do
  let props : Properties := ⟨kind, values⟩
  let copied ← props.copy kind.copied
  let details ← props.details
  let companions ← props.companions name
  return ⟨(Block.resource kind.declarationType name).append (copied ++ details), companions⟩

/-- All blocks, the primary one first. -/
def blocks (d : Declaration) : List Block :=
  d.primary :: d.companions

/-- What stands at the end of a primary block: its tags and, when there are any, the declarations that
it depends on. -/
def closing (tags : List (String × String)) (references : List String) : List Item :=
  [.blank, .entries "tags" tags] ++
    if references.isEmpty then []
    else [.blank, .attribute "depends_on" (.references references)]

/-- Adds tags and dependencies to the primary block. -/
def finish (d : Declaration) (tags : List (String × String)) (references : List String) : Declaration :=
  { d with primary := d.primary.append (closing tags references) }

end Declaration

end CloudCanvas
