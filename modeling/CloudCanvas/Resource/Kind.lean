/-
The kinds of cloud resources that can be declared, with the tag that names each of them in a graph and
the type of its declaration.
-/
import CloudCanvas.Json.Decoding

namespace CloudCanvas

/-- A group of the palette. -/
inductive Category
  | compute
  | storage
  | database
  | network
  | security
  deriving DecidableEq

namespace Category

/-- Every category. -/
def all : List Category := [compute, storage, database, network, security]

/-- The name of the category. -/
def tag : Category → String
  | compute => "compute"
  | storage => "storage"
  | database => "database"
  | network => "network"
  | security => "security"

/-- Decodes a category from its name. -/
def decode : Decoder Category :=
  Json.toVariant (all.map fun c => (c.tag, c))

end Category

/-- A kind of resource. -/
inductive Kind
  | ec2
  | lambda
  | s3
  | rds
  | dynamodb
  | vpc
  | subnet
  | securityGroup
  deriving DecidableEq

namespace Kind

/-- Every kind, in the order of the palette. -/
def all : List Kind := [ec2, lambda, s3, rds, dynamodb, vpc, subnet, securityGroup]

/-- The place of the kind in the palette, by which its schema is looked up. -/
def index (kind : Kind) : Nat :=
  all.idxOf kind

/-- The tag that names the kind in a graph. -/
def tag : Kind → String
  | ec2 => "ec2"
  | lambda => "lambda"
  | s3 => "s3"
  | rds => "rds"
  | dynamodb => "dynamodb"
  | vpc => "vpc"
  | subnet => "subnet"
  | securityGroup => "security_group"

/-- The type of the primary declaration. -/
def declarationType : Kind → String
  | ec2 => "aws_instance"
  | lambda => "aws_lambda_function"
  | s3 => "aws_s3_bucket"
  | rds => "aws_db_instance"
  | dynamodb => "aws_dynamodb_table"
  | vpc => "aws_vpc"
  | subnet => "aws_subnet"
  | securityGroup => "aws_security_group"

/-- The category of the kind. -/
def category : Kind → Category
  | ec2 | lambda => .compute
  | s3 => .storage
  | rds | dynamodb => .database
  | vpc | subnet => .network
  | securityGroup => .security

/-- The kind that a tag names. -/
def ofTag? (tag : String) : Option Kind :=
  all.find? fun kind => kind.tag == tag

/-- The message for a tag that names no kind. -/
def unknownTag (tag : String) : String :=
  "Unknown resource kind: " ++ tag

/-- Decodes a kind from its tag. -/
def decode : Decoder Kind :=
  Json.toVariant (all.map fun kind => (kind.tag, kind))

end Kind

end CloudCanvas
