/-
The schema of every kind: the one place that says which properties exist, what their defaults and
options are, and which of them are required.
-/
import CloudCanvas.Resource.Schema

namespace CloudCanvas

namespace Registry

/-- Instance types on offer. -/
def instanceTypes : List String :=
  ["t2.micro", "t2.small", "t2.medium", "t3.micro", "t3.small", "t3.medium", "m5.large"]

/-- Function runtimes on offer. -/
def runtimes : List String :=
  ["nodejs18.x", "nodejs20.x", "python3.11", "python3.12", "java17", "provided.al2023"]

/-- Encryption algorithms of a bucket. -/
def encryptionAlgorithms : List String :=
  ["AES256", "aws:kms"]

/-- Database engines on offer. -/
def engines : List String :=
  ["mysql", "postgres", "mariadb"]

/-- Database instance classes on offer. -/
def instanceClasses : List String :=
  ["db.t3.micro", "db.t3.small", "db.t3.medium", "db.m5.large"]

/-- Billing modes of a table. -/
def billingModes : List String :=
  ["PAY_PER_REQUEST", "PROVISIONED"]

/-- Types of a partition key. -/
def keyTypes : List String :=
  ["S", "N", "B"]

/-- Tenancies of a private cloud. -/
def tenancies : List String :=
  ["default", "dedicated"]

end Registry

open Registry in
/-- The schema of a kind. -/
def Kind.schema : Kind → Schema
  | ec2 => ⟨.ec2, "EC2 Instance",
      [(Field.text "ami" "AMI ID" "ami-0c55b159cbfafe1f0").mandatory,
        (Field.select "instance_type" "Instance Type" "t2.micro" instanceTypes).mandatory,
        .text "key_name" "Key Pair" "",
        .text "availability_zone" "Availability Zone" "",
        .boolean "associate_public_ip_address" "Public IP" false,
        .boolean "monitoring" "Detailed Monitoring" false,
        .array "vpc_security_group_ids" "Security Group IDs" [],
        .text "user_data" "User Data" ""]⟩
  | lambda => ⟨.lambda, "Lambda Function",
      [(Field.text "function_name" "Function Name" "my-function").mandatory,
        (Field.select "runtime" "Runtime" "python3.12" runtimes).mandatory,
        (Field.text "handler" "Handler" "index.handler").mandatory,
        (Field.text "role" "Execution Role ARN"
          "arn:aws:iam::123456789012:role/lambda-execution").mandatory,
        .text "filename" "Deployment Package" "lambda.zip",
        .number "memory_size" "Memory (MB)" 128,
        .number "timeout" "Timeout (s)" 3,
        .array "layers" "Layer ARNs" []]⟩
  | s3 => ⟨.s3, "S3 Bucket",
      [(Field.text "bucket" "Bucket Name" "my-bucket").mandatory,
        .boolean "force_destroy" "Force Destroy" false,
        .boolean "versioning" "Versioning" false,
        .boolean "encryption" "Server-Side Encryption" false,
        .select "sse_algorithm" "Encryption Algorithm" "AES256" encryptionAlgorithms]⟩
  | rds => ⟨.rds, "RDS Database",
      [(Field.text "identifier" "Identifier" "my-database").mandatory,
        (Field.select "engine" "Engine" "postgres" engines).mandatory,
        .text "engine_version" "Engine Version" "",
        (Field.select "instance_class" "Instance Class" "db.t3.micro" instanceClasses).mandatory,
        (Field.number "allocated_storage" "Storage (GB)" 20).mandatory,
        .text "db_name" "Database Name" "",
        (Field.text "username" "Master Username" "admin").mandatory,
        .boolean "multi_az" "Multi-AZ" false,
        .boolean "publicly_accessible" "Publicly Accessible" false,
        .boolean "skip_final_snapshot" "Skip Final Snapshot" true]⟩
  | dynamodb => ⟨.dynamodb, "DynamoDB Table",
      [(Field.text "name" "Table Name" "my-table").mandatory,
        (Field.select "billing_mode" "Billing Mode" "PAY_PER_REQUEST" billingModes).mandatory,
        (Field.text "hash_key" "Partition Key" "id").mandatory,
        .select "hash_key_type" "Partition Key Type" "S" keyTypes,
        .number "read_capacity" "Read Capacity" 5,
        .number "write_capacity" "Write Capacity" 5]⟩
  | vpc => ⟨.vpc, "VPC",
      [(Field.text "cidr_block" "CIDR Block" "10.0.0.0/16").mandatory,
        .boolean "enable_dns_support" "DNS Support" true,
        .boolean "enable_dns_hostnames" "DNS Hostnames" false,
        .select "instance_tenancy" "Tenancy" "default" tenancies]⟩
  | subnet => ⟨.subnet, "Subnet",
      [(Field.text "cidr_block" "CIDR Block" "10.0.1.0/24").mandatory,
        .text "vpc_id" "VPC ID" "",
        .text "availability_zone" "Availability Zone" "",
        .boolean "map_public_ip_on_launch" "Auto-assign Public IP" false]⟩
  | securityGroup => ⟨.securityGroup, "Security Group",
      [(Field.text "name" "Group Name" "my-security-group").mandatory,
        .text "description" "Description" "Managed by infragraph",
        .array "ingress_ports" "Ingress Ports" ["80", "443"],
        .array "ingress_cidr_blocks" "Ingress CIDR Blocks" ["0.0.0.0/0"],
        .boolean "allow_all_egress" "Allow All Egress" true]⟩

/-- The schemas of all kinds, in the order of the palette. -/
def Registry.schemas : List Schema :=
  Kind.all.map Kind.schema

/-- The schema of a kind stands at the place that the kind has in the palette. -/
theorem Registry.getElem?_schemas_index (kind : Kind) : Registry.schemas[kind.index]? = some kind.schema := by
  cases kind <;> rfl

end CloudCanvas
