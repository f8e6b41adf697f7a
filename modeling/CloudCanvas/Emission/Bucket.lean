/-
What a bucket needs beside its own block: versioning and encryption are declarations of their own, each
of which points back at the bucket.
-/
import CloudCanvas.Emission.Properties

namespace CloudCanvas.Bucket

open Hcl

/-- What is added to the bucket's name for its versioning block. -/
def versioningSuffix : String := "_versioning"

/-- What is added to the bucket's name for its encryption block. -/
def encryptionSuffix : String := "_encryption"

/-- The algorithm of a bucket that names none. -/
def defaultAlgorithm : String := "AES256"

/-- The reference to the bucket from one of its other blocks. -/
def idOf (name : String) : Expr :=
  .reference (Kind.s3.declarationType ++ "." ++ name ++ ".id")

/-- The block that turns versioning on. -/
def versioningBlock (name : String) : Block :=
  (Block.resource "aws_s3_bucket_versioning" (name ++ versioningSuffix)).append
    [.attribute "bucket" (idOf name),
      .block "versioning_configuration" [] [.attribute "status" (.string "Enabled")]]

/-- The block that turns encryption on. -/
def encryptionBlock (name algorithm : String) : Block :=
  (Block.resource "aws_s3_bucket_server_side_encryption_configuration"
      (name ++ encryptionSuffix)).append
    [.attribute "bucket" (idOf name),
      .block "rule" []
        [.block "apply_server_side_encryption_by_default" []
          [.attribute "sse_algorithm" (.string algorithm)]]]

/-- The versioning block, when versioning is on. -/
def versioning (props : Properties) (name : String) : Except EmissionError (List Block) := do
  if (← props.flag "versioning") = some true then
    return [versioningBlock name]
  else
    return []

/-- The encryption block, when encryption is on. The algorithm is read only then. -/
def encryption (props : Properties) (name : String) : Except EmissionError (List Block) := do
  if (← props.flag "encryption") = some true then
    let algorithm ← props.text "sse_algorithm"
    return [encryptionBlock name (algorithm.getD defaultAlgorithm)]
  else
    return []

/-- The blocks beside the bucket's own: versioning, then encryption. -/
def companions (props : Properties) (name : String) : Except EmissionError (List Block) := do
  let first ← versioning props name
  let second ← encryption props name
  return first ++ second

end CloudCanvas.Bucket
