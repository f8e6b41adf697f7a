/-
The capabilities of a bucket. Versioning and encryption are turned on and off without regard to each other:
each has a block of its own behind the primary one, neither leaves a trace in the primary block, and the
algorithm is looked at only for the block that names it.
-/
import CloudCanvas.Proofs.Emission.Frame

namespace CloudCanvas

open CloudCanvas.Hcl Properties

namespace Bucket

/-- The properties that have no part in the primary block. -/
def capabilities : List String :=
  ["versioning", "encryption", "sse_algorithm"]

/-! ## The blocks beside the primary one -/

section

variable {props : Properties} {name : String} {blocks : List Block}

theorem versioning_eq_ite (h : versioning props name = .ok blocks) :
    blocks = if props.isOn "versioning" then [versioningBlock name] else [] := by
  obtain ⟨on, hon, rfl⟩ := versioning_eq_ok h
  rw [isOn_eq_decide hon]
  simp only [decide_eq_true_eq]

/-- The algorithm is read when encryption is on; otherwise it may be anything. -/
theorem encryption_eq_ite (h : encryption props name = .ok blocks) :
    ∃ algorithm : Option String,
      (props.isOn "encryption" = true → (props.raw "sse_algorithm").asText? = .ok algorithm) ∧
        blocks = if props.isOn "encryption" then [encryptionBlock name (algorithm.getD defaultAlgorithm)]
          else [] := by
  obtain ⟨on, hread, ⟨hon, algorithm, halgorithm, rfl⟩ | ⟨hoff, rfl⟩⟩ := encryption_eq_ok h
  · have hyes : props.isOn "encryption" = true := (isOn_eq_decide hread).trans (decide_eq_true hon)
    refine ⟨algorithm, fun _ => readWith_eq_ok halgorithm, ?_⟩
    rw [if_pos hyes]
  · have hno : props.isOn "encryption" = false := (isOn_eq_decide hread).trans (decide_eq_false hoff)
    refine ⟨none, fun hyes => ?_, ?_⟩
    · rw [hno] at hyes
      cases hyes
    · rw [hno, if_neg Bool.false_ne_true]

theorem companions_eq_ite (h : companions props name = .ok blocks) :
    ∃ algorithm : Option String,
      (props.isOn "encryption" = true → (props.raw "sse_algorithm").asText? = .ok algorithm) ∧
        blocks = (if props.isOn "versioning" then [versioningBlock name] else []) ++
          if props.isOn "encryption" then [encryptionBlock name (algorithm.getD defaultAlgorithm)] else [] := by
  obtain ⟨first, second, rfl, hversioning, hencryption⟩ := companions_eq_ok h
  obtain ⟨algorithm, halgorithm, hsecond⟩ := encryption_eq_ite hencryption
  refine ⟨algorithm, halgorithm, ?_⟩
  rw [versioning_eq_ite hversioning, hsecond]

end

/-! ## Buckets that differ in their capabilities -/

section

variable {values : Json.Fields} {name : String}

/-- A declared property that is null is neither true nor false. -/
theorem flag_eq_none {kind : Kind} {property : String} (ht : kind.typeOf? property = some .boolean)
    (hnull : values.getOrNull property = .null) : flag ⟨kind, values⟩ property = .ok none := by
  obtain ⟨field, hfield, -⟩ := Option.map_eq_some_iff.1 ht
  unfold flag readWith declared raw
  dsimp only
  rw [hfield, hnull]
  rfl

/-- Without its capabilities a bucket has its primary block alone, and that is the same. -/
theorem emit_without {d : Declaration} (h : Declaration.emit .s3 values name = .ok d) :
    Declaration.emit .s3 (values.without capabilities) name = .ok ⟨d.primary, []⟩ := by
  obtain ⟨copied, details, hparts⟩ := Declaration.exists_parts h
  have hcopy : copy ⟨.s3, values.without capabilities⟩ Kind.s3.copied = copy ⟨.s3, values⟩ Kind.s3.copied :=
    ((Json.Fields.sameBut_without capabilities values).agreeOn (by decide)).copy .s3
  have hflag : ∀ property ∈ capabilities, Kind.s3.typeOf? property = some .boolean →
      flag ⟨.s3, values.without capabilities⟩ property = .ok none :=
    fun property hproperty ht => flag_eq_none ht (Json.Fields.getOrNull_without hproperty values)
  have hcompanions : Properties.companions ⟨.s3, values.without capabilities⟩ name = .ok [] := by
    show Bucket.companions _ name = _
    unfold Bucket.companions versioning encryption
    rw [hflag "versioning" (by decide) rfl, hflag "encryption" (by decide) rfl]
    rfl
  have hwithout : Declaration.Parts .s3 (values.without capabilities) name ⟨d.primary, []⟩ copied details :=
    ⟨hcopy.trans hparts.copy_eq, hparts.details_eq, hcompanions, hparts.primary_eq⟩
  exact hwithout.emit_eq

/-- While encryption is off, the algorithm makes no difference. -/
theorem emit_eq_of_sameBut {values' : Json.Fields} (hoff : isOn ⟨.s3, values⟩ "encryption" = false)
    (h : values.SameBut ["sse_algorithm"] values') :
    Declaration.emit .s3 values' name = Declaration.emit .s3 values name := by
  have hreads : reads ⟨.s3, values⟩ = ["bucket", "force_destroy", "versioning", "encryption"] := by
    unfold reads furtherReads lastReads
    dsimp only
    rw [hoff]
    rfl
  refine Declaration.emit_congr (h.agreeOn ?_) name
  rw [hreads]
  decide

end

/-- A bucket that is emitted has its primary block first, then the versioning block just if versioning is on,
then the encryption block just if encryption is on. The primary block is the one of the bucket without all
of this, the versioning block is fixed by the name, and the encryption block by the name and the algorithm,
which is read as text, or the default one if there is none. While encryption is off, the algorithm may be
any value, or none: neither the blocks nor an error depend on it. -/
theorem capabilities_are_independent (values : Json.Fields) (name : String) :
    (∀ d, Declaration.emit .s3 values name = .ok d →
      (∃ algorithm : Option String,
        (isOn ⟨.s3, values⟩ "encryption" = true → (values.getOrNull "sse_algorithm").asText? = .ok algorithm) ∧
          d.blocks = d.primary :: (if isOn ⟨.s3, values⟩ "versioning" then [versioningBlock name] else []) ++
            if isOn ⟨.s3, values⟩ "encryption" then [encryptionBlock name (algorithm.getD "AES256")] else []) ∧
        Declaration.emit .s3 (values.without ["versioning", "encryption", "sse_algorithm"]) name =
          .ok ⟨d.primary, []⟩) ∧
      (isOn ⟨.s3, values⟩ "encryption" = false → ∀ values', values.SameBut ["sse_algorithm"] values' →
        Declaration.emit .s3 values' name = Declaration.emit .s3 values name) := by
  refine ⟨fun d hd => ⟨?_, emit_without hd⟩, fun hoff values' h => emit_eq_of_sameBut hoff h⟩
  obtain ⟨copied, details, hparts⟩ := Declaration.exists_parts hd
  obtain ⟨algorithm, halgorithm, hcompanions⟩ := companions_eq_ite hparts.companions_eq
  refine ⟨algorithm, halgorithm, ?_⟩
  unfold Declaration.blocks
  rw [hcompanions]
  rfl

/-- A bucket with both capabilities, the one by a text and the other by a truth value. -/
def guardedBucket : Json.Fields :=
  [("bucket", .string "logs"), ("encryption", .string " true"), ("versioning", .boolean true)]

theorem guardedBucket_has_both :
    (∃ d, Declaration.emit .s3 guardedBucket "logs" = .ok d ∧
      d.blocks = [d.primary, versioningBlock "logs", encryptionBlock "logs" "AES256"] ∧
      Declaration.emit .s3 [("bucket", .string "logs")] "logs" = .ok ⟨d.primary, []⟩) ∧
    isOn ⟨.s3, [("encryption", .string "false")]⟩ "encryption" = false ∧
    Declaration.emit .s3 [("encryption", .string "false"), ("sse_algorithm", .array [.null])] "logs" =
      Declaration.emit .s3 [("encryption", .string "false")] "logs" := by
  have hoff : isOn ⟨.s3, [("encryption", .string "false")]⟩ "encryption" = false := by decide +kernel
  have hinsert : Json.Fields.SameBut ["sse_algorithm"] [("encryption", .string "false")]
      [("encryption", .string "false"), ("sse_algorithm", .array [.null])] :=
    Json.Fields.sameBut_insert (List.mem_singleton_self "sse_algorithm") (.array [.null])
      [("encryption", .string "false")]
  refine ⟨?_, hoff, (capabilities_are_independent _ "logs").2 hoff _ hinsert⟩
  have hsome : (Declaration.emit .s3 guardedBucket "logs").isOk = true := by decide +kernel
  cases hd : Declaration.emit .s3 guardedBucket "logs" with
  | error e =>
    rw [hd] at hsome
    cases hsome
  | ok d =>
    obtain ⟨⟨algorithm, halgorithm, hblocks⟩, hwithout⟩ :=
      (capabilities_are_independent guardedBucket "logs").1 d hd
    have hon : isOn ⟨.s3, guardedBucket⟩ "encryption" = true := by decide +kernel
    cases halgorithm hon
    exact ⟨d, rfl, hblocks, hwithout⟩

end Bucket

end CloudCanvas
