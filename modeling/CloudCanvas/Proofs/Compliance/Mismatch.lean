/-
Mismatches and failed emissions. The check reads every field of a schema, an emission only those that it
needs, and both read a field as its type. So an emission that fails does so for a mismatch that the check
finds too, or for an entry of a port list that is no port range; and every mismatch that the check finds
makes the emission fail unless the field is one that is ignored beside the values of the others.
-/
import CloudCanvas.Proofs.Compliance.Field
import CloudCanvas.Proofs.Emission.Failure
import CloudCanvas.Proofs.Emission.Ports

namespace CloudCanvas

open CloudCanvas.Graph

/-! ## Mismatches that a check finds -/

theorem Field.issue?_eq_typeMismatch_iff {field : Field} {v : Json} {name : String} {type : FieldType}
    {cause : Mismatch} :
    field.issue? v = some (.typeMismatch name type cause) ↔
      field.name = name ∧ field.type = type ∧ field.type.read v = .error cause := by
  rw [issue?_eq_some_iff]
  constructor
  · rintro (⟨found, hread, he⟩ | ⟨-, -, he⟩ | ⟨text, -, -, -, he⟩)
    · cases he
      exact ⟨rfl, rfl, hread⟩
    · cases he
    · cases he
  · rintro ⟨rfl, rfl, hread⟩
    exact .inl ⟨cause, hread, rfl⟩

/-- The check finds a mismatch of a declared field when its value cannot be read as its type. -/
theorem Graph.Node.typeMismatch_mem_issues_iff {node : Node} {kind : Kind} (hk : node.kind? = some kind)
    {name : String} {type : FieldType} {cause : Mismatch} :
    .typeMismatch name type cause ∈ node.issues ↔
      kind.typeOf? name = some type ∧ type.read (node.properties.getOrNull name) = .error cause := by
  unfold issues
  rw [hk]
  dsimp only
  have hunknown : .typeMismatch name type cause ∉ kind.schema.unknownIssues node.properties := by
    unfold Schema.unknownIssues
    simp
  rw [List.mem_append, or_iff_left hunknown]
  unfold Schema.fieldIssues
  rw [List.mem_filterMap]
  constructor
  · rintro ⟨field, hf, hissue⟩
    obtain ⟨rfl, rfl, hread⟩ := Field.issue?_eq_typeMismatch_iff.1 hissue
    exact ⟨kind.typeOf?_of_mem_fields field hf, hread⟩
  · rintro ⟨htype, hread⟩
    obtain ⟨field, hf, rfl, rfl⟩ := Kind.exists_field_of_typeOf? htype
    exact ⟨field, hf, Field.issue?_eq_typeMismatch_iff.2 ⟨rfl, rfl, hread⟩⟩

namespace Properties

variable {props : Properties} {name : String}

/-! ## Fields that an emission passes over -/

/-- The value of the field does not matter beside the values of the others: the algorithm of a bucket
that is not encrypted, the capacities of a table that is not billed for them, and the type of a partition
key that has no name. -/
def Ignored (props : Properties) (name : String) : Prop :=
  match props.kind with
  | .s3 => name = "sse_algorithm" ∧ (props.raw "encryption").asBool? ≠ .ok (some true)
  | .dynamodb =>
    (name = "read_capacity" ∨ name = "write_capacity") ∧
        (props.raw "billing_mode").asText? ≠ .ok (some "PROVISIONED") ∨
      name = "hash_key_type" ∧ (props.raw "hash_key").asText? = .ok none
  | _ => False

theorem mem_reads_bucket {values : Json.Fields}
    (h : name ∈ ["bucket", "force_destroy", "versioning", "encryption", "sse_algorithm"]) :
    name ∈ reads ⟨.s3, values⟩ ↔ ¬ Ignored ⟨.s3, values⟩ name := by
  simp only [List.mem_cons, List.not_mem_nil, or_false] at h
  unfold reads furtherReads lastReads Kind.copied Ignored
  dsimp only
  rw [ne_eq, ← isOn_iff]
  rcases h with rfl | rfl | rfl | rfl | rfl
  all_goals simp

theorem mem_reads_keyTable {values : Json.Fields}
    (h : name ∈ ["name", "billing_mode", "hash_key", "read_capacity", "write_capacity", "hash_key_type"]) :
    name ∈ reads ⟨.dynamodb, values⟩ ↔ ¬ Ignored ⟨.dynamodb, values⟩ name := by
  simp only [List.mem_cons, List.not_mem_nil, or_false] at h
  unfold reads furtherReads lastReads Kind.copied Ignored KeyTable.provisioned
  dsimp only
  rw [ne_eq, ← holdsText_iff, ← holdsNoText_iff]
  rcases h with rfl | rfl | rfl | rfl | rfl | rfl
  all_goals simp

theorem mem_reads_firewall {values : Json.Fields}
    (h : name ∈ ["name", "description", "ingress_cidr_blocks", "ingress_ports", "allow_all_egress"]) :
    name ∈ reads ⟨.securityGroup, values⟩ := by
  unfold reads furtherReads lastReads Kind.copied
  exact h

/-- Of the declared properties an emission reads those that are not ignored. -/
theorem mem_reads_iff (h : (props.kind.typeOf? name).isSome = true) :
    name ∈ props.reads ↔ ¬ props.Ignored name := by
  obtain ⟨type, htype⟩ := Option.isSome_iff_exists.1 h
  obtain ⟨field, hf, rfl, -⟩ := Kind.exists_field_of_typeOf? htype
  obtain ⟨kind, values⟩ := props
  cases kind with
  | s3 =>
    have hnames : ∀ field ∈ Kind.s3.schema.fields,
        field.name ∈ ["bucket", "force_destroy", "versioning", "encryption", "sse_algorithm"] := by
      decide +kernel
    exact mem_reads_bucket (hnames field hf)
  | dynamodb =>
    have hnames : ∀ field ∈ Kind.dynamodb.schema.fields, field.name ∈
        ["name", "billing_mode", "hash_key", "read_capacity", "write_capacity", "hash_key_type"] := by
      decide +kernel
    exact mem_reads_keyTable (hnames field hf)
  | securityGroup =>
    have hnames : ∀ field ∈ Kind.securityGroup.schema.fields, field.name ∈
        ["name", "description", "ingress_cidr_blocks", "ingress_ports", "allow_all_egress"] := by
      decide +kernel
    exact iff_of_true (mem_reads_firewall (hnames field hf)) id
  | ec2 | lambda | rds | vpc | subnet =>
    -- these kinds copy all that they read
    have hnames : ∀ kind ∈ [Kind.ec2, .lambda, .rds, .vpc, .subnet], ∀ field ∈ kind.schema.fields,
        field.name ∈ kind.copied := by
      decide +kernel
    have hcopied := hnames _ (by simp) field hf
    exact iff_of_true (List.mem_append_left _ (List.mem_append_left _ hcopied)) id

/-! ## How an emission fails -/

theorem mem_errors_iff {e : EmissionError} :
    e ∈ props.errors ↔ (∃ name ∈ props.reads, props.misfit? name = some e) ∨ props.portError? = some e := by
  unfold errors misfits reads
  simp only [List.mem_append, List.mem_filterMap, Option.mem_toList, or_and_right, exists_or]
  exact or_right_comm

/-- The port list can be read, and an entry of it spells no range. -/
def MisreadsPorts (props : Properties) : Prop :=
  props.kind = .securityGroup ∧
    ∃ entries, (props.raw "ingress_ports").asTexts = .ok entries ∧
      ∃ entry ∈ entries, ¬ ∃ low high, PortRange.Spells entry low high

end Properties

theorem Firewall.portError?_eq_some_iff {entry : String} {e : EmissionError} :
    portError? entry = some e ↔
      ∃ cause, PortRange.read entry = .error cause ∧ e = ⟨"ingress_ports", .ports entry cause⟩ := by
  unfold portError? portsOf
  cases PortRange.read entry with
  | ok range => simp
  | error cause => simp [eq_comm]

namespace Properties

variable {props : Properties} {name : String}

theorem portError?_eq_some {e : EmissionError} (h : props.portError? = some e) :
    props.kind = .securityGroup ∧
      ∃ entries entry cause, (props.raw "ingress_ports").asTexts = .ok entries ∧ entry ∈ entries ∧
        PortRange.read entry = .error cause ∧ e = ⟨"ingress_ports", .ports entry cause⟩ := by
  have hk : props.kind = .securityGroup := by
    by_cases hk : props.kind = .securityGroup
    · exact hk
    · rw [portError?_eq_none hk] at h
      cases h
  refine ⟨hk, ?_⟩
  unfold portError? ports at h
  rw [hk] at h
  dsimp only at h
  obtain ⟨entry, hentry, he⟩ := List.exists_of_findSome?_eq_some h
  split at hentry
  · rename_i entries hread
    obtain ⟨cause, hcause, rfl⟩ := Firewall.portError?_eq_some_iff.1 he
    exact ⟨entries, entry, cause, hread, hentry, hcause, rfl⟩
  · cases hentry

theorem isSome_portError?_iff : props.portError?.isSome = true ↔ props.MisreadsPorts := by
  unfold MisreadsPorts
  constructor
  · intro h
    obtain ⟨e, he⟩ := Option.isSome_iff_exists.1 h
    obtain ⟨hk, entries, entry, cause, hread, hentry, hcause, -⟩ := portError?_eq_some he
    exact ⟨hk, entries, hread, entry, hentry, PortRange.exists_error_iff.1 ⟨cause, hcause⟩⟩
  · rintro ⟨hk, entries, hread, entry, hentry, hspells⟩
    obtain ⟨cause, hcause⟩ := PortRange.exists_error_iff.2 hspells
    unfold portError? ports
    rw [hk, hread, List.findSome?_isSome_iff]
    exact ⟨entry, hentry, by rw [Firewall.portError?_eq_some_iff.2 ⟨cause, hcause, rfl⟩]; rfl⟩

theorem mem_errors_of_emit {kind : Kind} {values : Json.Fields} {name : String} {e : EmissionError}
    (h : Declaration.emit kind values name = .error e) : e ∈ errors ⟨kind, values⟩ :=
  List.mem_of_head? ((failsFirst_emit kind values name e).1 h)

/-- An emission fails when it reads a mismatched property or a port list with an entry that is none. -/
theorem exists_error_emit_iff (kind : Kind) (values : Json.Fields) (name : String) :
    (∃ e, Declaration.emit kind values name = .error e) ↔
      (∃ field ∈ reads ⟨kind, values⟩, (misfit? ⟨kind, values⟩ field).isSome = true) ∨
        MisreadsPorts ⟨kind, values⟩ := by
  rw [← isSome_portError?_iff]
  constructor
  · rintro ⟨e, he⟩
    rcases mem_errors_iff.1 (mem_errors_of_emit he) with ⟨field, hread, hm⟩ | hp
    · exact .inl ⟨field, hread, by rw [hm]; rfl⟩
    · exact .inr (by rw [hp]; rfl)
  · intro h
    have hmem : ∃ e, e ∈ errors ⟨kind, values⟩ := by
      rcases h with ⟨field, hread, hm⟩ | hp
      · obtain ⟨e, he⟩ := Option.isSome_iff_exists.1 hm
        exact ⟨e, mem_errors_iff.2 (.inl ⟨field, hread, he⟩)⟩
      · obtain ⟨e, he⟩ := Option.isSome_iff_exists.1 hp
        exact ⟨e, mem_errors_iff.2 (.inr he)⟩
    obtain ⟨e, he⟩ := hmem
    obtain ⟨first, rest, herrors⟩ := List.exists_cons_of_ne_nil (List.ne_nil_of_mem he)
    exact ⟨first, (failsFirst_emit kind values name first).2 (by rw [herrors]; rfl)⟩

end Properties

theorem Graph.Node.exists_typeMismatch_iff {node : Node} {kind : Kind}
    (hk : node.kind? = some kind) {name : String} {cause : Mismatch} :
    (∃ type, .typeMismatch name type cause ∈ node.issues) ↔
      Properties.misfit? ⟨kind, node.properties⟩ name = some ⟨name, .mismatch cause⟩ := by
  rw [Properties.misfit?_eq_some_iff]
  constructor
  · rintro ⟨type, hissue⟩
    obtain ⟨htype, hread⟩ := (typeMismatch_mem_issues_iff hk).1 hissue
    exact ⟨type, cause, htype, hread, rfl⟩
  · rintro ⟨type, found, htype, hread, he⟩
    cases he
    exact ⟨type, (typeMismatch_mem_issues_iff hk).2 ⟨htype, hread⟩⟩

/-- Mismatches and failed emissions correspond. An emission that fails does so for a mismatch that a check
finds in the same field, with the same message, or, for a security group, for an entry of its port list
that is no port and no port range; it never fails for a property that its schema does not declare.
Conversely an emission fails when a check finds a mismatch in a field that is not ignored, and it succeeds
when all mismatches are in ignored fields and all ports can be read. -/
theorem emission_fails_on_mismatches {node : Node} {kind : Kind} (hk : node.kind? = some kind)
    (name : String) :
    (∀ e, Declaration.emit kind node.properties name = .error e →
      (∃ type cause, .typeMismatch e.field type cause ∈ node.issues ∧ e.defect = .mismatch cause ∧
          e.defect.message = cause.message) ∨
        (kind = .securityGroup ∧ e.field = "ingress_ports" ∧
          ∃ entries, (node.properties.getOrNull "ingress_ports").asTexts = .ok entries ∧
            ∃ entry ∈ entries, (¬ ∃ low high, PortRange.Spells entry low high) ∧
              ∃ cause, e.defect = .ports entry cause)) ∧
    (∀ field undeclaring, Declaration.emit kind node.properties name ≠ .error ⟨field, .undeclared undeclaring⟩) ∧
    ((∃ e, Declaration.emit kind node.properties name = .error e) ↔
      (∃ field type cause, .typeMismatch field type cause ∈ node.issues ∧
          ¬ Properties.Ignored ⟨kind, node.properties⟩ field) ∨
        Properties.MisreadsPorts ⟨kind, node.properties⟩) := by
  refine ⟨fun e he => ?_, fun field undeclaring he => ?_, ?_⟩
  · rcases Properties.mem_errors_iff.1 (Properties.mem_errors_of_emit he) with ⟨field, -, hm⟩ | hp
    · obtain ⟨type, cause, -, -, rfl⟩ := Properties.misfit?_eq_some_iff.1 hm
      obtain ⟨type, hissue⟩ := (Node.exists_typeMismatch_iff hk).2 hm
      exact .inl ⟨type, cause, hissue, rfl, rfl⟩
    · obtain ⟨hgroup, entries, entry, cause, hread, hentry, hcause, rfl⟩ := Properties.portError?_eq_some hp
      exact .inr ⟨hgroup, rfl, entries, hread, entry, hentry, PortRange.exists_error_iff.1 ⟨cause, hcause⟩,
        cause, rfl⟩
  · rcases Properties.mem_errors_iff.1 (Properties.mem_errors_of_emit he) with ⟨found, -, hm⟩ | hp
    · obtain ⟨type, cause, -, -, hmismatch⟩ := Properties.misfit?_eq_some_iff.1 hm
      cases hmismatch
    · obtain ⟨-, entries, entry, cause, -, -, -, hports⟩ := Properties.portError?_eq_some hp
      cases hports
  · rw [Properties.exists_error_emit_iff]
    refine or_congr_left ?_
    constructor
    · rintro ⟨field, hread, hm⟩
      obtain ⟨e, he⟩ := Option.isSome_iff_exists.1 hm
      obtain ⟨type, cause, htype, -, rfl⟩ := Properties.misfit?_eq_some_iff.1 he
      obtain ⟨type, hissue⟩ := (Node.exists_typeMismatch_iff hk).2 he
      exact ⟨field, type, cause, hissue, (Properties.mem_reads_iff (by rw [htype]; rfl)).1 hread⟩
    · rintro ⟨field, type, cause, hissue, hignored⟩
      have hm := (Node.exists_typeMismatch_iff hk).1 ⟨type, hissue⟩
      have htype := ((Node.typeMismatch_mem_issues_iff hk).1 hissue).1
      exact ⟨field, (Properties.mem_reads_iff (by rw [htype]; rfl)).2 hignored, by rw [hm]; rfl⟩

/-- A table that is billed by request, with a list for a capacity and one for the key. -/
def listedKey : Node :=
  ⟨"t", "dynamodb", "Table", [("billing_mode", .string "PAY_PER_REQUEST"), ("hash_key", .array []),
    ("read_capacity", .array [])]⟩

/-- The check finds both mismatches. The emission does not read the capacity, but it fails for the key. -/
theorem listedKey_fails :
    listedKey.kind? = some .dynamodb ∧
      .typeMismatch "read_capacity" .number (.notNumber .array) ∈ listedKey.issues ∧
      Properties.Ignored ⟨.dynamodb, listedKey.properties⟩ "read_capacity" ∧
      .typeMismatch "hash_key" .text (.notText .array) ∈ listedKey.issues ∧
      ¬ Properties.Ignored ⟨.dynamodb, listedKey.properties⟩ "hash_key" ∧
      ∃ e, Declaration.emit .dynamodb listedKey.properties "table" = .error e ∧
        ∃ type cause, .typeMismatch e.field type cause ∈ listedKey.issues ∧
          e.defect.message = cause.message := by
  have hkind : listedKey.kind? = some .dynamodb := by decide
  have hcapacity : .typeMismatch "read_capacity" .number (.notNumber .array) ∈ listedKey.issues := by
    decide +kernel
  have hkey : .typeMismatch "hash_key" .text (.notText .array) ∈ listedKey.issues := by decide +kernel
  have hignored : Properties.Ignored ⟨.dynamodb, listedKey.properties⟩ "read_capacity" :=
    .inl ⟨.inl rfl, mt Properties.holdsText_iff.2 (by decide +kernel)⟩
  have hread : ¬ Properties.Ignored ⟨.dynamodb, listedKey.properties⟩ "hash_key" := by
    rintro (⟨h | h, -⟩ | ⟨h, -⟩)
    all_goals simp at h
  obtain ⟨hcauses, -, hfails⟩ := emission_fails_on_mismatches hkind "table"
  obtain ⟨e, he⟩ := hfails.2 (.inl ⟨_, _, _, hkey, hread⟩)
  refine ⟨hkind, hcapacity, hignored, hkey, hread, e, he, ?_⟩
  rcases hcauses e he with ⟨type, cause, hissue, -, hmessage⟩ | ⟨hgroup, -⟩
  · exact ⟨type, cause, hissue, hmessage⟩
  · cases hgroup

end CloudCanvas
