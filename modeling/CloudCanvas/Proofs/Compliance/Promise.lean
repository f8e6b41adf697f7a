/-
What a node carries that passes the check. The check and the emission go by the same schema, each in its own
way: a required field that is set stands in the primary block once, as it is read, and wherever the choice of
a select field is written, the default choices included, it is one of the options.
-/
import CloudCanvas.Proofs.Compliance.Judgement
import CloudCanvas.Proofs.Emission.Copied
import CloudCanvas.Proofs.Emission.Failure

namespace CloudCanvas

open CloudCanvas.Graph CloudCanvas.Hcl

/-! ## Clean fields -/

namespace Field

variable {field : Field} {v : Json}

/-- A required field with which no fault is found has a value. -/
theorem exists_read_of_required (h : field.issue? v = none) (hrequired : field.required = true) :
    ∃ value, field.type.read v = .ok (some value) := by
  have hno : ∀ issue, field.issue? v ≠ some issue := by simp [h]
  cases hr : field.type.read v with
  | error cause => exact absurd (issue?_eq_some_iff.2 (.inl ⟨cause, hr, rfl⟩)) (hno _)
  | ok value =>
    cases value with
    | none => exact absurd (issue?_eq_some_iff.2 (.inr (.inl ⟨hr, hrequired, rfl⟩))) (hno _)
    | some value => exact ⟨value, rfl⟩

/-- The choice of a select field with which no fault is found is one of the options. -/
theorem mem_options_of_asText? (h : field.issue? v = none) (hselect : field.type = .select) {text : String}
    (hv : v.asText? = .ok (some text)) : text ∈ field.options := by
  by_contra hno
  have hissue := issue?_eq_some_iff.2 (.inr (.inr ⟨text, hselect, hv, hno, rfl⟩))
  rw [h] at hissue
  cases hissue

/-- The value is written for one of the options. -/
def Offers (field : Field) (value : Expr) : Prop :=
  ∃ option ∈ field.options, value = .string option

theorem offers_of_read (h : field.issue? v = none) (hselect : field.type = .select) {value : Expr}
    (hread : field.type.read v = .ok (some value)) : field.Offers value := by
  rw [hselect] at hread
  obtain ⟨text?, htext, hvalue⟩ := map_eq_ok hread
  obtain ⟨text, rfl, rfl⟩ := Option.map_eq_some_iff.1 hvalue
  exact ⟨text, mem_options_of_asText? h hselect htext, rfl⟩

/-- A select field with which no fault is found is read as one of the options, or the default one. -/
theorem offers_getD (h : field.issue? v = none) (hselect : field.type = .select) {text? : Option String}
    (hv : v.asText? = .ok text?) {default : String} (hdefault : default ∈ field.options) :
    field.Offers (.string (text?.getD default)) := by
  cases text? with
  | none => exact ⟨default, hdefault, rfl⟩
  | some text => exact ⟨text, mem_options_of_asText? h hselect hv, rfl⟩

/-- The key under which the value of the field is written. -/
def writtenKey (field : Field) : String :=
  if field.name = "hash_key_type" then "type" else field.name

end Field

/-! ## Clean properties -/

theorem Kind.mem_copied_of_required (kind : Kind) :
    ∀ field ∈ kind.schema.requiredFields, field.name ∈ kind.copied := by
  cases kind <;> decide

namespace Declaration.Parts

variable {kind : Kind} {values : Json.Fields} {name : String} {d : Declaration} {copied details : List Item}
  (h : Parts kind values name d copied details)
  (hclean : ∀ field ∈ kind.schema.fields, field.issue? (values.getOrNull field.name) = none)
include h hclean

/-- A required field stands in the primary block once, as it is read. -/
theorem attributes_of_required {field : Field} (hf : field ∈ kind.schema.requiredFields) :
    ∃ value, field.type.read (values.getOrNull field.name) = .ok (some value) ∧
      d.primary.attributes field.name = [value] := by
  obtain ⟨hmem, hrequired⟩ := List.mem_filter.1 hf
  obtain ⟨value, hread⟩ := Field.exists_read_of_required (hclean field hmem) hrequired
  obtain ⟨value?, hexpr, hattributes⟩ := h.attributes_primary (kind.mem_copied_of_required field hf)
  have hsame : field.type.read (values.getOrNull field.name) = .ok value? :=
    Properties.read_of_expr (kind.typeOf?_of_mem_fields field hmem) hexpr
  rw [hread] at hsame
  cases hsame
  exact ⟨value, hread, hattributes⟩

/-- The choice of a select field that is taken over is one of the options. -/
theorem offers_of_copied {field : Field} (hf : field ∈ kind.schema.fields) (hselect : field.type = .select)
    {value : Expr} (hvalue : value ∈ copied.filterMap (Item.value? field.name)) : field.Offers value := by
  obtain ⟨hin, hout⟩ := Properties.filterMap_value?_copy kind.nodup_copied h.copy_eq field.name
  by_cases hname : field.name ∈ kind.copied
  · obtain ⟨value?, hexpr, hitems⟩ := hin hname
    rw [hitems, Option.mem_toList] at hvalue
    subst hvalue
    have hread := Properties.read_of_expr (kind.typeOf?_of_mem_fields field hf) hexpr
    exact Field.offers_of_read (hclean field hf) hselect hread
  · rw [hout hname] at hvalue
    cases hvalue

/-- The blocks of a kind that adds nothing to what it takes over. -/
theorem offers_of_plain (hdetails : details = []) (hcompanions : d.companions = []) {field : Field}
    (hf : field ∈ kind.schema.fields) (hselect : field.type = .select) :
    ∀ block ∈ d.blocks, ∀ value ∈ block.values field.name, field.Offers value := by
  unfold blocks
  rw [hcompanions]
  refine List.forall_mem_singleton.2 fun value hvalue => ?_
  rw [h.values_primary, hdetails, bodyValues, List.append_nil] at hvalue
  exact h.offers_of_copied hclean hf hselect hvalue

end Declaration.Parts

namespace Declaration.Parts

variable {values : Json.Fields} {name : String} {d : Declaration} {copied details : List Item} {field : Field}

/-- The blocks of a table: its billing mode is taken over, the type of its partition key stands in a block
inside the primary one. -/
theorem offers_of_keyTable (h : Parts .dynamodb values name d copied details)
    (hclean : ∀ field ∈ Kind.dynamodb.schema.fields, field.issue? (values.getOrNull field.name) = none)
    (hf : field ∈ Kind.dynamodb.schema.fields) (hselect : field.type = .select) :
    ∀ block ∈ d.blocks, ∀ value ∈ block.values field.writtenKey, field.Offers value := by
  have hcompanions : d.companions = [] := (Except.ok.inj h.companions_eq).symm
  unfold blocks
  rw [hcompanions]
  refine List.forall_mem_singleton.2 fun value hvalue => ?_
  rw [h.values_primary] at hvalue
  unfold Field.writtenKey at hvalue
  split at hvalue
  · rename_i hname
    have hdefault : ∀ field ∈ Kind.dynamodb.schema.fields, field.name = "hash_key_type" →
        KeyTable.defaultKeyType ∈ field.options := by
      decide
    rw [(Properties.filterMap_value?_copy (Kind.nodup_copied _) h.copy_eq "type").2 (by decide),
      List.nil_append] at hvalue
    obtain ⟨type, htype, rfl⟩ := KeyTable.exists_of_mem_type h.details_eq hvalue
    have hread := Properties.readWith_eq_ok htype
    rw [← hname] at hread
    exact Field.offers_getD (hclean field hf) hselect hread (hdefault field hf hname)
  · have hnames : ∀ field ∈ Kind.dynamodb.schema.fields, field.type = .select →
        field.name ∉ ["read_capacity", "write_capacity", "name", "type"] := by
      decide
    rw [KeyTable.bodyValues_details h.details_eq (hnames field hf hselect), List.append_nil] at hvalue
    exact h.offers_of_copied hclean hf hselect hvalue

/-- The blocks of a bucket: its algorithm stands in the encryption block alone. -/
theorem offers_of_bucket (h : Parts .s3 values name d copied details)
    (hclean : ∀ field ∈ Kind.s3.schema.fields, field.issue? (values.getOrNull field.name) = none)
    (hf : field ∈ Kind.s3.schema.fields) (hselect : field.type = .select) :
    ∀ block ∈ d.blocks, ∀ value ∈ block.values "sse_algorithm", field.Offers value := by
  have honly : ∀ field ∈ Kind.s3.schema.fields, field.type = .select →
      field.name = "sse_algorithm" ∧ Bucket.defaultAlgorithm ∈ field.options := by
    decide
  obtain ⟨hname, hdefault⟩ := honly field hf hselect
  have hdetails : details = [] := (Except.ok.inj h.details_eq).symm
  obtain ⟨first, second, hcompanions, hfirst, hsecond⟩ := Bucket.exists_of_companions h.companions_eq
  have hprimary : d.primary.values "sse_algorithm" = [] := by
    rw [h.values_primary, hdetails, bodyValues, List.append_nil]
    exact (Properties.filterMap_value?_copy (Kind.nodup_copied _) h.copy_eq _).2 (by decide)
  intro block hblock value hvalue
  unfold blocks at hblock
  rw [hcompanions, List.mem_cons, List.mem_append] at hblock
  rcases hblock with rfl | hblock | hblock
  · rw [hprimary] at hvalue
    cases hvalue
  · rcases hfirst with rfl | rfl
    · cases hblock
    · rw [List.mem_singleton.1 hblock] at hvalue
      cases hvalue
  · rcases hsecond with rfl | ⟨algorithm, halgorithm, rfl⟩
    · cases hblock
    · rw [List.mem_singleton.1 hblock] at hvalue
      rw [List.mem_singleton.1 hvalue]
      have hread := Properties.readWith_eq_ok halgorithm
      rw [← hname] at hread
      exact Field.offers_getD (hclean field hf) hselect hread hdefault

/-- Wherever the choice of a select field is written, it is one of the options. -/
theorem offers_of_select {kind : Kind} (h : Parts kind values name d copied details)
    (hclean : ∀ field ∈ kind.schema.fields, field.issue? (values.getOrNull field.name) = none)
    (hf : field ∈ kind.schema.fields) (hselect : field.type = .select) :
    ∀ block ∈ d.blocks, ∀ value ∈ block.values field.writtenKey, field.Offers value := by
  have hkey : kind ≠ .dynamodb → field.writtenKey = field.name := by
    intro hkind
    refine if_neg fun hname => ?_
    have honly : ∀ kind ∈ Kind.all, ∀ field ∈ kind.schema.fields, field.name = "hash_key_type" →
        kind = .dynamodb := by
      decide
    exact hkind (honly kind (by cases kind <;> decide) field hf hname)
  cases kind with
  | dynamodb => exact h.offers_of_keyTable hclean hf hselect
  | s3 =>
    have hname : ∀ field ∈ Kind.s3.schema.fields, field.type = .select → field.name = "sse_algorithm" := by
      decide
    rw [hkey (by decide), hname field hf hselect]
    exact h.offers_of_bucket hclean hf hselect
  | securityGroup =>
    have hnone : ∀ field ∈ Kind.securityGroup.schema.fields, field.type ≠ .select := by decide
    exact absurd hselect (hnone field hf)
  | ec2 | lambda | rds | vpc | subnet =>
    rw [hkey (by decide)]
    exact h.offers_of_plain hclean (Except.ok.inj h.details_eq).symm (Except.ok.inj h.companions_eq).symm
      hf hselect

end Declaration.Parts

/-- A node that passes the check carries what its schema promises, if it is emitted: the primary block has
one attribute for every required field, with the value that the field is read as, and wherever the choice of
a select field is written, at any depth and in any block, it is one of the options, whether it was chosen or
is the default one. -/
theorem passing_node_keeps_promises {node : Node} {kind : Kind} (hk : node.kind? = some kind)
    (hpasses : ∀ issue ∈ node.issues, issue.isError = false) {name : String} {d : Declaration}
    (hd : Declaration.emit kind node.properties name = .ok d) :
    (∀ field ∈ kind.schema.requiredFields, ∃ value,
      field.type.read (node.properties.getOrNull field.name) = .ok (some value) ∧
        d.primary.attributes field.name = [value]) ∧
    (∀ field ∈ kind.schema.fields, field.type = .select →
      ∀ block ∈ d.blocks, ∀ value ∈ block.values field.writtenKey,
        ∃ option ∈ field.options, value = .string option) := by
  obtain ⟨copied, details, hparts⟩ := Declaration.exists_parts hd
  have hclean := node.issue?_of_issues hk hpasses
  exact ⟨fun field hf => hparts.attributes_of_required hclean hf,
    fun field hf hselect => hparts.offers_of_select hclean hf hselect⟩

/-- A table that does not name the type of its partition key. -/
def ordersTable : Node :=
  ⟨"t", "dynamodb", "Orders", [("billing_mode", .string "PROVISIONED"), ("hash_key", .string "id"),
    ("name", .string "orders"), ("owner", .string "web")]⟩

theorem ordersTable_keeps_promises :
    ordersTable.kind? = some .dynamodb ∧ (∀ issue ∈ ordersTable.issues, issue.isError = false) ∧
      ∃ d, Declaration.emit .dynamodb ordersTable.properties "orders" = .ok d ∧
        d.primary.attributes "billing_mode" = [.string "PROVISIONED"] ∧
        ∀ block ∈ d.blocks, ∀ value ∈ block.values "type",
          ∃ option ∈ ["S", "N", "B"], value = .string option := by
  have hk : ordersTable.kind? = some .dynamodb := by decide +kernel
  have hpasses : ∀ issue ∈ ordersTable.issues, issue.isError = false := by decide +kernel
  have hsome : (Declaration.emit .dynamodb ordersTable.properties "orders").isOk = true := by decide +kernel
  cases hd : Declaration.emit .dynamodb ordersTable.properties "orders" with
  | error e =>
    rw [hd] at hsome
    cases hsome
  | ok d =>
    obtain ⟨hrequired, hselect⟩ := passing_node_keeps_promises hk hpasses hd
    obtain ⟨value, hread, hattributes⟩ :=
      hrequired (Field.select "billing_mode" "Billing Mode" "PAY_PER_REQUEST" Registry.billingModes).mandatory
        (List.mem_cons_of_mem _ (List.mem_cons_self ..))
    cases hread
    exact ⟨hk, hpasses, d, rfl, hattributes,
      hselect (.select "hash_key_type" "Partition Key Type" "S" Registry.keyTypes)
        (List.mem_cons_of_mem _ (List.mem_cons_of_mem _ (List.mem_cons_of_mem _ (List.mem_cons_self ..)))) rfl⟩

end CloudCanvas
