/-
A check judges every property on its own. There is at most one issue about a property, and which one is told
by the kind, the name and the value of that property alone; so a property that is set right takes away its
own issue and no other.
-/
import CloudCanvas.Proofs.Compliance.Field
import CloudCanvas.Proofs.Graph.Saving

namespace CloudCanvas

open CloudCanvas.Graph

namespace Kind

theorem nodup_names (kind : Kind) : (kind.schema.fields.map (·.name)).Nodup := by
  cases kind <;> decide

/-- No fault is found with a default value. -/
theorem issue?_default (kind : Kind) : ∀ field ∈ kind.schema.fields, field.issue? field.default = none := by
  cases kind <;> decide +kernel

theorem eq_of_name_eq (kind : Kind) {field other : Field} (hf : field ∈ kind.schema.fields)
    (ho : other ∈ kind.schema.fields) (h : field.name = other.name) : field = other :=
  List.inj_on_of_nodup_map kind.nodup_names hf ho h

theorem field?_of_mem (kind : Kind) {field : Field} (hf : field ∈ kind.schema.fields) :
    kind.schema.field? field.name = some field := by
  unfold Schema.field?
  cases hfound : kind.schema.fields.find? fun other => other.name == field.name with
  | none =>
    rw [List.find?_eq_none] at hfound
    exact absurd (beq_self_eq_true field.name) (hfound field hf)
  | some other =>
    have hname : other.name = field.name := by simpa using List.find?_some hfound
    rw [kind.eq_of_name_eq (List.mem_of_find?_eq_some hfound) hf hname]

end Kind

/-! ## Issues about one property -/

namespace Schema

variable (schema : Schema) (values : Json.Fields)

/-- The names of the properties that the schema does not declare, in their order. -/
def undeclared : List String :=
  (values.map (·.1)).filter fun key => (schema.field? key).isNone

theorem unknownIssues_eq_map :
    schema.unknownIssues values = (schema.undeclared values).map .unknownProperty := by
  unfold unknownIssues undeclared
  induction values with
  | nil => rfl
  | cons entry rest ih =>
    rw [List.filterMap_cons, List.map_cons, List.filter_cons, ih]
    dsimp only
    by_cases h : (schema.field? entry.1).isNone = true
    · rw [if_pos h, if_pos h, List.map_cons]
    · rw [if_neg h, if_neg h]

theorem mem_undeclared {key : String} :
    key ∈ schema.undeclared values ↔ schema.field? key = none ∧ (values.get? key).isSome = true := by
  unfold undeclared
  rw [List.mem_filter, Keyed.isSome_get?_iff, Option.isNone_iff_eq_none, and_comm]

theorem map_field?_fieldIssues_sublist :
    ((schema.fieldIssues values).map Issue.field?).Sublist (schema.fields.map fun field => some field.name) := by
  unfold fieldIssues
  induction schema.fields with
  | nil => exact List.Sublist.slnil
  | cons field rest ih =>
    rw [List.filterMap_cons, List.map_cons]
    split
    · exact ih.cons _
    · rename_i hissue
      rw [List.map_cons, Field.field?_of_issue? hissue]
      exact ih.cons_cons _

/-- The issues about a declared property are those of its field. -/
theorem filter_fieldIssues (hnames : (schema.fields.map (·.name)).Nodup) (name : String) :
    ((schema.fieldIssues values).filter fun issue => issue.field? = some name) =
      ((schema.field? name).bind fun field => field.issue? (values.getOrNull name)).toList := by
  unfold fieldIssues field?
  generalize schema.fields = fields at hnames ⊢
  induction fields with
  | nil => rfl
  | cons field rest ih =>
    obtain ⟨hfield, hrest⟩ := List.nodup_cons.1 hnames
    have htail := ih hrest
    rw [List.find?_cons]
    by_cases hname : field.name = name
    · -- the other fields have other names
      subst hname
      have hnone : rest.find? (fun other => other.name == field.name) = none :=
        List.find?_eq_none.2 fun other ho he => hfield (List.mem_map.2 ⟨other, ho, eq_of_beq he⟩)
      rw [hnone] at htail
      rw [beq_self_eq_true, List.filterMap_cons]
      cases hissue : field.issue? (values.getOrNull field.name) with
      | none => simpa [hissue] using htail
      | some issue => simpa [hissue, Field.field?_of_issue? hissue] using htail
    · rw [beq_eq_false_iff_ne.2 hname, ← htail, List.filterMap_cons]
      cases hissue : field.issue? (values.getOrNull field.name) with
      | none => rfl
      | some issue => simp [Field.field?_of_issue? hissue, hname]

/-- There is one issue about an undeclared property, if it is there. -/
theorem filter_undeclared (h : values.Increasing) (name : String) :
    ((schema.undeclared values).map Issue.unknownProperty).filter (fun issue => issue.field? = some name) =
      if name ∈ schema.undeclared values then [.unknownProperty name] else [] := by
  have hnodup : (schema.undeclared values).Nodup := h.nodup_keys.filter _
  have hsame : (fun issue => decide (issue.field? = some name)) ∘ Issue.unknownProperty =
      fun key => decide (key = name) := by
    funext key
    simp [Issue.field?]
  rw [List.filter_map, hsame, List.filter_eq, hnodup.count]
  split <;> rfl

end Schema

/-- What is found about a property, from its value if it has one. -/
def Kind.verdict? (kind : Kind) (name : String) (value? : Option Json) : Option Issue :=
  match kind.schema.field? name with
  | some field => field.issue? (value?.getD .null)
  | none => value?.map fun _ => .unknownProperty name

/-- The issues of a node about one property. -/
def Graph.Node.issuesAbout (node : Node) (name : String) : List Issue :=
  node.issues.filter fun issue => issue.field? = some name

section

variable {node : Node} {kind : Kind} (hk : node.kind? = some kind)
include hk

theorem Graph.Node.issues_eq :
    node.issues = kind.schema.fieldIssues node.properties ++
      (kind.schema.undeclared node.properties).map .unknownProperty := by
  unfold issues
  rw [hk, ← Schema.unknownIssues_eq_map]

/-- The issues about a property are what is found about it. -/
theorem Graph.Node.issuesAbout_eq (h : node.properties.Increasing) (name : String) :
    node.issuesAbout name = (kind.verdict? name (node.properties.get? name)).toList := by
  unfold issuesAbout Kind.verdict?
  rw [node.issues_eq hk, List.filter_append, Schema.filter_fieldIssues _ _ kind.nodup_names,
    Schema.filter_undeclared _ _ h]
  simp only [Schema.mem_undeclared]
  cases kind.schema.field? name with
  | some field => simp [Json.Fields.getOrNull]
  | none => cases node.properties.get? name <;> simp

end

/-! ## Repairs -/

/-- The properties with the default values for some fields. -/
def Json.Fields.reset (fields : List Field) (values : Json.Fields) : Json.Fields :=
  fields.foldl (fun values field => Keyed.insert field.name field.default values) values

/-- A field that is reset has its default value, any other one the value that it had. -/
theorem Json.Fields.get?_reset {fields : List Field} {field : Field}
    (hsame : ∀ other ∈ fields, other.name = field.name → other = field) (values : Json.Fields) :
    (values.reset fields).get? field.name =
      if field.name ∈ fields.map (·.name) then some field.default else values.get? field.name := by
  induction fields generalizing values with
  | nil => rfl
  | cons other rest ih =>
    have hrest := ih (fun found hfound => hsame found (List.mem_cons_of_mem _ hfound))
      (Keyed.insert other.name other.default values)
    show Keyed.get? (Json.Fields.reset rest _) field.name = _
    rw [hrest, Keyed.get?_insert]
    by_cases hname : field.name = other.name
    · rw [hsame other (List.mem_cons_self ..) hname.symm]
      simp
    · simp [hname]

theorem Schema.unknownIssues_reset {schema : Schema} {fields : List Field}
    (h : ∀ field ∈ fields, schema.field? field.name ≠ none) (values : Json.Fields) :
    schema.unknownIssues (values.reset fields) = schema.unknownIssues values := by
  induction fields generalizing values with
  | nil => rfl
  | cons field rest ih =>
    have hfield := h field (List.mem_cons_self ..)
    refine (ih (fun other ho => h other (List.mem_cons_of_mem _ ho)) _).trans ?_
    refine Keyed.filterMap_insert (fun value => ?_) _ _
    simpa using hfield

/-- A default value takes away the issue about its field. -/
theorem Kind.fieldIssues_reset (kind : Kind) {fields : List Field}
    (hfields : ∀ field ∈ fields, field ∈ kind.schema.fields) (values : Json.Fields) :
    kind.schema.fieldIssues (values.reset fields) =
      (kind.schema.fieldIssues values).filter fun issue =>
        issue.field? ∉ fields.map fun field => some field.name := by
  unfold Schema.fieldIssues
  rw [List.filter_filterMap]
  refine List.filterMap_congr fun field hf => ?_
  have hget := Json.Fields.get?_reset (fun other ho => kind.eq_of_name_eq (hfields other ho) hf) values
  unfold Json.Fields.getOrNull
  rw [hget]
  by_cases hmem : field.name ∈ fields.map (·.name)
  · rw [if_pos hmem, Option.getD_some, kind.issue?_default field hf, eq_comm, Option.filter_eq_none_iff]
    intro issue hissue
    rw [Field.field?_of_issue? hissue]
    simpa using hmem
  · rw [if_neg hmem]
    cases hissue : field.issue? ((values.get? field.name).getD .null) with
    | none => rfl
    | some issue =>
      rw [eq_comm, Option.filter_eq_some_iff, Field.field?_of_issue? hissue]
      simpa using hmem

/-- The properties without those of some names. -/
def Json.Fields.without (keys : List String) (values : Json.Fields) : Json.Fields :=
  values.filter fun entry => entry.1 ∉ keys

theorem Json.Fields.get?_without {keys : List String} {name : String} (h : name ∉ keys)
    (values : Json.Fields) : (values.without keys).get? name = values.get? name :=
  Keyed.get?_filter (p := fun key => decide (key ∉ keys)) (decide_eq_true h) values

theorem Kind.fieldIssues_without (kind : Kind) {keys : List String}
    (hkeys : ∀ key ∈ keys, kind.schema.field? key = none) (values : Json.Fields) :
    kind.schema.fieldIssues (values.without keys) = kind.schema.fieldIssues values := by
  unfold Schema.fieldIssues
  refine List.filterMap_congr fun field hf => ?_
  have hname : field.name ∉ keys := by
    intro hmem
    have hnone := hkeys _ hmem
    rw [kind.field?_of_mem hf] at hnone
    cases hnone
  unfold Json.Fields.getOrNull
  rw [Json.Fields.get?_without hname]

theorem Schema.undeclared_without (schema : Schema) (keys : List String) (values : Json.Fields) :
    schema.undeclared (values.without keys) = (schema.undeclared values).filter (· ∉ keys) := by
  have hmap : (values.without keys).map (·.1) = (values.map (·.1)).filter (· ∉ keys) := by
    rw [List.filter_map]
    rfl
  unfold undeclared
  rw [hmap, List.filter_filter, List.filter_filter]
  refine List.filter_congr fun key _ => ?_
  rw [Bool.and_comm]

namespace Graph.Node

/-- The node with the default values for some fields. -/
def reset (fields : List Field) (node : Node) : Node :=
  { node with properties := node.properties.reset fields }

/-- The node without the properties of some names. -/
def without (keys : List String) (node : Node) : Node :=
  { node with properties := node.properties.without keys }

variable {node : Node} {kind : Kind} (hk : node.kind? = some kind)
include hk

/-- Default values take away the issues about their fields, and no others. -/
theorem issues_reset {fields : List Field} (hfields : ∀ field ∈ fields, field ∈ kind.schema.fields) :
    (node.reset fields).issues =
      node.issues.filter fun issue => issue.field? ∉ fields.map fun field => some field.name := by
  have hdeclared : ∀ field ∈ fields, kind.schema.field? field.name ≠ none := by
    intro field hf
    rw [kind.field?_of_mem (hfields field hf)]
    exact Option.some_ne_none _
  have hissues : (node.reset fields).issues = kind.schema.fieldIssues (node.properties.reset fields) ++
      (kind.schema.undeclared (node.properties.reset fields)).map .unknownProperty :=
    issues_eq hk
  rw [hissues, issues_eq hk, List.filter_append, kind.fieldIssues_reset hfields,
    ← Schema.unknownIssues_eq_map, Schema.unknownIssues_reset hdeclared, Schema.unknownIssues_eq_map]
  congr 1
  rw [eq_comm, List.filter_eq_self]
  intro issue hissue
  obtain ⟨name, hname, rfl⟩ := List.mem_map.1 hissue
  have hnone := ((kind.schema.mem_undeclared _).1 hname).1
  rw [decide_eq_true_eq, List.mem_map]
  rintro ⟨field, hf, hsame⟩
  cases hsame
  exact hdeclared field hf hnone

/-- Removing undeclared properties takes away the issues about them, and no others. -/
theorem issues_without {keys : List String} (hkeys : ∀ key ∈ keys, kind.schema.field? key = none) :
    (node.without keys).issues = node.issues.filter fun issue => issue ∉ keys.map Issue.unknownProperty := by
  have hissues : (node.without keys).issues = kind.schema.fieldIssues (node.properties.without keys) ++
      (kind.schema.undeclared (node.properties.without keys)).map .unknownProperty :=
    issues_eq hk
  rw [hissues, issues_eq hk, List.filter_append, kind.fieldIssues_without hkeys, Schema.undeclared_without]
  congr 1
  · rw [eq_comm, List.filter_eq_self]
    intro issue hissue
    obtain ⟨field, -, hf⟩ := List.mem_filterMap.1 hissue
    rw [decide_eq_true_eq, List.mem_map]
    rintro ⟨name, -, hsame⟩
    exact Field.ne_unknownProperty_of_issue? hf name hsame.symm
  · rw [List.filter_map]
    congr 1
    refine List.filter_congr fun key _ => ?_
    exact decide_eq_decide.2
      (not_congr (List.mem_map_of_injective fun _ _ => Issue.unknownProperty.inj).symm)

end Graph.Node

/-! ## Nodes of a graph that is read -/

theorem Graph.Record.properties_of_toNode {record : Record} {node : Node} (h : record.toNode = .ok node) :
    node.properties = [] ∨ record.properties = some (.object node.properties) := by
  unfold toNode at h
  split at h
  · cases h
  split at h
  · cases h
  split at h
  · cases h
  split at h
  · cases h
  rename_i properties hproperties
  cases h
  unfold properties? at hproperties
  split at hproperties
  · exact .inl (Option.some.inj hproperties).symm
  · exact .inl (Option.some.inj hproperties).symm
  · rename_i fields hfields
    rw [hfields, Option.some.inj hproperties]
    exact .inr rfl
  · cases hproperties

/-- The properties of a node are in increasing order of their names when its graph is read from a text. -/
theorem Graph.Snapshot.increasing_properties {text : String} {document : Json} {snapshot : Snapshot}
    (hparse : Json.parse text = .ok document) (h : load document = .ok snapshot) {record : Record}
    (hr : record ∈ snapshot.nodes) {node : Node} (hnode : record.toNode = .ok node) :
    node.properties.Increasing := by
  obtain ⟨fields, items, item, rfl, harray, hitem, hdecode⟩ := exists_item_of_mem_load h hr
  have hordered : item.Ordered := by
    rcases harray with harray | ⟨-, rfl⟩
    · have hmem := List.mem_map_of_mem (f := (·.2)) (Keyed.mem_of_get? harray)
      exact ((Json.ordered_of_parse hparse).inside _ hmem).inside item hitem
    · cases hitem
  rcases record.properties_of_toNode hnode with hnone | hobject
  · rw [hnone]
    exact List.Pairwise.nil
  · cases hordered.inside _ (Record.properties_of_decode hdecode hobject).2 with
    | object hkeys _ => exact hkeys

/-- A check judges the properties of a node one by one. First come the issues about declared properties, in
the order of the schema, then one for each undeclared property, in the order of the names; there is at most
one issue about a name, and it is the same for all nodes of the kind that have the same value there. So
default values take away exactly the issues about their fields, and the removal of undeclared properties
exactly the issues about these; the others stay as they are and in their order. -/
theorem properties_are_judged_one_by_one {node : Node} {kind : Kind} (hk : node.kind? = some kind)
    (hsorted : node.properties.Increasing) :
    (∃ declared, node.issues = declared ++ (kind.schema.undeclared node.properties).map .unknownProperty ∧
      (declared.map Issue.field?).Sublist (kind.schema.fields.map fun field => some field.name) ∧
      (∀ issue ∈ declared, ∀ name, issue ≠ .unknownProperty name) ∧
      (kind.schema.undeclared node.properties).Pairwise (· < ·)) ∧
    (∀ issue ∈ node.issues, ∃ name, issue.field? = some name) ∧
    (∀ name, (node.issuesAbout name).length ≤ 1) ∧
    (∀ other : Node, other.kind? = some kind → other.properties.Increasing → ∀ name,
      other.properties.get? name = node.properties.get? name →
        other.issuesAbout name = node.issuesAbout name) ∧
    (∀ fields : List Field, (∀ field ∈ fields, field ∈ kind.schema.fields) →
      (node.reset fields).issues =
        node.issues.filter fun issue => issue.field? ∉ fields.map fun field => some field.name) ∧
    (∀ keys : List String, (∀ key ∈ keys, kind.schema.field? key = none) →
      (node.without keys).issues =
        node.issues.filter fun issue => issue ∉ keys.map Issue.unknownProperty) := by
  have hissues := node.issues_eq hk
  refine ⟨⟨_, hissues, kind.schema.map_field?_fieldIssues_sublist _, ?_, ?_⟩, ?_, ?_, ?_,
    fun fields => node.issues_reset hk, fun keys => node.issues_without hk⟩
  · intro issue hi name
    obtain ⟨field, -, hf⟩ := List.mem_filterMap.1 hi
    exact Field.ne_unknownProperty_of_issue? hf name
  · exact hsorted.pairwise_keys.filter _
  · intro issue hi
    rw [hissues] at hi
    rcases List.mem_append.1 hi with hi | hi
    · obtain ⟨field, -, hf⟩ := List.mem_filterMap.1 hi
      exact ⟨field.name, Field.field?_of_issue? hf⟩
    · obtain ⟨name, -, rfl⟩ := List.mem_map.1 hi
      exact ⟨name, rfl⟩
  · intro name
    rw [node.issuesAbout_eq hk hsorted]
    exact Option.length_toList_le
  · intro other ho hother name hsame
    rw [other.issuesAbout_eq ho hother, node.issuesAbout_eq hk hsorted, hsame]

/-- A bucket with a blank name, a property that no bucket has and an unknown algorithm. -/
def spoiledBucket : Node :=
  ⟨"b", "s3", "Logs", [("bucket", .string " "), ("colour", .string "red"), ("sse_algorithm", .string "none")]⟩

/-- The two repairs of the bucket. -/
theorem spoiledBucket_is_repaired :
    spoiledBucket.kind? = some .s3 ∧ spoiledBucket.properties.Increasing ∧
      (spoiledBucket.reset [(Field.text "bucket" "Bucket Name" "my-bucket").mandatory]).issues =
        [.invalidOption "sse_algorithm" "none" ["AES256", "aws:kms"], .unknownProperty "colour"] ∧
      (spoiledBucket.without ["colour"]).issues =
        [.missingRequired "bucket", .invalidOption "sse_algorithm" "none" ["AES256", "aws:kms"]] := by
  have hk : spoiledBucket.kind? = some .s3 := by decide +kernel
  have hsorted : spoiledBucket.properties.Increasing := by decide +kernel
  obtain ⟨-, -, -, -, hreset, hwithout⟩ := properties_are_judged_one_by_one hk hsorted
  refine ⟨hk, hsorted, ?_, ?_⟩
  · rw [hreset _ (List.forall_mem_singleton.2 (List.mem_cons_self ..))]
    decide +kernel
  · rw [hwithout ["colour"] (List.forall_mem_singleton.2 (by decide +kernel))]
    decide +kernel

end CloudCanvas
