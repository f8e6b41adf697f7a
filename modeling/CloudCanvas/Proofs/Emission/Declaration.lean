/-
What the blocks of a node hold, whatever its properties: the primary block has the type of its kind
and the given name, its attributes carry keys from one fixed list and values without references, and
each block beside a bucket points back at the bucket by its address. So every block of a declaration
is well-formed, and none of them depends on anything before its tags and references are added.
-/
import CloudCanvas.Emission.Declaration
import CloudCanvas.Proofs.Fallible
import CloudCanvas.Proofs.Hcl.Layout

namespace CloudCanvas

open CloudCanvas.Hcl

/-! ## Readings -/

theorem FieldType.isLiteral_of_read {type : FieldType} {v : Json} {value : Expr}
    (h : type.read v = .ok (some value)) : value.IsLiteral := by
  cases type with
  | text | select | number | boolean =>
    obtain ⟨read, -, he⟩ := map_eq_ok h
    obtain ⟨a, -, rfl⟩ := Option.map_eq_some_iff.1 he
    trivial
  | array =>
    obtain ⟨items, -, he⟩ := map_eq_ok h
    split at he
    · cases he
    · rename_i hne
      cases he
      exact fun hi => hne (by rw [hi]; rfl)

namespace Properties

variable {props : Properties}

theorem isLiteral_of_expr {name : String} {value : Expr} (h : props.expr name = .ok (some value)) :
    value.IsLiteral := by
  unfold expr readWith at h
  split at h
  · cases h
  · split at h
    · rename_i hr
      cases h
      exact FieldType.isLiteral_of_read hr
    · cases h

/-- Copying gives attributes with the listed keys and literal values. -/
theorem plain_copy {keys names : List String} (hk : names ⊆ keys) :
    ∀ {items : List Item}, props.copy names = .ok items → BodyPlain keys items := by
  induction names with
  | nil => intro items h; cases h; trivial
  | cons name rest ih =>
    intro items h
    unfold copy at h
    obtain ⟨value, hv, h⟩ := bind_eq_ok h
    obtain ⟨others, ho, h⟩ := bind_eq_ok h
    cases h
    have hrest := ih (fun key hm => hk (List.mem_cons_of_mem _ hm)) ho
    cases value with
    | none => exact hrest
    | some value => exact ⟨⟨hk (List.mem_cons_self ..), isLiteral_of_expr hv⟩, hrest⟩

end Properties

/-! ## Primary blocks -/

namespace KeyTable

variable {props : Properties} {items : List Item}

theorem capacities_eq_ok (h : capacities props = .ok items) :
    ∃ mode, props.text "billing_mode" = .ok mode ∧
      (mode = some provisioned ∧ props.copy ["read_capacity", "write_capacity"] = .ok items ∨
        mode ≠ some provisioned ∧ items = []) := by
  unfold capacities at h
  obtain ⟨mode, hmode, h⟩ := bind_eq_ok h
  refine ⟨mode, hmode, ?_⟩
  split at h
  · rename_i hprovisioned
    exact .inl ⟨hprovisioned, h⟩
  · rename_i hother
    exact .inr ⟨hother, (Except.ok.inj h).symm⟩

theorem partitionKey_eq_ok (h : partitionKey props = .ok items) :
    (props.text "hash_key" = .ok none ∧ items = []) ∨
      ∃ key type, props.text "hash_key" = .ok (some key) ∧ props.text "hash_key_type" = .ok type ∧
        items = [.block "attribute" []
          [.attribute "name" (.string key), .attribute "type" (.string (type.getD defaultKeyType))]] := by
  unfold partitionKey at h
  obtain ⟨key, hkey, h⟩ := bind_eq_ok h
  cases key with
  | none => exact .inl ⟨hkey, (Except.ok.inj h).symm⟩
  | some key =>
    obtain ⟨type, htype, h⟩ := bind_eq_ok h
    exact .inr ⟨key, type, hkey, htype, (Except.ok.inj h).symm⟩

theorem details_eq_ok (h : details props = .ok items) :
    ∃ first second, items = first ++ second ∧ capacities props = .ok first ∧ partitionKey props = .ok second := by
  unfold details at h
  obtain ⟨first, hfirst, h⟩ := bind_eq_ok h
  obtain ⟨second, hsecond, h⟩ := bind_eq_ok h
  exact ⟨first, second, (Except.ok.inj h).symm, hfirst, hsecond⟩

/-- The details of a table are its capacities, which are copied, and its partition key. -/
theorem exists_of_details (h : details props = .ok items) :
    ∃ first second, items = first ++ second ∧
      (first = [] ∨ props.copy ["read_capacity", "write_capacity"] = .ok first) ∧
      (second = [] ∨ ∃ key type, props.text "hash_key_type" = .ok type ∧
        second = [.block "attribute" []
          [.attribute "name" (.string key), .attribute "type" (.string (type.getD defaultKeyType))]]) := by
  obtain ⟨first, second, rfl, hfirst, hsecond⟩ := details_eq_ok h
  refine ⟨first, second, rfl, ?_, ?_⟩
  · obtain ⟨mode, -, ⟨-, hcopy⟩ | ⟨-, hnone⟩⟩ := capacities_eq_ok hfirst
    · exact .inr hcopy
    · exact .inl hnone
  · obtain ⟨-, hnone⟩ | ⟨key, type, -, htype, hkey⟩ := partitionKey_eq_ok hsecond
    · exact .inl hnone
    · exact .inr ⟨key, type, htype, hkey⟩

end KeyTable

/-- The rules of a group are one ingress block for each port range, and the egress block if it is asked for. -/
theorem Firewall.exists_of_rules {props : Properties} {items : List Item} (h : rules props = .ok items) :
    ∃ addresses entries ranges last, props.texts "ingress_cidr_blocks" = .ok addresses ∧
      props.texts "ingress_ports" = .ok entries ∧ entries.mapM portsOf = .ok ranges ∧
      (last = [] ∨ last = [egress]) ∧ items = ranges.map (ingress addresses) ++ last := by
  unfold rules at h
  obtain ⟨addresses, haddresses, h⟩ := bind_eq_ok h
  obtain ⟨entries, hentries, h⟩ := bind_eq_ok h
  obtain ⟨ranges, hranges, h⟩ := bind_eq_ok h
  obtain ⟨all, -, h⟩ := bind_eq_ok h
  cases h
  refine ⟨addresses, entries, ranges, _, haddresses, hentries, hranges, ?_, rfl⟩
  split
  · exact .inr rfl
  · exact .inl rfl

namespace Declaration

/-- The keys under which a declaration may hold attributes before it is finished. -/
def keys : List String :=
  Kind.all.flatMap Kind.copied ++ ["read_capacity", "write_capacity", "name", "type", "from_port",
    "to_port", "protocol", "cidr_blocks"]

theorem isIdentifier_of_mem_keys : ∀ key ∈ keys, isIdentifier key.toList = true := by decide +kernel

theorem copied_subset_keys (kind : Kind) : kind.copied ⊆ keys := by
  intro key h
  refine List.mem_append_left _ (List.mem_flatMap.2 ⟨kind, ?_, h⟩)
  cases kind <;> decide

theorem plain_keyTable {props : Properties} {items : List Item} (h : KeyTable.details props = .ok items) :
    BodyPlain keys items := by
  obtain ⟨first, second, rfl, hfirst, hsecond⟩ := KeyTable.exists_of_details h
  refine bodyPlain_append.2 ⟨?_, ?_⟩
  · rcases hfirst with rfl | hfirst
    · trivial
    · exact props.plain_copy (by decide) hfirst
  · rcases hsecond with rfl | ⟨key, type, -, rfl⟩
    · trivial
    · exact ⟨⟨by decide, ⟨by decide, trivial⟩, ⟨by decide, trivial⟩, trivial⟩, trivial⟩

theorem plain_ingress (addresses : List String) (ports : PortRange) :
    (Firewall.ingress addresses ports).Plain keys := by
  refine ⟨by decide, bodyPlain_append.2 ⟨?_, ?_⟩⟩
  · exact ⟨⟨by decide, trivial⟩, ⟨by decide, trivial⟩, ⟨by decide, trivial⟩, trivial⟩
  · split
    · trivial
    · rename_i hne
      exact ⟨⟨by decide, fun ha => hne (by rw [ha]; rfl)⟩, trivial⟩

theorem plain_egress : Firewall.egress.Plain keys :=
  ⟨by decide, ⟨by decide, trivial⟩, ⟨by decide, trivial⟩, ⟨by decide, trivial⟩,
    ⟨by decide, List.cons_ne_nil _ _⟩, trivial⟩

theorem plain_rules {props : Properties} {items : List Item} (h : Firewall.rules props = .ok items) :
    BodyPlain keys items := by
  obtain ⟨addresses, entries, ranges, last, -, -, -, hlast, rfl⟩ := Firewall.exists_of_rules h
  refine bodyPlain_append.2 ⟨bodyPlain_iff.2 fun item hi => ?_, ?_⟩
  · obtain ⟨ports, -, rfl⟩ := List.mem_map.1 hi
    exact plain_ingress addresses ports
  · rcases hlast with rfl | rfl
    · trivial
    · exact ⟨plain_egress, trivial⟩

theorem plain_details {props : Properties} {items : List Item} (h : props.details = .ok items) :
    BodyPlain keys items := by
  unfold Properties.details at h
  split at h
  · exact plain_keyTable h
  · exact plain_rules h
  · cases h; trivial

end Declaration

/-! ## Blocks beside a bucket -/

namespace Bucket

/-- The blocks that may stand beside a bucket of a given name. -/
def Companion (name : String) (block : Block) : Prop :=
  block = versioningBlock name ∨ ∃ algorithm, block = encryptionBlock name algorithm

section

variable {props : Properties} {name : String} {blocks : List Block}

theorem versioning_eq_ok (h : versioning props name = .ok blocks) :
    ∃ on, props.flag "versioning" = .ok on ∧
      blocks = if on = some true then [versioningBlock name] else [] := by
  unfold versioning at h
  obtain ⟨on, hon, h⟩ := bind_eq_ok h
  refine ⟨on, hon, ?_⟩
  split at h
  · rename_i htrue
    rw [if_pos htrue]
    exact (Except.ok.inj h).symm
  · rename_i hother
    rw [if_neg hother]
    exact (Except.ok.inj h).symm

theorem encryption_eq_ok (h : encryption props name = .ok blocks) :
    ∃ on, props.flag "encryption" = .ok on ∧
      (on = some true ∧ (∃ algorithm, props.text "sse_algorithm" = .ok algorithm ∧
          blocks = [encryptionBlock name (algorithm.getD defaultAlgorithm)]) ∨
        on ≠ some true ∧ blocks = []) := by
  unfold encryption at h
  obtain ⟨on, hread, h⟩ := bind_eq_ok h
  refine ⟨on, hread, ?_⟩
  split at h
  · rename_i hon
    obtain ⟨algorithm, halgorithm, h⟩ := bind_eq_ok h
    exact .inl ⟨hon, algorithm, halgorithm, (Except.ok.inj h).symm⟩
  · rename_i hoff
    exact .inr ⟨hoff, (Except.ok.inj h).symm⟩

theorem companions_eq_ok (h : companions props name = .ok blocks) :
    ∃ first second, blocks = first ++ second ∧ versioning props name = .ok first ∧
      encryption props name = .ok second := by
  unfold companions at h
  obtain ⟨first, hfirst, h⟩ := bind_eq_ok h
  obtain ⟨second, hsecond, h⟩ := bind_eq_ok h
  exact ⟨first, second, (Except.ok.inj h).symm, hfirst, hsecond⟩

/-- Versioning comes first and encryption second, as far as each of them is turned on. -/
theorem exists_of_companions (h : companions props name = .ok blocks) :
    ∃ first second, blocks = first ++ second ∧ (first = [] ∨ first = [versioningBlock name]) ∧
      (second = [] ∨ ∃ algorithm, props.text "sse_algorithm" = .ok algorithm ∧
        second = [encryptionBlock name (algorithm.getD defaultAlgorithm)]) := by
  obtain ⟨first, second, rfl, hfirst, hsecond⟩ := companions_eq_ok h
  refine ⟨first, second, rfl, ?_, ?_⟩
  · obtain ⟨on, -, rfl⟩ := versioning_eq_ok hfirst
    split
    · exact .inr rfl
    · exact .inl rfl
  · obtain ⟨on, -, ⟨-, hblock⟩ | ⟨-, hnone⟩⟩ := encryption_eq_ok hsecond
    · exact .inr hblock
    · exact .inl hnone

theorem companions_sublist (h : companions props name = .ok blocks) :
    ∃ algorithm, blocks.Sublist [versioningBlock name, encryptionBlock name algorithm] := by
  obtain ⟨first, second, rfl, hfirst, hsecond⟩ := exists_of_companions h
  have hversioning : first.Sublist [versioningBlock name] := by
    rcases hfirst with rfl | rfl
    · exact List.nil_sublist _
    · exact List.Sublist.refl _
  rcases hsecond with rfl | ⟨algorithm, -, rfl⟩
  · exact ⟨defaultAlgorithm, hversioning.append (List.nil_sublist _)⟩
  · exact ⟨_, hversioning.append (List.Sublist.refl _)⟩

theorem companion_of_mem (h : companions props name = .ok blocks) : ∀ block ∈ blocks, Companion name block := by
  obtain ⟨algorithm, hsub⟩ := companions_sublist h
  intro block hb
  rcases List.mem_cons.1 (hsub.subset hb) with rfl | hb
  · exact .inl rfl
  · exact .inr ⟨algorithm, List.mem_singleton.1 hb⟩

end

namespace Companion

variable {name : String} {block : Block}

/-- A block beside a bucket points back at the bucket, once. -/
theorem values_bucket (h : Companion name block) : block.values "bucket" = [idOf name] := by
  rcases h with rfl | ⟨algorithm, rfl⟩
  · rfl
  · rfl

theorem values_dependsOn (h : Companion name block) : block.values "depends_on" = [] := by
  rcases h with rfl | ⟨algorithm, rfl⟩
  · rfl
  · rfl

theorem allMaps (h : Companion name block) : block.allMaps = [] := by
  rcases h with rfl | ⟨algorithm, rfl⟩
  · rfl
  · rfl

theorem wellFormed_idOf (hn : Naming.IsIdentifier name.toList) : (idOf name).WellFormed := by
  have hparts : ∀ p ∈ [Kind.s3.declarationType, name, "id"], isIdentifier p.toList = true := by
    simp only [List.mem_cons, List.not_mem_nil, or_false]
    rintro p (rfl | rfl | rfl)
    · decide
    · exact isIdentifier_of_naming hn
    · decide
  have hid := isReference_intercalate hparts
  simpa [idOf, Expr.WellFormed, String.append_assoc] using hid

/-- A block beside a bucket declares a resource under the name of the bucket and a suffix. -/
theorem declares (h : Companion name block) (hn : Naming.IsIdentifier name.toList) :
    ∃ type suffix, block.Declares type (name ++ suffix) := by
  have hid := wellFormed_idOf hn
  rcases h with rfl | ⟨algorithm, rfl⟩
  · refine ⟨_, versioningSuffix, rfl, rfl, by decide, ?_, ⟨by decide, hid⟩, ?_⟩
    · rw [String.toList_append]; exact hn.append (List.all_eq_true.1 (by decide))
    · exact ⟨⟨by decide, ⟨by decide, trivial⟩, trivial⟩, trivial⟩
  · refine ⟨_, encryptionSuffix, rfl, rfl, by decide, ?_, ⟨by decide, hid⟩, ?_⟩
    · rw [String.toList_append]; exact hn.append (List.all_eq_true.1 (by decide))
    · exact ⟨⟨by decide, ⟨by decide, ⟨by decide, trivial⟩, trivial⟩, trivial⟩, trivial⟩

end Companion

end Bucket

/-! ## Declarations -/

namespace Declaration

/-- What the blocks of a node of a kind look like under a name, whatever the properties. -/
structure Shape (kind : Kind) (name : String) (d : Declaration) : Prop where
  keyword : d.primary.keyword = "resource"
  labels : d.primary.labels = [kind.declarationType, name]
  body : BodyPlain keys d.primary.body
  companions : ∀ block ∈ d.companions, kind = .s3 ∧ Bucket.Companion name block

/-- What an emission puts together. -/
structure Parts (kind : Kind) (values : Json.Fields) (name : String) (d : Declaration)
    (copied details : List Item) : Prop where
  copy_eq : Properties.copy ⟨kind, values⟩ kind.copied = .ok copied
  details_eq : Properties.details ⟨kind, values⟩ = .ok details
  companions_eq : Properties.companions ⟨kind, values⟩ name = .ok d.companions
  primary_eq : d.primary = (Block.resource kind.declarationType name).append (copied ++ details)

theorem exists_parts {kind : Kind} {values : Json.Fields} {name : String} {d : Declaration}
    (h : emit kind values name = .ok d) : ∃ copied details, Parts kind values name d copied details := by
  unfold emit at h
  obtain ⟨copied, hcopied, h⟩ := bind_eq_ok h
  obtain ⟨details, hdetails, h⟩ := bind_eq_ok h
  obtain ⟨companions, hcompanions, h⟩ := bind_eq_ok h
  cases h
  exact ⟨copied, details, hcopied, hdetails, hcompanions, rfl⟩

/-- Nothing else is needed for an emission. -/
theorem Parts.emit_eq {kind : Kind} {values : Json.Fields} {name : String} {d : Declaration}
    {copied details : List Item} (h : Parts kind values name d copied details) :
    emit kind values name = .ok d := by
  unfold emit
  dsimp only
  rw [h.copy_eq, h.details_eq, h.companions_eq]
  show Except.ok (Declaration.mk ((Block.resource kind.declarationType name).append (copied ++ details))
    d.companions) = _
  rw [← h.primary_eq]

/-- Every declaration that comes out of an emission has the shape of its kind. -/
theorem shape_of_emit {kind : Kind} {values : Json.Fields} {name : String} {d : Declaration}
    (h : emit kind values name = .ok d) : d.Shape kind name := by
  obtain ⟨copied, details, hcopied, hdetails, hcompanions, hprimary⟩ := exists_parts h
  refine ⟨by rw [hprimary]; rfl, by rw [hprimary]; rfl, ?_, ?_⟩
  · have hc := Properties.plain_copy (copied_subset_keys kind) hcopied
    have hd := plain_details hdetails
    rw [hprimary]
    show BodyPlain keys (copied ++ details)
    exact bodyPlain_append.2 ⟨hc, hd⟩
  · unfold Properties.companions at hcompanions
    split at hcompanions
    · rename_i hk
      exact fun block hb => ⟨hk, Bucket.companion_of_mem hcompanions block hb⟩
    · rw [← Except.ok.inj hcompanions]
      exact List.forall_mem_nil _

/-- Only a bucket has blocks beside its primary one. -/
theorem companions_sublist_of_emit {kind : Kind} {values : Json.Fields} {name : String} {d : Declaration}
    (h : emit kind values name = .ok d) :
    d.companions = [] ∨ kind = .s3 ∧ ∃ algorithm,
      d.companions.Sublist [Bucket.versioningBlock name, Bucket.encryptionBlock name algorithm] := by
  obtain ⟨copied, details, -, -, hcompanions, -⟩ := exists_parts h
  unfold Properties.companions at hcompanions
  split at hcompanions
  · rename_i hk
    exact .inr ⟨hk, Bucket.companions_sublist hcompanions⟩
  · exact .inl (Except.ok.inj hcompanions).symm

theorem isIdentifier_declarationType (kind : Kind) : isIdentifier kind.declarationType.toList = true := by
  cases kind <;> decide

/-- A body closes with its tags and with its references, if there are any. -/
theorem wellFormed_closing {tags : List (String × String)} {references : List String}
    (h : ∀ r ∈ references, IsReference r) : BodyWellFormed (closing tags references) := by
  have htags : isIdentifier "tags".toList = true := by decide
  unfold closing
  split
  · exact ⟨trivial, htags, trivial⟩
  · rename_i hne
    refine ⟨trivial, htags, trivial, ⟨by decide, ?_, h⟩, trivial⟩
    exact fun he => hne (by rw [he]; rfl)

theorem values_closing (key : String) (tags : List (String × String)) (references : List String) :
    bodyValues key (closing tags references) =
      if references = [] ∨ key ≠ "depends_on" then [] else [.references references] := by
  unfold closing
  cases references with
  | nil => simp [bodyValues, Item.values]
  | cons r rest =>
    by_cases hk : "depends_on" = key
    · simp [bodyValues, Item.values, hk]
    · simp [bodyValues, Item.values, hk, Ne.symm hk]

namespace Shape

variable {kind : Kind} {name : String} {d : Declaration}

/-- The primary block of a finished declaration declares a resource of the type of the kind. -/
theorem declares (h : d.Shape kind name) (hn : Naming.IsIdentifier name.toList)
    {tags : List (String × String)} {references : List String} (hr : ∀ r ∈ references, IsReference r) :
    (d.finish tags references).primary.Declares kind.declarationType name := by
  refine ⟨h.keyword, h.labels, isIdentifier_declarationType kind, hn, ?_⟩
  exact bodyWellFormed_append.2 ⟨h.body.wellFormed isIdentifier_of_mem_keys, wellFormed_closing hr⟩

/-- The values of the primary block before it is finished are literals. -/
theorem isLiteral_of_mem_values (h : d.Shape kind name) {key : String} :
    ∀ value ∈ d.primary.values key, value.IsLiteral :=
  fun value hv => (h.body.values key value hv).2

/-- The dependencies of a finished primary block are the references that it was given. -/
theorem values_dependsOn (h : d.Shape kind name) (tags : List (String × String))
    (references : List String) :
    (d.finish tags references).primary.values "depends_on" =
      if references = [] then [] else [.references references] := by
  -- `depends_on` is none of the keys that an emission writes
  have hnone : bodyValues "depends_on" d.primary.body = [] := by
    rw [List.eq_nil_iff_forall_not_mem]
    exact fun value hv => absurd (h.body.values _ value hv).1 (by decide)
  show bodyValues "depends_on" (d.primary.body ++ closing tags references) = _
  rw [bodyValues_append, hnone, values_closing]
  simp

/-- The tags of a finished primary block are those that it was given, and it has no other map of tags. -/
theorem maps_finish (h : d.Shape kind name) (tags : List (String × String)) (references : List String) :
    (d.finish tags references).primary.maps "tags" = [tags] := by
  have hclosing : (closing tags references).filterMap (Item.map? "tags") = [tags] := by
    unfold closing
    cases references with
    | nil => rfl
    | cons r rest => rfl
  show (d.primary.body ++ closing tags references).filterMap (Item.map? "tags") = [tags]
  rw [List.filterMap_append, h.body.filterMap_map?, hclosing, List.nil_append]

/-- A finished primary block holds no other map, at any depth. -/
theorem allMaps_finish (h : d.Shape kind name) (tags : List (String × String)) (references : List String) :
    (d.finish tags references).primary.allMaps = [("tags", tags)] := by
  have hclosing : bodyMaps (closing tags references) = [("tags", tags)] := by
    unfold closing
    cases references with
    | nil => rfl
    | cons r rest => rfl
  show bodyMaps (d.primary.body ++ closing tags references) = _
  rw [bodyMaps_append, h.body.bodyMaps, hclosing, List.nil_append]

/-- Finishing gives the primary block no value under any other key. -/
theorem values_finish (h : d.Shape kind name) {key : String} (hk : key ≠ "depends_on")
    (tags : List (String × String)) (references : List String) :
    ∀ value ∈ (d.finish tags references).primary.values key, value.IsLiteral := by
  intro value hv
  change value ∈ bodyValues key (d.primary.body ++ closing tags references) at hv
  rw [bodyValues_append, values_closing, if_pos (.inr hk), List.append_nil] at hv
  exact h.isLiteral_of_mem_values value hv

end Shape

end Declaration

end CloudCanvas
