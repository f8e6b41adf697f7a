/-
The rules of a security group follow its port list. Every item of the list gives one ingress block, in order,
for the ports that the item denotes; and nothing makes the emission of a group fail but a field whose value
does not have its type, or an item that denotes no ports.
-/
import CloudCanvas.Proofs.Compliance.Mismatch
import CloudCanvas.Proofs.Emission.Copied
import CloudCanvas.Proofs.Graph.Decoding

namespace CloudCanvas

open CloudCanvas.Hcl

/-! ## Items of a list -/

namespace Json

/-- The items of a list; other values have none. -/
def items : Json → List Json
  | .array items => items
  | .null | .boolean _ | .number _ | .string _ | .object _ => []

/-- The items of a list of texts are read one by one. -/
theorem map_asListItem_items {v : Json} {texts : List String} (h : v.asTexts = .ok texts) :
    v.items.map asListItem = texts.map .ok := by
  cases v with
  | null =>
    cases h
    rfl
  | array items =>
    have hitems := mapM_eq_ok_iff.1 h
    rwa [← List.forall₂_eq_eq_eq, List.forall₂_map_left_iff, List.forall₂_map_right_iff]
  | boolean b => cases h
  | number n => cases h
  | string s => cases h
  | object fields => cases h

theorem mem_texts_iff {v : Json} {texts : List String} (h : v.asTexts = .ok texts) {text : String} :
    text ∈ texts ↔ ∃ item ∈ v.items, item.asListItem = .ok text := by
  have hmem : text ∈ texts ↔ (.ok text : Except Mismatch String) ∈ texts.map .ok := by
    rw [List.mem_map_of_injective fun _ _ he => Except.ok.inj he]
  rw [hmem, ← map_asListItem_items h, List.mem_map]

end Json

/-! ## Ingress blocks -/

namespace Firewall

/-- The block admits the ports that an entry denotes, from the addresses. -/
structure Admits (addresses : List String) (entry : String) (block : Block) : Prop where
  labels : block.labels = []
  ports : ∃ low high, PortRange.Denotes entry low high ∧ low ≤ high ∧ high ≤ 65535 ∧
    block.attributes "from_port" = [.ofNat low] ∧ block.attributes "to_port" = [.ofNat high]
  addresses : block.attributes "cidr_blocks" = if addresses = [] then [] else [.strings addresses]

/-- The block admits the ports that an item of a port list denotes. -/
def AdmitsItem (addresses : List String) (item : Json) (block : Block) : Prop :=
  ∃ entry, item.asListItem = .ok entry ∧ Admits addresses entry block

theorem portsOf_eq_ok_iff {entry : String} {range : PortRange} :
    portsOf entry = .ok range ↔ PortRange.Denotes entry range.low range.high := by
  rw [← PortRange.spells_iff_denotes, ← PortRange.read_eq_ok_iff]
  unfold portsOf
  cases PortRange.read entry <;> simp

theorem exists_block_ingress (addresses : List String) {entry : String} {range : PortRange}
    (h : portsOf entry = .ok range) :
    ∃ block, (ingress addresses range).block? "ingress" = some block ∧ Admits addresses entry block := by
  refine ⟨_, rfl, rfl, ⟨range.low, range.high, portsOf_eq_ok_iff.1 h, range.low_le_high, range.high_le, ?_⟩, ?_⟩
  · cases addresses <;> exact ⟨rfl, rfl⟩
  · cases addresses <;> rfl

/-- Each port range gives one block, which admits its ports. -/
theorem forall₂_admits (addresses : List String) {entries : List String} {ranges : List PortRange}
    (h : List.Forall₂ (fun entry range => portsOf entry = .ok range) entries ranges) :
    List.Forall₂ (Admits addresses) entries
      ((ranges.map (ingress addresses)).filterMap (Item.block? "ingress")) := by
  induction h with
  | nil => exact .nil
  | cons hentry _ ih =>
    obtain ⟨block, hblock, hadmits⟩ := exists_block_ingress addresses hentry
    rw [List.map_cons, List.filterMap_cons, hblock]
    exact .cons hadmits ih

/-- Every entry of the list gives one ingress block, and the egress block is none. -/
theorem exists_entries_of_rules {props : Properties} {items : List Item} (h : rules props = .ok items) :
    ∃ addresses entries, (props.raw "ingress_cidr_blocks").asTexts = .ok addresses ∧
      (props.raw "ingress_ports").asTexts = .ok entries ∧
      List.Forall₂ (Admits addresses) entries (items.filterMap (Item.block? "ingress")) := by
  obtain ⟨addresses, entries, ranges, last, haddresses, hentries, hranges, hlast, rfl⟩ := exists_of_rules h
  have hegress : last.filterMap (Item.block? "ingress") = [] := by
    rcases hlast with rfl | rfl <;> rfl
  refine ⟨addresses, entries, Properties.readWith_eq_ok haddresses, Properties.readWith_eq_ok hentries, ?_⟩
  rw [List.filterMap_append, hegress, List.append_nil]
  exact forall₂_admits addresses (mapM_eq_ok_iff.1 hranges)

/-- The ingress blocks of a group are those of the items of its port list, one for each. -/
theorem forall₂_items_of_emit {values : Json.Fields} {name : String} {d : Declaration}
    (h : Declaration.emit .securityGroup values name = .ok d) :
    ∃ addresses, (values.getOrNull "ingress_cidr_blocks").asTexts = .ok addresses ∧
      List.Forall₂ (AdmitsItem addresses) (values.getOrNull "ingress_ports").items
        (d.primary.blocks "ingress") := by
  obtain ⟨copied, details, hparts⟩ := Declaration.exists_parts h
  obtain ⟨addresses, entries, haddresses, hentries, hadmits⟩ := exists_entries_of_rules hparts.details_eq
  refine ⟨addresses, haddresses, ?_⟩
  have hread : List.Forall₂ (fun (read : Except Mismatch String) block => ∃ entry, read = .ok entry ∧
      Admits addresses entry block) (entries.map .ok) (details.filterMap (Item.block? "ingress")) :=
    List.forall₂_map_left_iff.2 (hadmits.imp fun entry block hblock => ⟨entry, rfl, hblock⟩)
  rw [← Json.map_asListItem_items hentries, List.forall₂_map_left_iff] at hread
  rw [hparts.blocks_primary]
  exact hread

end Firewall

/-! ## Failing emissions -/

namespace Properties

theorem isSome_misfit?_iff {props : Properties} {name : String} :
    (props.misfit? name).isSome = true ↔
      ∃ field ∈ props.kind.schema.fields, field.name = name ∧
        ∃ cause, field.type.read (props.raw field.name) = .error cause := by
  rw [Option.isSome_iff_exists]
  constructor
  · rintro ⟨e, he⟩
    obtain ⟨type, cause, htype, hread, -⟩ := misfit?_eq_some_iff.1 he
    obtain ⟨field, hf, rfl, rfl⟩ := Kind.exists_field_of_typeOf? htype
    exact ⟨field, hf, rfl, cause, hread⟩
  · rintro ⟨field, hf, rfl, cause, hread⟩
    exact ⟨_, misfit?_eq_some_iff.2 ⟨_, cause, props.kind.typeOf?_of_mem_fields field hf, hread, rfl⟩⟩

end Properties

namespace Firewall

/-- The emission of a group reads all of its fields, so any mismatch makes it fail, and so does an item of
the port list that denotes no ports. -/
theorem exists_error_emit_iff (values : Json.Fields) (name : String) :
    (∃ e, Declaration.emit .securityGroup values name = .error e) ↔
      (∃ field ∈ Kind.securityGroup.schema.fields,
          ∃ cause, field.type.read (values.getOrNull field.name) = .error cause) ∨
        ∃ item ∈ (values.getOrNull "ingress_ports").items, ∃ entry, item.asListItem = .ok entry ∧
          ¬ ∃ low high, PortRange.Denotes entry low high := by
  have hreads : ∀ field ∈ Kind.securityGroup.schema.fields,
      field.name ∈ Properties.reads ⟨.securityGroup, values⟩ := fun field hf =>
    (Properties.mem_reads_iff (by rw [Kind.typeOf?_of_mem_fields _ field hf]; rfl)).2 id
  rw [Properties.exists_error_emit_iff]
  simp only [← PortRange.spells_iff_denotes]
  constructor
  · rintro (⟨field, -, hmisfit⟩ | ⟨-, entries, hentries, entry, hentry, hspells⟩)
    · obtain ⟨field, hf, -, cause, hread⟩ := Properties.isSome_misfit?_iff.1 hmisfit
      exact .inl ⟨field, hf, cause, hread⟩
    · obtain ⟨item, hitem, hread⟩ := (Json.mem_texts_iff hentries).1 hentry
      exact .inr ⟨item, hitem, entry, hread, hspells⟩
  · rintro (⟨field, hf, cause, hread⟩ | ⟨item, hitem, entry, hread, hspells⟩)
    · exact .inl ⟨field.name, hreads field hf, Properties.isSome_misfit?_iff.2 ⟨field, hf, rfl, cause, hread⟩⟩
    · cases hentries : (values.getOrNull "ingress_ports").asTexts with
      | ok entries =>
        exact .inr ⟨rfl, entries, hentries, entry, (Json.mem_texts_iff hentries).2 ⟨item, hitem, hread⟩, hspells⟩
      | error cause =>
        -- the list itself cannot be read
        have harray : Kind.securityGroup.typeOf? "ingress_ports" = some .array := rfl
        obtain ⟨field, hf, hname, htype⟩ := Kind.exists_field_of_typeOf? harray
        refine .inl ⟨field.name, hreads field hf, Properties.isSome_misfit?_iff.2 ⟨field, hf, rfl, cause, ?_⟩⟩
        rw [htype, hname]
        exact map_eq_error_iff.2 hentries

end Firewall

/-- The port list of a security group is read by its grammar, and the rules of the group follow it. An entry
is read just if it denotes ports, and as these. When a group is emitted there is one ingress block for each
item of the list, in order, which admits the ports that the item denotes, and names addresses just if some are
listed. The emission fails just if a field does not have its type or an item denotes no ports. -/
theorem rules_follow_port_list (values : Json.Fields) (name : String) :
    (∀ entry low high, (∃ range : PortRange, PortRange.read entry = .ok range ∧ range.low = low ∧
        range.high = high) ↔ PortRange.Denotes entry low high) ∧
    (∀ d, Declaration.emit .securityGroup values name = .ok d →
      ∃ addresses, (values.getOrNull "ingress_cidr_blocks").asTexts = .ok addresses ∧
        List.Forall₂ (Firewall.AdmitsItem addresses) (values.getOrNull "ingress_ports").items
          (d.primary.blocks "ingress")) ∧
    ((∃ e, Declaration.emit .securityGroup values name = .error e) ↔
      (∃ field ∈ Kind.securityGroup.schema.fields,
          ∃ cause, field.type.read (values.getOrNull field.name) = .error cause) ∨
        ∃ item ∈ (values.getOrNull "ingress_ports").items, ∃ entry, item.asListItem = .ok entry ∧
          ¬ ∃ low high, PortRange.Denotes entry low high) := by
  refine ⟨fun entry low high => ?_, fun d hd => Firewall.forall₂_items_of_emit hd,
    Firewall.exists_error_emit_iff values name⟩
  rw [PortRange.exists_read_iff, PortRange.spells_iff_denotes]

/-- A group whose list has a padded range and a port that is a number. -/
theorem paddedPorts_rules : ∃ d addresses,
    Declaration.emit .securityGroup [("ingress_ports", .array [.string " 8000 -\t8010", .ofNat 443])] "web" =
        .ok d ∧
      PortRange.Denotes " 8000 -\t8010" 8000 8010 ∧
      List.Forall₂ (Firewall.AdmitsItem addresses)
        [.string " 8000 -\t8010", .ofNat 443] (d.primary.blocks "ingress") := by
  obtain ⟨hread, hblocks, herror⟩ := rules_follow_port_list
    [("ingress_ports", .array [.string " 8000 -\t8010", .ofNat 443])] "web"
  have hsome : (Declaration.emit .securityGroup
      [("ingress_ports", .array [.string " 8000 -\t8010", .ofNat 443])] "web").isOk = true := by
    decide +kernel
  cases hd : Declaration.emit .securityGroup
      [("ingress_ports", .array [.string " 8000 -\t8010", .ofNat 443])] "web" with
  | error e =>
    rw [hd] at hsome
    cases hsome
  | ok d =>
    obtain ⟨addresses, -, hadmits⟩ := hblocks d hd
    have hrange : PortRange.read " 8000 -\t8010" = .ok ⟨8000, 8010, by decide, by decide⟩ := by
      decide +kernel
    exact ⟨d, addresses, rfl, (hread _ 8000 8010).1 ⟨_, hrange, rfl, rfl⟩, hadmits⟩

end CloudCanvas
