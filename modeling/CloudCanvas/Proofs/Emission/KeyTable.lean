/-
The blocks of a key-value table. The partition key and the billing mode are read twice, once for the attribute
and once for what depends on it; both readings are the same, so a table describes its key just if it has one,
and it has capacities only if it is billed for them.
-/
import CloudCanvas.Proofs.Emission.Copied
import CloudCanvas.Proofs.Emission.Frame

namespace CloudCanvas

open CloudCanvas.Hcl Properties

namespace KeyTable

/-! ## Consistent blocks -/

/-- What holds of the block of a table with the given properties. -/
structure Consistent (values : Json.Fields) (block : Block) : Prop where
  /-- The partition key is described just if it is there, -/
  described : block.blocks "attribute" ≠ [] ↔ block.attributes "hash_key" ≠ []
  /-- once, under the name that it has, and with the type that is read, or the default one. -/
  description : ∀ key ∈ block.attributes "hash_key", ∃ type : Option String,
    (values.getOrNull "hash_key_type").asText? = .ok type ∧
      block.blocks "attribute" =
        [⟨"attribute", [], [.attribute "name" key, .attribute "type" (.string (type.getD "S"))]⟩]
  /-- A capacity stands only beside the billing mode that asks for it, -/
  billed : ∀ capacity ∈ ["read_capacity", "write_capacity"], block.values capacity ≠ [] →
    block.attributes "billing_mode" = [.string "PROVISIONED"]
  /-- and there as the number that is read, if there is one. -/
  capacities : block.attributes "billing_mode" = [.string "PROVISIONED"] →
    ∀ capacity ∈ ["read_capacity", "write_capacity"], ∃ number : Option Number,
      (values.getOrNull capacity).asNumber? = .ok number ∧
        block.attributes capacity = (number.map Expr.number).toList

section

variable {values : Json.Fields} {name : String} {d : Declaration} {copied details : List Item}
  (h : Declaration.Parts .dynamodb values name d copied details)
include h

/-- A text that is taken over stands in the block just as it is read. -/
theorem attributes_of_text {property : String} {found : Option String}
    (hfound : text ⟨.dynamodb, values⟩ property = .ok found)
    (ht : Kind.dynamodb.typeOf? property = some .text ∨ Kind.dynamodb.typeOf? property = some .select)
    (hcopied : property ∈ Kind.dynamodb.copied) :
    d.primary.attributes property = (found.map Expr.string).toList := by
  have htext : (values.getOrNull property).asText? = .ok found := readWith_eq_ok hfound
  obtain ⟨value, hexpr, hattributes⟩ := h.attributes_primary hcopied
  have hread : (values.getOrNull property).asText?.map (·.map Expr.string) = .ok value := by
    rcases ht with ht | ht
    · exact read_of_expr ht hexpr
    · exact read_of_expr ht hexpr
  rw [htext] at hread
  rw [hattributes, ← Except.ok.inj hread]

/-- Either there is no partition key, and no description of one, or there are both. -/
theorem partitionKey_cases :
    (d.primary.attributes "hash_key" = [] ∧ d.primary.blocks "attribute" = []) ∨
      ∃ (key : String) (type : Option String), d.primary.attributes "hash_key" = [.string key] ∧
        (values.getOrNull "hash_key_type").asText? = .ok type ∧
        d.primary.blocks "attribute" = [⟨"attribute", [],
          [.attribute "name" (.string key), .attribute "type" (.string (type.getD defaultKeyType))]⟩] := by
  obtain ⟨first, second, rfl, hfirst, hsecond⟩ := details_eq_ok h.details_eq
  have hplain : first.filterMap (Item.block? "attribute") = [] := by
    obtain ⟨mode, -, ⟨-, hcopy⟩ | ⟨-, rfl⟩⟩ := capacities_eq_ok hfirst
    · exact filterMap_block?_of_isAttribute (isAttribute_of_copy hcopy) _
    · rfl
  rw [h.blocks_primary, List.filterMap_append, hplain, List.nil_append]
  rcases partitionKey_eq_ok hsecond with ⟨hkey, rfl⟩ | ⟨key, type, hkey, htype, rfl⟩
  · exact .inl ⟨attributes_of_text h hkey (.inl rfl) (by decide), rfl⟩
  · exact .inr ⟨key, type, attributes_of_text h hkey (.inl rfl) (by decide), readWith_eq_ok htype, rfl⟩

/-- Either the table is billed for its capacities, and they stand in the block as they are read, or there are
none of them. -/
theorem capacities_cases :
    (d.primary.attributes "billing_mode" = [.string provisioned] ∧
        ∀ capacity ∈ ["read_capacity", "write_capacity"], ∃ number : Option Number,
          (values.getOrNull capacity).asNumber? = .ok number ∧
            d.primary.attributes capacity = (number.map Expr.number).toList) ∨
      d.primary.attributes "billing_mode" ≠ [.string provisioned] ∧
        ∀ capacity ∈ ["read_capacity", "write_capacity"], d.primary.values capacity = [] := by
  obtain ⟨first, second, rfl, hfirst, hsecond⟩ := details_eq_ok h.details_eq
  have hcopied : ∀ capacity ∈ ["read_capacity", "write_capacity"],
      copied.filterMap (Item.value? capacity) = [] := by
    intro capacity hcapacity
    refine (filterMap_value?_copy (Kind.nodup_copied _) h.copy_eq capacity).2 ?_
    revert capacity
    decide
  obtain ⟨mode, hmode, hcases⟩ := capacities_eq_ok hfirst
  rw [attributes_of_text h hmode (.inr rfl) (by decide)]
  rcases hcases with ⟨rfl, hcopy⟩ | ⟨hother, rfl⟩
  · refine .inl ⟨rfl, fun capacity hcapacity => ?_⟩
    have ht : Kind.dynamodb.typeOf? capacity = some .number := by
      revert capacity
      decide +kernel
    obtain ⟨value, hexpr, hvalue⟩ := (filterMap_value?_copy (by decide) hcopy capacity).1 hcapacity
    obtain ⟨number, hnumber, rfl⟩ := map_eq_ok (read_of_expr ht hexpr)
    refine ⟨number, hnumber, ?_⟩
    have hkey : second.filterMap (Item.value? capacity) = [] := by
      rcases partitionKey_eq_ok hsecond with ⟨-, rfl⟩ | ⟨key, type, -, -, rfl⟩
      · rfl
      · rfl
    rw [h.primary_eq]
    show (copied ++ (first ++ second)).filterMap (Item.value? capacity) = _
    rw [List.filterMap_append, List.filterMap_append, hcopied capacity hcapacity, hvalue, hkey, List.append_nil]
    rfl
  · refine .inr ⟨?_, fun capacity hcapacity => ?_⟩
    · cases mode with
      | none => simp
      | some mode => simpa using hother
    · rw [h.values_primary, hcopied capacity hcapacity, List.nil_append, List.nil_append]
      rcases partitionKey_eq_ok hsecond with ⟨-, rfl⟩ | ⟨key, type, -, -, rfl⟩
      · rfl
      · revert capacity
        simp [bodyValues, Item.values]

theorem consistent : Consistent values d.primary where
  described := by
    rcases partitionKey_cases h with ⟨hnone, hblocks⟩ | ⟨key, type, hkey, -, hblocks⟩
    · simp [hnone, hblocks]
    · simp [hkey, hblocks]
  description key hkey := by
    rcases partitionKey_cases h with ⟨hnone, -⟩ | ⟨found, type, hfound, htype, hblocks⟩
    · rw [hnone] at hkey
      cases hkey
    · rw [hfound] at hkey
      rw [List.mem_singleton.1 hkey]
      exact ⟨type, htype, hblocks⟩
  billed capacity hcapacity hvalues := by
    rcases capacities_cases h with ⟨hbilled, -⟩ | ⟨-, hnone⟩
    · exact hbilled
    · exact absurd (hnone capacity hcapacity) hvalues
  capacities hbilled := by
    rcases capacities_cases h with ⟨-, hnumbers⟩ | ⟨hother, -⟩
    · exact hnumbers
    · exact absurd hbilled hother

end

/-! ## Tables that are not billed for capacities -/

/-- While the billing mode is another one, the capacities make no difference. -/
theorem emit_eq_of_sameBut {values values' : Json.Fields} {name : String}
    (hother : (values.getOrNull "billing_mode").asText? ≠ .ok (some provisioned))
    (h : values.SameBut ["read_capacity", "write_capacity"] values') :
    Declaration.emit .dynamodb values' name = Declaration.emit .dynamodb values name := by
  have hno : ¬ holdsText ⟨.dynamodb, values⟩ "billing_mode" provisioned = true := mt holdsText_iff.1 hother
  refine Declaration.emit_congr (h.agreeOn ?_) name
  unfold reads furtherReads lastReads
  dsimp only
  rw [if_neg hno]
  split
  · decide
  · decide

/-- The block of a table is consistent, whatever the properties from which it is emitted, and it stands alone.
It describes a partition key just if it has one, and that once, under the same name; and it has the
capacities that are read as numbers just if its billing mode asks for them. With another billing mode the
capacities may be any values, or none: neither the block nor an error depends on them. -/
theorem tables_are_consistent (values : Json.Fields) (name : String) :
    (∀ d, Declaration.emit .dynamodb values name = .ok d →
      Consistent values d.primary ∧ d.companions = []) ∧
    ((values.getOrNull "billing_mode").asText? ≠ .ok (some "PROVISIONED") →
      ∀ values', values.SameBut ["read_capacity", "write_capacity"] values' →
        Declaration.emit .dynamodb values' name = Declaration.emit .dynamodb values name) := by
  refine ⟨fun d hd => ?_, fun hother values' h => emit_eq_of_sameBut hother h⟩
  obtain ⟨copied, details, hparts⟩ := Declaration.exists_parts hd
  exact ⟨consistent hparts, (Except.ok.inj hparts.companions_eq).symm⟩

/-- A table whose key is given as a number, with one capacity of the two, given as a text. -/
def meteredTable : Json.Fields :=
  [("billing_mode", .string "PROVISIONED"), ("hash_key", .number (.integer 7)), ("name", .string "orders"),
    ("read_capacity", .string " 5 "), ("write_capacity", .null)]

theorem meteredTable_is_consistent :
    (∃ d, Declaration.emit .dynamodb meteredTable "orders" = .ok d ∧
      d.primary.blocks "attribute" =
        [⟨"attribute", [], [.attribute "name" (.string "7"), .attribute "type" (.string "S")]⟩] ∧
      d.primary.attributes "read_capacity" = [.number (.integer 5)] ∧
      d.primary.attributes "write_capacity" = []) ∧
    Declaration.emit .dynamodb [("billing_mode", .string " PROVISIONED"), ("read_capacity", .boolean true)]
        "orders" =
      Declaration.emit .dynamodb [("billing_mode", .string " PROVISIONED")] "orders" := by
  refine ⟨?_, (tables_are_consistent _ "orders").2 ?_ _ ?_⟩
  · have hattributes : (Declaration.emit .dynamodb meteredTable "orders").toOption.map (fun d =>
        (d.primary.attributes "hash_key", d.primary.attributes "billing_mode")) =
        some ([.string "7"], [.string "PROVISIONED"]) := by
      decide +kernel
    cases hd : Declaration.emit .dynamodb meteredTable "orders" with
    | error e =>
      rw [hd] at hattributes
      cases hattributes
    | ok d =>
      rw [hd] at hattributes
      obtain ⟨hkey, hbilled⟩ := Prod.mk.inj (Option.some.inj hattributes)
      obtain ⟨hconsistent, -⟩ := (tables_are_consistent meteredTable "orders").1 d hd
      obtain ⟨type, htype, hblocks⟩ := hconsistent.description (.string "7") (by simp [hkey])
      obtain ⟨number, hnumber, hread⟩ := hconsistent.capacities hbilled "read_capacity" (by simp)
      obtain ⟨none?, hnone, hwrite⟩ := hconsistent.capacities hbilled "write_capacity" (by simp)
      cases htype
      cases hnone
      have hfive : (meteredTable.getOrNull "read_capacity").asNumber? = .ok (some (.integer 5)) := by
        decide +kernel
      cases hnumber.symm.trans hfive
      exact ⟨d, rfl, hblocks, hread, hwrite⟩
  · decide +kernel
  · exact Json.Fields.sameBut_insert (List.mem_cons_self ..) (.boolean true)
      [("billing_mode", .string " PROVISIONED")]

end KeyTable

end CloudCanvas
