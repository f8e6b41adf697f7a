/-
The parts of a declaration. The primary block begins with the properties that it takes over; each of these
stands there under its own name, once, as far as it is present, and as it is read.
-/
import CloudCanvas.Proofs.Emission.Declaration

namespace CloudCanvas

open CloudCanvas.Hcl

/-! ## Copied properties -/

namespace Properties

variable {props : Properties} {names : List String} {items : List Item}

theorem isAttribute_of_copy (h : props.copy names = .ok items) : ∀ item ∈ items, item.IsAttribute := by
  induction names generalizing items with
  | nil =>
    cases h
    exact fun item hi => absurd hi List.not_mem_nil
  | cons name rest ih =>
    unfold copy at h
    obtain ⟨value, -, h⟩ := bind_eq_ok h
    obtain ⟨others, hothers, h⟩ := bind_eq_ok h
    cases h
    intro item hi
    rcases List.mem_append.1 hi with hi | hi
    · obtain ⟨found, -, rfl⟩ := Option.map_eq_some_iff.1 (Option.mem_toList.1 hi)
      trivial
    · exact ih hothers item hi

/-- The value of a copied property stands under its name, and no other key has one. -/
theorem filterMap_value?_copy (hnames : names.Nodup) (h : props.copy names = .ok items) (key : String) :
    (key ∈ names → ∃ value, props.expr key = .ok value ∧ items.filterMap (Item.value? key) = value.toList) ∧
      (key ∉ names → items.filterMap (Item.value? key) = []) := by
  induction names generalizing items with
  | nil =>
    cases h
    exact ⟨fun hkey => absurd hkey List.not_mem_nil, fun _ => rfl⟩
  | cons name rest ih =>
    unfold copy at h
    obtain ⟨value, hvalue, h⟩ := bind_eq_ok h
    obtain ⟨others, hothers, h⟩ := bind_eq_ok h
    cases h
    obtain ⟨hname, hrest⟩ := List.nodup_cons.1 hnames
    obtain ⟨hin, hout⟩ := ih hrest hothers
    have hhead : (Item.attribute? name value).filterMap (Item.value? key) =
        if name = key then value.toList else [] := by
      cases value with
      | none => split <;> rfl
      | some found =>
        show [Item.attribute name found].filterMap (Item.value? key) = _
        unfold Item.value?
        by_cases hk : name = key <;> simp [hk]
    rw [List.filterMap_append, hhead]
    by_cases hk : name = key
    · subst hk
      rw [if_pos rfl, hout hname, List.append_nil]
      exact ⟨fun _ => ⟨value, hvalue, rfl⟩, fun hkey => absurd (List.mem_cons_self ..) hkey⟩
    · rw [if_neg hk, List.nil_append, List.mem_cons, or_iff_right (Ne.symm hk)]
      exact ⟨hin, hout⟩

/-- Nothing is copied under a key that is not listed. -/
theorem bodyValues_copy (hnames : names.Nodup) (h : props.copy names = .ok items) {key : String}
    (hkey : key ∉ names) : bodyValues key items = [] := by
  rw [bodyValues_of_isAttribute (isAttribute_of_copy h)]
  exact (filterMap_value?_copy hnames h key).2 hkey

end Properties

theorem Kind.nodup_copied (kind : Kind) : kind.copied.Nodup := by
  cases kind <;> decide

namespace KeyTable

variable {props : Properties} {items : List Item}

theorem bodyValues_capacities (h : items = [] ∨ props.copy ["read_capacity", "write_capacity"] = .ok items)
    {key : String} (hkey : key ∉ ["read_capacity", "write_capacity"]) : bodyValues key items = [] := by
  rcases h with rfl | h
  · rfl
  · exact Properties.bodyValues_copy (by decide) h hkey

variable (h : details props = .ok items)
include h

/-- The details of a table hold capacities, and the name and the type of its partition key. -/
theorem bodyValues_details {key : String} (hkey : key ∉ ["read_capacity", "write_capacity", "name", "type"]) :
    bodyValues key items = [] := by
  obtain ⟨first, second, rfl, hfirst, hsecond⟩ := exists_of_details h
  simp only [List.mem_cons, List.not_mem_nil, or_false, not_or] at hkey
  obtain ⟨hread, hwrite, hname, htype⟩ := hkey
  rw [bodyValues_append, bodyValues_capacities hfirst (by simp [hread, hwrite]), List.nil_append]
  rcases hsecond with rfl | ⟨name, type, -, rfl⟩
  · rfl
  · simp [bodyValues, Item.values, Ne.symm hname, Ne.symm htype]

/-- The type of a partition key is read, or the default one. -/
theorem exists_of_mem_type {value : Expr} (hvalue : value ∈ bodyValues "type" items) :
    ∃ type, props.text "hash_key_type" = .ok type ∧ value = .string (type.getD defaultKeyType) := by
  obtain ⟨first, second, rfl, hfirst, hsecond⟩ := exists_of_details h
  rw [bodyValues_append, bodyValues_capacities hfirst (by decide), List.nil_append] at hvalue
  rcases hsecond with rfl | ⟨name, type, htype, rfl⟩
  · cases hvalue
  · exact ⟨type, htype, List.mem_singleton.1 hvalue⟩

end KeyTable

/-- The details of a kind add no attribute of a property that is taken over. -/
theorem Properties.filterMap_value?_details {props : Properties} {items : List Item}
    (h : props.details = .ok items) {key : String} (hkey : key ∈ props.kind.copied) :
    items.filterMap (Item.value? key) = [] := by
  unfold details at h
  split at h
  · rename_i hkind
    obtain ⟨first, second, rfl, hfirst, hsecond⟩ := KeyTable.exists_of_details h
    have hcapacities : key ∉ ["read_capacity", "write_capacity"] := by
      rw [hkind] at hkey
      revert key
      decide
    have hnone : first.filterMap (Item.value? key) = [] := by
      rcases hfirst with rfl | hfirst
      · rfl
      · exact (filterMap_value?_copy (by decide) hfirst key).2 hcapacities
    rw [List.filterMap_append, hnone]
    rcases hsecond with rfl | ⟨name, type, -, rfl⟩ <;> rfl
  · obtain ⟨addresses, entries, ranges, last, -, -, -, hlast, rfl⟩ := Firewall.exists_of_rules h
    rw [List.filterMap_append, List.append_eq_nil_iff, List.filterMap_map]
    refine ⟨List.filterMap_eq_nil_iff.2 fun _ _ => rfl, ?_⟩
    rcases hlast with rfl | rfl <;> rfl
  · cases h
    rfl

/-! ## Emissions -/

namespace Declaration

namespace Parts

variable {kind : Kind} {values : Json.Fields} {name : String} {d : Declaration} {copied details : List Item}
  (h : Parts kind values name d copied details)
include h

/-- The blocks in a primary block are all among its details. -/
theorem blocks_primary (keyword : String) :
    d.primary.blocks keyword = details.filterMap (Item.block? keyword) := by
  have hcopied := filterMap_block?_of_isAttribute (Properties.isAttribute_of_copy h.copy_eq) keyword
  rw [h.primary_eq]
  show (copied ++ details).filterMap (Item.block? keyword) = _
  rw [List.filterMap_append, hcopied, List.nil_append]

/-- A property that is taken over stands in the primary block once, if it is there, and as it is read. -/
theorem attributes_primary {key : String} (hkey : key ∈ kind.copied) :
    ∃ value, Properties.expr ⟨kind, values⟩ key = .ok value ∧ d.primary.attributes key = value.toList := by
  obtain ⟨value, hvalue, hcopied⟩ := (Properties.filterMap_value?_copy kind.nodup_copied h.copy_eq key).1 hkey
  have hdetails := Properties.filterMap_value?_details h.details_eq hkey
  refine ⟨value, hvalue, ?_⟩
  rw [h.primary_eq]
  show (copied ++ details).filterMap (Item.value? key) = _
  rw [List.filterMap_append, hcopied, hdetails, List.append_nil]

/-- The values of a key are those among the properties that are taken over and those among the details. -/
theorem values_primary (key : String) :
    d.primary.values key = copied.filterMap (Item.value? key) ++ bodyValues key details := by
  have hcopied := bodyValues_of_isAttribute (Properties.isAttribute_of_copy h.copy_eq) key
  rw [h.primary_eq]
  show bodyValues key (copied ++ details) = _
  rw [bodyValues_append, hcopied]

end Parts

end Declaration

end CloudCanvas
