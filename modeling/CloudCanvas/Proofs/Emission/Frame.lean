/-
What an emission leaves out of account. An emission depends on the properties that it reads and on no others,
and which ones it reads depends on those that it has read before. So with properties that agree there, the
blocks are the same, and so is the error if there is one.
-/
import CloudCanvas.Proofs.Compliance.Judgement
import CloudCanvas.Proofs.Emission.Failure

namespace CloudCanvas

open CloudCanvas.Hcl Properties

namespace Json.Fields

variable {names : List String} {values values' : Json.Fields}

/-! ## Properties that differ at some names -/

/-- The properties are the same but for those of some names. -/
def SameBut (names : List String) (values values' : Json.Fields) : Prop :=
  ∀ name ∉ names, values'.get? name = values.get? name

theorem sameBut_without (names : List String) (values : Json.Fields) :
    SameBut names values (values.without names) :=
  fun _ hname => get?_without hname values

theorem sameBut_insert {name : String} (hname : name ∈ names) (v : Json) (values : Json.Fields) :
    SameBut names values (Keyed.insert name v values) := by
  intro other hother
  rw [Keyed.get?_insert, if_neg]
  rintro rfl
  exact hother hname

/-- A property that has been left out is null. -/
theorem getOrNull_without {name : String} (hname : name ∈ names) (values : Json.Fields) :
    (values.without names).getOrNull name = .null := by
  have hnone : (values.without names).get? name = none := by
    rw [← Option.not_isSome_iff_eq_none, Keyed.isSome_get?_iff, List.mem_map]
    rintro ⟨entry, hentry, rfl⟩
    exact of_decide_eq_true (List.mem_filter.1 hentry).2 hname
  unfold getOrNull
  rw [hnone]
  rfl

/-! ## Properties that agree at some names -/

/-- The properties of some names have the same values. -/
def AgreeOn (names : List String) (values values' : Json.Fields) : Prop :=
  ∀ name ∈ names, values'.getOrNull name = values.getOrNull name

theorem SameBut.agreeOn (h : SameBut names values values') {listed : List String}
    (hlisted : ∀ name ∈ listed, name ∉ names) : AgreeOn listed values values' := by
  intro name hname
  unfold getOrNull
  rw [h name (hlisted name hname)]

theorem agreeOn_append {rest : List String} :
    AgreeOn (names ++ rest) values values' ↔ AgreeOn names values values' ∧ AgreeOn rest values values' :=
  List.forall_mem_append

theorem AgreeOn.readWith {α : Type} (h : AgreeOn names values values') (kind : Kind) {name : String}
    (hname : name ∈ names) (read : Field → Json → Except Mismatch α) :
    Properties.readWith ⟨kind, values'⟩ name read = Properties.readWith ⟨kind, values⟩ name read :=
  readWith_congr fun _ => by rw [h name hname]

theorem AgreeOn.copy (h : AgreeOn names values values') (kind : Kind) :
    Properties.copy ⟨kind, values'⟩ names = Properties.copy ⟨kind, values⟩ names := by
  induction names with
  | nil => rfl
  | cons name rest ih =>
    unfold Properties.copy Properties.expr
    rw [h.readWith kind (List.mem_cons_self ..), ih (List.forall_mem_cons.1 h).2]

end Json.Fields

/-! ## The parts of an emission -/

section

variable {kind : Kind} {values values' : Json.Fields}

theorem KeyTable.capacities_congr (h : Json.Fields.AgreeOn ("billing_mode" ::
      if holdsText ⟨kind, values⟩ "billing_mode" provisioned then ["read_capacity", "write_capacity"]
      else []) values values') :
    capacities ⟨kind, values'⟩ = capacities ⟨kind, values⟩ := by
  have hmode : text ⟨kind, values'⟩ "billing_mode" = text ⟨kind, values⟩ "billing_mode" :=
    h.readWith kind (List.mem_cons_self ..) _
  unfold capacities
  rw [hmode]
  cases hread : text ⟨kind, values⟩ "billing_mode" with
  | error e => rfl
  | ok mode =>
    show (if mode = some provisioned then _ else _) = if mode = some provisioned then _ else _
    have hrest := (List.forall_mem_cons.1 h).2
    rw [holdsText_eq_decide hread] at hrest
    by_cases hprovisioned : mode = some provisioned
    · rw [if_pos (decide_eq_true hprovisioned)] at hrest
      rw [if_pos hprovisioned, if_pos hprovisioned]
      exact Json.Fields.AgreeOn.copy hrest kind
    · rw [if_neg hprovisioned, if_neg hprovisioned]

theorem KeyTable.partitionKey_congr (h : Json.Fields.AgreeOn ("hash_key" ::
      if holdsNoText ⟨kind, values⟩ "hash_key" then [] else ["hash_key_type"]) values values') :
    partitionKey ⟨kind, values'⟩ = partitionKey ⟨kind, values⟩ := by
  have hkey : text ⟨kind, values'⟩ "hash_key" = text ⟨kind, values⟩ "hash_key" :=
    h.readWith kind (List.mem_cons_self ..) _
  unfold partitionKey
  rw [hkey]
  cases hread : text ⟨kind, values⟩ "hash_key" with
  | error e => rfl
  | ok key =>
    cases key with
    | none => rfl
    | some key =>
      have hsome : ¬ holdsNoText ⟨kind, values⟩ "hash_key" = true := by
        rw [holdsNoText_iff, readWith_eq_ok hread]
        simp
      rw [if_neg hsome] at h
      have htype : text ⟨kind, values'⟩ "hash_key_type" = text ⟨kind, values⟩ "hash_key_type" :=
        h.readWith kind (by simp) _
      show (do let type ← text ⟨kind, values'⟩ "hash_key_type"; _) = _
      rw [htype]
      rfl

theorem Firewall.rules_congr (h : Json.Fields.AgreeOn
      ["ingress_cidr_blocks", "ingress_ports", "allow_all_egress"] values values') :
    rules ⟨kind, values'⟩ = rules ⟨kind, values⟩ := by
  have haddresses : texts ⟨kind, values'⟩ "ingress_cidr_blocks" = texts ⟨kind, values⟩ "ingress_cidr_blocks" :=
    h.readWith kind (by simp) _
  have hports : texts ⟨kind, values'⟩ "ingress_ports" = texts ⟨kind, values⟩ "ingress_ports" :=
    h.readWith kind (by simp) _
  have hegress : flag ⟨kind, values'⟩ "allow_all_egress" = flag ⟨kind, values⟩ "allow_all_egress" :=
    h.readWith kind (by simp) _
  unfold rules
  rw [haddresses, hports, hegress]

theorem Bucket.versioning_congr (h : Json.Fields.AgreeOn ["versioning"] values values') (name : String) :
    versioning ⟨kind, values'⟩ name = versioning ⟨kind, values⟩ name := by
  have hflag : flag ⟨kind, values'⟩ "versioning" = flag ⟨kind, values⟩ "versioning" :=
    h.readWith kind (List.mem_cons_self ..) _
  unfold versioning
  rw [hflag]

theorem Bucket.encryption_congr (h : Json.Fields.AgreeOn ("encryption" ::
      if isOn ⟨kind, values⟩ "encryption" then ["sse_algorithm"] else []) values values') (name : String) :
    encryption ⟨kind, values'⟩ name = encryption ⟨kind, values⟩ name := by
  have hflag : flag ⟨kind, values'⟩ "encryption" = flag ⟨kind, values⟩ "encryption" :=
    h.readWith kind (List.mem_cons_self ..) _
  unfold encryption
  rw [hflag]
  cases hread : flag ⟨kind, values⟩ "encryption" with
  | error e => rfl
  | ok on =>
    show (if on = some true then _ else _) = if on = some true then _ else _
    rw [isOn_eq_decide hread] at h
    by_cases hon : on = some true
    · rw [if_pos (decide_eq_true hon)] at h
      have halgorithm : text ⟨kind, values'⟩ "sse_algorithm" = text ⟨kind, values⟩ "sse_algorithm" :=
        h.readWith kind (by simp) _
      rw [if_pos hon, if_pos hon, halgorithm]
    · rw [if_neg hon, if_neg hon]

theorem Properties.details_congr
    (h : Json.Fields.AgreeOn (furtherReads ⟨kind, values⟩ ++ lastReads ⟨kind, values⟩) values values') :
    details ⟨kind, values'⟩ = details ⟨kind, values⟩ := by
  cases kind with
  | dynamodb =>
    obtain ⟨hcapacities, hkey⟩ := Json.Fields.agreeOn_append.1 (Json.Fields.agreeOn_append.1 h).1
    show KeyTable.details _ = KeyTable.details _
    unfold KeyTable.details
    rw [KeyTable.capacities_congr hcapacities, KeyTable.partitionKey_congr hkey]
  | securityGroup => exact Firewall.rules_congr h
  | _ => rfl

theorem Properties.companions_congr (h : Json.Fields.AgreeOn (furtherReads ⟨kind, values⟩) values values')
    (name : String) : companions ⟨kind, values'⟩ name = companions ⟨kind, values⟩ name := by
  cases kind with
  | s3 =>
    obtain ⟨hversioning, hencryption⟩ := List.forall_mem_cons.1 h
    show Bucket.companions _ name = Bucket.companions _ name
    unfold Bucket.companions
    rw [Bucket.versioning_congr (List.forall_mem_singleton.2 hversioning), Bucket.encryption_congr hencryption]
  | _ => rfl

/-- An emission depends only on what it reads: with properties that have the same values there it gives the
same declaration, or the same error. -/
theorem Declaration.emit_congr (h : Json.Fields.AgreeOn (reads ⟨kind, values⟩) values values') (name : String) :
    emit kind values' name = emit kind values name := by
  unfold reads at h
  rw [List.append_assoc] at h
  obtain ⟨hcopied, hothers⟩ := Json.Fields.agreeOn_append.1 h
  have hfurther := (Json.Fields.agreeOn_append.1 hothers).1
  unfold emit
  dsimp only
  rw [Json.Fields.AgreeOn.copy hcopied kind, details_congr hothers, companions_congr hfurther]

end

end CloudCanvas
