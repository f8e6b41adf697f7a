/-
Which properties an emission reads, and how it fails. Whatever an emission reads is a field of the schema
of its kind, and it is read as the type of that field, so an emission fails with the error about the
first property that it reads and whose value does not have its type. The one thing that a schema does not
say is which texts are port ranges: an entry of a port list that is none makes the emission of a security
group fail too.
-/
import CloudCanvas.Proofs.Emission.Declaration

namespace CloudCanvas

open CloudCanvas.Hcl

/-- The type under which a kind declares a property. -/
def Kind.typeOf? (kind : Kind) (name : String) : Option FieldType :=
  (kind.schema.field? name).map (·.type)

theorem Kind.exists_field_of_typeOf? {kind : Kind} {name : String} {type : FieldType}
    (h : kind.typeOf? name = some type) :
    ∃ field ∈ kind.schema.fields, field.name = name ∧ field.type = type := by
  obtain ⟨field, hf, htype⟩ := Option.map_eq_some_iff.1 h
  exact ⟨field, List.mem_of_find?_eq_some hf,
    eq_of_beq (List.find?_some (p := fun field : Field => field.name == name) hf), htype⟩

theorem Kind.typeOf?_of_mem_fields (kind : Kind) :
    ∀ field ∈ kind.schema.fields, kind.typeOf? field.name = some field.type := by
  cases kind <;> decide +kernel

theorem Kind.isSome_typeOf?_of_mem_copied (kind : Kind) :
    ∀ name ∈ kind.copied, (kind.typeOf? name).isSome = true := by
  cases kind <;> decide +kernel

/-! ## Port lists -/

/-- The error about an entry that is no port range. -/
def Firewall.portError? (entry : String) : Option EmissionError :=
  match portsOf entry with
  | .ok _ => none
  | .error e => some e

/-- The entries of a port list are read until one is no port range. -/
theorem Firewall.mapM_portsOf (entries : List String) :
    (entries.findSome? portError? = none → ∃ ranges, entries.mapM portsOf = .ok ranges) ∧
      ∀ e, entries.findSome? portError? = some e → entries.mapM portsOf = .error e := by
  induction entries with
  | nil => exact ⟨fun _ => ⟨[], rfl⟩, fun e h => by cases h⟩
  | cons entry rest ih =>
    rw [List.mapM_cons, List.findSome?_cons]
    cases hp : portsOf entry with
    | error cause =>
      have he : portError? entry = some cause := by unfold portError?; rw [hp]
      rw [he]
      refine ⟨fun h => ?_, fun e h => ?_⟩
      · cases h
      · cases h; rfl
    | ok ports =>
      have he : portError? entry = none := by unfold portError?; rw [hp]
      rw [he]
      refine ⟨fun h => ?_, fun e h => ?_⟩
      · obtain ⟨ranges, hr⟩ := ih.1 h
        rw [hr]
        exact ⟨_, rfl⟩
      · rw [ih.2 e h]
        rfl

namespace Properties

variable {props : Properties} {name : String}

/-- The entries of the port list of a security group; other kinds list no ports. -/
def ports (props : Properties) : List String :=
  match props.kind with
  | .securityGroup =>
    match (props.raw "ingress_ports").asTexts with
    | .ok entries => entries
    | .error _ => []
  | _ => []

/-- The error about the first listed port that is no port range. -/
def portError? (props : Properties) : Option EmissionError :=
  props.ports.findSome? Firewall.portError?

end Properties

/-! ## Failing steps -/

theorem map_eq_error_iff {ε α β : Type} {x : Except ε α} {f : α → β} {e : ε} :
    x.map f = .error e ↔ x = .error e := by
  cases x <;> simp [Except.map]

/-- A step fails with the first of the errors, and succeeds when there is none. -/
def FailsFirst {α : Type} (errors : List EmissionError) (x : Except EmissionError α) : Prop :=
  ∀ e, x = .error e ↔ errors.head? = some e

namespace FailsFirst

variable {α β : Type} {errors others : List EmissionError} {x : Except EmissionError α}

theorem ok (a : α) : FailsFirst [] (Except.ok a : Except EmissionError α) := by
  intro e
  simp

theorem exists_ok (h : FailsFirst [] x) : ∃ a, x = .ok a := by
  cases x with
  | ok a => exact ⟨a, rfl⟩
  | error e => cases (h e).1 rfl

theorem eq_nil_of_ok {a : α} (h : FailsFirst errors (.ok a)) : errors = [] := by
  cases errors with
  | nil => rfl
  | cons e rest => cases (h e).2 rfl

/-- Of two steps the second one is taken when the first one has succeeded. -/
theorem bind {f : α → Except EmissionError β} (h : FailsFirst errors x)
    (hf : ∀ a, x = .ok a → FailsFirst others (f a)) : FailsFirst (errors ++ others) (x >>= f) := by
  cases x with
  | ok a =>
    rw [h.eq_nil_of_ok]
    exact hf a rfl
  | error cause =>
    intro e
    rw [List.head?_append, (h cause).1 rfl, Option.some_or]
    constructor
    · intro he; cases he; rfl
    · intro he; cases he; rfl

/-- A step after which nothing can fail. -/
theorem map (h : FailsFirst errors x) (f : α → β) : FailsFirst errors (x >>= fun a => .ok (f a)) := by
  have hbind := h.bind (f := fun a => .ok (f a)) fun a _ => ok (f a)
  rwa [List.append_nil] at hbind

end FailsFirst

namespace Properties

variable {props : Properties} {name : String}

/-! ## Reading properties -/

/-- The error about a declared property whose value does not have its type. -/
def misfit? (props : Properties) (name : String) : Option EmissionError :=
  match props.kind.typeOf? name with
  | none => none
  | some type =>
    match type.read (props.raw name) with
    | .ok _ => none
    | .error cause => some ⟨name, .mismatch cause⟩

theorem misfit?_eq_some_iff {e : EmissionError} :
    props.misfit? name = some e ↔ ∃ type cause, props.kind.typeOf? name = some type ∧
      type.read (props.raw name) = .error cause ∧ e = ⟨name, .mismatch cause⟩ := by
  unfold misfit?
  cases props.kind.typeOf? name with
  | none => simp
  | some type =>
    dsimp only
    cases hr : type.read (props.raw name) with
    | ok value => simp [hr]
    | error cause => simp [hr, eq_comm]

/-- A property is read in some way that fails when the type of the property fails, and alike. -/
theorem failsFirst_readWith {α : Type} {type : FieldType} {read : Field → Json → Except Mismatch α}
    (ht : props.kind.typeOf? name = some type)
    (hread : ∀ field cause, field.type = type →
      (read field (props.raw name) = .error cause ↔ type.read (props.raw name) = .error cause)) :
    FailsFirst (props.misfit? name).toList (props.readWith name read) := by
  obtain ⟨field, hf, htype⟩ := Option.map_eq_some_iff.1 ht
  have hdeclared : props.declared name = .ok field := by
    unfold declared
    rw [hf]
  intro e
  rw [Option.head?_toList, misfit?_eq_some_iff, ht]
  unfold readWith
  rw [hdeclared]
  dsimp only
  cases hr : read field (props.raw name) with
  | ok a =>
    have hnone : ∀ cause, type.read (props.raw name) ≠ .error cause := by
      intro cause hc
      rw [← hread field cause htype, hr] at hc
      cases hc
    simp [hnone]
  | error cause =>
    rw [hread field cause htype] at hr
    simp [hr, eq_comm]

theorem failsFirst_expr (h : (props.kind.typeOf? name).isSome = true) :
    FailsFirst (props.misfit? name).toList (props.expr name) := by
  obtain ⟨type, ht⟩ := Option.isSome_iff_exists.1 h
  refine failsFirst_readWith ht fun field cause hf => ?_
  rw [hf]

theorem failsFirst_text
    (h : props.kind.typeOf? name = some .text ∨ props.kind.typeOf? name = some .select) :
    FailsFirst (props.misfit? name).toList (props.text name) := by
  rcases h with ht | ht
  all_goals
    exact failsFirst_readWith ht fun _ _ _ => map_eq_error_iff.symm

theorem failsFirst_flag (h : props.kind.typeOf? name = some .boolean) :
    FailsFirst (props.misfit? name).toList (props.flag name) :=
  failsFirst_readWith h fun _ _ _ => map_eq_error_iff.symm

theorem failsFirst_texts (h : props.kind.typeOf? name = some .array) :
    FailsFirst (props.misfit? name).toList (props.texts name) :=
  failsFirst_readWith h fun _ _ _ => map_eq_error_iff.symm

/-- The errors about the listed properties. -/
def misfits (props : Properties) (names : List String) : List EmissionError :=
  names.filterMap props.misfit?

theorem misfits_cons (name : String) (rest : List String) :
    props.misfits (name :: rest) = (props.misfit? name).toList ++ props.misfits rest := by
  unfold misfits
  rw [List.filterMap_cons]
  cases props.misfit? name <;> rfl

theorem misfits_singleton (name : String) : props.misfits [name] = (props.misfit? name).toList := by
  rw [misfits_cons]
  exact List.append_nil _

theorem misfits_append (names rest : List String) :
    props.misfits (names ++ rest) = props.misfits names ++ props.misfits rest :=
  List.filterMap_append

theorem failsFirst_copy {names : List String}
    (h : ∀ name ∈ names, (props.kind.typeOf? name).isSome = true) :
    FailsFirst (props.misfits names) (props.copy names) := by
  induction names with
  | nil => exact FailsFirst.ok []
  | cons name rest ih =>
    have hrest := ih fun name hm => h name (List.mem_cons_of_mem _ hm)
    rw [misfits_cons]
    unfold copy
    exact (failsFirst_expr (h name (List.mem_cons_self ..))).bind fun value _ => hrest.map _

theorem readWith_eq_ok {α : Type} {read : Json → Except Mismatch α} {a : α}
    (h : props.readWith name (fun _ v => read v) = .ok a) : read (props.raw name) = .ok a := by
  unfold readWith at h
  split at h
  · cases h
  · split at h
    · rename_i hr
      cases h
      exact hr
    · cases h

/-- Whatever reads the value of a property alike reads the property alike. -/
theorem readWith_congr {α : Type} {kind : Kind} {values values' : Json.Fields} {name : String}
    {read : Field → Json → Except Mismatch α}
    (h : ∀ field, read field (values'.getOrNull name) = read field (values.getOrNull name)) :
    readWith ⟨kind, values'⟩ name read = readWith ⟨kind, values⟩ name read := by
  unfold readWith declared
  dsimp only
  cases kind.schema.field? name with
  | none => rfl
  | some field =>
    have hread := h field
    unfold raw
    dsimp only
    rw [hread]

theorem expr_of_typeOf? {kind : Kind} {values : Json.Fields} {name : String} {type : FieldType}
    (ht : kind.typeOf? name = some type) :
    expr ⟨kind, values⟩ name = match type.read (values.getOrNull name) with
      | .ok value => .ok value
      | .error cause => .error ⟨name, .mismatch cause⟩ := by
  obtain ⟨field, hf, rfl⟩ := Option.map_eq_some_iff.1 ht
  unfold expr readWith declared raw
  dsimp only
  rw [hf]
  dsimp only
  cases field.type.read (values.getOrNull name) <;> rfl

/-- A property that is taken over is read as its type. -/
theorem read_of_expr {kind : Kind} {values : Json.Fields} {name : String} {type : FieldType}
    (ht : kind.typeOf? name = some type) {value : Option Expr} (h : expr ⟨kind, values⟩ name = .ok value) :
    type.read (values.getOrNull name) = .ok value := by
  rw [expr_of_typeOf? ht] at h
  split at h
  · rename_i hread
    cases h
    exact hread
  · cases h

/-! ## What an emission reads -/

/-- The property reads as this text. -/
def holdsText (props : Properties) (name text : String) : Bool :=
  match (props.raw name).asText? with
  | .ok (some found) => found == text
  | _ => false

/-- The property reads as text, and as none. -/
def holdsNoText (props : Properties) (name : String) : Bool :=
  match (props.raw name).asText? with
  | .ok none => true
  | _ => false

/-- The property reads as true. -/
def isOn (props : Properties) (name : String) : Bool :=
  match (props.raw name).asBool? with
  | .ok (some on) => on
  | _ => false

theorem isOn_iff : props.isOn name = true ↔ (props.raw name).asBool? = .ok (some true) := by
  unfold isOn
  split
  · rename_i on hread
    simp [hread]
  · rename_i hread
    simpa using hread true

theorem holdsText_iff {text : String} :
    props.holdsText name text = true ↔ (props.raw name).asText? = .ok (some text) := by
  unfold holdsText
  split
  · rename_i found hread
    simp [hread]
  · rename_i hread
    simpa using hread text

/-- Once a property has been read as text, it is known which text it holds. -/
theorem holdsText_eq_decide {found : Option String} (h : props.text name = .ok found) (text : String) :
    props.holdsText name text = decide (found = some text) := by
  rw [Bool.eq_iff_iff, holdsText_iff, readWith_eq_ok h]
  simp

/-- Once a property has been read as a truth value, it is known whether it is on. -/
theorem isOn_eq_decide {found : Option Bool} (h : props.flag name = .ok found) :
    props.isOn name = decide (found = some true) := by
  rw [Bool.eq_iff_iff, isOn_iff, readWith_eq_ok h]
  simp

theorem holdsNoText_iff : props.holdsNoText name = true ↔ (props.raw name).asText? = .ok none := by
  unfold holdsNoText
  split
  · rename_i hread
    simp [hread]
  · rename_i hread
    simpa using hread

/-- The properties that an emission reads beside those that it copies, in order, up to the ports. -/
def furtherReads (props : Properties) : List String :=
  match props.kind with
  | .s3 => "versioning" :: "encryption" :: if props.isOn "encryption" then ["sse_algorithm"] else []
  | .dynamodb =>
    "billing_mode" ::
        (if props.holdsText "billing_mode" KeyTable.provisioned then ["read_capacity", "write_capacity"]
        else []) ++
      "hash_key" :: if props.holdsNoText "hash_key" then [] else ["hash_key_type"]
  | .securityGroup => ["ingress_cidr_blocks", "ingress_ports"]
  | _ => []

/-- The properties that an emission reads behind the ports. -/
def lastReads (props : Properties) : List String :=
  match props.kind with
  | .securityGroup => ["allow_all_egress"]
  | _ => []

/-- The properties that an emission reads. -/
def reads (props : Properties) : List String :=
  props.kind.copied ++ props.furtherReads ++ props.lastReads

/-- The errors that an emission can come upon, in the order in which it would. -/
def errors (props : Properties) : List EmissionError :=
  props.misfits (props.kind.copied ++ props.furtherReads) ++ props.portError?.toList ++
    props.misfits props.lastReads

/-! ## How an emission fails -/

theorem failsFirst_capacities (hk : props.kind = .dynamodb) :
    FailsFirst (props.misfits ("billing_mode" ::
        if props.holdsText "billing_mode" KeyTable.provisioned then ["read_capacity", "write_capacity"]
        else []))
      (KeyTable.capacities props) := by
  rw [misfits_cons]
  unfold KeyTable.capacities
  refine (failsFirst_text (.inr (by rw [hk]; rfl))).bind fun mode hmode => ?_
  rw [holdsText_eq_decide hmode]
  by_cases hm : mode = some KeyTable.provisioned
  · simp only [hm, decide_true, if_true]
    exact failsFirst_copy (by rw [hk]; decide +kernel)
  · simp only [hm, decide_false, if_false]
    exact FailsFirst.ok []

theorem failsFirst_partitionKey (hk : props.kind = .dynamodb) :
    FailsFirst (props.misfits ("hash_key" ::
        if props.holdsNoText "hash_key" then [] else ["hash_key_type"]))
      (KeyTable.partitionKey props) := by
  rw [misfits_cons]
  unfold KeyTable.partitionKey
  refine (failsFirst_text (.inl (by rw [hk]; rfl))).bind fun key hkey => ?_
  have hread := readWith_eq_ok hkey
  unfold holdsNoText
  rw [hread]
  cases key with
  | none => exact FailsFirst.ok []
  | some key =>
    have htype : props.kind.typeOf? "hash_key_type" = some .select := by rw [hk]; rfl
    dsimp only
    rw [if_neg Bool.false_ne_true, misfits_singleton]
    exact (failsFirst_text (.inr htype)).map _

theorem failsFirst_keyTable (hk : props.kind = .dynamodb) :
    FailsFirst (props.misfits props.furtherReads) (KeyTable.details props) := by
  unfold furtherReads
  rw [hk]
  dsimp only
  rw [misfits_append]
  unfold KeyTable.details
  exact (failsFirst_capacities hk).bind fun first _ => (failsFirst_partitionKey hk).map _

/-- The entries of a port list are read until one is no port range. -/
theorem failsFirst_ranges (hk : props.kind = .securityGroup) {entries : List String}
    (h : (props.raw "ingress_ports").asTexts = .ok entries) :
    FailsFirst props.portError?.toList (entries.mapM Firewall.portsOf) := by
  have hports : props.portError? = entries.findSome? Firewall.portError? := by
    unfold portError? ports
    rw [hk, h]
  obtain ⟨hok, herror⟩ := Firewall.mapM_portsOf entries
  rw [hports]
  cases he : entries.findSome? Firewall.portError? with
  | none =>
    obtain ⟨ranges, hr⟩ := hok he
    rw [hr]
    exact FailsFirst.ok ranges
  | some cause =>
    rw [herror cause he]
    intro e
    simp

theorem failsFirst_rules (hk : props.kind = .securityGroup) :
    FailsFirst (props.misfits props.furtherReads ++ props.portError?.toList ++ props.misfits props.lastReads)
      (Firewall.rules props) := by
  have haddresses : props.kind.typeOf? "ingress_cidr_blocks" = some .array := by rw [hk]; rfl
  have hports : props.kind.typeOf? "ingress_ports" = some .array := by rw [hk]; rfl
  have hegress : props.kind.typeOf? "allow_all_egress" = some .boolean := by rw [hk]; rfl
  unfold furtherReads lastReads Firewall.rules
  rw [hk]
  dsimp only
  rw [misfits_cons, misfits_singleton, misfits_singleton, List.append_assoc, List.append_assoc]
  refine (failsFirst_texts haddresses).bind fun addresses _ => ?_
  refine (failsFirst_texts hports).bind fun entries hentries => ?_
  refine (failsFirst_ranges hk (readWith_eq_ok hentries)).bind fun ranges _ => ?_
  exact (failsFirst_flag hegress).map _

/-- Kinds other than security groups list no ports. -/
theorem portError?_eq_none (h : props.kind ≠ .securityGroup) : props.portError? = none := by
  unfold portError? ports
  split
  · exact absurd ‹_› h
  · rfl

theorem failsFirst_versioning (hk : props.kind = .s3) (name : String) :
    FailsFirst (props.misfits ["versioning"]) (Bucket.versioning props name) := by
  have htype : props.kind.typeOf? "versioning" = some .boolean := by rw [hk]; rfl
  rw [misfits_singleton, ← List.append_nil (props.misfit? "versioning").toList]
  unfold Bucket.versioning
  refine (failsFirst_flag htype).bind fun on _ => ?_
  split
  · exact FailsFirst.ok _
  · exact FailsFirst.ok _

theorem failsFirst_encryption (hk : props.kind = .s3) (name : String) :
    FailsFirst (props.misfits ("encryption" :: if props.isOn "encryption" then ["sse_algorithm"] else []))
      (Bucket.encryption props name) := by
  have htype : props.kind.typeOf? "encryption" = some .boolean := by rw [hk]; rfl
  have halgorithm : props.kind.typeOf? "sse_algorithm" = some .select := by rw [hk]; rfl
  rw [misfits_cons]
  unfold Bucket.encryption
  refine (failsFirst_flag htype).bind fun on hon => ?_
  have hread := readWith_eq_ok hon
  unfold isOn
  rw [hread]
  rcases on with - | - | -
  · exact FailsFirst.ok []
  · exact FailsFirst.ok []
  · show FailsFirst (props.misfits ["sse_algorithm"]) _
    rw [misfits_singleton]
    exact (failsFirst_text (.inr halgorithm)).map _

theorem failsFirst_companions (hk : props.kind = .s3) (name : String) :
    FailsFirst (props.misfits props.furtherReads) (Bucket.companions props name) := by
  have hreads : props.furtherReads = ["versioning"] ++
      "encryption" :: if props.isOn "encryption" then ["sse_algorithm"] else [] := by
    unfold furtherReads
    rw [hk]
    rfl
  rw [hreads, misfits_append]
  unfold Bucket.companions
  exact (failsFirst_versioning hk name).bind fun first _ => (failsFirst_encryption hk name).map _

/-- The details of a kind other than a bucket account for all that is not copied. -/
theorem failsFirst_details (h : props.kind ≠ .s3) :
    FailsFirst (props.misfits props.furtherReads ++ props.portError?.toList ++ props.misfits props.lastReads)
      props.details := by
  by_cases hs : props.kind = .securityGroup
  · have hd : props.details = Firewall.rules props := by unfold details; rw [hs]
    rw [hd]
    exact failsFirst_rules hs
  · have hlast : props.lastReads = [] := by
      unfold lastReads
      split
      · exact absurd ‹_› hs
      · rfl
    rw [portError?_eq_none hs, hlast]
    show FailsFirst (props.misfits props.furtherReads ++ [] ++ []) props.details
    rw [List.append_nil, List.append_nil]
    unfold details
    split
    · exact failsFirst_keyTable ‹_›
    · exact absurd ‹_› hs
    · rename_i hdynamodb _
      have hnone : props.furtherReads = [] := by
        unfold furtherReads
        split
        · exact absurd ‹_› h
        · exact absurd ‹_› hdynamodb
        · exact absurd ‹_› hs
        · rfl
      rw [hnone]
      exact FailsFirst.ok []

/-- An emission fails with the first of its errors, and with nothing else. -/
theorem failsFirst_emit (kind : Kind) (values : Json.Fields) (name : String) :
    FailsFirst (errors ⟨kind, values⟩) (Declaration.emit kind values name) := by
  have hcopied : FailsFirst (misfits ⟨kind, values⟩ kind.copied) (copy ⟨kind, values⟩ kind.copied) :=
    failsFirst_copy kind.isSome_typeOf?_of_mem_copied
  unfold errors Declaration.emit
  dsimp only
  rw [misfits_append, List.append_assoc, List.append_assoc, ← List.append_assoc (misfits _ (furtherReads _))]
  refine hcopied.bind fun copied _ => ?_
  by_cases hk : kind = .s3
  · subst hk
    have hcompanions : FailsFirst (misfits ⟨.s3, values⟩ (furtherReads ⟨.s3, values⟩))
        (Bucket.companions ⟨.s3, values⟩ name) :=
      failsFirst_companions rfl name
    show FailsFirst (misfits ⟨.s3, values⟩ (furtherReads ⟨.s3, values⟩) ++ [] ++ []) _
    rw [List.append_nil, List.append_nil]
    exact hcompanions.map _
  · have hdetails : FailsFirst (misfits ⟨kind, values⟩ (furtherReads ⟨kind, values⟩) ++
        (portError? ⟨kind, values⟩).toList ++ misfits ⟨kind, values⟩ (lastReads ⟨kind, values⟩))
        (details ⟨kind, values⟩) :=
      failsFirst_details hk
    have hcompanions : companions ⟨kind, values⟩ name = .ok [] := by
      unfold companions
      split
      · exact absurd ‹_› hk
      · rfl
    rw [hcompanions]
    exact hdetails.map _

end Properties

end CloudCanvas
