/-
Emissions of values that have been typed into text boxes. An emission sees its properties through the types
of their fields only, so a text makes no difference where it reads as the value in whose place it stands.
The one text that does not is that of an integer beyond the signed words, which shows when the primary block
takes the field over; the rest of a node is written from fields of other types.
-/
import CloudCanvas.Proofs.Emission.Failure
import CloudCanvas.Proofs.Resource.Typed
import Mathlib.Data.List.Forall2

namespace CloudCanvas

open Hcl Properties

theorem map_injective {ε α β : Type} {f : α → β} (hf : Function.Injective f) :
    Function.Injective (Except.map f : Except ε α → Except ε β) := by
  intro x y h
  cases x with
  | error e =>
    cases y with
    | error e' => exact congrArg Except.error (Except.error.inj h)
    | ok b => cases h
  | ok a =>
    cases y with
    | error e => cases h
    | ok b => exact congrArg Except.ok (hf (Except.ok.inj h))

/-! ## Fields of other types -/

/-- Two lists of values read alike in all fields of a kind but its number fields. -/
def ReadAlike (kind : Kind) (values values' : Json.Fields) : Prop :=
  ∀ name type, kind.typeOf? name = some type → type ≠ .number →
    type.read (values'.getOrNull name) = type.read (values.getOrNull name)

namespace ReadAlike

variable {kind : Kind} {values values' : Json.Fields} (h : ReadAlike kind values values')
include h

theorem text_eq (name : String) (ht : kind.typeOf? name = some .text ∨ kind.typeOf? name = some .select) :
    text ⟨kind, values'⟩ name = text ⟨kind, values⟩ name := by
  have hinj : Function.Injective (Option.map Expr.string) :=
    Option.map_injective fun _ _ he => Expr.string.inj he
  refine readWith_congr fun _ => map_injective hinj ?_
  rcases ht with ht | ht
  · exact h name .text ht (by decide)
  · exact h name .select ht (by decide)

theorem flag_eq (name : String) (ht : kind.typeOf? name = some .boolean) :
    flag ⟨kind, values'⟩ name = flag ⟨kind, values⟩ name := by
  have hinj : Function.Injective (Option.map Expr.boolean) :=
    Option.map_injective fun _ _ he => Expr.boolean.inj he
  exact readWith_congr fun _ => map_injective hinj (h name .boolean ht (by decide))

theorem texts_eq (name : String) (ht : kind.typeOf? name = some .array) :
    texts ⟨kind, values'⟩ name = texts ⟨kind, values⟩ name := by
  have hinj : Function.Injective fun items : List String =>
      if items.isEmpty then none else some (Expr.strings items) := by
    intro items others he
    cases items <;> cases others <;> simp_all
  exact readWith_congr fun _ => map_injective hinj (h name .array ht (by decide))

end ReadAlike

section

variable {values values' : Json.Fields}

theorem ReadAlike.partitionKey_eq (h : ReadAlike .dynamodb values values') :
    KeyTable.partitionKey ⟨.dynamodb, values'⟩ = KeyTable.partitionKey ⟨.dynamodb, values⟩ := by
  unfold KeyTable.partitionKey
  rw [h.text_eq "hash_key" (.inl rfl), h.text_eq "hash_key_type" (.inr rfl)]

theorem ReadAlike.rules_eq (h : ReadAlike .securityGroup values values') :
    Firewall.rules ⟨.securityGroup, values'⟩ = Firewall.rules ⟨.securityGroup, values⟩ := by
  unfold Firewall.rules
  rw [h.texts_eq "ingress_cidr_blocks" rfl, h.texts_eq "ingress_ports" rfl, h.flag_eq "allow_all_egress" rfl]

theorem ReadAlike.companions_eq {kind : Kind} (h : ReadAlike kind values values') (name : String) :
    companions ⟨kind, values'⟩ name = companions ⟨kind, values⟩ name := by
  unfold companions
  cases kind
  case s3 =>
    dsimp only
    unfold Bucket.companions Bucket.versioning Bucket.encryption
    rw [h.flag_eq "versioning" rfl, h.flag_eq "encryption" rfl, h.text_eq "sse_algorithm" (.inr rfl)]
  all_goals rfl

end

/-! ## Results side by side -/

/-- Two results: the same error, or two lists of one length, which are the same just if `same` holds. -/
def Parallel {α : Type} (same : Prop) (x x' : Except EmissionError (List α)) : Prop :=
  (∃ e, x = .error e ∧ x' = .error e) ∨
    ∃ a a', x = .ok a ∧ x' = .ok a' ∧ a'.length = a.length ∧ (a' = a ↔ same)

namespace Parallel

variable {α : Type} {same also : Prop} {x x' y y' : Except EmissionError (List α)}

theorem refl (x : Except EmissionError (List α)) : Parallel True x x := by
  cases x with
  | error e => exact .inl ⟨e, rfl, rfl⟩
  | ok a => exact .inr ⟨a, a, rfl, rfl, rfl, iff_of_true rfl trivial⟩

theorem congr (h : Parallel same x x') (hiff : same ↔ also) : Parallel also x x' :=
  h.imp_right fun ⟨a, a', hx, hx', hlength, hsame⟩ => ⟨a, a', hx, hx', hlength, hsame.trans hiff⟩

theorem of_nil {β : Type} {p : β → Prop} (x : Except EmissionError (List α)) :
    Parallel (∀ b ∈ [], p b) x x :=
  (refl x).congr (iff_of_true trivial fun _ hb => absurd hb List.not_mem_nil)

theorem append (hx : Parallel same x x') (hy : Parallel also y y') :
    Parallel (same ∧ also) (do return (← x) ++ (← y)) (do return (← x') ++ (← y')) := by
  rcases hx with ⟨e, rfl, rfl⟩ | ⟨a, a', rfl, rfl, ha, hsame⟩
  · exact .inl ⟨e, rfl, rfl⟩
  · rcases hy with ⟨e, rfl, rfl⟩ | ⟨b, b', rfl, rfl, hb, halso⟩
    · exact .inl ⟨e, rfl, rfl⟩
    · refine .inr ⟨a ++ b, a' ++ b', rfl, rfl, by rw [List.length_append, List.length_append, ha, hb], ?_⟩
      rw [← hsame, ← halso]
      refine ⟨fun h => List.append_inj h ha, ?_⟩
      rintro ⟨rfl, rfl⟩
      rfl

/-- With the same block and the same companions, the declarations are the same just if the items are, or
if there is an error. -/
theorem declaration_eq_iff {x x' : Except EmissionError (List Item)} (h : Parallel same x x') (block : Block)
    (companions : Except EmissionError (List Block)) :
    (do return Declaration.mk (block.append (← x')) (← companions)) =
        (do return Declaration.mk (block.append (← x)) (← companions)) ↔
      (∃ e, (do return Declaration.mk (block.append (← x)) (← companions)) = .error e) ∨ same := by
  rcases h with ⟨e, rfl, rfl⟩ | ⟨items, items', rfl, rfl, -, hsame⟩
  · exact iff_of_true rfl (.inl ⟨e, rfl⟩)
  · cases companions with
    | error e => exact iff_of_true rfl (.inl ⟨e, rfl⟩)
    | ok blocks =>
      show Except.ok (Declaration.mk (block.append items') blocks) = .ok ⟨block.append items, blocks⟩ ↔
        (∃ e, Except.ok (Declaration.mk (block.append items) blocks) = .error e) ∨ same
      rw [← hsame]
      constructor
      · intro heq
        have hbody := congrArg Block.body (Declaration.mk.inj (Except.ok.inj heq)).1
        exact .inr (List.append_cancel_left hbody)
      · rintro (⟨e, he⟩ | rfl)
        · cases he
        · rfl

end Parallel

/-! ## Typed values -/

/-- Two lists of values that differ only where a text has been typed in the place of a value. -/
def Retyped (kind : Kind) (values values' : Json.Fields) : Prop :=
  List.Forall₂ (fun entry entry' : String × Json => entry'.1 = entry.1 ∧
    (entry'.2 = entry.2 ∨ ∃ type, kind.typeOf? entry.1 = some type ∧ Json.Typed type entry.2 entry'.2))
    values values'

/-- An integer beyond the signed words that has been typed into the text box of a property. -/
def Rounded (values values' : Json.Fields) (name : String) : Prop :=
  ∃ n, values.getOrNull name = .number (.integer n) ∧ Number.fitsSigned n = false ∧
    values'.getOrNull name ≠ values.getOrNull name

theorem not_rounded {values : Json.Fields} (values' : Json.Fields)
    (h : ∀ entry ∈ values, ∀ n, entry.2 = .number (.integer n) → Number.fitsSigned n = true)
    (name : String) : ¬ Rounded values values' name := by
  rintro ⟨n, hv, hn, -⟩
  unfold Json.Fields.getOrNull Keyed.get? at hv
  cases hl : values.lookup name with
  | none =>
    rw [hl] at hv
    cases hv
  | some v =>
    rw [hl] at hv
    obtain ⟨before, after, rfl, -⟩ := List.lookup_eq_some_iff.1 hl
    rw [h (name, v) (List.mem_append_right _ (List.mem_cons_self ..)) n hv] at hn
    cases hn

/-- The capacities of a table that is billed for them. -/
def Properties.capacities (props : Properties) : List String :=
  match props.kind with
  | .dynamodb =>
    if props.holdsText "billing_mode" KeyTable.provisioned then ["read_capacity", "write_capacity"] else []
  | _ => []

/-- The properties that the primary block takes over as they are. -/
def Properties.takenOver (props : Properties) : List String :=
  props.kind.copied ++ props.capacities

/-- What the primary block holds. -/
def Properties.body (props : Properties) : Except EmissionError (List Item) := do
  return (← props.copy props.kind.copied) ++ (← props.details)

theorem Properties.emit_eq (kind : Kind) (values : Json.Fields) (name : String) :
    Declaration.emit kind values name = do
      return Declaration.mk ((Block.resource kind.declarationType name).append (← body ⟨kind, values⟩))
        (← companions ⟨kind, values⟩ name) := by
  unfold Declaration.emit body
  dsimp only
  cases copy ⟨kind, values⟩ kind.copied with
  | error e => rfl
  | ok copied => cases details ⟨kind, values⟩ <;> rfl

namespace Retyped

variable {kind : Kind} {values values' : Json.Fields} (h : Retyped kind values values')
include h

theorem getOrNull (name : String) :
    values'.getOrNull name = values.getOrNull name ∨ ∃ type, kind.typeOf? name = some type ∧
      Json.Typed type (values.getOrNull name) (values'.getOrNull name) := by
  induction h with
  | nil => exact .inl rfl
  | @cons entry entry' rest rest' hentry _ ih =>
    obtain ⟨key, v⟩ := entry
    obtain ⟨key', v'⟩ := entry'
    obtain ⟨rfl, hv⟩ := hentry
    unfold Json.Fields.getOrNull Keyed.get? at ih ⊢
    by_cases hkey : name = key'
    · subst hkey
      rw [List.lookup_cons_self, List.lookup_cons_self]
      exact hv
    · rw [List.lookup_cons, List.lookup_cons, beq_false_of_ne hkey]
      exact ih

theorem readAlike : ReadAlike kind values values' := by
  intro name type ht hne
  rcases h.getOrNull name with heq | ⟨found, hfound, htyped⟩
  · rw [heq]
  · rw [ht] at hfound
    cases hfound
    rcases htyped.read_cases with ⟨hread, -⟩ | ⟨hnumber, -⟩
    · exact hread
    · exact absurd hnumber hne

theorem expr_cases (name : String) :
    (expr ⟨kind, values'⟩ name = expr ⟨kind, values⟩ name ∧ ¬ Rounded values values' name) ∨
      Rounded values values' name ∧ ∃ n x, expr ⟨kind, values⟩ name = .ok (some (.number (.integer n))) ∧
        expr ⟨kind, values'⟩ name = .ok (some (.number (.real x))) := by
  rcases h.getOrNull name with heq | ⟨type, ht, htyped⟩
  · refine .inl ⟨readWith_congr fun field => by rw [heq], ?_⟩
    rintro ⟨n, -, -, hne⟩
    exact hne heq
  · rw [expr_of_typeOf? ht, expr_of_typeOf? ht]
    rcases htyped.read_cases with ⟨hread, hsigned⟩ | ⟨-, n, x, hv, hsigned, hread, hread'⟩
    · refine .inl ⟨by rw [hread], ?_⟩
      rintro ⟨n, hv, hn, -⟩
      rw [hsigned n hv] at hn
      cases hn
    · rw [hread, hread']
      refine .inr ⟨⟨n, hv, hsigned, fun heq => ?_⟩, n, x, rfl, rfl⟩
      rw [heq, hread] at hread'
      cases hread'

theorem parallel_attribute (name : String) :
    Parallel (¬ Rounded values values' name) ((expr ⟨kind, values⟩ name).map (Item.attribute? name))
      ((expr ⟨kind, values'⟩ name).map (Item.attribute? name)) := by
  rcases h.expr_cases name with ⟨heq, hno⟩ | ⟨hrounded, n, x, hn, hx⟩
  · rw [heq]
    exact (Parallel.refl _).congr (iff_of_true trivial hno)
  · rw [hn, hx]
    refine .inr ⟨_, _, rfl, rfl, rfl, iff_of_false (fun heq => ?_) (not_not_intro hrounded)⟩
    cases heq

theorem parallel_copy (names : List String) :
    Parallel (∀ name ∈ names, ¬ Rounded values values' name) (copy ⟨kind, values⟩ names)
      (copy ⟨kind, values'⟩ names) := by
  induction names with
  | nil => exact .of_nil _
  | cons name rest ih =>
    have hcopy : ∀ props : Properties, copy props (name :: rest) =
        do return (← (expr props name).map (Item.attribute? name)) ++ (← copy props rest) := by
      intro props
      rw [copy]
      cases expr props name <;> rfl
    rw [hcopy, hcopy]
    exact ((h.parallel_attribute name).append ih).congr
      (List.forall_mem_cons (p := fun name => ¬ Rounded values values' name)).symm

end Retyped

namespace Retyped

variable {values values' : Json.Fields}

theorem parallel_keyTable (h : Retyped .dynamodb values values') :
    Parallel (∀ name ∈ capacities ⟨.dynamodb, values⟩, ¬ Rounded values values' name)
      (KeyTable.details ⟨.dynamodb, values⟩) (KeyTable.details ⟨.dynamodb, values'⟩) := by
  have hcapacities : Parallel (∀ name ∈ capacities ⟨.dynamodb, values⟩, ¬ Rounded values values' name)
      (KeyTable.capacities ⟨.dynamodb, values⟩) (KeyTable.capacities ⟨.dynamodb, values'⟩) := by
    unfold KeyTable.capacities
    rw [h.readAlike.text_eq "billing_mode" (.inr rfl)]
    cases hmode : text ⟨.dynamodb, values⟩ "billing_mode" with
    | error e => exact .inl ⟨e, rfl, rfl⟩
    | ok mode =>
      show Parallel _ (if mode = some KeyTable.provisioned then _ else _)
        (if mode = some KeyTable.provisioned then _ else _)
      unfold Properties.capacities
      dsimp only
      rw [holdsText_eq_decide hmode]
      by_cases hm : mode = some KeyTable.provisioned
      · rw [if_pos hm, if_pos hm, decide_eq_true hm, if_pos rfl]
        exact h.parallel_copy _
      · rw [if_neg hm, if_neg hm, decide_eq_false hm, if_neg Bool.false_ne_true]
        exact .of_nil _
  unfold KeyTable.details
  rw [h.readAlike.partitionKey_eq]
  exact (hcapacities.append (.refl _)).congr (and_iff_left trivial)

theorem parallel_details {kind : Kind} (h : Retyped kind values values') :
    Parallel (∀ name ∈ capacities ⟨kind, values⟩, ¬ Rounded values values' name) (details ⟨kind, values⟩)
      (details ⟨kind, values'⟩) := by
  unfold details
  cases kind
  case dynamodb => exact h.parallel_keyTable
  case securityGroup =>
    dsimp only
    rw [h.readAlike.rules_eq]
    exact .of_nil _
  all_goals exact .of_nil _

theorem parallel_body {kind : Kind} (h : Retyped kind values values') :
    Parallel (∀ name ∈ takenOver ⟨kind, values⟩, ¬ Rounded values values' name) (body ⟨kind, values⟩)
      (body ⟨kind, values'⟩) :=
  ((h.parallel_copy kind.copied).append h.parallel_details).congr List.forall_mem_append.symm

/-- A node with typed values is emitted as with the values themselves, unless its block takes over an
integer beyond the signed words. -/
theorem emit_eq_iff {kind : Kind} (h : Retyped kind values values') (name : String) :
    Declaration.emit kind values' name = Declaration.emit kind values name ↔
      (∃ e, Declaration.emit kind values name = .error e) ∨
        ∀ property ∈ takenOver ⟨kind, values⟩, ¬ Rounded values values' property := by
  rw [emit_eq, emit_eq, h.readAlike.companions_eq]
  exact h.parallel_body.declaration_eq_iff _ _

end Retyped

/-- The text of an integer of 64 bits reads as the integer exactly when that fits a signed word; any other
one reads as the nearest binary64 number. The text of a truth value always reads as that. So a node is
emitted alike with values typed into text boxes, unless the emission succeeds and the primary block takes
over an integer beyond the signed words. -/
theorem typed_values_read_alike {n : Int} {numeral : String} (hn : Json.fitsWord n = true)
    (hnumeral : Text.IsPadded numeral (toString n)) {b : Bool} {flag : String}
    (hflag : Text.IsPadded flag (toString b)) {kind : Kind} {values values' : Json.Fields}
    (h : Retyped kind values values') (name : String) :
    ((Json.string numeral).asNumber? = (Json.number (.integer n)).asNumber? ↔
      Number.fitsSigned n = true) ∧
    (Number.fitsSigned n = false → ∃ x, (Json.string numeral).asNumber? = .ok (some (.real x)) ∧
      x.negative = false ∧ 0 ≤ x.exponent ∧
      Binary64.IsNearestMultiple (powerOfTwo 11) n.toNat (x.mantissa * powerOfTwo x.exponent.toNat)) ∧
    (Json.string flag).asBool? = (Json.boolean b).asBool? ∧
    (Declaration.emit kind values' name = Declaration.emit kind values name ↔
      (∃ e, Declaration.emit kind values name = .error e) ∨
        ∀ property ∈ takenOver ⟨kind, values⟩, ¬ Rounded values values' property) :=
  ⟨Json.asNumber?_eq_iff hn hnumeral, fun hsigned => Json.exists_real_of_isPadded hn hsigned hnumeral,
    Json.asBool?_of_isPadded hflag, h.emit_eq_iff name⟩

/-- A database whose size and checkbox have been typed, beside an integer beyond the signed words. -/
theorem typedStorage_is_emitted_alike :
    Json.fitsWord 9223372036854775809 = true ∧
      Text.IsPadded "9223372036854775809\t" (toString (9223372036854775809 : Int)) ∧
      Text.IsPadded " true" (toString true) ∧
      Retyped .rds [("allocated_storage", .number (.integer 20)), ("multi_az", .boolean true)]
        [("allocated_storage", .string " 20"), ("multi_az", .string " true")] ∧
      (∃ x, (Json.string "9223372036854775809\t").asNumber? = .ok (some (.real x))) ∧
      (Json.string " true").asBool? = (Json.boolean true).asBool? ∧
      Declaration.emit .rds [("allocated_storage", .string " 20"), ("multi_az", .string " true")] "main" =
        Declaration.emit .rds [("allocated_storage", .number (.integer 20)), ("multi_az", .boolean true)]
          "main" := by
  have hword : Json.fitsWord 9223372036854775809 = true := by decide +kernel
  have hnumeral : Text.IsPadded "9223372036854775809\t" (toString (9223372036854775809 : Int)) :=
    ⟨"", "\t", by decide, by decide, by decide +kernel⟩
  have hsize : Text.IsPadded " 20" (toString (20 : Int)) := ⟨" ", "", by decide, by decide, by decide⟩
  have hflag : Text.IsPadded " true" (toString true) := ⟨" ", "", by decide, by decide, by decide⟩
  have hretyped : Retyped .rds [("allocated_storage", .number (.integer 20)), ("multi_az", .boolean true)]
      [("allocated_storage", .string " 20"), ("multi_az", .string " true")] :=
    List.Forall₂.cons ⟨rfl, .inr ⟨.number, rfl, .integer (by decide +kernel) hsize⟩⟩
      (.cons ⟨rfl, .inr ⟨.boolean, rfl, .boolean hflag⟩⟩ .nil)
  have hsigned : ∀ entry ∈ [("allocated_storage", Json.number (.integer 20)), ("multi_az", .boolean true)],
      ∀ n, entry.2 = .number (.integer n) → Number.fitsSigned n = true := by
    refine List.forall_mem_cons.2 ⟨fun n hv => ?_, List.forall_mem_singleton.2 fun n hv => ?_⟩
    · cases hv
      decide +kernel
    · cases hv
  obtain ⟨-, hreal, hread, hemit⟩ := typed_values_read_alike hword hnumeral hflag hretyped "main"
  obtain ⟨x, hx, -⟩ := hreal (by decide +kernel)
  exact ⟨hword, hnumeral, hflag, hretyped, ⟨x, hx⟩, hread,
    hemit.2 (.inr fun property _ => not_rounded _ hsigned property)⟩

/-- The text of an integer beyond the signed words does not read as the integer. -/
theorem typed_integer_is_rounded :
    Json.fitsWord 9223372036854775809 = true ∧
      Text.IsPadded "9223372036854775809" (toString (9223372036854775809 : Int)) ∧
      (Json.string "9223372036854775809").asNumber? ≠
        (Json.number (.integer 9223372036854775809)).asNumber? := by
  have hword : Json.fitsWord 9223372036854775809 = true := by decide +kernel
  have hnumeral : Text.IsPadded "9223372036854775809" (toString (9223372036854775809 : Int)) :=
    ⟨"", "", by decide, by decide, by decide +kernel⟩
  refine ⟨hword, hnumeral, fun h => ?_⟩
  exact absurd ((Json.asNumber?_eq_iff hword hnumeral).1 h) (by decide +kernel)

end CloudCanvas
