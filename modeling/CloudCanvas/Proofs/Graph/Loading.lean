/-
What becomes of the elements of a document: each of them is decoded by itself, and is either in the
snapshot or the subject of one load warning, which tells its index.
-/
import CloudCanvas.Graph.Snapshot
import CloudCanvas.Proofs.Fallible
import Mathlib.Data.List.Perm.Basic

namespace CloudCanvas

/-! ## Results apart -/

/-- The values among results, in order. -/
def accepted {ε α : Type} (results : List (Except ε α)) : List α :=
  results.filterMap fun
    | .ok a => some a
    | .error _ => none

/-- The errors among results, in order. -/
def rejected {ε α : Type} (results : List (Except ε α)) : List ε :=
  results.filterMap fun
    | .ok _ => none
    | .error e => some e

variable {ε α β : Type}

theorem mem_accepted {results : List (Except ε α)} {a : α} : a ∈ accepted results ↔ .ok a ∈ results := by
  induction results with
  | nil => simp [accepted]
  | cons result rest ih => cases result <;> simp_all [accepted]

theorem mem_rejected {results : List (Except ε α)} {e : ε} :
    e ∈ rejected results ↔ .error e ∈ results := by
  induction results with
  | nil => simp [rejected]
  | cons result rest ih => cases result <;> simp_all [rejected]

theorem accepted_append (before after : List (Except ε α)) :
    accepted (before ++ after) = accepted before ++ accepted after :=
  List.filterMap_append

theorem rejected_append (before after : List (Except ε α)) :
    rejected (before ++ after) = rejected before ++ rejected after :=
  List.filterMap_append

/-- Every result is a value or an error, and none is lost. -/
theorem perm_results (results : List (Except ε α)) :
    results.Perm ((accepted results).map .ok ++ (rejected results).map .error) := by
  induction results with
  | nil => exact List.Perm.refl _
  | cons result rest ih =>
    cases result with
    | ok a => exact ih.cons _
    | error e => exact (ih.cons _).trans List.perm_middle.symm

/-- Results are values all along when none of them is an error. -/
theorem eq_map_ok_iff {results : List (Except ε α)} {as : List α} :
    results = as.map .ok ↔ rejected results = [] ∧ accepted results = as := by
  induction results generalizing as with
  | nil =>
    constructor
    · intro h
      exact ⟨rfl, (List.map_eq_nil_iff.1 h.symm).symm⟩
    · rintro ⟨-, rfl⟩
      rfl
  | cons result rest ih =>
    cases result with
    | ok a =>
      show Except.ok a :: rest = as.map .ok ↔ rejected rest = [] ∧ a :: accepted rest = as
      cases as with
      | nil => simp
      | cons b bs =>
        rw [List.map_cons, List.cons.injEq, List.cons.injEq, ih, Except.ok.injEq]
        exact and_left_comm
    | error e =>
      show Except.error e :: rest = as.map .ok ↔ e :: rejected rest = [] ∧ accepted rest = as
      cases as with
      | nil => simp
      | cons b bs => simp

/-- A step with an index, when the index makes no difference to its values. -/
theorem mapIdx_eq_map_ok_iff {f : Nat → β → Except ε α} {holds : β → α → Prop}
    (h : ∀ i b a, f i b = .ok a ↔ holds b a) {bs : List β} {as : List α} :
    bs.mapIdx f = as.map .ok ↔ List.Forall₂ holds bs as := by
  induction bs generalizing f as with
  | nil => cases as <;> simp
  | cons b rest ih =>
    cases as with
    | nil => simp
    | cons a as =>
      rw [List.mapIdx_cons, List.map_cons, List.cons.injEq, List.forall₂_cons, h]
      exact and_congr_right fun _ => ih fun i => h (i + 1)

theorem accepted_map_bind (f : α → Except ε β) (results : List (Except ε α)) :
    accepted (results.map (· >>= f)) = accepted ((accepted results).map f) := by
  induction results with
  | nil => rfl
  | cons result rest ih =>
    cases result with
    | ok a =>
      show accepted (f a :: rest.map (· >>= f)) = accepted (f a :: (accepted rest).map f)
      cases hf : f a with
      | ok b => exact congrArg (b :: ·) ih
      | error e => exact ih
    | error e => exact ih

/-- The errors of a second step come after those of the first, up to order. -/
theorem rejected_map_bind (f : α → Except ε β) (results : List (Except ε α)) :
    (rejected (results.map (· >>= f))).Perm (rejected results ++ rejected ((accepted results).map f)) := by
  induction results with
  | nil => exact List.Perm.refl _
  | cons result rest ih =>
    cases result with
    | ok a =>
      show (rejected (f a :: rest.map (· >>= f))).Perm
        (rejected rest ++ rejected (f a :: (accepted rest).map f))
      cases hf : f a with
      | ok b => exact ih
      | error e => exact (ih.cons e).trans List.perm_middle.symm
    | error e => exact ih.cons e

namespace Graph.Snapshot

/-! ## Elements -/

/-- What becomes of the element at an index: its decoding, or the warning that it was dropped. -/
def settle (decode : Decoder α) (warning : Dropped → Warning) (index : Nat) (v : Json) :
    Except Warning α :=
  (decode v).mapError fun cause => warning ⟨index, cause⟩

theorem settle_eq_ok_iff {decode : Decoder α} {warning : Dropped → Warning}
    {index : Nat} {v : Json} {a : α} : settle decode warning index v = .ok a ↔ decode v = .ok a := by
  unfold settle
  cases decode v <;> simp [Except.mapError]

/-- Decoding the elements one by one keeps what is accepted and drops the rest, each with its index. -/
theorem decodeEach_spec (decode : Decoder α) (warning : Dropped → Warning) (start : Nat)
    (items : List Json) :
    (decodeEach decode start items).1 =
        accepted (items.mapIdx fun i => settle decode warning (start + i)) ∧
      (decodeEach decode start items).2.map warning =
        rejected (items.mapIdx fun i => settle decode warning (start + i)) := by
  induction items generalizing start with
  | nil => exact ⟨rfl, rfl⟩
  | cons v rest ih =>
    obtain ⟨hkept, hdropped⟩ := ih (start + 1)
    -- the rest starts at the next index
    have hshift : (rest.mapIdx fun i => settle decode warning (start + (i + 1))) =
        rest.mapIdx fun i => settle decode warning (start + 1 + i) := by
      simp only [Nat.add_assoc, Nat.add_comm 1]
    rw [List.mapIdx_cons, hshift]
    unfold decodeEach settle
    cases decode v with
    | ok a => exact ⟨congrArg (a :: ·) hkept, hdropped⟩
    | error e => exact ⟨hkept, congrArg (warning ⟨start, e⟩ :: ·) hdropped⟩

/-- The array at `key` holds the items; a missing one and null hold none. -/
def ArrayAt (fields : Json.Fields) (key : String) (items : List Json) : Prop :=
  fields.get? key = some (.array items) ∨
    (fields.get? key = none ∨ fields.get? key = some .null) ∧ items = []

theorem arrayAt_of_elements {fields : Json.Fields} {key : String} {items : List Json}
    (h : elements fields key = .ok items) : ArrayAt fields key items := by
  unfold elements at h
  split at h
  · rename_i hk; cases h; exact .inr ⟨.inl hk, rfl⟩
  · rename_i hk; cases h; exact .inr ⟨.inr hk, rfl⟩
  · rename_i hk; cases h; exact .inl hk
  · cases h

theorem ArrayAt.elements {fields : Json.Fields} {key : String} {items : List Json}
    (h : ArrayAt fields key items) : Snapshot.elements fields key = .ok items := by
  unfold Snapshot.elements
  rcases h with h | ⟨h | h, rfl⟩
  all_goals rw [h]

theorem ArrayAt.unique {fields : Json.Fields} {key : String} {items others : List Json}
    (h : ArrayAt fields key items) (ho : ArrayAt fields key others) : items = others :=
  Except.ok.inj (h.elements.symm.trans ho.elements)

/-- What becomes of an element of the array of nodes. -/
def settleNode : Nat → Json → Except Warning Record :=
  settle Record.decode (Dropped.warning "nodes" .malformedNode)

/-- What becomes of an element of the array of edges. -/
def settleEdge : Nat → Json → Except Warning Edge :=
  settle Edge.decode (Dropped.warning "edges" .malformedEdge)

/-- A document with two arrays is loaded, whatever their elements are: those that can be decoded are kept,
in order, and the warnings tell the others, those about nodes first. -/
theorem load_object {fields : Json.Fields} {nodes edges : List Json} (hn : ArrayAt fields "nodes" nodes)
    (he : ArrayAt fields "edges" edges) :
    load (.object fields) = .ok ⟨accepted (nodes.mapIdx settleNode), accepted (edges.mapIdx settleEdge),
      rejected (nodes.mapIdx settleNode) ++ rejected (edges.mapIdx settleEdge)⟩ := by
  have hnodes := decodeEach_spec Record.decode (Dropped.warning "nodes" .malformedNode) 0 nodes
  have hedges := decodeEach_spec Edge.decode (Dropped.warning "edges" .malformedEdge) 0 edges
  simp only [Nat.zero_add] at hnodes hedges
  unfold load settleNode settleEdge
  dsimp only
  rw [hn.elements, he.elements, ← hnodes.1, ← hnodes.2, ← hedges.1, ← hedges.2]
  rfl

/-- A snapshot that is loaded holds the elements that can be decoded, in order, and its warnings tell
the others, those about nodes first. -/
theorem load_spec {document : Json} {snapshot : Snapshot} (h : load document = .ok snapshot) :
    ∃ fields nodes edges, document = .object fields ∧ ArrayAt fields "nodes" nodes ∧
      ArrayAt fields "edges" edges ∧ snapshot.nodes = accepted (nodes.mapIdx settleNode) ∧
      snapshot.edges = accepted (edges.mapIdx settleEdge) ∧
      snapshot.loadWarnings = rejected (nodes.mapIdx settleNode) ++ rejected (edges.mapIdx settleEdge) := by
  cases document with
  | object fields =>
    have hsteps := h
    unfold load at hsteps
    dsimp only at hsteps
    obtain ⟨nodes, hn, hsteps⟩ := bind_eq_ok hsteps
    obtain ⟨edges, he, -⟩ := bind_eq_ok hsteps
    have hnodes := arrayAt_of_elements hn
    have hedges := arrayAt_of_elements he
    rw [load_object hnodes hedges] at h
    cases h
    exact ⟨fields, nodes, edges, rfl, hnodes, hedges, rfl, rfl, rfl⟩
  | null | boolean b | number n | string s | array items => cases h

end Graph.Snapshot

end CloudCanvas
