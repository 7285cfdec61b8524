import Courier.Proofs.Payload.Fields
import Courier.Proofs.Received.Kept
/-!
# Values - the writers of values and attributes put what a collector receives of them

Main statements: a steady value is put as the message of what is received of it, or not at all (`emits_value`),
and attributes under an allowance are put as those that are kept, with the count of the others (`puts_counted`).
-/
namespace Courier
namespace Payload

open Wire
open Received (Attribute.kept Attribute.keptFrom Attribute.of? elements)

/-- The message of a received value. -/
def valuePiece (v : Received.Value) : Piece := .message (encodeParts v.parts)

def attributePiece (a : Received.Attribute) : Piece := .message (encodeParts (Received.Attribute.parts a))

variable {length : Option Nat}

theorem emits_render {d : Deferred} (h : d.Steady) : Emits (render d) d.text? [] := by
  refine emits_nothing fun c => ⟨c.renders.insert d.id (c.renders.getD d.id 0 + 1), ?_⟩
  have ha := h.alike (c.renders.getD d.id 0)
  unfold render Deferred.text?
  simp only [ha]
  cases hd : d.render 0 with
  | text s => rfl
  | failed => rfl
  | aborted reason => exact absurd hd (h.ends reason)

/-! ## Messages that may be taken back -/

theorem emits_messageIf_true {body : Write Bool} {parts : Parts} (field : Nat)
    (h : Emits body true (encodeParts parts)) :
    Emits (messageIf field body) true (encodePieces field [.message (encodeParts parts)]) := by
  rw [encodePieces_singleton]
  exact Emits.messageIf_true field h

theorem emits_messageIf {w : Write Unit} {parts : Parts} (field : Nat) (h : Puts w parts) :
    Emits (messageIf field do w; pure true) true (encodePieces field [.message (encodeParts parts)]) :=
  emits_messageIf_true field (h.answer true)

/-! ## Values -/

theorem puts_uniform (length : Option Nat) (a : UniformArray) :
    Puts (putUniform length a) [(1, (elements length a).map valuePiece)] := by
  cases a with
  | bools vs =>
    rw [elements, List.map_map]
    exact puts_all 1 _ vs fun v _ => (puts_bool 2 v).message 1
  | ints vs =>
    rw [elements, List.map_map]
    exact puts_all 1 _ vs fun v _ => (puts_int64 3 v).message 1
  | doubles vs =>
    rw [elements, List.map_map]
    exact puts_all 1 _ vs fun v _ => (puts_fixed64 4 v.bits).message 1
  | strings vs =>
    rw [elements, List.map_map]
    refine puts_all 1 _ vs fun v _ => ?_
    rw [Received.truncate_eq]
    exact (puts_string 1 (Received.shortened length v)).message 1

theorem emits_list {w : Write Unit} (field : Nat) {vs : List Received.Value}
    (h : Puts w [(1, vs.map valuePiece)]) :
    Emits (messageIf field do message 5 w; pure true) true (encodePieces field [valuePiece (.array vs)]) := by
  have hm := emits_messageIf field (h.message 5)
  rwa [valuePiece, Received.Value.parts, Received.Value.pieces_eq]

theorem emits_keyValues {w : Write Unit} (field : Nat) {es : List Received.Attribute}
    (h : Puts w [(1, es.map attributePiece)]) :
    Emits (messageIf field do message 6 w; pure true) true (encodePieces field [valuePiece (.keyValues es)]) := by
  have hm := emits_messageIf field (h.message 6)
  rwa [valuePiece, Received.Value.parts, Received.Value.entryPieces_eq]

/-- An entry whose value fails is taken back, and else stands with its value. -/
theorem emits_entry {k : String} {o : Option Received.Value} {put : Write Bool} (field : Nat)
    (h : Emits put o.isSome (encodePieces 2 (o.toList.map valuePiece))) :
    Emits (messageIf field do putString 1 k; put) o.isSome
      (encodePieces field ((o.map fun v => (k, some v)).toList.map attributePiece)) := by
  have hb := (puts_string 1 k).andThen h
  rw [encodeParts_singleton] at hb
  cases o with
  | none => exact Emits.messageIf_false field hb
  | some v =>
    have hm : encodePieces 1 [textPiece k] ++ encodePieces 2 [valuePiece v] =
        encodeParts [(1, [textPiece k]), (2, [valuePiece v])] := by
      rw [encodeParts_cons, encodeParts_singleton]
    rw [Option.toList_some, List.map_singleton, hm] at hb
    exact emits_messageIf_true field hb

mutual

/-- **A steady value is put as the message of what is received of it**, and when it fails nothing is put. -/
theorem emits_value (length : Option Nat) (field : Nat) : ∀ v : Value, v.Steady →
    Emits (putValue length field v) (Received.Value.of? length v).isSome
      (encodePieces field ((Received.Value.of? length v).toList.map valuePiece))
  | .bool b, _ => emits_messageIf field (puts_bool 2 b)
  | .int n, _ => emits_messageIf field (puts_int64 3 n)
  | .double x, _ => emits_messageIf field (puts_fixed64 4 x.bits)
  | .string s, _ => by
    rw [putValue, Received.truncate_eq]
    exact emits_messageIf field (puts_string 1 (Received.shortened length s))
  | .bytes b, _ => emits_messageIf field (puts_bytes 7 b)
  | .array a, _ => emits_list field (puts_uniform length a)
  | .list vs, h => by
    cases h with
    | list h => exact emits_list field (puts_values length vs h)
  | .map es, h => by
    cases h with
    | map h => exact emits_keyValues field (puts_entries length es h)
  | .deferred d, h => by
    cases h with
    | deferred h =>
      rw [putValue, Received.Value.of?]
      simp only [Received.truncate_eq]
      have hr := emits_render h
      cases ht : d.text? with
      | none =>
        rw [ht] at hr
        exact Emits.messageIf_false field (hr.bind (emits_pure false))
      | some s =>
        rw [ht] at hr
        exact emits_messageIf_true field (hr.bind ((puts_string 1 (Received.shortened length s)).answer true))

theorem puts_values (length : Option Nat) : ∀ vs : List Value, (∀ v ∈ vs, v.Steady) →
    Puts (putValues length vs) [(1, (Received.Value.ofAll length vs).map valuePiece)]
  | [], _ => puts_nothing 1
  | v :: vs, h => by
    have hv := emits_value length 1 v (h v List.mem_cons_self)
    have hr := puts_values length vs fun w hw => h w (List.mem_cons_of_mem v hw)
    rw [Puts, encodeParts_singleton] at hr ⊢
    rw [Received.Value.ofAll, List.map_append, encodePieces, List.flatMap_append]
    exact hv.andThen hr

theorem puts_entries (length : Option Nat) : ∀ es : List (String × Value), (∀ e ∈ es, e.2.Steady) →
    Puts (putEntries length es) [(1, (Received.Value.ofEntries length es).map attributePiece)]
  | [], _ => puts_nothing 1
  | (k, v) :: es, h => by
    have hv := emits_entry (k := k) 1 (emits_value length 2 v (h (k, v) List.mem_cons_self))
    have hr := puts_entries length es fun w hw => h w (List.mem_cons_of_mem (k, v) hw)
    rw [Puts, encodeParts_singleton] at hr ⊢
    rw [Received.Value.ofEntries, List.map_append, encodePieces, List.flatMap_append]
    exact hv.andThen hr

end

/-! ## Attributes -/

theorem emits_attribute (length : Option Nat) (field : Nat) {a : Attribute} (h : a.2.Steady) :
    Emits (putAttribute length field a) (Attribute.of? length a).isSome
      (encodePieces field ((Attribute.of? length a).toList.map attributePiece)) := by
  have he := emits_entry (k := a.1) field (emits_value length 2 a.2 h)
  rwa [Attribute.of?, Option.isSome_map]

/-- The attributes after some others are put as those of them that are kept, and the rest is counted. -/
theorem emits_attributesFrom (allowance : Allowance) (field : Nat) :
    ∀ (attributes : List Attribute) (already dropped : Nat), SteadyAttributes attributes →
      Emits (putAttributesFrom allowance field already dropped attributes)
        (dropped + (attributes.length - (Attribute.keptFrom allowance already attributes).length))
        (encodePieces field ((Attribute.keptFrom allowance already attributes).map attributePiece))
  | [], already, dropped, _ => by
    rw [Received.Attribute.keptFrom_nil]
    exact emits_pure dropped
  | a :: attributes, already, dropped, h => by
    have ha := emits_attribute allowance.length field (h a List.mem_cons_self)
    have hrest : SteadyAttributes attributes := fun b hb => h b (List.mem_cons_of_mem a hb)
    have hle := Received.Attribute.length_keptFrom_le allowance already attributes
    have hskip := emits_attributesFrom allowance field attributes already (dropped + 1) hrest
    rw [show dropped + 1 + (attributes.length - (Attribute.keptFrom allowance already attributes).length) =
      dropped + ((a :: attributes).length - (Attribute.keptFrom allowance already attributes).length) by
        rw [List.length_cons]; omega] at hskip
    rw [putAttributesFrom]
    by_cases hk : allowance.admits already = true
    · rw [if_pos hk]
      cases ho : Attribute.of? allowance.length a with
      | none =>
        rw [ho] at ha
        rw [Received.Attribute.keptFrom_cons_none ho]
        exact ha.bind hskip
      | some b =>
        rw [ho] at ha
        have hnext := emits_attributesFrom allowance field attributes (already + 1) dropped hrest
        rw [Received.Attribute.keptFrom_cons_some hk ho, List.map_cons, encodePieces_cons, List.length_cons,
          List.length_cons, Nat.add_sub_add_right]
        rw [Option.toList_some, List.map_singleton, encodePieces_singleton] at ha
        exact ha.bind hnext
    · rw [Bool.not_eq_true] at hk
      rw [hk, if_neg Bool.false_ne_true, Received.Attribute.keptFrom_of_not_admits hk]
      rw [Received.Attribute.keptFrom_of_not_admits hk] at hskip
      exact (emits_pure false).bind hskip

theorem emits_attributes (allowance : Allowance) (field : Nat) {attributes : List Attribute}
    (h : SteadyAttributes attributes) :
    Emits (putAttributes allowance field attributes)
      (attributes.length - (Attribute.kept allowance attributes).length)
      (encodePieces field ((Attribute.kept allowance attributes).map attributePiece)) := by
  have ha := emits_attributesFrom allowance field attributes 0 0 h
  rwa [Received.Attribute.keptFrom_zero, Nat.zero_add] at ha

/-- **Attributes are put as those that are kept, with the count of the others.** -/
theorem puts_counted (allowance : Allowance) (field countField : Nat) (before : UInt32)
    {attributes : List Attribute} (h : SteadyAttributes attributes) :
    Puts (putCounted allowance field countField before attributes)
      [(field, (Attribute.kept allowance attributes).map attributePiece),
        (countField, countPieces (Received.Attribute.dropped allowance before attributes))] := by
  have hc := (emits_attributes allowance field h).bind (f := fun n => putCount countField (totalDropped n before))
    (puts_count countField _)
  rwa [← encodeParts_singleton, ← encodeParts_append] at hc

theorem puts_kept (allowance : Allowance) (field : Nat) {attributes : List Attribute}
    (h : SteadyAttributes attributes) :
    Puts (putKept allowance field attributes)
      [(field, (Attribute.kept allowance attributes).map attributePiece)] := by
  have hc := (emits_attributes allowance field h).andThen (emits_pure ())
  rwa [List.append_nil, ← encodeParts_singleton] at hc

end Payload
end Courier
