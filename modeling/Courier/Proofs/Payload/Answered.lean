import Courier.Proofs.Answered
import Courier.Proofs.Payload.Logs
import Courier.Proofs.Payload.Metrics
import Courier.Proofs.Wire.Ended
/-!
# Answered - what a payload is whose deferred texts are answered in any way

`PutsSome w A parts` says that a writer which ends has put the parts of something that satisfies `A`.  Each writer of
values, of records and of requests puts the parts of something that its argument is answered as.
-/
namespace Courier
namespace Payload

open Wire

/-- Whenever the writer ends, it has put the parts of something that satisfies `A`. -/
def PutsSome {ι : Type} (w : Write Unit) (A : ι → Prop) (parts : ι → Parts) : Prop :=
  Ends w fun _ xs => ∃ i, A i ∧ xs = encodeParts (parts i)

variable {ι κ : Type} {w w' : Write Unit} {A : ι → Prop} {B : κ → Prop} {p : ι → Parts} {q : κ → Parts} {parts : Parts}

theorem PutsSome.mono (h : PutsSome w A p) (hq : ∀ i, A i → ∃ k, B k ∧ encodeParts (p i) = encodeParts (q k)) :
    PutsSome w B q := by
  refine Ends.mono h ?_
  rintro _ _ ⟨i, ha, rfl⟩
  exact hq i ha

theorem PutsSome.append (h : PutsSome w A p) (h' : PutsSome w' B q) :
    PutsSome (do w; w') (fun ik : ι × κ => A ik.1 ∧ B ik.2) fun ik => p ik.1 ++ q ik.2 := by
  refine (Ends.bind h fun _ => h').mono ?_
  rintro _ _ ⟨_, _, _, ⟨i, ha, rfl⟩, ⟨k, hb, rfl⟩, rfl⟩
  exact ⟨(i, k), ⟨ha, hb⟩, (encodeParts_append _ _).symm⟩

theorem Puts.before (h : Puts w parts) (h' : PutsSome w' B q) : PutsSome (do w; w') B fun k => parts ++ q k := by
  refine (Ends.bind (Emits.ends h) fun _ => h').mono ?_
  rintro _ _ ⟨_, _, _, ⟨-, rfl⟩, ⟨k, hb, rfl⟩, rfl⟩
  exact ⟨k, hb, (encodeParts_append _ _).symm⟩

theorem PutsSome.then (h : PutsSome w A p) (h' : Puts w' parts) : PutsSome (do w; w') A fun i => p i ++ parts := by
  refine (Ends.bind h fun _ => Emits.ends h').mono ?_
  rintro _ _ ⟨_, _, _, ⟨i, ha, rfl⟩, ⟨-, rfl⟩, rfl⟩
  exact ⟨i, ha, (encodeParts_append _ _).symm⟩

theorem PutsSome.message (field : Nat) (h : PutsSome w A p) :
    PutsSome (message field w) A fun i => [(field, [.message (encodeParts (p i))])] := by
  refine (Ends.message field h).mono ?_
  rintro _ _ ⟨_, ⟨i, ha, rfl⟩, rfl⟩
  exact ⟨i, ha, by rw [encodeParts_singleton, encodePieces_singleton]; rfl⟩

/-- The members of a list, each put as something that it is answered as. -/
theorem putsSome_all {α : Type} (field : Nat) {put : α → Write Unit} {R : α → ι → Prop} {piece : ι → Piece} :
    ∀ {xs : List α}, (∀ x ∈ xs, PutsSome (put x) (R x) fun y => [(field, [piece y])]) →
      PutsSome (putAll put xs) (List.Forall₂ R xs) fun ys => [(field, ys.map piece)]
  | [], _ => by
    refine Ends.mono (ends_pure ()) ?_
    rintro _ _ ⟨-, rfl⟩
    exact ⟨[], .nil, rfl⟩
  | x :: xs, h => by
    have hrest := putsSome_all field fun y hy => h y (List.mem_cons_of_mem x hy)
    refine ((h x List.mem_cons_self).append hrest).mono ?_
    rintro ⟨y, ys⟩ ⟨hy, hys⟩
    refine ⟨y :: ys, .cons hy hys, ?_⟩
    rw [encodeParts_append, encodeParts_singleton, encodeParts_singleton, encodeParts_singleton, List.map_cons,
      encodePieces_singleton, encodePieces_cons]

/-! ## Values -/

/-- A value that is written, or refused, is put as what is received of something that it is answered as. -/
def EndsIn (w : Write Bool) (field : Nat) (length : Option Nat) (v : Value) : Prop :=
  Ends w fun written xs => ∃ v', v.Answered v' ∧ written = (Received.Value.of? length v').isSome ∧
    xs = encodePieces field ((Received.Value.of? length v').toList.map valuePiece)

variable {length : Option Nat}

/-- A value without deferred texts is answered as itself. -/
theorem endsIn_steady (field : Nat) {v : Value} (hv : v.Answered v) (h : v.Steady) :
    EndsIn (putValue length field v) field length v := by
  refine (emits_value length field v h).ends.mono ?_
  rintro _ _ ⟨rfl, rfl⟩
  exact ⟨v, hv, rfl, rfl⟩

/-- A message whose body ends by answering that it is kept. -/
theorem PutsSome.kept (field : Nat) (h : PutsSome w A p) :
    Ends (messageIf field do w; pure true) fun written xs => ∃ i, A i ∧ written = true ∧
      xs = encodePieces field [.message (encodeParts (p i))] := by
  refine (Ends.messageIf field (Ends.bind h fun _ => ends_pure true)).mono ?_
  rintro _ _ ⟨_, ⟨_, _, _, ⟨i, ha, rfl⟩, ⟨rfl, rfl⟩, rfl⟩, rfl⟩
  refine ⟨i, ha, rfl, ?_⟩
  rw [if_pos rfl, List.append_nil, encodePieces_singleton]
  rfl

/-- An entry is put as one whose value is answered. -/
theorem ends_entry {k : String} {v : Value} {put : Write Bool} (field : Nat) (h : EndsIn put 2 length v) :
    Ends (messageIf field do putString 1 k; put) fun written xs => ∃ v', v.Answered v' ∧
      written = (Received.Attribute.of? length (k, v')).isSome ∧
      xs = encodePieces field ((Received.Attribute.of? length (k, v')).toList.map attributePiece) := by
  refine (Ends.messageIf field (Ends.bind (Emits.ends (puts_string 1 k)) fun _ => h)).mono ?_
  rintro _ _ ⟨_, ⟨_, _, _, ⟨-, rfl⟩, ⟨v', hv, rfl, rfl⟩, rfl⟩, rfl⟩
  refine ⟨v', hv, ?_⟩
  rw [Received.Attribute.of?]
  cases Received.Value.of? length v' with
  | none => exact ⟨rfl, rfl⟩
  | some o =>
    refine ⟨rfl, ?_⟩
    rw [Option.isSome_some, if_pos rfl, Option.map_some, Option.toList_some, Option.toList_some, List.map_singleton,
      List.map_singleton, encodePieces_singleton, encodePieces_singleton, encodeParts_singleton, encodePieces_singleton,
      attributePiece, Received.Attribute.parts, encodeParts_cons, encodeParts_singleton, encodePieces_singleton,
      Option.toList_some, List.map_singleton, encodePieces_singleton]
    rfl

mutual

/-- **A value ends as something that it is answered as.** -/
theorem ends_value (length : Option Nat) (field : Nat) : ∀ v : Value,
    EndsIn (putValue length field v) field length v
  | .bool b => endsIn_steady field (.bool b) (.bool b)
  | .int n => endsIn_steady field (.int n) (.int n)
  | .double x => endsIn_steady field (.double x) (.double x)
  | .string s => endsIn_steady field (.string s) (.string s)
  | .bytes b => endsIn_steady field (.bytes b) (.bytes b)
  | .array a => endsIn_steady field (.array a) (.array a)
  | .list vs => by
    refine (((putsSome_values length vs).message 5).kept field).mono ?_
    rintro _ _ ⟨vs', hvs, rfl, rfl⟩
    refine ⟨.list vs', .list hvs, rfl, ?_⟩
    rw [Received.Value.of?, Option.toList_some, List.map_singleton, valuePiece, Received.Value.parts,
      Received.Value.pieces_eq]
    rfl
  | .map es => by
    refine (((putsSome_entries length es).message 6).kept field).mono ?_
    rintro _ _ ⟨es', ⟨hkeys, hes⟩, rfl, rfl⟩
    refine ⟨.map es', .map hkeys hes, rfl, ?_⟩
    rw [Received.Value.of?, Option.toList_some, List.map_singleton, valuePiece, Received.Value.parts,
      Received.Value.entryPieces_eq]
    rfl
  | .deferred d => by
    rw [putValue]
    have htext : ∀ o : Option String, Ends (match o with
        | some s => do
          putString 1 (truncate length s)
          pure true
        | none => pure false) fun written xs => written = o.isSome ∧
          xs = encodeParts [(1, o.toList.map fun s => textPiece (Received.shortened length s))] := by
      intro o
      cases o with
      | none => exact ends_pure false
      | some s =>
        simp only [Received.truncate_eq]
        exact ((puts_string 1 (Received.shortened length s)).answer true).ends
    refine (Ends.messageIf field (Ends.bind (ends_render d) htext)).mono ?_
    rintro _ _ ⟨_, ⟨o, _, _, ⟨rfl, earlier, ho⟩, ⟨rfl, rfl⟩, rfl⟩, rfl⟩
    refine ⟨.deferred (d.fixed earlier), .deferred (by rw [ho]; cases o <;> nofun), ?_⟩
    rw [Received.Value.of?, Deferred.text?, Deferred.fixed, ho]
    cases o with
    | none => exact ⟨rfl, rfl⟩
    | some s => exact ⟨rfl, (encodePieces_singleton field (valuePiece (.string (Received.shortened length s)))).symm⟩

theorem putsSome_values (length : Option Nat) : ∀ vs : List Value,
    PutsSome (putValues length vs) (List.Forall₂ Value.Answered vs)
      fun vs' => [(1, (Received.Value.ofAll length vs').map valuePiece)]
  | [] => by
    refine Ends.mono (ends_pure ()) ?_
    rintro _ _ ⟨-, rfl⟩
    exact ⟨[], .nil, rfl⟩
  | v :: vs => by
    refine (Ends.bind (ends_value length 1 v) fun _ => putsSome_values length vs).mono ?_
    rintro _ _ ⟨_, _, _, ⟨v', hv, -, rfl⟩, ⟨vs', hvs, rfl⟩, rfl⟩
    refine ⟨v' :: vs', .cons hv hvs, ?_⟩
    rw [encodeParts_singleton, encodeParts_singleton, Received.Value.ofAll, List.map_append, encodePieces,
      encodePieces, encodePieces, List.flatMap_append]

theorem putsSome_entries (length : Option Nat) : ∀ es : List (String × Value),
    PutsSome (putEntries length es)
      (fun es' => es'.map Prod.fst = es.map Prod.fst ∧ List.Forall₂ (fun e e' => e.2.Answered e'.2) es es')
      fun es' => [(1, (Received.Value.ofEntries length es').map attributePiece)]
  | [] => by
    refine Ends.mono (ends_pure ()) ?_
    rintro _ _ ⟨-, rfl⟩
    exact ⟨[], ⟨rfl, .nil⟩, rfl⟩
  | (k, v) :: es => by
    refine (Ends.bind (ends_entry (k := k) 1 (ends_value length 2 v)) fun _ => putsSome_entries length es).mono ?_
    rintro _ _ ⟨_, _, _, ⟨v', hv, -, rfl⟩, ⟨es', ⟨hkeys, hes⟩, rfl⟩, rfl⟩
    refine ⟨(k, v') :: es', ⟨congrArg (k :: ·) hkeys, .cons hv hes⟩, ?_⟩
    rw [encodeParts_singleton, encodeParts_singleton, Received.Value.ofEntries, List.map_append, encodePieces,
      encodePieces, encodePieces, List.flatMap_append]
    rfl

end

/-! ## Attributes -/

open Received (Attribute.of? Attribute.keptFrom Attribute.kept Attribute.dropped)

/-- Attributes after some others end as some that they are answered as, and the rest is counted. -/
theorem ends_attributesFrom (allowance : Allowance) (field : Nat) : ∀ (attributes : List Attribute)
    (already dropped : Nat), Ends (putAttributesFrom allowance field already dropped attributes) fun n xs =>
      ∃ as, AnsweredFrom allowance already attributes as ∧
        n = dropped + (as.length - (Attribute.keptFrom allowance already as).length) ∧
        xs = encodePieces field ((Attribute.keptFrom allowance already as).map attributePiece)
  | [], already, dropped => by
    refine (ends_pure dropped).mono ?_
    rintro _ _ ⟨rfl, rfl⟩
    refine ⟨[], .nil, ?_⟩
    rw [Received.Attribute.keptFrom_nil]
    exact ⟨rfl, rfl⟩
  | (k, v) :: attributes, already, dropped => by
    by_cases hk : allowance.admits already = true
    · rw [putAttributesFrom_cons, if_pos hk]
      have hrest : ∀ written : Bool, Ends
          (if written = true then putAttributesFrom allowance field (already + 1) dropped attributes
            else putAttributesFrom allowance field already (dropped + 1) attributes) fun n xs =>
          ∃ as, AnsweredFrom allowance (if written then already + 1 else already) attributes as ∧
            n = (if written then dropped else dropped + 1) +
              (as.length - (Attribute.keptFrom allowance (if written then already + 1 else already) as).length) ∧
            xs = encodePieces field
              ((Attribute.keptFrom allowance (if written then already + 1 else already) as).map attributePiece) := by
        intro written
        cases written with
        | true => exact ends_attributesFrom allowance field attributes (already + 1) dropped
        | false => exact ends_attributesFrom allowance field attributes already (dropped + 1)
      refine (Ends.bind (ends_entry (k := k) field (ends_value allowance.length 2 v)) hrest).mono ?_
      rintro _ _ ⟨_, _, _, ⟨v', hv, rfl, rfl⟩, ⟨as, has, rfl, rfl⟩, rfl⟩
      refine ⟨(k, v') :: as, ?_⟩
      cases ho : Attribute.of? allowance.length (k, v') with
      | none =>
        rw [ho] at has
        have hle := Received.Attribute.length_keptFrom_le allowance already as
        rw [Received.Attribute.keptFrom_cons_none ho, List.length_cons]
        refine ⟨.refused hv ho has, ?_, rfl⟩
        simp only [Option.isSome_none, Bool.false_eq_true, if_false]
        omega
      | some b =>
        rw [ho] at has
        rw [Received.Attribute.keptFrom_cons_some hk ho, List.length_cons, List.length_cons, Nat.add_sub_add_right,
          List.map_cons, encodePieces_cons, Option.toList_some, List.map_singleton, encodePieces_singleton]
        exact ⟨.written hk hv ho has, rfl, rfl⟩
    · rw [Bool.not_eq_true] at hk
      rw [putAttributesFrom_of_not_admits hk]
      refine (ends_pure _).mono ?_
      rintro _ _ ⟨rfl, rfl⟩
      refine ⟨(k, v) :: attributes, .past hk _, ?_⟩
      rw [Received.Attribute.keptFrom_of_not_admits hk]
      exact ⟨rfl, rfl⟩

/-- **Attributes are put as those that are kept of some that they are answered as.** -/
theorem putsSome_counted (allowance : Allowance) (field countField : Nat) (before : UInt32)
    (attributes : List Attribute) :
    PutsSome (putCounted allowance field countField before attributes) (AnsweredAttributes allowance attributes)
      fun as => [(field, (Attribute.kept allowance as).map attributePiece),
        (countField, countPieces (Attribute.dropped allowance before as))] := by
  refine (Ends.bind (ends_attributesFrom allowance field attributes 0 0) fun n =>
    Emits.ends (puts_count countField (totalDropped n before))).mono ?_
  rintro _ _ ⟨_, _, _, ⟨as, has, rfl, rfl⟩, ⟨-, rfl⟩, rfl⟩
  refine ⟨as, has, ?_⟩
  rw [Nat.zero_add, Received.Attribute.keptFrom_zero, ← encodeParts_singleton, ← encodeParts_append]
  rfl

theorem putsSome_kept (allowance : Allowance) (field : Nat) (attributes : List Attribute) :
    PutsSome (putKept allowance field attributes) (AnsweredAttributes allowance attributes)
      fun as => [(field, (Attribute.kept allowance as).map attributePiece)] := by
  refine (Ends.bind (ends_attributesFrom allowance field attributes 0 0) fun _ => ends_pure ()).mono ?_
  rintro _ _ ⟨_, _, _, ⟨as, has, -, rfl⟩, ⟨-, rfl⟩, rfl⟩
  refine ⟨as, has, ?_⟩
  rw [Received.Attribute.keptFrom_zero, List.append_nil, encodeParts_singleton]

end Payload
end Courier
