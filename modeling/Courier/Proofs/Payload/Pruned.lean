import Courier.Proofs.Payload.Composed
import Courier.Proofs.Wire.Paired
/-!
# Pruned - values and attributes without what fails in them

A text that no request ever gets leaves nothing behind, wherever it stands.  Main statement: attributes are written
like those without the failing ones, whose elements and entries that fail are deleted at every depth, and a value is
refused just when it is a text that fails (`failures_traceless`).
-/
namespace Courier

namespace Value

variable (fails : Nat → Bool)

/-- The value is itself a text that fails. -/
def failing : Value → Bool
  | .deferred d => fails d.id
  | _ => false

mutual

/-- A value without the elements and the entries that fail in it. -/
def pruned : Value → Value
  | .bool b => .bool b
  | .int n => .int n
  | .double x => .double x
  | .string s => .string s
  | .bytes b => .bytes b
  | .array a => .array a
  | .list vs => .list (prunedAll vs)
  | .map es => .map (prunedEntries es)
  | .deferred d => .deferred d

def prunedAll : List Value → List Value
  | [] => []
  | v :: vs => if v.failing fails then prunedAll vs else v.pruned :: prunedAll vs

/-- Entries without those that fail; attributes are pruned like the entries of a map. -/
def prunedEntries : List (String × Value) → List (String × Value)
  | [] => []
  | (k, v) :: es => if v.failing fails then prunedEntries es else (k, v.pruned) :: prunedEntries es

end

/-- The value is a text that is refused when texts were asked for as `asked` says. -/
def Refused (asked : Wire.Renders) : Value → Prop
  | .deferred d => d.render (asked.getD d.id 0) = .failed
  | _ => False

end Value

/-- Of the texts of a list, `fails` names those that no request gets. -/
def Deferred.Foretold (fails : Nat → Bool) (ds : List Deferred) : Prop :=
  ∀ d ∈ ds, fails d.id = true ↔ ∀ earlier, d.render earlier = .failed

namespace Payload

open Wire

variable {fails : Nat → Bool}

/-! ## Values -/

theorem vanishes_value (length : Option Nat) (field : Nat) {v : Value} (hv : Deferred.Foretold fails v.deferrals)
    (h : v.failing fails = true) : Vanishes fails (putValue length field v) false := by
  cases v with
  | deferred d =>
    have hd := (hv d List.mem_cons_self).1 h
    exact ((vanishes_text h hd).bind (vanishes_pure false)).messageIf field
  | _ => cases h

theorem vanishes_entry (length : Option Nat) (field : Nat) (k : String) {v : Value}
    (hv : Deferred.Foretold fails v.deferrals) (h : v.failing fails = true) :
    Vanishes fails (putAttribute length field (k, v)) false :=
  .behind field (fills_putBytes 1 k.toUTF8).emits (asksNothing_putBytes 1 k.toUTF8) (vanishes_value length 2 hv h)

/-- A value whose message holds one field that is always written. -/
theorem paired_scalar {w w' : Write Unit} (field : Nat) (h : Paired fails w w' Eq) :
    Paired fails (messageIf field do w; pure true) (messageIf field do w'; pure true) Eq :=
  (h.bind fun _ _ _ => paired_pure rfl).messageIf field

theorem paired_entry {length : Option Nat} (field : Nat) (k : String) {v v' : Value}
    (h : Paired fails (putValue length 2 v) (putValue length 2 v') Eq) :
    Paired fails (putAttribute length field (k, v)) (putAttribute length field (k, v')) Eq :=
  ((composed_putString 1 k).paired.bind fun _ _ _ => h).messageIf field

mutual

theorem paired_value (length : Option Nat) (field : Nat) : ∀ v : Value, Deferred.Foretold fails v.deferrals →
    v.failing fails = false → Paired fails (putValue length field v) (putValue length field (v.pruned fails)) Eq
  | .bool b, _, _ => paired_scalar field (composed_putNumber 2 _).paired
  | .int n, _, _ => paired_scalar field (composed_putNumber 3 _).paired
  | .double x, _, _ => paired_scalar field (composed_putFixed64 4 x.bits).paired
  | .string s, _, _ => paired_scalar field (composed_putString 1 _).paired
  | .bytes b, _, _ => paired_scalar field (composed_putBytes 7 b).paired
  | .array a, _, _ => paired_scalar field ((composed_uniform length a).message 5).paired
  | .list vs, hv, _ => paired_scalar field ((paired_values length vs hv).message 5)
  | .map es, hv, _ => paired_scalar field ((paired_entries length es hv).message 6)
  | .deferred d, _, h => (composed_value length field (.deferred d) fun d' hd' => by
      rw [List.mem_singleton.1 hd']
      exact h).paired

theorem paired_values (length : Option Nat) : ∀ vs : List Value, Deferred.Foretold fails (Value.deferralsOfAll vs) →
    Paired fails (putValues length vs) (putValues length (Value.prunedAll fails vs)) Eq
  | [], _ => paired_pure rfl
  | v :: vs, hvs => by
    obtain ⟨hv, hrest⟩ := List.forall_mem_append.1 hvs
    have ih := paired_values length vs hrest
    rw [Value.prunedAll]
    split
    · rename_i h
      exact (vanishes_value length 1 hv h).paired ih
    · rename_i h
      exact (paired_value length 1 v hv (Bool.not_eq_true _ ▸ h)).bind fun _ _ _ => ih

theorem paired_entries (length : Option Nat) : ∀ es : List (String × Value),
    Deferred.Foretold fails (Value.deferralsOfEntries es) →
    Paired fails (putEntries length es) (putEntries length (Value.prunedEntries fails es)) Eq
  | [], _ => paired_pure rfl
  | (k, v) :: es, hes => by
    obtain ⟨hv, hrest⟩ := List.forall_mem_append.1 hes
    have ih := paired_entries length es hrest
    rw [Value.prunedEntries]
    split
    · rename_i h
      exact (vanishes_entry length 1 k hv h).paired ih
    · rename_i h
      exact (paired_entry 1 k (paired_value length 2 v hv (Bool.not_eq_true _ ▸ h))).bind fun _ _ _ => ih

end

/-- A value is written like the pruned one, also where it fails itself and so is not pruned. -/
theorem paired_pruned (length : Option Nat) (field : Nat) {v : Value} (hv : Deferred.Foretold fails v.deferrals) :
    Paired fails (putValue length field v) (putValue length field (v.pruned fails)) Eq := by
  by_cases h : v.failing fails = true
  · have hsame : v.pruned fails = v := by
      cases v <;> first | rfl | cases h
    rw [hsame]
    exact (vanishes_value length field hv h).both
  · exact paired_value length field v hv (Bool.not_eq_true _ ▸ h)

/-! ## Attributes -/

/-- Deleted attributes are among those left out, whether or not they come after the limit. -/
theorem paired_attributesFrom (allowance : Allowance) (field : Nat) : ∀ (attributes : List Attribute)
    (kept dropped gone : Nat), Deferred.Foretold fails (attributeDeferrals attributes) →
    Paired fails (putAttributesFrom allowance field kept (dropped + gone) attributes)
      (putAttributesFrom allowance field kept dropped (Value.prunedEntries fails attributes))
      fun n m => n = m + gone + attributes.countP fun a => a.2.failing fails
  | [], _, _, _, _ => paired_pure rfl
  | (k, v) :: rest, kept, dropped, gone, hall => by
    obtain ⟨hv, hrest⟩ := List.forall_mem_append.1 hall
    have ih := fun kept dropped gone => paired_attributesFrom allowance field rest kept dropped gone hrest
    rw [Value.prunedEntries, putAttributesFrom_cons]
    by_cases h : v.failing fails = true
    · have hput : Vanishes fails (if allowance.admits kept then putAttribute allowance.length field (k, v)
          else pure false) false := by
        split
        · exact vanishes_entry allowance.length field k hv h
        · exact vanishes_pure false
      rw [if_pos h]
      refine hput.paired ((ih kept dropped (gone + 1)).mono fun n m hn => ?_)
      rw [hn, List.countP_cons_of_pos (by exact h)]
      omega
    · have hput : Paired fails
          (if allowance.admits kept then putAttribute allowance.length field (k, v) else pure false)
          (if allowance.admits kept then putAttribute allowance.length field (k, v.pruned fails) else pure false)
          Eq := by
        split
        · exact paired_entry field k (paired_value allowance.length 2 v hv (Bool.not_eq_true _ ▸ h))
        · exact paired_pure rfl
      rw [if_neg h, putAttributesFrom_cons, List.countP_cons_of_neg (by exact h)]
      refine hput.bind fun written _ hw => ?_
      subst hw
      cases written with
      | true => exact ih (kept + 1) dropped gone
      | false =>
        have hnext := ih kept (dropped + 1) gone
        rwa [Nat.add_right_comm] at hnext

/-! ## Which values are refused -/

theorem scalar_goes {w : Write Unit} (field : Nat) (h : Composed (fun _ => True) w) (asked : Renders) :
    (∃ xs after, Goes asked (messageIf field do w; pure true) (.wrote true (enclosed field xs) after)) ∨
      ∃ reason, Goes asked (messageIf field do w; pure true) (.broke reason) := by
  obtain ⟨o, hw⟩ := h.goes asked
  cases o with
  | wrote _ xs after =>
    have hbody := hw.bind (f := fun _ => pure true) ((emits_pure true).goes (asksNothing_pure true))
    exact .inl ⟨_, after, hbody.messageIf_true field⟩
  | broke reason => exact .inr ⟨reason, hw.broken.messageIfBreaks field⟩

/-- A value is refused and nothing written, or it is written, or it breaks off. -/
theorem value_goes (length : Option Nat) (field : Nat) (v : Value) (asked : Renders) :
    (v.Refused asked ∧ ∃ after, Goes asked (putValue length field v) (.wrote false [] after)) ∨
      ¬ v.Refused asked ∧ ((∃ xs after, Goes asked (putValue length field v) (.wrote true (enclosed field xs) after)) ∨
        ∃ reason, Goes asked (putValue length field v) (.broke reason)) := by
  cases v with
  | bool b => exact .inr ⟨id, scalar_goes field (composed_putNumber 2 _) asked⟩
  | int n => exact .inr ⟨id, scalar_goes field (composed_putNumber 3 _) asked⟩
  | double x => exact .inr ⟨id, scalar_goes field (composed_putFixed64 4 x.bits) asked⟩
  | string s => exact .inr ⟨id, scalar_goes field (composed_putString 1 _) asked⟩
  | bytes b => exact .inr ⟨id, scalar_goes field (composed_putBytes 7 b) asked⟩
  | array a => exact .inr ⟨id, scalar_goes field ((composed_uniform length a).message 5) asked⟩
  | list vs =>
    exact .inr ⟨id, scalar_goes field ((composed_values length vs fun _ _ => trivial).message 5) asked⟩
  | map es =>
    exact .inr ⟨id, scalar_goes field ((composed_entries length es fun _ _ => trivial).message 6) asked⟩
  | deferred d =>
    have hgoes := render_goes d asked
    rw [Value.Refused]
    cases hd : d.render (asked.getD d.id 0) with
    | text s =>
      rw [hd] at hgoes
      have hbody := (fills_putBytes 1 (truncate length s).toUTF8).emits.andThen (emits_pure true)
      have hasks := (asksNothing_putBytes 1 (truncate length s).toUTF8).bind fun _ => asksNothing_pure true
      exact .inr ⟨nofun, .inl ⟨_, _, (hgoes.bind (hbody.goes hasks)).messageIf_true field⟩⟩
    | failed =>
      rw [hd] at hgoes
      exact .inl ⟨rfl, _, (hgoes.bind ((emits_pure false).goes (asksNothing_pure false))).messageIf_false field⟩
    | aborted reason =>
      rw [hd] at hgoes
      exact .inr ⟨nofun, .inr ⟨reason, hgoes.broken.messageIfBreaks field⟩⟩

/-- How a value is written, told by whether it is refused. -/
structure Decides (c : Cursor) (refused : Prop) (result : EStateM.Result Stop Cursor Bool) : Prop where
  answered : ∀ written c', result = .ok written c' → (written = false ↔ refused) ∧ (c'.pos = c.pos ↔ refused)
  takenBack : refused → ∃ c', result = .ok false c' ∧ Wrote c c' []

theorem value_decides (length : Option Nat) (field : Nat) (v : Value) (asked : Renders) : ∃ room, ∀ c : Cursor,
    c.renders = asked → c.pos + room ≤ c.buffer.size → Decides c (v.Refused asked) (putValue length field v c) := by
  obtain ⟨hv, after, room, hgoes⟩ | ⟨hv, ⟨xs, after, room, hgoes⟩ | ⟨reason, room, hgoes⟩⟩ :=
    value_goes length field v asked
  · refine ⟨room, fun c hc hroom => ?_⟩
    obtain ⟨c₁, h₁, w₁, -⟩ := hgoes c hc hroom
    rw [h₁]
    refine ⟨fun written c' h => ?_, fun _ => ⟨c₁, rfl, w₁⟩⟩
    cases h
    exact ⟨iff_of_true rfl hv, iff_of_true w₁.pos hv⟩
  · refine ⟨room, fun c hc hroom => ?_⟩
    obtain ⟨c₁, h₁, w₁, -⟩ := hgoes c hc hroom
    have hlen : c₁.pos ≠ c.pos := by
      rw [w₁.pos, enclosed, List.length_append, List.length_append, Varint.length_padded, Varint.slotSize]
      omega
    rw [h₁]
    refine ⟨fun written c' h => ?_, fun h => absurd h hv⟩
    cases h
    exact ⟨iff_of_false Bool.noConfusion hv, iff_of_false hlen hv⟩
  · refine ⟨room, fun c hc hroom => ?_⟩
    obtain ⟨c₁, h₁⟩ := hgoes c hc hroom
    rw [h₁]
    refine ⟨fun written c' h => ?_, fun h => absurd h hv⟩
    cases h

/-! ## What a failing text leaves -/

/-- More are left out by a number, also in the count of 32 bits that stops at its largest. -/
structure LeavesOut (more n m : Nat) : Prop where
  exact : n = m + more
  capped : (totalDropped n 0).toNat = min ((totalDropped m 0).toNat + more) 0xffffffff

theorem LeavesOut.of_eq {more n m : Nat} (h : n = m + more) : LeavesOut more n m := by
  refine ⟨h, ?_⟩
  subst h
  have hcapped : ∀ k, (totalDropped k 0).toNat = min k 0xffffffff := fun k => by
    rw [totalDropped, UInt32.toNat_ofNat', UInt32.toNat_zero, Nat.add_zero]
    exact Nat.mod_eq_of_lt (by omega)
  rw [hcapped, hcapped]
  omega

/-- **A failing text leaves no trace** but in the number of attributes left out. -/
theorem failures_traceless (fails : Nat → Bool) (allowance : Allowance) (field : Nat) (attributes : List Attribute)
    (length : Option Nat) (valueField : Nat) (v : Value) (asked : Renders)
    (hattributes : Deferred.Foretold fails (attributeDeferrals attributes))
    (hv : Deferred.Foretold fails v.deferrals) :
    ∃ room, ∀ c : Cursor, c.renders = asked → c.pos + room ≤ c.buffer.size →
      LeaveSame (LeavesOut (attributes.countP fun a => a.2.failing fails))
        (putAttributes allowance field attributes c)
        (putAttributes allowance field (Value.prunedEntries fails attributes) c) ∧
      LeaveSame Eq (putValue length valueField v c) (putValue length valueField (v.pruned fails) c) ∧
      Decides c (v.Refused asked) (putValue length valueField v c) := by
  have hputs : Paired fails (putAttributes allowance field attributes)
      (putAttributes allowance field (Value.prunedEntries fails attributes))
      (LeavesOut (attributes.countP fun a => a.2.failing fails)) :=
    (paired_attributesFrom allowance field attributes 0 0 0 hattributes).mono fun _ _ h => .of_eq h
  obtain ⟨r₁, hputs⟩ := hputs.run asked
  obtain ⟨r₂, hput⟩ := (paired_pruned length valueField hv).run asked
  obtain ⟨r₃, hdecides⟩ := value_decides length valueField v asked
  refine ⟨max r₁ (max r₂ r₃), fun c hc hroom => ⟨hputs c hc ?_, hput c hc ?_, hdecides c hc ?_⟩⟩ <;> omega

/-- The second of two attributes holds a text that fails in a list and another one in a map, and the first is one. -/
theorem failures_traceless_nested :
    let lost : Deferred := ⟨1, fun _ => .failed⟩
    ∃ room, ∀ c : Cursor, c.renders = ∅ → c.pos + room ≤ c.buffer.size →
      LeaveSame (LeavesOut 1)
        (putAttributes ⟨some 2, none⟩ 9 [("a", .deferred lost), ("b", .list [.int 1, .deferred lost,
          .map [("k", .deferred lost)]])] c)
        (putAttributes ⟨some 2, none⟩ 9 [("b", .list [.int 1, .map []])] c) ∧
      LeaveSame Eq (putValue none 2 (.deferred lost) c) (putValue none 2 (.deferred lost) c) ∧
      Decides c (Value.Refused ∅ (.deferred lost)) (putValue none 2 (.deferred lost) c) := by
  intro lost
  have hlost : Deferred.Foretold (fun id => id == 1) [lost] := fun d hd => by
    rw [List.mem_singleton.1 hd]
    exact iff_of_true rfl fun _ => rfl
  have hall : Deferred.Foretold (fun id => id == 1) [lost, lost, lost] := fun d hd => hlost d (by simpa using hd)
  exact failures_traceless (fun id => id == 1) ⟨some 2, none⟩ 9 [("a", .deferred lost), ("b", .list [.int 1,
    .deferred lost, .map [("k", .deferred lost)]])] none 2 (.deferred lost) ∅ hall hlost

end Payload
end Courier
