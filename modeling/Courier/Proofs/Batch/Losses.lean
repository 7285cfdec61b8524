import Courier.Proofs.Batch.Ended
import Courier.Proofs.Batch.Wrapped
import Courier.Proofs.Received.Tally
/-!
# Losses - what a batch loses to its limits, and the counts of it

Main statement: in a request of fewer than 2^28 bytes the counts account for all that was given and is not there, and
what comes behind a limit was not asked for anything (`Batch.losses_counted`).
-/
namespace Courier
namespace Payload

open Wire

/-- Attributes behind others go on where these ended: with the number that was written of them, and the number left
out. -/
theorem putAttributesFrom_append {allowance : Allowance} {field : Nat} (skipped : List Attribute) :
    ∀ {looked : List Attribute} {kept dropped n : Nat} {c c' : Cursor},
      putAttributesFrom allowance field kept dropped looked c = .ok n c' →
        dropped ≤ n ∧ n - dropped ≤ looked.length ∧
          putAttributesFrom allowance field kept dropped (looked ++ skipped) c =
            putAttributesFrom allowance field (kept + (looked.length - (n - dropped))) n skipped c'
  | [], kept, dropped, n, c, c', h => by
    cases h
    exact ⟨Nat.le_refl _, by omega, by rw [List.nil_append, Nat.sub_self, List.length_nil, Nat.add_zero]⟩
  | a :: looked, kept, dropped, n, c, c', h => by
    rw [putAttributesFrom_cons] at h
    obtain ⟨written, c₁, hwritten, hrest⟩ := bind_eq_ok h
    rw [List.cons_append, putAttributesFrom_cons, bind_ok hwritten]
    -- Either way one attribute more was looked at, so the number written is again that of those not left out.
    cases written with
    | true =>
      obtain ⟨hle, hlength, happend⟩ := putAttributesFrom_append skipped hrest
      refine ⟨hle, by rw [List.length_cons]; omega, ?_⟩
      rw [if_pos rfl, happend, List.length_cons, show kept + 1 + (looked.length - (n - dropped)) =
        kept + (looked.length + 1 - (n - dropped)) by omega]
    | false =>
      obtain ⟨hle, hlength, happend⟩ := putAttributesFrom_append skipped hrest
      refine ⟨by omega, by rw [List.length_cons]; omega, ?_⟩
      rw [if_neg Bool.false_ne_true, happend, List.length_cons,
        show kept + (looked.length - (n - (dropped + 1))) = kept + (looked.length + 1 - (n - dropped)) by omega]

/-- Attributes behind the limit are counted, and nothing else is done about them. -/
theorem putAttributes_append {allowance : Allowance} {field n : Nat} {looked : List Attribute} {c c' : Cursor}
    (h : putAttributes allowance field looked c = .ok n c') (hlimit : allowance.count = some (looked.length - n))
    (skipped : List Attribute) :
    putAttributes allowance field (looked ++ skipped) c = .ok (n + skipped.length) c' := by
  obtain ⟨-, -, happend⟩ := putAttributesFrom_append skipped h
  have hfull : allowance.admits (0 + (looked.length - (n - 0))) = false := by
    rw [Allowance.admits, hlimit]
    exact decide_eq_false (by omega)
  rw [putAttributes, happend, putAttributesFrom_of_not_admits hfull]
  rfl

end Payload

namespace Batch

open Wire Payload
open Received (tallies?)

/-- The bytes are a request of one resource, and whatever the batch gave is in it or in its counts. -/
def Accounts (limits : Limits) (resource : Resource) (payload : List UInt8) : Batch → Prop
  | .traces spans => ∃ t, tallies? Received.SpanTally.read? payload = some [t] ∧
      t.Accounts limits.generic (Received.SpanTally.Accounts limits) resource (Scope.group Span.scope spans)
  | .metrics scopes => ∃ t, tallies? Received.Metric.read? payload = some [t] ∧
      t.Accounts limits.generic (Received.Metric.Arrives limits.generic) resource
        (scopes.map fun s => (s.scope, s.metrics))
  | .logs records => ∃ t, tallies? Received.LogRecord.tally? payload = some [t] ∧
      t.Accounts limits.generic (fun r => Received.Counted.Accounts r.attributes 0 Received.LogRecord.attributes
        (Received.LogRecord.Arrives limits r)) resource (Scope.group LogRecord.scope records)

section

variable {α τ : Type} {allowance : Allowance} {put : Nat → α → Write Unit} {parts : α → Parts} {R : α → α → Prop}
variable {S : α → τ → Prop} {record : α → τ} {record? : Nat → List Field → Option τ}
variable {resource : Resource} {groups : List (Scope × List α)} {offset finish : Nat} {buffer : ByteArray}

/-- A request that was written accounts for what was given, if its records are put and read as what does. -/
theorem request_accounts (hput : ∀ x, PutsSome (put 2 x) (R x) fun y => [(2, [.message (encodeParts (parts y))])])
    (hread : ∀ levels x, Received.Reads levels (record? levels) (parts x) (record x))
    (haccounts : ∀ x y, R x y → S x (record y))
    (h : (Buffer.fill (putRequest allowance put resource groups) offset buffer {}).1 = .written finish)
    (hshort : finish < offset + 0x10000000) :
    ∃ t, tallies? record? ((Buffer.fill (putRequest allowance put resource groups) offset buffer {}).2.extract
        offset finish).data.toList = some [t] ∧ t.Accounts allowance S resource groups := by
  obtain ⟨resource', groups', hr, hg, hrequest⟩ := Buffer.fill_request hput
    (fun r _ => Received.tallies?_requestParts allowance r fun levels _ _ x _ => hread levels x) h hshort
  exact ⟨_, hrequest, Received.Tally.accounts hr hg haccounts⟩

end

/-- **Nothing is left out without being counted.**  What a write of fewer than 2^28 bytes leaves behind its offset is a
request in which the attributes, events and links are the first that the limits allow, of the attributes those that
are not refused, and each count is the number of the others.  Once a limit is reached, the attributes behind it are not
asked for anything. -/
theorem losses_counted (limits : Limits) (resource : Resource) (batch : Batch) {buffer : ByteArray}
    {offset finish : Nat} (h : (batch.write limits resource offset buffer).1 = .written finish)
    (hshort : finish < offset + 0x10000000) :
    batch.Accounts limits resource
      ((batch.write limits resource offset buffer).2.extract offset finish).data.toList ∧
    ∀ (allowance : Allowance) (field n : Nat) (looked skipped : List Attribute) (c c' : Cursor),
      putAttributes allowance field looked c = .ok n c' → allowance.count = some (looked.length - n) →
        putAttributes allowance field (looked ++ skipped) c = .ok (n + skipped.length) c' := by
  refine ⟨?_, fun _ _ _ _ skipped _ _ h hlimit => putAttributes_append h hlimit skipped⟩
  cases batch with
  | traces spans =>
    exact request_accounts (fun s => putsSome_span limits 2 s)
      (fun levels s => Received.SpanTally.reads levels limits s)
      (fun _ _ => Received.SpanTally.accounts limits) h hshort
  | metrics scopes =>
    exact request_accounts (fun m => putsSome_metric limits.generic 2 m)
      (fun levels m => Received.Metric.reads levels limits.generic m)
      (fun _ _ => Received.Metric.arrives limits.generic) h hshort
  | logs records =>
    exact request_accounts (fun r => putsSome_logRecord limits 2 r)
      (fun levels r => Received.LogRecord.tally_reads levels limits r)
      (fun _ _ => Received.LogRecord.accounts limits) h hshort

/-- A span with an attribute that is refused in front of one that is not, and one more, with an event, and with losses
of its own. -/
def lossySpan : Span :=
  { attributes := ("c", .deferred ⟨2, fun _ => .failed⟩) :: deferredPair, droppedAttributes := 3, events := [{}] }

theorem losses_counted_lossySpan :
    ((Batch.traces [lossySpan]).write { spanAttributeCount := 1, eventCount := 0 } {} 1
      (List.replicate 104 7).toByteArray).1 = .written 104 ∧
    (Batch.traces [lossySpan]).Accounts { spanAttributeCount := 1, eventCount := 0 } {}
      (((Batch.traces [lossySpan]).write { spanAttributeCount := 1, eventCount := 0 } {} 1
        (List.replicate 104 7).toByteArray).2.extract 1 104).data.toList ∧
    ∃ c c', putAttributes ⟨some 1, none⟩ 9 (lossySpan.attributes.take 2) c = .ok 1 c' ∧
      putAttributes ⟨some 1, none⟩ 9 lossySpan.attributes c = .ok 2 c' := by
  have h : ((Batch.traces [lossySpan]).write { spanAttributeCount := 1, eventCount := 0 } {} 1
      (List.replicate 104 7).toByteArray).1 = .written 104 := write_of_finish (by decide +kernel)
  obtain ⟨haccounts, hskips⟩ := losses_counted _ _ _ h (by decide)
  have hsteady : SteadyAttributes lossySpan.attributes :=
    List.forall_mem_cons.2 ⟨.deferred ⟨fun _ => rfl, nofun⟩, steady_deferredPair⟩
  obtain ⟨room, hemits⟩ := emits_attributes ⟨some 1, none⟩ 9 fun a ha => hsteady a (List.mem_of_mem_take ha)
  have hroom : 0 + room ≤ (Buffer.filled room 0).size := by
    rw [Buffer.size_filled]
    omega
  obtain ⟨c', hc, -⟩ := hemits.fits ⟨Buffer.filled room 0, 0, {}⟩ hroom
  exact ⟨h, haccounts, _, c', hc, hskips _ _ _ _ _ _ _ hc rfl⟩

/-! ## Attributes that are not counted -/

section

variable {levels : Nat} {τ : Type} {record? : List Field → Option τ}

/-- An attribute without a name, read as a group, has a resource that neither holds attributes nor counts any. -/
theorem read?_nameless {zeros : Nat} (h : 128 ≤ zeros) (h' : zeros < 16384) :
    Received.Tally.read? levels record? (fieldsOf (zerosParts "" zeros)) =
      some ⟨some ⟨⟨[], 0⟩, none⟩, [⟨none, []⟩]⟩ := by
  have hscopes : Received.each? 2 (Received.ScopeTally.read? levels record?) (fieldsOf (zerosParts "" zeros)) =
      some [⟨none, []⟩] := each?_zeros "" h h' rfl
  rw [Received.Tally.read?, hscopes]
  rfl

theorem read?_bare :
    Received.Tally.read? levels record? [⟨1, .bytes []⟩] = some ⟨some ⟨⟨[], 0⟩, none⟩, []⟩ := rfl

end

/-- A count may be wrong: where the buffer came with room for it, a resource of 2^28 bytes is written all the same, and
a reader finds neither its attributes nor a count of them. -/
theorem attributes_uncounted : ∃ buffer finish,
    ((Batch.logs []).write {} (repeated 16384 "" 16369) 0 buffer).1 = .written finish ∧
    (∃ ts, tallies? Received.LogRecord.tally?
        (((Batch.logs []).write {} (repeated 16384 "" 16369) 0 buffer).2.extract 0 finish).data.toList = some ts ∧
      ∀ t ∈ ts, t.resource = some ⟨⟨[], 0⟩, none⟩) ∧
    ¬ (Batch.logs []).Accounts {} (repeated 16384 "" 16369)
      (((Batch.logs []).write {} (repeated 16384 "" 16369) 0 buffer).2.extract 0 finish).data.toList := by
  have hlength : (encodeParts (zerosParts "" 16369)).length = 16379 := by
    rw [length_zerosParts, show "".utf8ByteSize = 0 from rfl, length_encode_one (by decide : 0 < 128),
      length_encode_two (by decide : 128 ≤ 16369) (by decide)]
  obtain ⟨buffer, finish, payload, hwrite, rfl, hread⟩ := write_repeated {} 16384 "" 16369
    (fun levels => Received.Tally.read? levels (Received.LogRecord.tally? levels))
    (by rw [hlength]) (by rw [hlength]; decide) (fun _ => read?_bare) fun _ => read?_nameless (by decide) (by decide)
  refine ⟨buffer, finish, hwrite, ⟨_, hread, fun t ht => ?_⟩, ?_⟩
  · rcases List.mem_cons.1 ht with rfl | ht
    · rfl
    · rw [List.eq_of_mem_replicate ht]
  · rintro ⟨t, ht, -⟩
    exact cons_replicate_ne (by decide) (Option.some.inj (hread.symm.trans ht))

end Batch
end Courier
