import Courier.Proofs.Batch.Ended
import Courier.Proofs.Batch.Wrapped
import Courier.Proofs.Received.Arrived
/-!
# Texts - the texts of a batch, as its limits cut them

Main statement: in a request of fewer than 2^28 bytes every text of a value is cut to the limit of its place, and
nothing else is (`Batch.texts_cut`).
-/
namespace Courier
namespace Batch

open Wire Payload
open Received (Request.read?)

/-- The bytes are a request of one resource, in which the batch arrives, each of its texts under the limit of its
place. -/
def Arrives (limits : Limits) (resource : Resource) (payload : List UInt8) : Batch → Prop
  | .traces spans => ∃ t, Request.read? Received.Span.read? payload = some [t] ∧
      Received.ResourceGroup.Arrives limits.generic (Received.Span.Arrives limits) resource
        (Courier.Scope.group Span.scope spans) t
  | .metrics scopes => ∃ t, Request.read? Received.Metric.read? payload = some [t] ∧
      Received.ResourceGroup.Arrives limits.generic (Received.Metric.Arrives limits.generic) resource
        (scopes.map fun s => (s.scope, s.metrics)) t
  | .logs records => ∃ t, Request.read? Received.LogRecord.read? payload = some [t] ∧
      Received.ResourceGroup.Arrives limits.generic (Received.LogRecord.Arrives limits) resource
        (Courier.Scope.group LogRecord.scope records) t

section

variable {α ρ : Type} {allowance : Allowance} {put : Nat → α → Write Unit} {parts : α → Parts} {R : α → α → Prop}
variable {S : α → ρ → Prop} {record : α → ρ} {record? : Nat → List Field → Option ρ}
variable {resource : Resource} {groups : List (Scope × List α)} {offset finish : Nat} {buffer : ByteArray}

/-- A request that was written arrives, if its records are put and read as what arrives. -/
theorem request_arrives (hput : ∀ x, PutsSome (put 2 x) (R x) fun y => [(2, [.message (encodeParts (parts y))])])
    (hread : ∀ levels x, Received.Reads levels (record? levels) (parts x) (record x))
    (harrives : ∀ x y, R x y → S x (record y))
    (h : (Buffer.fill (putRequest allowance put resource groups) offset buffer {}).1 = .written finish)
    (hshort : finish < offset + 0x10000000) :
    ∃ t, Request.read? record? ((Buffer.fill (putRequest allowance put resource groups) offset buffer {}).2.extract
        offset finish).data.toList = some [t] ∧ Received.ResourceGroup.Arrives allowance S resource groups t := by
  obtain ⟨resource', groups', hr, hg, hrequest⟩ := Buffer.fill_request hput
    (fun r _ => Received.read?_requestParts allowance r fun levels _ _ x _ => hread levels x) h hshort
  obtain ⟨t, ht, hall⟩ := Received.Request.arrives hr hg harrives
  exact ⟨t, by rw [hrequest, ht], hall⟩

end

section

variable {limits : Limits} {resource : Resource} {buffer : ByteArray} {offset finish : Nat}

theorem spans_arrive {S : Span → Received.Span → Prop}
    (hS : ∀ s s', s.Answered limits s' → S s (Received.Span.of limits s')) {spans : List Span}
    (h : ((Batch.traces spans).write limits resource offset buffer).1 = .written finish)
    (hshort : finish < offset + 0x10000000) :
    ∃ t, Request.read? Received.Span.read?
        (((Batch.traces spans).write limits resource offset buffer).2.extract offset finish).data.toList = some [t] ∧
      Received.ResourceGroup.Arrives limits.generic S resource (Courier.Scope.group Span.scope spans) t :=
  request_arrives (fun s => putsSome_span limits 2 s) (fun levels s => Received.Span.reads levels limits s) hS h hshort

theorem metrics_arrive {S : Metric → Received.Metric → Prop}
    (hS : ∀ m m', m.Answered limits.generic m' → S m (Received.Metric.of limits.generic m'))
    {scopes : List ScopeMetrics} (h : ((Batch.metrics scopes).write limits resource offset buffer).1 = .written finish)
    (hshort : finish < offset + 0x10000000) :
    ∃ t, Request.read? Received.Metric.read?
        (((Batch.metrics scopes).write limits resource offset buffer).2.extract offset finish).data.toList = some [t] ∧
      Received.ResourceGroup.Arrives limits.generic S resource (scopes.map fun s => (s.scope, s.metrics)) t :=
  request_arrives (fun m => putsSome_metric limits.generic 2 m)
    (fun levels m => Received.Metric.reads levels limits.generic m) hS h hshort

theorem logs_arrive {S : LogRecord → Received.LogRecord → Prop}
    (hS : ∀ r r', r.Answered limits r' → S r (Received.LogRecord.of limits r')) {records : List LogRecord}
    (h : ((Batch.logs records).write limits resource offset buffer).1 = .written finish)
    (hshort : finish < offset + 0x10000000) :
    ∃ t, Request.read? Received.LogRecord.read?
        (((Batch.logs records).write limits resource offset buffer).2.extract offset finish).data.toList = some [t] ∧
      Received.ResourceGroup.Arrives limits.generic S resource (Courier.Scope.group LogRecord.scope records) t :=
  request_arrives (fun r => putsSome_logRecord limits 2 r)
    (fun levels r => Received.LogRecord.reads levels limits r) hS h hshort

end

/-- **Limits cut the texts of values and nothing else.**  What a write of fewer than 2^28 bytes leaves behind its
offset is a request in which the batch arrives: of the text of a value, an element or a rendered object, at any depth,
the first characters, as many as the limit of its place allows, and every key, name and other text whole. -/
theorem texts_cut (limits : Limits) (resource : Resource) (batch : Batch) {buffer : ByteArray} {offset finish : Nat}
    (h : (batch.write limits resource offset buffer).1 = .written finish) (hshort : finish < offset + 0x10000000) :
    batch.Arrives limits resource
      ((batch.write limits resource offset buffer).2.extract offset finish).data.toList := by
  cases batch with
  | traces spans =>
    exact request_arrives (fun s => putsSome_span limits 2 s) (fun levels s => Received.Span.reads levels limits s)
      (fun _ _ => Received.Span.arrives limits) h hshort
  | metrics scopes =>
    exact request_arrives (fun m => putsSome_metric limits.generic 2 m)
      (fun levels m => Received.Metric.reads levels limits.generic m)
      (fun _ _ => Received.Metric.arrives limits.generic) h hshort
  | logs records =>
    exact request_arrives (fun r => putsSome_logRecord limits 2 r)
      (fun levels r => Received.LogRecord.reads levels limits r)
      (fun _ _ => Received.LogRecord.arrives limits) h hshort

/-- A record with texts of three letters and more, in its body, its attributes and beside them. -/
def longRecord : LogRecord :=
  { body := some (.list [.string "äöü", .deferred ⟨0, fun _ => .text "xyz"⟩])
    attributes := [("key", .string "abc")]
    severityText := some "warning" }

theorem texts_cut_longRecord :
    ((Batch.logs [longRecord]).write { logValueLength := some 2 } {} 1 (List.replicate 86 7).toByteArray).1 =
      .written 86 ∧
    (Batch.logs [longRecord]).Arrives { logValueLength := some 2 } {}
      (((Batch.logs [longRecord]).write { logValueLength := some 2 } {} 1
        (List.replicate 86 7).toByteArray).2.extract 1 86).data.toList := by
  have h : ((Batch.logs [longRecord]).write { logValueLength := some 2 } {} 1 (List.replicate 86 7).toByteArray).1 =
      .written 86 := write_of_finish (by decide +kernel)
  exact ⟨h, texts_cut _ _ _ h (by decide)⟩

/-! ## A text that nothing gave -/

/-- A name of which the bytes are also a resource, with the text b under the name a. -/
def lettered : String := "\n\x08\n\x01a\x12\x03\n\x01b"

section

variable {levels : Nat} {ρ : Type} {record? : List Field → Option ρ}

/-- An attribute of that name, read as a group, has the resource that its name is. -/
theorem read?_lettered {zeros : Nat} (h : 128 ≤ zeros) (h' : zeros < 16384) :
    Received.ResourceGroup.read? (levels + 1) record? (fieldsOf (zerosParts lettered zeros)) =
      some ⟨some ⟨[("a", some (.string "b"))], 0⟩, [⟨none, [], ""⟩], ""⟩ := by
  have hscopes : Received.each? 2 (Received.ScopeGroup.read? (levels + 1) record?)
      (fieldsOf (zerosParts lettered zeros)) = some [⟨none, [], ""⟩] := each?_zeros lettered h h' rfl
  rw [Received.ResourceGroup.read?, hscopes]
  rfl

theorem read?_empty :
    Received.ResourceGroup.read? levels record? [⟨1, .bytes []⟩] = some ⟨some ⟨[], 0⟩, [], ""⟩ := rfl

end

/-- A text may be none that was given: where the buffer came with room for it, a resource of 2^28 bytes is written all
the same, and a reader finds its names where values belong. -/
theorem text_ungiven : ∃ buffer finish,
    ((Batch.logs []).write {} (repeated 16384 lettered 16359) 0 buffer).1 = .written finish ∧
    (∃ request, Request.read? Received.LogRecord.read?
        (((Batch.logs []).write {} (repeated 16384 lettered 16359) 0 buffer).2.extract 0 finish).data.toList =
          some request ∧
      ∃ g ∈ request, g.resource = some ⟨[("a", some (.string "b"))], 0⟩) ∧
    ¬ (Batch.logs []).Arrives {} (repeated 16384 lettered 16359)
      (((Batch.logs []).write {} (repeated 16384 lettered 16359) 0 buffer).2.extract 0 finish).data.toList := by
  have hlength : (encodeParts (zerosParts lettered 16359)).length = 16379 := by
    rw [length_zerosParts, show lettered.utf8ByteSize = 10 from rfl, length_encode_one (by decide : 10 < 128),
      length_encode_two (by decide : 128 ≤ 16359) (by decide)]
  obtain ⟨buffer, finish, payload, hwrite, rfl, hread⟩ := write_repeated {} 16384 lettered 16359
    (fun levels => Received.ResourceGroup.read? levels (Received.LogRecord.read? levels))
    (by rw [hlength]) (by rw [hlength]; decide) (fun _ => read?_empty) fun _ => read?_lettered (by decide) (by decide)
  refine ⟨buffer, finish, hwrite, ⟨_, hread, _,
    List.mem_cons_of_mem _ (List.mem_replicate.2 ⟨Nat.succ_ne_zero 16383, rfl⟩), rfl⟩, ?_⟩
  rintro ⟨t, ht, -⟩
  exact cons_replicate_ne (by decide) (Option.some.inj (hread.symm.trans ht))

end Batch
end Courier
