import Courier.Proofs.Batch
import Courier.Proofs.Received.Envelope
/-!
# Traces - spans as a collector receives them

Main statement: the bytes of a write of spans that ended are read as the spans under the limits
(`traces_decode`).
-/
namespace Courier
namespace Received

open Wire Payload

structure Event where
  time : UInt64
  name : String
  attributes : List Attribute
  dropped : UInt32

structure Link where
  traceId : List UInt8
  spanId : List UInt8
  traceState : String
  attributes : List Attribute
  dropped : UInt32
  flags : UInt32

structure Status where
  message : String
  code : Int32

structure Span where
  traceId : List UInt8
  spanId : List UInt8
  traceState : String
  parent : List UInt8
  name : String
  kind : Int32
  start : UInt64
  finish : UInt64
  attributes : List Attribute
  droppedAttributes : UInt32
  events : List Event
  droppedEvents : UInt32
  links : List Link
  droppedLinks : UInt32
  status : Option Status
  flags : UInt32

/-! ## Readers -/

def Event.read? (levels : Nat) (fs : List Field) : Option Event := do
  let time ← single? 1 fixed64? 0 fs
  let name ← single? 2 Reader.text? "" fs
  let attributes ← each? 3 (Attribute.read? levels) fs
  let dropped ← single? 4 uint32? 0 fs
  return ⟨time, name, attributes, dropped⟩

def Link.read? (levels : Nat) (fs : List Field) : Option Link := do
  let traceId ← single? 1 Reader.bytes? [] fs
  let spanId ← single? 2 Reader.bytes? [] fs
  let traceState ← single? 3 Reader.text? "" fs
  let attributes ← each? 4 (Attribute.read? levels) fs
  let dropped ← single? 5 uint32? 0 fs
  let flags ← single? 6 fixed32? 0 fs
  return ⟨traceId, spanId, traceState, attributes, dropped, flags⟩

def Status.read? (fs : List Field) : Option Status := do
  let message ← single? 2 Reader.text? "" fs
  let code ← single? 3 enum? 0 fs
  return ⟨message, code⟩

def Span.read? (levels : Nat) (fs : List Field) : Option Span := do
  let traceId ← single? 1 Reader.bytes? [] fs
  let spanId ← single? 2 Reader.bytes? [] fs
  let traceState ← single? 3 Reader.text? "" fs
  let parent ← single? 4 Reader.bytes? [] fs
  let name ← single? 5 Reader.text? "" fs
  let kind ← single? 6 enum? 0 fs
  let start ← single? 7 fixed64? 0 fs
  let finish ← single? 8 fixed64? 0 fs
  let attributes ← each? 9 (Attribute.read? levels) fs
  let droppedAttributes ← single? 10 uint32? 0 fs
  let events ← each? 11 (Event.read? levels) fs
  let droppedEvents ← single? 12 uint32? 0 fs
  let links ← each? 13 (Link.read? levels) fs
  let droppedLinks ← single? 14 uint32? 0 fs
  let status ← embedded? 15 Status.read? fs
  let flags ← single? 16 fixed32? 0 fs
  return ⟨traceId, spanId, traceState, parent, name, kind, start, finish, attributes, droppedAttributes, events,
    droppedEvents, links, droppedLinks, status, flags⟩

/-! ## What is received -/

/-- The flags of a trace, that it is known whether the other span is remote, and whether it is. -/
def traceFlags (flags : UInt8) (remote : Bool) : UInt32 :=
  flags.toUInt32 ||| 0x100 ||| (if remote then 0x200 else 0)

def Event.of (allowance : Allowance) (e : SpanEvent) : Event where
  time := e.time.wireNanos
  name := e.name
  attributes := Attribute.kept allowance e.attributes
  dropped := Attribute.dropped allowance e.dropped e.attributes

def Link.of (allowance : Allowance) (l : SpanLink) : Link where
  traceId := l.traceId.toList
  spanId := l.spanId.toList
  traceState := l.traceState.getD ""
  attributes := Attribute.kept allowance l.attributes
  dropped := Attribute.dropped allowance l.dropped l.attributes
  flags := traceFlags l.flags l.remote

/-- An unset status is absent, and only an error has a message. -/
def Status.of? : SpanStatus → Option Status
  | .unset => none
  | .ok => some ⟨"", 1⟩
  | .error description => some ⟨description, 2⟩

def kindNumber : SpanKind → Int32
  | .internal => 1
  | .server => 2
  | .client => 3
  | .producer => 4
  | .consumer => 5

/-- The first events and links, as many as the limits allow, and the numbers of the others. -/
def Span.of (limits : Limits) (s : Courier.Span) : Span where
  traceId := s.traceId.toList
  spanId := s.spanId.toList
  traceState := s.traceState.getD ""
  parent := if s.parent = .none then [] else s.parent.toList
  name := s.name
  kind := kindNumber s.kind
  start := s.start.wireNanos
  finish := s.finish.wireNanos
  attributes := Attribute.kept limits.span s.attributes
  droppedAttributes := Attribute.dropped limits.span s.droppedAttributes s.attributes
  events := (s.events.take limits.eventCount.toNat).map (Event.of limits.event)
  droppedEvents := totalDropped (s.events.length - limits.eventCount.toNat) s.droppedEvents
  links := (s.links.take limits.linkCount.toNat).map (Link.of limits.link)
  droppedLinks := totalDropped (s.links.length - limits.linkCount.toNat) s.droppedLinks
  status := Status.of? s.status
  flags := traceFlags s.flags s.parentRemote

/-! ## Reading back -/

theorem Event.reads (levels : Nat) (allowance : Allowance) (e : SpanEvent) :
    Reads levels (read? levels) (eventParts allowance e) (of allowance e) where
  numbered := rfl
  read hf := by
    have ht := single?_one hf 1 0 rfl (fixed64?_fixed64 e.time.wireNanos)
    have hn := single?_text hf 2 rfl
    have ha := each?_attributes hf 3 rfl
    have hd := single?_count hf 4 rfl
    rw [read?, ht, hn, ha, hd]
    rfl

theorem Link.reads (levels : Nat) (allowance : Allowance) (l : SpanLink) :
    Reads levels (read? levels) (linkParts allowance l) (of allowance l) where
  numbered := rfl
  read hf := by
    have ht := single?_one hf 1 [] rfl (bytes?_bytes l.traceId.toList)
    have hs := single?_one hf 2 [] rfl (bytes?_bytes l.spanId.toList)
    have hw := single?_nonempty hf 3 rfl
    have ha := each?_attributes hf 4 rfl
    have hd := single?_count hf 5 rfl
    have hl := single?_one hf 6 0 rfl (fixed32?_fixed32 (referenceFlags l.flags l.remote))
    rw [read?, ht, hs, hw, ha, hd, hl]
    rfl

/-- A status that stands is read back. -/
theorem Status.reads (levels : Nat) {status : SpanStatus} {parts : Parts} (h : parts ∈ statusParts? status) :
    ∃ s, of? status = some s ∧ Reads levels read? parts s := by
  cases status with
  | unset => cases h
  | ok =>
    cases h
    refine ⟨⟨"", 1⟩, rfl, rfl, fun hf => ?_⟩
    have hm := single?_optionalText hf 2 (o := none) rfl
    have hc := single?_one hf 3 0 rfl (show enum? (Piece.varint 1).content = some 1 from rfl)
    rw [read?, hm, hc]
    rfl
  | error description =>
    cases h
    refine ⟨⟨description, 2⟩, rfl, rfl, fun hf => ?_⟩
    have hm := single?_nonempty hf 2 (o := some description) rfl
    have hc := single?_one hf 3 0 rfl (show enum? (Piece.varint 2).content = some 2 from rfl)
    rw [read?, hm, hc]
    rfl

theorem embedded?_status {levels : Nat} {parts : Parts} (h : Fits levels parts) {status : SpanStatus}
    (hp : piecesOf 15 parts = (statusParts? status).toList.map fun p => .message (encodeParts p)) :
    embedded? 15 Status.read? (fieldsOf parts) = some (Status.of? status) := by
  cases hs : statusParts? status with
  | none =>
    rw [hs] at hp
    cases status with
    | unset =>
      rw [embedded?, formed?_fieldsOf 15 _ h.numbered, hp]
      rfl
    | ok => cases hs
    | error description => cases hs
  | some inner =>
    rw [hs] at hp
    obtain ⟨s, ho, hr⟩ := Status.reads levels (Option.mem_def.2 hs)
    rw [ho]
    exact embedded?_one h 15 hp hr

theorem enum?_kind (kind : SpanKind) :
    enum? (Piece.varint (UInt64.ofNat (spanKindCode kind))).content = some (kindNumber kind) := by
  cases kind <;> rfl

theorem single?_parent {levels : Nat} {parts : Parts} (h : Fits levels parts) {parent : SpanId}
    (hp : piecesOf 4 parts = parentPieces parent) :
    single? 4 Reader.bytes? [] (fieldsOf parts) = some (if parent = .none then [] else parent.toList) := by
  unfold parentPieces at hp
  by_cases hn : parent = .none
  · rw [if_pos hn] at hp ⊢
    rw [single?, formed?_fieldsOf 4 _ h.numbered, hp]
    rfl
  · rw [if_neg hn] at hp ⊢
    exact single?_one h 4 [] hp (bytes?_bytes parent.toList)

/-- **A span is read back from its parts.** -/
theorem Span.reads (levels : Nat) (limits : Limits) (s : Courier.Span) :
    Reads levels (read? levels) (spanParts limits s) (of limits s) where
  numbered := rfl
  read hf := by
    have h1 := single?_one hf 1 [] rfl (bytes?_bytes s.traceId.toList)
    have h2 := single?_one hf 2 [] rfl (bytes?_bytes s.spanId.toList)
    have h3 := single?_nonempty hf 3 rfl
    have h4 := single?_parent hf rfl
    have h5 := single?_text hf 5 rfl
    have h6 := single?_one hf 6 0 rfl (enum?_kind s.kind)
    have h7 := single?_one hf 7 0 rfl (fixed64?_fixed64 s.start.wireNanos)
    have h8 := single?_one hf 8 0 rfl (fixed64?_fixed64 s.finish.wireNanos)
    have h9 := each?_attributes hf 9 rfl
    have h10 := single?_count hf 10 rfl
    have h11 := each?_map hf 11 rfl fun e _ => Event.reads levels limits.event e
    have h12 := single?_count hf 12 rfl
    have h13 := each?_map hf 13 rfl fun l _ => Link.reads levels limits.link l
    have h14 := single?_count hf 14 rfl
    have h15 := embedded?_status hf rfl
    have h16 := single?_one hf 16 0 rfl (fixed32?_fixed32 (referenceFlags s.flags s.parentRemote))
    rw [read?, h1, h2, h3, h4, h5, h6, h7, h8, h9, h10, h11, h12, h13, h14, h15, h16]
    rfl

/-- **Traces decode back.** What a write of spans leaves behind its offset is a request that a collector reads, and it
has one resource, a scope group for each scope, and in it the spans of the scope as the limits leave them. -/
theorem traces_decode (limits : Limits) {resource : Courier.Resource} {spans : List Courier.Span}
    (hr : resource.Steady) (hs : ∀ s ∈ spans, s.Steady) {buffer : ByteArray} {offset finish : Nat}
    (hbuffer : buffer.size ≤ Buffer.maxSize)
    (h : ((Batch.traces spans).write limits resource offset buffer).1 = .written finish) :
    Request.read? Span.read?
        (((Batch.traces spans).write limits resource offset buffer).2.extract offset finish).data.toList =
      some (Request.of limits.generic (Span.of limits) resource (Scope.group Courier.Span.scope spans)) := by
  obtain ⟨hbytes, hle⟩ := Batch.write_written hr (show (Batch.traces spans).Steady from hs) hbuffer h
  rw [hbytes]
  exact read?_requestParts limits.generic resource (fun levels _ _ s _ => Span.reads levels limits s)
    (Nat.lt_of_le_of_lt hle (by decide))

/-- A span with an event and a deferred text that fails. -/
def pairSpan : Courier.Span := { attributes := deferredPair, events := [{}], status := .ok }

theorem steady_pairSpan : pairSpan.Steady where
  scope := Scope.steady_empty
  attributes := steady_deferredPair
  events := List.forall_mem_singleton.2 steadyAttributes_nil
  links := List.forall_mem_nil _

theorem traces_decode_pairSpan :
    ((Batch.traces [pairSpan]).write { eventCount := 0 } {} 1 (List.replicate 120 7).toByteArray).1 = .written 111 ∧
    Request.read? Span.read?
        (((Batch.traces [pairSpan]).write { eventCount := 0 } {} 1 (List.replicate 120 7).toByteArray).2.extract 1
          111).data.toList =
      some (Request.of (Limits.generic { eventCount := 0 }) (Span.of { eventCount := 0 }) {}
        (Scope.group Courier.Span.scope [pairSpan])) := by
  have hs : ∀ s ∈ [pairSpan], s.Steady := List.forall_mem_singleton.2 steady_pairSpan
  have h : ((Batch.traces [pairSpan]).write { eventCount := 0 } {} 1 (List.replicate 120 7).toByteArray).1 =
      .written 111 := Batch.write_of_finish (by decide +kernel)
  exact ⟨h, traces_decode _ Resource.steady_empty hs (by rw [List.size_toByteArray]; decide) h⟩

end Received
end Courier
