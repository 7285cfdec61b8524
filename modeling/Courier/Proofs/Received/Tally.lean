import Courier.Proofs.Received.Arrived
/-!
# Tally - what was left out, as a collector finds it stated

The readers of records take a count that is absent for zero, so here each record is read together with the count that
stands in it.  Main statements: a request is read back from the bytes of its parts with the counts that stand in it
(`tallies?_requestParts`), and the counts of an answered request account for whatever was given (`Tally.accounts`).
-/
namespace Courier
namespace Received

open Wire Payload

/-- A record with the count that stands in it. -/
structure Counted (ρ : Type) where
  record : ρ
  count : Option UInt32

/-- A span with its counts, and with those of its events and links. -/
structure SpanTally where
  span : Counted Span
  events : List (Counted Event)
  droppedEvents : Option UInt32
  links : List (Counted Link)
  droppedLinks : Option UInt32

structure ScopeTally (τ : Type) where
  scope : Option (Counted Scope)
  records : List τ

structure Tally (τ : Type) where
  resource : Option (Counted Resource)
  scopes : List (ScopeTally τ)

variable {α ρ τ : Type}

/-! ## Readers -/

def Counted.read? (number : Nat) (record? : List Field → Option ρ) (fs : List Field) : Option (Counted ρ) := do
  let record ← record? fs
  let count ← optional? number uint32? fs
  return ⟨record, count⟩

def SpanTally.read? (levels : Nat) (fs : List Field) : Option SpanTally := do
  let span ← Counted.read? 10 (Span.read? levels) fs
  let events ← each? 11 (Counted.read? 4 (Event.read? levels)) fs
  let droppedEvents ← optional? 12 uint32? fs
  let links ← each? 13 (Counted.read? 5 (Link.read? levels)) fs
  let droppedLinks ← optional? 14 uint32? fs
  return ⟨span, events, droppedEvents, links, droppedLinks⟩

/-- A log record with the count that stands in it. -/
def LogRecord.tally? (levels : Nat) : List Field → Option (Counted LogRecord) :=
  Counted.read? 7 (LogRecord.read? levels)

def ScopeTally.read? (levels : Nat) (record? : List Field → Option τ) (fs : List Field) : Option (ScopeTally τ) := do
  let scope ← embedded? 1 (Counted.read? 4 (Scope.read? levels)) fs
  let records ← each? 2 record? fs
  return ⟨scope, records⟩

def Tally.read? (levels : Nat) (record? : List Field → Option τ) (fs : List Field) : Option (Tally τ) := do
  let resource ← embedded? 1 (Counted.read? 2 (Resource.read? levels)) fs
  let scopes ← each? 2 (ScopeTally.read? levels record?) fs
  return ⟨resource, scopes⟩

/-- The tallies of a request of which the records are read by `record?`. -/
def tallies? (record? : Nat → List Field → Option τ) (s : List UInt8) : Option (List (Tally τ)) :=
  (fields? s).bind (each? 1 (Tally.read? (s.length + 1) (record? (s.length + 1))))

/-! ## What is read -/

/-- A count stands unless it is zero. -/
def standing (n : UInt32) : Option UInt32 := if n = 0 then none else some n

def Counted.of (dropped : ρ → UInt32) (record : ρ) : Counted ρ := ⟨record, standing (dropped record)⟩

def SpanTally.of (limits : Limits) (s : Courier.Span) : SpanTally where
  span := .of Span.droppedAttributes (Span.of limits s)
  events := (s.events.take limits.eventCount.toNat).map fun e => .of Event.dropped (Event.of limits.event e)
  droppedEvents := standing (Span.of limits s).droppedEvents
  links := (s.links.take limits.linkCount.toNat).map fun l => .of Link.dropped (Link.of limits.link l)
  droppedLinks := standing (Span.of limits s).droppedLinks

def ScopeTally.of (allowance : Allowance) (record : α → τ) (g : Courier.Scope × List α) : ScopeTally τ where
  scope := some (.of Scope.dropped (Scope.of allowance g.1))
  records := g.2.map record

def Tally.of (allowance : Allowance) (record : α → τ) (r : Courier.Resource) (groups : List (Courier.Scope × List α)) :
    Tally τ where
  resource := some (.of Resource.dropped (Resource.of r))
  scopes := groups.map (ScopeTally.of allowance record)

/-! ## Reading back -/

theorem optional?_count {levels : Nat} {parts : Parts} (h : Fits levels parts) (number : Nat) {n : UInt32}
    (hp : piecesOf number parts = countPieces n) : optional? number uint32? (fieldsOf parts) = some (standing n) := by
  rw [optional?, formed?_fieldsOf number _ h.numbered, hp, countPieces, standing]
  by_cases hn : n = 0
  · rw [if_pos hn, if_pos hn]
    rfl
  · rw [if_neg hn, if_neg hn, List.mapM_cons, uint32?_varint]
    rfl

theorem Counted.reads {levels : Nat} {parts : Parts} {record? : List Field → Option ρ} {record : ρ} (number : Nat)
    (dropped : ρ → UInt32) (h : Reads levels record? parts record)
    (hp : piecesOf number parts = countPieces (dropped record)) :
    Reads levels (read? number record?) parts (of dropped record) where
  numbered := h.numbered
  read hf := by
    rw [read?, h.read hf, optional?_count hf number hp]
    rfl

/-- **A span is read back with the counts that stand in it.** -/
theorem SpanTally.reads (levels : Nat) (limits : Limits) (s : Courier.Span) :
    Reads levels (read? levels) (spanParts limits s) (of limits s) where
  numbered := rfl
  read hf := by
    have h10 := (Counted.reads 10 Span.droppedAttributes (Span.reads levels limits s) rfl).read hf
    have h11 := each?_map hf 11 rfl fun e _ => Counted.reads 4 Event.dropped (Event.reads levels limits.event e) rfl
    have h12 := optional?_count hf 12 rfl
    have h13 := each?_map hf 13 rfl fun l _ => Counted.reads 5 Link.dropped (Link.reads levels limits.link l) rfl
    have h14 := optional?_count hf 14 rfl
    rw [read?, h10, h11, h12, h13, h14]
    rfl

theorem LogRecord.tally_reads (levels : Nat) (limits : Limits) (r : Courier.LogRecord) :
    Reads levels (tally? levels) (logRecordParts limits r) (.of LogRecord.dropped (of limits r)) :=
  Counted.reads 7 LogRecord.dropped (LogRecord.reads levels limits r) rfl

variable {levels : Nat} {record? : List Field → Option τ} {recordParts : α → Parts} {record : α → τ}

theorem ScopeTally.reads (allowance : Allowance) {g : Courier.Scope × List α}
    (h : ∀ x ∈ g.2, Reads levels record? (recordParts x) (record x)) :
    Reads levels (read? levels record?) (scopeGroupParts allowance recordParts g) (of allowance record g) where
  numbered := rfl
  read hf := by
    have hs := embedded?_one hf 1 rfl (Counted.reads 4 Scope.dropped (Scope.reads levels allowance g.1) rfl)
    have hr := each?_map hf 2 rfl h
    rw [read?, hs, hr]
    rfl

theorem Tally.reads (allowance : Allowance) (r : Courier.Resource) {groups : List (Courier.Scope × List α)}
    (h : ∀ g ∈ groups, ∀ x ∈ g.2, Reads levels record? (recordParts x) (record x)) :
    Reads levels (read? levels record?) (resourceGroupParts allowance recordParts r groups)
      (of allowance record r groups) where
  numbered := rfl
  read hf := by
    have hr := embedded?_one hf 1 rfl (Counted.reads 2 Resource.dropped (Resource.reads levels r) rfl)
    have hs := each?_map hf 2 rfl fun g hg => ScopeTally.reads allowance (h g hg)
    rw [read?, hr, hs]
    rfl

/-- **A request is read back from its bytes with the counts that stand in it**, once its records are. -/
theorem tallies?_requestParts (allowance : Allowance) (r : Courier.Resource) {groups : List (Courier.Scope × List α)}
    {record? : Nat → List Field → Option τ}
    (h : ∀ levels, ∀ g ∈ groups, ∀ x ∈ g.2, Reads levels (record? levels) (recordParts x) (record x))
    (hs : (encodeParts (requestParts allowance recordParts r groups)).length < 0x10000000) :
    tallies? record? (encodeParts (requestParts allowance recordParts r groups)) =
      some [Tally.of allowance record r groups] := by
  have hf : Fits ((encodeParts (requestParts allowance recordParts r groups)).length + 1)
      (requestParts allowance recordParts r groups) := ⟨rfl, Nat.lt_succ_self _, hs⟩
  have hp : piecesOf 1 (requestParts allowance recordParts r groups) =
      [r].map fun x => .message (encodeParts (resourceGroupParts allowance recordParts x groups)) := rfl
  have he := each?_map hf 1 hp fun x _ =>
    Tally.reads allowance x (h ((encodeParts (requestParts allowance recordParts r groups)).length + 1))
  rw [tallies?, fields?, fields?_encodeParts _ rfl hs, Option.bind_some]
  exact he

/-! ## What the counts account for -/

/-- What stands for a number: the number as far as 32 bits hold it, and nothing for zero. -/
structure Stated (n : Nat) (count : Option UInt32) : Prop where
  value : (count.getD 0).toNat = min n 0xffffffff
  absent : count = none ↔ n = 0

/-- A record that arrives, and a count of the attributes that are not present in it and of those left out before. -/
structure Counted.Accounts (given : List Courier.Attribute) (upstream : UInt32) (attributes : ρ → List Attribute)
    (arrives : ρ → Prop) (t : Counted ρ) : Prop where
  record : arrives t.record
  count : Stated (given.length - (attributes t.record).length + upstream.toNat) t.count

structure SpanTally.Accounts (limits : Limits) (s : Courier.Span) (t : SpanTally) : Prop where
  span : t.span.Accounts s.attributes s.droppedAttributes Span.attributes (Span.Arrives limits s)
  events : List.Forall₂ (fun e : SpanEvent =>
    Counted.Accounts e.attributes e.dropped Event.attributes (Event.Arrives limits.event e))
    (s.events.take limits.eventCount.toNat) t.events
  droppedEvents : Stated (s.events.length - t.events.length + s.droppedEvents.toNat) t.droppedEvents
  links : List.Forall₂ (fun l : SpanLink =>
    Counted.Accounts l.attributes l.dropped Link.attributes (Link.Arrives limits.link l))
    (s.links.take limits.linkCount.toNat) t.links
  droppedLinks : Stated (s.links.length - t.links.length + s.droppedLinks.toNat) t.droppedLinks

structure ScopeTally.Accounts (allowance : Allowance) (record : α → τ → Prop) (g : Courier.Scope × List α)
    (t : ScopeTally τ) : Prop where
  scope : ∃ s, t.scope = some s ∧ s.Accounts g.1.attributes 0 Scope.attributes (Scope.Arrives allowance g.1)
  records : List.Forall₂ record g.2 t.records

/-- The attributes of a resource have no limits. -/
structure Tally.Accounts (allowance : Allowance) (record : α → τ → Prop) (r : Courier.Resource)
    (groups : List (Courier.Scope × List α)) (t : Tally τ) : Prop where
  resource : ∃ s, t.resource = some s ∧ s.Accounts r.attributes r.dropped Resource.attributes fun s =>
    AttributesArrive .unlimited r.attributes s.attributes
  scopes : List.Forall₂ (ScopeTally.Accounts allowance record) groups t.scopes

theorem toNat_totalDropped (here : Nat) (before : UInt32) :
    (totalDropped here before).toNat = min (here + before.toNat) 0xffffffff := by
  rw [totalDropped, UInt32.toNat_ofNat']
  omega

theorem stated_total (here : Nat) (before : UInt32) :
    Stated (here + before.toNat) (standing (totalDropped here before)) := by
  have htotal := toNat_totalDropped here before
  rw [standing]
  by_cases hn : totalDropped here before = 0
  · rw [hn] at htotal
    have hzero : here + before.toNat = 0 := by
      have h0 : (0 : UInt32).toNat = 0 := rfl
      omega
    rw [if_pos hn, hzero]
    exact ⟨rfl, by decide⟩
  · rw [if_neg hn]
    refine ⟨htotal, iff_of_false nofun fun hzero => hn ?_⟩
    rw [hzero] at htotal
    exact UInt32.toNat_inj.1 htotal

/-- The attributes that are not kept of an answered collection are stated. -/
theorem stated_dropped {allowance : Allowance} {given as : List Courier.Attribute}
    (h : AnsweredAttributes allowance given as) (before : UInt32) :
    Stated (given.length - (Attribute.kept allowance as).length + before.toNat)
      (standing (Attribute.dropped allowance before as)) := by
  rw [← h.length_eq]
  exact stated_total _ before

theorem Resource.accounts {r r' : Courier.Resource} (h : r.Answered r') :
    (Counted.of Resource.dropped (of r')).Accounts r.attributes r.dropped Resource.attributes fun s =>
      AttributesArrive .unlimited r.attributes s.attributes := by
  obtain ⟨has⟩ := h
  exact ⟨.of has, stated_dropped has r.dropped⟩

theorem Scope.accounts (allowance : Allowance) {s s' : Courier.Scope} (h : s.Answered allowance s') :
    (Counted.of Scope.dropped (of allowance s')).Accounts s.attributes 0 Scope.attributes (Arrives allowance s) := by
  have harrives := Scope.arrives allowance h
  obtain ⟨has⟩ := h
  exact ⟨harrives, stated_dropped has 0⟩

theorem Event.accounts (allowance : Allowance) {e e' : SpanEvent} (h : e.Answered allowance e') :
    (Counted.of Event.dropped (of allowance e')).Accounts e.attributes e.dropped Event.attributes
      (Arrives allowance e) := by
  have harrives := Event.arrives allowance h
  obtain ⟨has⟩ := h
  exact ⟨harrives, stated_dropped has e.dropped⟩

theorem Link.accounts (allowance : Allowance) {l l' : SpanLink} (h : l.Answered allowance l') :
    (Counted.of Link.dropped (of allowance l')).Accounts l.attributes l.dropped Link.attributes
      (Arrives allowance l) := by
  have harrives := Link.arrives allowance h
  obtain ⟨has⟩ := h
  exact ⟨harrives, stated_dropped has l.dropped⟩

theorem LogRecord.accounts (limits : Limits) {r r' : Courier.LogRecord} (h : r.Answered limits r') :
    (Counted.of LogRecord.dropped (of limits r')).Accounts r.attributes 0 LogRecord.attributes (Arrives limits r) := by
  have harrives := LogRecord.arrives limits h
  obtain ⟨-, has⟩ := h
  exact ⟨harrives, stated_dropped has 0⟩

/-- The members that were not taken are stated. -/
theorem stated_taken {R : α → τ → Prop} {xs : List α} {ys : List τ} {n : Nat} (h : List.Forall₂ R (xs.take n) ys)
    (before : UInt32) :
    Stated (xs.length - ys.length + before.toNat) (standing (totalDropped (xs.length - n) before)) := by
  have hlength := h.length_eq
  rw [List.length_take] at hlength
  rw [show xs.length - ys.length = xs.length - n by omega]
  exact stated_total _ before

/-- **The counts of an answered span account for its attributes, its events and its links, and those of these.** -/
theorem SpanTally.accounts (limits : Limits) {s s' : Courier.Span} (h : s.Answered limits s') :
    (of limits s').Accounts limits s := by
  have harrives := Span.arrives limits h
  obtain ⟨has, hes, hls⟩ := h
  -- Events and links behind the limits stand in the answered span too, so its counts are those of the given one.
  obtain ⟨htake, hlength⟩ := take_answered hes
  obtain ⟨htake', hlength'⟩ := take_answered hls
  have hevents := forall₂_of hes fun _ _ => Event.accounts limits.event
  have hlinks := forall₂_of hls fun _ _ => Link.accounts limits.link
  refine ⟨⟨harrives, stated_dropped has s.droppedAttributes⟩, ?_, ?_, ?_, ?_⟩
  · rwa [of, htake]
  · simp only [of, Span.of, htake, hlength]
    exact stated_taken hevents s.droppedEvents
  · rwa [of, htake']
  · simp only [of, Span.of, htake', hlength']
    exact stated_taken hlinks s.droppedLinks

theorem ScopeTally.accounts {allowance : Allowance} {R : α → α → Prop} {S : α → τ → Prop} {record : α → τ}
    {g g' : Courier.Scope × List α} (h : GroupAnswered allowance R g g') (hr : ∀ x y, R x y → S x (record y)) :
    (of allowance record g').Accounts allowance S g :=
  ⟨⟨_, rfl, Scope.accounts allowance h.1⟩, forall₂_of h.2 hr⟩

/-- **The counts of an answered request account for what was given**, if those of its records do. -/
theorem Tally.accounts {allowance : Allowance} {R : α → α → Prop} {S : α → τ → Prop} {record : α → τ}
    {r r' : Courier.Resource} {groups groups' : List (Courier.Scope × List α)} (h : r.Answered r')
    (hg : List.Forall₂ (GroupAnswered allowance R) groups groups') (hr : ∀ x y, R x y → S x (record y)) :
    (of allowance record r' groups').Accounts allowance S r groups :=
  ⟨⟨_, rfl, Resource.accounts h⟩, forall₂_of hg fun _ _ h => ScopeTally.accounts h hr⟩

end Received
end Courier
