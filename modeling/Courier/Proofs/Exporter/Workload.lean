import Courier.Proofs.Exporter.Payload
import Courier.Proofs.Transmission.Traffic
/-!
# Workload - the exports of one exporter, in any order

Any number of exports share the buffer of their exporter.  One after the other they get hold of it, write their
batches, well or not, and let go of it; their transmissions go on in any order.  No export has to come to its end, so
one that its caller gives up is there as well.  Main statement: each export hands over what it would hand over alone,
or comes to nothing as it would alone (`exports_apart`).
-/
namespace Courier

open Transmission (History Event)

/-- Where an export stands. -/
inductive Standing
  /-- It waits for the buffer. -/
  | queued
  /-- Its payload was handed over to a transmission. -/
  | sent (history : History)
  | withheld (result : Except Fault Result)

/-- An event is news only to a transmission. -/
def Standing.heard (t : Transmission) (now : Moment) (shut : Bool) (event : Event) : Standing → Standing
  | .sent h => .sent (h.step t ⟨now.since h.now, shut, event⟩)
  | .queued => .queued
  | .withheld result => .withheld result

structure Export where
  resource : Resource
  batch : Batch
  standing : Standing := .queued

structure Workload (σ : Type) where
  exporter : Exporter σ
  now : Moment
  /-- Its exports, in the order in which they were asked for. -/
  exports : List Export := []

namespace Workload

variable {σ : Type}

/-- What happens to an exporter in use. -/
inductive Occurrence (σ : Type)
  /-- An export is asked for. -/
  | call (resource : Resource) (batch : Batch)
  /-- The export with that number gets hold of the buffer. -/
  | write (i : Nat)
  /-- Something happens to the transmission of the export with that number. -/
  | event (i : Nat) (event : Event)
  /-- An attempt leaves the client in another state. -/
  | client (next : σ)
  /-- An attempt calls off all transmissions. -/
  | callOff
  | shutdown

/-- Where an export stands once its batch is written.  Its transmission begins at once. -/
def written (e : Exporter σ) (now : Moment) (x : Export) : Standing :=
  match e.payload x.resource x.batch with
  | .ok body => .sent (History.begun e.transmission body e.handler.shut now)
  | .error result => .withheld result

def occur (kind : Client σ) (s : Workload σ) : Occurrence σ → Workload σ
  | .call resource batch => { s with exports := s.exports ++ [{ resource, batch }] }
  | .write i =>
    match s.exports[i]? with
    | some x =>
      match x.standing with
      | .queued =>
        { s with
          exporter := s.exporter.afterWrite x.resource x.batch
          exports := s.exports.set i { x with standing := written s.exporter s.now x } }
      | _ => s
    | none => s
  | .event i event =>
    let heard := Standing.heard s.exporter.transmission s.now s.exporter.handler.shut event
    { s with exports := s.exports.modify i fun x => { x with standing := heard x.standing } }
  | .client next => { s with exporter.handler.client := next }
  | .callOff => { s with exporter.handler.shut := true }
  | .shutdown => { s with exporter := (s.exporter.shutdown kind).2 }

/-- An occurrence so long after the one before it. -/
def step (kind : Client σ) (s : Workload σ) (x : Duration × Occurrence σ) : Workload σ :=
  occur kind { s with now := s.now.add x.1 } x.2

def run (kind : Client σ) (s : Workload σ) (xs : List (Duration × Occurrence σ)) : Workload σ :=
  xs.foldl (step kind) s

def idle (e : Exporter σ) (began : Moment) : Workload σ := { exporter := e.fresh, now := began }

/-! ## Transmissions of one payload -/

/-- A history is that of a transmission of the payload, begun before the shutdown of the exporter or after it. -/
def Sends (t : Transmission) (body : ByteArray) (h : History) : Prop :=
  (∃ began ys, h = History.run t body began ys) ∨ h.phase = .ended 0 (.rejected .alreadyShutdown) ∧ h.rounds = []

theorem sends_begun (t : Transmission) (body : ByteArray) (shut : Bool) (now : Moment) :
    Sends t body (History.begun t body shut now) := by
  cases shut with
  | false => exact .inl ⟨now, [], rfl⟩
  | true => exact .inr ⟨rfl, rfl⟩

variable {t : Transmission} {body : ByteArray} {h : History}

theorem Sends.step (hs : Sends t body h) (x : Transmission.Happening) : Sends t body (h.step t x) := by
  obtain ⟨began, ys, rfl⟩ | ⟨hphase, hrounds⟩ := hs
  · exact .inl ⟨began, ys ++ [x], (History.run_concat ..).symm⟩
  · rw [History.step_of_ended hphase]
    exact .inr ⟨hphase, hrounds⟩

theorem Sends.bodies (hs : Sends t body h) : ∀ r ∈ h.rounds, r.body = body := by
  obtain ⟨began, ys, rfl⟩ | ⟨-, hrounds⟩ := hs
  · exact (History.sound_run t body began ys).kept.bodies
  · rw [hrounds]
    exact List.forall_mem_nil _

/-! ## Exports apart from each other -/

/-- An export stands where it would stand as the only one of its exporter. -/
inductive Apart (e : Exporter σ) (x : Export) : Prop
  /-- It has come to nothing yet. -/
  | queued (h : x.standing = .queued)
  /-- Alone it would send the same payload, and this is what its attempts carry. -/
  | sent {history : History} {body : ByteArray} (h : x.standing = .sent history)
    (alone : e.fresh.payload x.resource x.batch = .ok body) (sends : Sends e.transmission body history)
    (bodies : ∀ r ∈ history.rounds, r.body = body)
  /-- Alone it would come to the same, and there is no attempt. -/
  | withheld {result : Except Fault Result} (h : x.standing = .withheld result)
    (alone : e.fresh.payload x.resource x.batch = .error result)

/-- Every request for a deferred text of the export is answered alike. -/
def Pure (resource : Resource) (batch : Batch) : Prop :=
  (∀ d ∈ resource.deferrals, d.Alike) ∧ ∀ d ∈ batch.deferrals, d.Alike

/-- What holds of an exporter in use, whatever happens to it. -/
structure Sound (e : Exporter σ) (s : Workload σ) : Prop where
  limits : s.exporter.limits = e.limits
  transmission : s.exporter.transmission = e.transmission
  size : s.exporter.buffer.size ≤ Buffer.maxSize
  exports : ∀ x ∈ s.exports, Pure x.resource x.batch → Apart e x

variable {e : Exporter σ} {s : Workload σ}

theorem sound_idle (e : Exporter σ) (began : Moment) : (idle e began).Sound e where
  limits := rfl
  transmission := rfl
  size := e.size_fresh
  exports := List.forall_mem_nil _

theorem Sound.payload_eq (hs : s.Sound e) {resource : Resource} {batch : Batch} (hp : Pure resource batch) :
    s.exporter.payload resource batch = e.fresh.payload resource batch := by
  rw [Exporter.payload_eq_of_alike hp.1 hp.2 hs.size]
  have hlimits : s.exporter.fresh.limits = e.fresh.limits := hs.limits
  have htransmission : s.exporter.fresh.transmission = e.fresh.transmission := hs.transmission
  exact Exporter.payload_congr hlimits htransmission rfl resource batch

/-- An export that gets hold of the buffer leaves it as it would alone. -/
theorem Sound.apart_written (hs : s.Sound e) (now : Moment) {x : Export} (hp : Pure x.resource x.batch) :
    Apart e { x with standing := written s.exporter now x } := by
  have hpayload := hs.payload_eq hp
  unfold written
  cases halone : e.fresh.payload x.resource x.batch with
  | ok body =>
    rw [hpayload, halone]
    have hsends : Sends e.transmission body (History.begun s.exporter.transmission body s.exporter.handler.shut now) := by
      rw [hs.transmission]
      exact sends_begun ..
    exact .sent rfl halone hsends hsends.bodies
  | error result =>
    rw [hpayload, halone]
    exact .withheld rfl halone

theorem Apart.heard {x : Export} (ha : Apart e x) (now : Moment) (shut : Bool) (event : Event) :
    Apart e { x with standing := x.standing.heard e.transmission now shut event } := by
  cases ha with
  | queued h => exact .queued (by rw [h]; rfl)
  | @sent history body h alone sends _ =>
    have hsends := sends.step ⟨now.since history.now, shut, event⟩
    exact .sent (by rw [h]; rfl) alone hsends hsends.bodies
  | withheld h alone => exact .withheld (by rw [h]; rfl) alone

theorem Sound.step (hs : s.Sound e) (kind : Client σ) (x : Duration × Occurrence σ) : (s.step kind x).Sound e := by
  obtain ⟨gap, occurrence⟩ := x
  cases occurrence with
  | call resource batch =>
    refine ⟨hs.limits, hs.transmission, hs.size, List.forall_mem_append.2 ⟨hs.exports, ?_⟩⟩
    exact List.forall_mem_singleton.2 fun _ => .queued rfl
  | write i =>
    have hlater : ({ s with now := s.now.add gap } : Workload σ).Sound e := ⟨hs.limits, hs.transmission, hs.size, hs.exports⟩
    cases hi : s.exports[i]? with
    | none => simpa only [Workload.step, occur, hi] using hlater
    | some x =>
      cases hx : x.standing with
      | queued =>
        simp only [Workload.step, occur, hi, hx]
        refine ⟨hs.limits, hs.transmission, Exporter.size_afterWrite hs.size x.resource x.batch, fun y hy hp => ?_⟩
        -- The other exports stand as before; the buffer that they find does not matter to them.
        obtain hold | rfl := List.mem_or_eq_of_mem_set hy
        · exact hs.exports y hold hp
        · exact hs.apart_written (s.now.add gap) hp
      | sent h => simpa only [Workload.step, occur, hi, hx] using hlater
      | withheld result => simpa only [Workload.step, occur, hi, hx] using hlater
  | event i event =>
    refine ⟨hs.limits, hs.transmission, hs.size, fun y hy hp => ?_⟩
    obtain ⟨j, hj⟩ := List.mem_iff_getElem?.1 hy
    simp only [Workload.step, occur, List.getElem?_modify, Option.map_eq_map, Option.map_eq_some_iff] at hj
    obtain ⟨x, hx, hstep⟩ := hj
    split at hstep
    · subst hstep
      have ha := (hs.exports x (List.mem_of_getElem? hx) hp).heard (s.now.add gap) s.exporter.handler.shut event
      rwa [← hs.transmission] at ha
    · exact hs.exports y (hstep ▸ List.mem_of_getElem? hx) hp
  | client next => exact ⟨hs.limits, hs.transmission, hs.size, hs.exports⟩
  | callOff => exact ⟨hs.limits, hs.transmission, hs.size, hs.exports⟩
  | shutdown => exact ⟨hs.limits, hs.transmission, hs.size, hs.exports⟩

theorem Sound.run (hs : s.Sound e) (kind : Client σ) (xs : List (Duration × Occurrence σ)) : (s.run kind xs).Sound e := by
  induction xs generalizing s with
  | nil => exact hs
  | cons x xs ih => exact ih (hs.step kind x)

/-- **Exports that share a buffer do not meddle with each other.** Whatever happens to an exporter, each export whose
deferred texts answer alike hands over the very bytes, or comes to the very end without, that it would as the only
export of an exporter just built; and so does any export that comes next. -/
theorem exports_apart (e : Exporter σ) (kind : Client σ) (began : Moment) (xs : List (Duration × Occurrence σ)) :
    (∀ x ∈ ((idle e began).run kind xs).exports, Pure x.resource x.batch → Apart e x) ∧
    ∀ resource batch, Pure resource batch →
      ((idle e began).run kind xs).exporter.payload resource batch = e.fresh.payload resource batch ∧
      ∀ around now, (((idle e began).run kind xs).exporter.exportOf? kind around now resource batch).map Prod.fst =
        (((idle e began).run kind xs).exporter.fresh.exportOf? kind around now resource batch).map Prod.fst := by
  have hs := (sound_idle e began).run kind xs
  refine ⟨hs.exports, fun resource batch hp => ⟨hs.payload_eq hp, fun around now => ?_⟩⟩
  have hpayload := Exporter.payload_eq_of_alike (e := ((idle e began).run kind xs).exporter) hp.1 hp.2 hs.size
  -- The two exporters differ in their buffers only, and a delivery sees these only through the payload.
  rw [Exporter.exportOf?_eq, Exporter.exportOf?_eq, hpayload, Option.map_map, Option.map_map]
  rfl

/-- A batch that breaks off after its first attribute. -/
def broken : Batch := .logs [{ attributes := [("a", .int 1), ("b", .deferred ⟨0, fun _ => .aborted "unwound"⟩)] }]

/-- A batch with deferred texts that are answered alike. -/
def whole : Batch := .logs [{ attributes := deferredPair }]

/-- Two exports are asked for, the first breaks off in the middle of its payload, and then the second is written. -/
def afterBreak : List (Duration × Occurrence Scripted.State) :=
  [(.zero, .call {} broken), (.zero, .call {} whole), (.ofMillis 1, .write 0), (.ofMillis 1, .write 1)]

theorem written_ne_queued (e : Exporter σ) (now : Moment) (x : Export) : written e now x ≠ .queued := by
  unfold written
  split <;> exact Standing.noConfusion

theorem exports_apart_afterBreak :
    Pure {} whole ∧ ∃ x, ((idle Exporter.scripted .zero).run Scripted.client afterBreak).exports[1]? = some x ∧
      x.batch = whole ∧ x.standing ≠ .queued ∧ Apart Exporter.scripted x := by
  have hp : Pure {} whole :=
    ⟨List.forall_mem_nil _, List.forall_mem_cons.2 ⟨fun _ => rfl, List.forall_mem_singleton.2 fun _ => rfl⟩⟩
  obtain ⟨hexports, -⟩ := exports_apart Exporter.scripted Scripted.client .zero afterBreak
  exact ⟨hp, _, rfl, rfl, written_ne_queued _ _ _, hexports _ (List.mem_of_getElem? (i := 1) rfl) hp⟩

end Workload
end Courier
