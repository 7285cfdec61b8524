import Courier.Client.Scripted
import Courier.Exporter
import Courier.Proofs.Batch.Frame
/-!
# Payload - what an export hands over

Before anything is delivered, an export writes its batch into the buffer of its exporter: `payload` is what that
comes to, and all that a delivery gets of it (`exportOf?_eq`).  Main statement: if every request for a deferred text
is answered alike, no earlier export matters to it (`payload_eq_of_alike`).
-/
namespace Courier
namespace Exporter

open Wire Buffer

variable {σ : Type}

/-- What an export hands over to be delivered, or what it comes to without. -/
def payload (e : Exporter σ) (resource : Resource) (batch : Batch) : Except (Except Fault Result) ByteArray :=
  match batch.write e.limits resource 0 e.buffer with
  | (.written stop, buffer) => .ok (buffer.extract 0 stop)
  | (.tooLarge, _) => .error (.ok (.error e.tooLarge))
  | (.aborted reason, _) => .error (.error (.aborted reason))

theorem payload_congr {e e' : Exporter σ} (limits : e.limits = e'.limits) (transmission : e.transmission = e'.transmission)
    (buffer : e.buffer = e'.buffer) (resource : Resource) (batch : Batch) :
    e.payload resource batch = e'.payload resource batch := by
  unfold payload tooLarge
  rw [limits, transmission, buffer]

/-- The exporter with the buffer that an export leaves. -/
def afterWrite (e : Exporter σ) (resource : Resource) (batch : Batch) : Exporter σ :=
  { e with buffer := (batch.write e.limits resource 0 e.buffer).2 }

/-- The exporter as it is built, with nothing in its buffer. -/
def fresh (e : Exporter σ) : Exporter σ := { e with buffer := ByteArray.empty }

theorem size_fresh (e : Exporter σ) : e.fresh.buffer.size ≤ maxSize := Nat.zero_le _

variable {e : Exporter σ} {resource : Resource} {batch : Batch}

/-- **An export is its payload, delivered or withheld.** -/
theorem exportOf?_eq (e : Exporter σ) (kind : Client σ) (around : Surroundings) (now : Moment) (resource : Resource)
    (batch : Batch) : e.exportOf? kind around now resource batch =
      (match e.payload resource batch with
        | .ok body => Delivery.deliver? e.transmission kind around e.handler now body
        | .error result => some (.withheld result kind around e.handler now)).map
        fun d => (d, { e.afterWrite resource batch with handler := d.handler }) := by
  rcases hwrite : batch.write e.limits resource 0 e.buffer with ⟨outcome, buffer⟩
  simp only [exportOf?, payload, afterWrite, hwrite]
  cases outcome <;> rfl

/-- The buffer of an exporter does not outgrow the largest size. -/
theorem size_afterWrite (h : e.buffer.size ≤ maxSize) (resource : Resource) (batch : Batch) :
    (e.afterWrite resource batch).buffer.size ≤ maxSize :=
  Nat.le_trans (fill_size_le (Batch.put_contained e.limits resource batch) 0 e.buffer {})
    (Nat.max_le.2 ⟨h, Nat.le_refl _⟩)

theorem payload_of_emits {room : Nat} {bytes : List UInt8}
    (hw : EmitsIn room (batch.put e.limits resource) () bytes) (h : e.buffer.size ≤ maxSize) :
    e.payload resource batch =
      if room ≤ maxSize then .ok bytes.toByteArray else .error (.ok (.error e.tooLarge)) := by
  obtain ⟨hfits, hlarge⟩ := Batch.write_cases hw 0 h
  rcases hwrite : batch.write e.limits resource 0 e.buffer with ⟨outcome, buffer⟩
  rw [hwrite, Nat.zero_add] at hfits hlarge
  simp only [payload, hwrite]
  by_cases hroom : room ≤ maxSize
  · obtain ⟨rfl, hbytes⟩ := hfits hroom
    have hextract : buffer.extract 0 (0 + bytes.length) = bytes.toByteArray := by
      apply ByteArray.ext
      apply Array.toList_inj.1
      rw [hbytes, List.data_toByteArray]
    simp only [if_pos hroom, hextract]
  · obtain rfl := hlarge (Nat.lt_of_not_le hroom)
    rw [if_neg hroom]

theorem payload_of_breaks {room : Nat} {reason : String} (hw : BreaksIn room (batch.put e.limits resource) reason)
    (h : e.buffer.size ≤ maxSize) : e.payload resource batch =
      if room ≤ maxSize then .error (.error (.aborted reason)) else .error (.ok (.error e.tooLarge)) := by
  have ho := Batch.put_stopsOutside e.limits resource batch
  have hbreak : 0 + room ≤ maxSize → (batch.write e.limits resource 0 e.buffer).1 = .aborted reason := fun hfit =>
    fill_breaks hw ho hfit e.buffer {}
  have hlarge : maxSize < 0 + room → (batch.write e.limits resource 0 e.buffer).1 = .tooLarge := fun hfit =>
    fill_tooLarge (.of_breaks hw ho) hfit h {}
  rcases hwrite : batch.write e.limits resource 0 e.buffer with ⟨outcome, buffer⟩
  rw [hwrite, Nat.zero_add] at hbreak hlarge
  simp only [payload, hwrite]
  by_cases hroom : room ≤ maxSize
  · obtain rfl := hbreak hroom
    rw [if_pos hroom]
  · obtain rfl := hlarge (Nat.lt_of_not_le hroom)
    rw [if_neg hroom]

/-- **Earlier exports do not matter to a payload**: with deferred texts that answer alike it is, from any buffer that
an exporter can have, the payload of the exporter as it is built. -/
theorem payload_eq_of_alike (hr : ∀ d ∈ resource.deferrals, d.Alike) (hb : ∀ d ∈ batch.deferrals, d.Alike)
    (h : e.buffer.size ≤ maxSize) : e.payload resource batch = e.fresh.payload resource batch := by
  obtain ⟨body, hput, hbody⟩ := Batch.composed e.limits hr hb
  obtain ⟨u, bytes, room, hw⟩ | ⟨reason, room, hw⟩ := (hbody.message 1).settled
  · rw [← hput] at hw
    rw [payload_of_emits hw h, payload_of_emits (e := e.fresh) hw e.size_fresh]
    rfl
  · rw [← hput] at hw
    rw [payload_of_breaks hw h, payload_of_breaks (e := e.fresh) hw e.size_fresh]
    rfl

/-- An exporter of logs with a scripted client. -/
def scripted : Exporter Scripted.State :=
  { transmission := { signal := .logs, timeout := .ofSeconds 10, repeats := true }, handler := { client := {} }
    limits := {} }

end Exporter
end Courier
