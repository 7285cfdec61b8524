import Courier.Proofs.Batch.Slots
import Courier.Proofs.Exporter.Payload
/-!
# Shut - exports of an exporter that was shut down

An export looks at the shutdown only once its payload is written.  Main statements: an exporter that was shut down
makes no attempt and rejects each payload as one that came after the shutdown, but a batch with no payload it reports
as too large (`export_of_shut`), and there are such batches (`export_of_shut_tooLarge`).
-/
namespace Courier

/-- Nothing is delivered and nothing asked of a client that was shut down before. -/
theorem Delivery.withheld_of_shut {σ : Type} {handler : Handler σ} (h : handler.shut = true)
    (result : Except Fault Result) (kind : Client σ) (around : Surroundings) (now : Moment) :
    (withheld result kind around handler now).result = result ∧ (withheld result kind around handler now).starts = [] ∧
      (withheld result kind around handler now).handler = handler := by
  have hfire : ∀ c : Course σ, c.handler = handler → (c.fire kind).handler = handler := by
    rintro c rfl
    simp only [Course.fire, Handler.shutdown, h, if_true]
  refine ⟨rfl, rfl, ?_⟩
  simp only [withheld, Course.settle]
  split
  · exact hfire _ rfl
  · rfl

namespace Exporter

open Wire Buffer

variable {σ : Type} {e : Exporter σ} {resource : Resource} {batch : Batch}

/-- **An exporter that was shut down makes no attempt**, whatever is exported, and leaves its client as it is.  Each
batch that can be written is rejected because of the shutdown; one that is too large is reported as such. -/
theorem export_of_shut (kind : Client σ) (around : Surroundings) (now : Moment) (hs : e.handler.shut = true)
    (hr : ∀ d ∈ resource.deferrals, d.Calm) (hb : ∀ d ∈ batch.deferrals, d.Calm) :
    ∃ d e', e.exportOf? kind around now resource batch = some (d, e') ∧ d.starts = [] ∧ d.handler = e.handler ∧
      e'.handler = e.handler ∧
      ((∃ finish, (batch.write e.limits resource 0 e.buffer).1 = .written finish ∧
          d.result = .ok (.error .alreadyShutdown)) ∨
        ((batch.write e.limits resource 0 e.buffer).1 = .tooLarge ∧ d.result = .ok (.error e.tooLarge))) := by
  obtain ⟨body, hput, hbody⟩ := Batch.composed e.limits hr hb
  rw [exportOf?_eq]
  rcases hwrite : batch.write e.limits resource 0 e.buffer with ⟨outcome, buffer⟩
  have hfill : fill (message 1 body) 0 e.buffer {} = (outcome, buffer) := by rw [← hput, ← hwrite, Batch.write]
  have hcases := fill_message hbody 1 0 e.buffer {}
  rw [hfill] at hcases
  simp only [payload, hwrite]
  obtain ⟨finish, -, rfl, -⟩ | rfl | ⟨d, earlier, reason, hcalm, habort, -⟩ := hcases
  · obtain ⟨d, hd, hresult, hstarts, hhandler⟩ :=
      Delivery.deliver?_of_shut e.transmission kind around hs now (buffer.extract 0 finish)
    simp only [hd, Option.map_some]
    exact ⟨d, _, rfl, hstarts, hhandler, hhandler, .inl ⟨finish, rfl, hresult⟩⟩
  · obtain ⟨hresult, hstarts, hhandler⟩ :=
      Delivery.withheld_of_shut hs (.ok (.error e.tooLarge)) kind around now
    exact ⟨_, _, rfl, hstarts, hhandler, hhandler, .inr ⟨rfl, hresult⟩⟩
  · -- Only a deferred text that breaks off could keep the export from an answer.
    exact absurd habort (hcalm earlier reason)

/-- An exporter of logs after its shutdown. -/
def closed : Exporter Scripted.State := (scripted.shutdown Scripted.client).2

/-- A clock that shows the same wall time always, and no scheduled shutdown. -/
def still : Surroundings := { clock := { tick := 1000000, wall := fun _ => ⟨0⟩ }, draws := fun _ => 0 }

/-- A text that is there for the first request only. -/
def fleeting : Deferred := ⟨0, fun earlier => if earlier = 0 then .text "x" else .failed⟩

theorem calm_fleeting : fleeting.Calm := by
  intro earlier reason
  show (if earlier = 0 then Rendering.text "x" else .failed) ≠ .aborted reason
  split <;> exact Rendering.noConfusion

theorem export_of_shut_fleeting :
    closed.handler.shut = true ∧ (∀ d ∈ Resource.deferrals {}, d.Calm) ∧
    (∀ d ∈ (Batch.logs [{ body := some (.deferred fleeting) }]).deferrals, d.Calm) ∧
    ∃ d e', closed.exportOf? Scripted.client still .zero {} (.logs [{ body := some (.deferred fleeting) }]) =
        some (d, e') ∧ d.starts = [] ∧ d.handler = closed.handler ∧ e'.handler = closed.handler ∧
      ((∃ finish, ((Batch.logs [{ body := some (.deferred fleeting) }]).write closed.limits {} 0 closed.buffer).1 =
          .written finish ∧ d.result = .ok (.error .alreadyShutdown)) ∨
        (((Batch.logs [{ body := some (.deferred fleeting) }]).write closed.limits {} 0 closed.buffer).1 = .tooLarge ∧
          d.result = .ok (.error closed.tooLarge))) := by
  have hs : closed.handler.shut = true := rfl
  have hr : ∀ d ∈ Resource.deferrals {}, d.Calm := List.forall_mem_nil _
  have hb : ∀ d ∈ (Batch.logs [{ body := some (.deferred fleeting) }]).deferrals, d.Calm :=
    List.forall_mem_singleton.2 calm_fleeting
  exact ⟨hs, hr, hb, export_of_shut Scripted.client still .zero hs hr hb⟩

/-- The shutdown is not what is reported where the payload would not fit. -/
theorem export_of_shut_tooLarge :
    closed.handler.shut = true ∧ Resource.deferrals (Batch.longUrl maxSize) = [] ∧ (Batch.logs []).deferrals = [] ∧
    ∃ d e', closed.exportOf? Scripted.client still .zero (Batch.longUrl maxSize) (.logs []) = some (d, e') ∧
      d.result = .ok (.error (.failed (Batch.tooLargeMessage .logs))) ∧
      d.result ≠ .ok (.error .alreadyShutdown) := by
  have hb : (Batch.logs []).Steady := List.forall_mem_nil _
  obtain ⟨room, hw⟩ := Batch.puts closed.limits (Batch.steady_longUrl maxSize) hb
  obtain ⟨content, hlong, hbytes⟩ := Batch.parts_longUrl closed.limits (show 0 < maxSize by decide)
  have hroom : ¬ room ≤ maxSize := by
    have hle := hw.length_le
    rw [hbytes, length_enclosed, Varint.slotSize] at hle
    omega
  have hpayload : closed.payload (Batch.longUrl maxSize) (.logs []) = .error (.ok (.error closed.tooLarge)) := by
    rw [payload_of_emits hw (Nat.zero_le _), if_neg hroom]
  rw [exportOf?_eq, hpayload]
  refine ⟨rfl, rfl, rfl, _, _, rfl, rfl, fun h => ?_⟩
  cases h

end Exporter
end Courier
