import Courier.Proofs.Buffer.Tries
import Courier.Proofs.Payload.Answered.Records
/-!
# Ended - what a write that ended leaves in the buffer

Main statement: where the payload of a request was written, the bytes behind the offset are the request as its
deferred texts were answered (`Buffer.fill_request`), however often the write started over.
-/
namespace Courier
namespace Buffer

open Wire Payload

variable {offset finish : Nat} {buffer : ByteArray} {renders : Renders}

/-- What a write leaves behind its offset is what its last try ended in. -/
theorem fill_ends {w : Write Unit} {Q : Unit → List UInt8 → Prop} (hw : Ends w Q) (ho : StopsOutside w)
    (h : (fill w offset buffer renders).1 = .written finish) : ∃ xs, Q () xs ∧
      ((fill w offset buffer renders).2.extract offset finish).data.toList = xs ∧ finish = offset + xs.length := by
  obtain ⟨k, last, renders', -, hfill, -⟩ := fill_last w offset buffer renders
  rw [hfill] at h ⊢
  cases hrun : w ⟨last, offset, renders'⟩ with
  | error e c =>
    rw [hrun] at h
    cases e <;> cases h
  | ok _ c =>
    rw [hrun] at h
    cases h
    have hin : offset ≤ last.size := Nat.not_lt.1 fun hout => by
      rw [ho ⟨last, offset, renders'⟩ hout] at hrun
      cases hrun
    obtain ⟨xs, wrote, answers⟩ := hw ⟨last, offset, renders'⟩ () c hin hrun
    refine ⟨xs, answers, ?_, wrote.pos⟩
    rw [leftOff, toList_extract, ← Cursor.behind, wrote.behind]
    exact List.drop_left' (length_front hin)

/-- **A request that was written is the request as its deferred texts were answered**, so it is read as such. -/
theorem fill_request {α τ : Type} {allowance : Allowance} {put : Nat → α → Write Unit} {record : α → Parts}
    {R : α → α → Prop} {resource : Resource} {groups : List (Scope × List α)} {read? : List UInt8 → Option τ}
    {received : Resource → List (Scope × List α) → τ}
    (hput : ∀ x, PutsSome (put 2 x) (R x) fun y => [(2, [.message (encodeParts (record y))])])
    (hread : ∀ r gs, (encodeParts (requestParts allowance record r gs)).length < 0x10000000 →
      read? (encodeParts (requestParts allowance record r gs)) = some (received r gs))
    (h : (fill (putRequest allowance put resource groups) offset buffer {}).1 = .written finish)
    (hshort : finish < offset + 0x10000000) :
    ∃ resource' groups', resource.Answered resource' ∧ List.Forall₂ (GroupAnswered allowance R) groups groups' ∧
      read? ((fill (putRequest allowance put resource groups) offset buffer {}).2.extract offset finish).data.toList =
        some (received resource' groups') := by
  have hends : PutsSome (putRequest allowance put resource groups) _ _ :=
    putsSome_request resource fun g _ x _ => hput x
  obtain ⟨_, ⟨⟨resource', groups'⟩, ⟨hr, hg⟩, rfl⟩, hbytes, hfinish⟩ :=
    fill_ends hends (message_stopsOutside 1 _) h
  refine ⟨resource', groups', hr, hg, ?_⟩
  rw [hfinish] at hshort
  rw [hbytes]
  exact hread resource' groups' (Nat.lt_of_add_lt_add_left hshort)

end Buffer
end Courier
