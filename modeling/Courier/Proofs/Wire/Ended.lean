import Courier.Proofs.Wire.Emission
/-!
# Ended - what a step has put when it answers

A deferred text may give another text at each request, so a writer that holds some is no function of its batch.
`Ends w Q` says what is left of that: whenever `w` starts inside a buffer and answers, it has put bytes at its position
that `Q` allows for the answer.  It is kept by sequencing (`Ends.bind`) and by putting a message around a body
(`Ends.message`, `Ends.messageIf`), and a step that emits ends in what it emits (`Emits.ends`).
-/
namespace Courier
namespace Wire

variable {α β : Type} {w : Write α} {f : α → Write β} {a : α} {b : β} {xs : List UInt8}

/-- When the step answers, it has put bytes that are allowed for its answer. -/
def Ends (w : Write α) (Q : α → List UInt8 → Prop) : Prop :=
  ∀ c a c', c.pos ≤ c.buffer.size → w c = .ok a c' → ∃ xs, Wrote c c' xs ∧ Q a xs

variable {Q Q' : α → List UInt8 → Prop} {R : α → β → List UInt8 → Prop}

theorem Ends.mono (h : Ends w Q) (hq : ∀ a xs, Q a xs → Q' a xs) : Ends w Q' := by
  intro c a c' hc hw
  obtain ⟨xs, wrote, answers⟩ := h c a c' hc hw
  exact ⟨xs, wrote, hq a xs answers⟩

/-- A step that emits has no other way to end. -/
theorem Emits.ends (h : Emits w a xs) : Ends w fun b ys => b = a ∧ ys = xs := by
  intro c b c' hc hw
  obtain ⟨room, -, hfit, hfull⟩ := h
  by_cases hroom : c.pos + room ≤ c.buffer.size
  · obtain ⟨c₁, h₁, w₁⟩ := hfit c hroom
    cases hw.symm.trans h₁
    exact ⟨xs, w₁, rfl, rfl⟩
  · obtain ⟨c₁, h₁, -⟩ := hfull c hc (Nat.lt_of_not_le hroom)
    cases hw.symm.trans h₁

theorem ends_pure (a : α) : Ends (pure a : Write α) fun b ys => b = a ∧ ys = [] := (emits_pure a).ends

theorem Ends.bind (hw : Ends w Q) (hf : ∀ a, Ends (f a) (R a)) :
    Ends (w >>= f) fun b zs => ∃ a xs ys, Q a xs ∧ R a b ys ∧ zs = xs ++ ys := by
  intro c b c'' hc h
  obtain ⟨a, c', h', h''⟩ := bind_eq_ok h
  obtain ⟨xs, wrote, answers⟩ := hw c a c' hc h'
  obtain ⟨ys, wrote', answers'⟩ := hf a c' b c'' (wrote.inside hc) h''
  exact ⟨xs ++ ys, wrote.trans wrote', a, xs, ys, answers, answers', rfl⟩

/-- A message is filled in behind the body that it has. -/
theorem Ends.message (field : Nat) (h : Ends w Q) :
    Ends (message field w) fun a ys => ∃ xs, Q a xs ∧ ys = enclosed field xs := by
  intro c a c' hc hw
  obtain ⟨slot, c₁, h₁, hrest⟩ := bind_eq_ok hw
  obtain ⟨b, c₂, h₂, hfill⟩ := bind_eq_ok hrest
  obtain ⟨_, c₃, h₃, hpure⟩ := bind_eq_ok hfill
  cases hpure
  obtain ⟨rfl, p₁⟩ := openMessage_pending h₁
  obtain ⟨xs, w₂, answers⟩ := h c₁ a c₂ p₁.inside h₂
  obtain ⟨c₄, h₄, w₄⟩ := fillSlot_pending (p₁.wrote w₂ (w₂.inside p₁.inside))
  cases h₃.symm.trans h₄
  exact ⟨_, w₄, xs, answers, rfl⟩

/-- A message whose body gave up has put nothing. -/
theorem Ends.messageIf {body : Write Bool} {Q : Bool → List UInt8 → Prop} (field : Nat) (h : Ends body Q) :
    Ends (messageIf field body) fun kept ys => ∃ xs, Q kept xs ∧ ys = if kept then enclosed field xs else [] := by
  intro c kept c' hc hw
  obtain ⟨start, c₀, h₀, hopen⟩ := bind_eq_ok hw
  cases h₀
  obtain ⟨slot, c₁, h₁, hrest⟩ := bind_eq_ok hopen
  obtain ⟨b, c₂, h₂, hend⟩ := bind_eq_ok hrest
  obtain ⟨rfl, p₁⟩ := openMessage_pending h₁
  obtain ⟨xs, w₂, answers⟩ := h c₁ b c₂ p₁.inside h₂
  have p₂ := p₁.wrote w₂ (w₂.inside p₁.inside)
  cases b with
  | true =>
    obtain ⟨_, c₃, h₃, hpure⟩ := bind_eq_ok hend
    cases hpure
    obtain ⟨c₄, h₄, w₄⟩ := fillSlot_pending p₂
    cases h₃.symm.trans h₄
    exact ⟨_, w₄, xs, answers, rfl⟩
  | false =>
    obtain ⟨_, c₃, h₃, hpure⟩ := bind_eq_ok hend
    cases hpure
    have hback : moveTo c.pos c₂ = .ok () ⟨c₂.buffer, c.pos, c₂.renders⟩ := if_pos p₂.start_le
    cases h₃.symm.trans hback
    refine ⟨[], ⟨p₂.size, rfl, ?_⟩, xs, answers, rfl⟩
    rw [List.append_nil]
    exact p₂.front_start hc

/-- A text that was given, or refused, was so at one of its requests. -/
theorem ends_render (d : Deferred) : Ends (render d) fun o xs =>
    xs = [] ∧ ∃ earlier, d.render earlier = o.elim .failed .text := by
  intro c o c' hc h
  have hsame : ∀ renders, Wrote c ⟨c.buffer, c.pos, renders⟩ [] := fun _ => ⟨rfl, rfl, (List.append_nil _).symm⟩
  cases hd : d.render (c.renders.getD d.id 0) with
  | text s =>
    simp only [render, hd] at h
    cases h
    exact ⟨[], hsame _, rfl, _, hd⟩
  | failed =>
    simp only [render, hd] at h
    cases h
    exact ⟨[], hsame _, rfl, _, hd⟩
  | aborted reason =>
    simp only [render, hd] at h
    cases h

end Wire
end Courier
