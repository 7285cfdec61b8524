import Courier.Proofs.Wire.Composed
/-!
# Paired - writers that put the same bytes although they ask for different texts

What a deferred text gives may depend on how often it was asked for.  `Goes before w o` says that `w` ends in `o`
wherever it starts, given enough room, when its texts have been asked for as often as `before` says.  `Paired fails w w'
Q` says that two writers go alike and answer as `Q` says, when the texts that `fails` names may have been asked for in
any other way.  Main statements: a composed writer that asks for none of these texts is paired with itself
(`Composed.paired`), and so goes some way (`Composed.goes`).
-/
namespace Courier
namespace Wire

variable {α β γ δ : Type} {w : Write α} {f : α → Write β} {a : α} {b : β} {xs ys : List UInt8}
variable {before middle after : Renders} {reason : String}

/-! ## Steps that ask for no text -/

/-- A step that asks for no text. -/
def AsksNothing (w : Write α) : Prop := ∀ c a c', w c = .ok a c' → c'.renders = c.renders

theorem AsksNothing.bind (hw : AsksNothing w) (hf : ∀ a, AsksNothing (f a)) : AsksNothing (w >>= f) := by
  intro c b c'' h
  obtain ⟨a, c', h', h''⟩ := bind_eq_ok h
  exact (hf a _ _ _ h'').trans (hw _ _ _ h')

theorem asksNothing_pure (a : α) : AsksNothing (pure a : Write α) := by
  rintro c _ _ ⟨⟩
  rfl

theorem asksNothing_putRaw (bytes : ByteArray) : AsksNothing (putRaw bytes) := by
  intro c _ c' h
  simp only [putRaw] at h
  split at h
  · cases h
    rfl
  · cases h

theorem asksNothing_putEach : ∀ xs : List UInt8, AsksNothing (putEach xs)
  | [] => asksNothing_pure ()
  | x :: xs => by
    rw [putEach, putByte_eq]
    exact (asksNothing_putRaw _).bind fun _ => asksNothing_putEach xs

theorem asksNothing_putBytes (field : Nat) (bytes : ByteArray) : AsksNothing (putBytes field bytes) :=
  (asksNothing_putEach _).bind fun _ => (asksNothing_putEach _).bind fun _ => asksNothing_putRaw bytes

theorem asksNothing_openMessage (field : Nat) : AsksNothing (openMessage field) := by
  refine AsksNothing.bind (asksNothing_putEach _) fun _ => .bind ?_ fun slot => .bind ?_ fun _ => asksNothing_pure slot
  · rintro c _ _ ⟨⟩
    rfl
  · intro c _ c' h
    simp only [leaveRoom] at h
    split at h
    · cases h
      rfl
    · cases h

theorem asksNothing_fillSlot (slot : Nat) : AsksNothing (fillSlot slot) := by
  intro c _ c' h
  simp only [fillSlot] at h
  split at h
  · cases h
    rfl
  · cases h

/-! ## Outcomes -/

/-- How a step ends that has enough room. -/
inductive Outcome (α : Type)
  | wrote (answer : α) (bytes : List UInt8) (after : Renders)
  | broke (reason : String)

/-- Wherever it starts, a step ends like this if its texts were asked for as `before` says and enough room is left. -/
def Goes (before : Renders) (w : Write α) : Outcome α → Prop
  | .wrote a bytes after => ∃ room, ∀ c : Cursor, c.renders = before → c.pos + room ≤ c.buffer.size →
      ∃ c', w c = .ok a c' ∧ Wrote c c' bytes ∧ c'.renders = after
  | .broke reason => ∃ room, ∀ c : Cursor, c.renders = before → c.pos + room ≤ c.buffer.size →
      ∃ c', w c = .error (.aborted reason) c'

theorem Emits.goes (h : Emits w a xs) (hasks : AsksNothing w) : Goes before w (.wrote a xs before) := by
  obtain ⟨room, -, hfit, -⟩ := h
  refine ⟨room, fun c hc hroom => ?_⟩
  obtain ⟨c', hw, wrote⟩ := hfit c hroom
  exact ⟨c', hw, wrote, (hasks _ _ _ hw).trans hc⟩

theorem Goes.bind (hw : Goes before w (.wrote a xs middle)) (hf : Goes middle (f a) (.wrote b ys after)) :
    Goes before (w >>= f) (.wrote b (xs ++ ys) after) := by
  obtain ⟨r, hw⟩ := hw
  obtain ⟨r', hf⟩ := hf
  refine ⟨max r (xs.length + r'), fun c hc hroom => ?_⟩
  obtain ⟨c₁, h₁, w₁, a₁⟩ := hw c hc (by omega)
  obtain ⟨c₂, h₂, w₂, a₂⟩ := hf c₁ a₁ (by rw [w₁.pos, w₁.size]; omega)
  exact ⟨c₂, (bind_ok h₁).trans h₂, w₁.trans w₂, a₂⟩

theorem Goes.breaks (hw : Goes before w (.wrote a xs middle)) (hf : Goes middle (f a) (.broke reason)) :
    Goes before (w >>= f) (.broke reason) := by
  obtain ⟨r, hw⟩ := hw
  obtain ⟨r', hf⟩ := hf
  refine ⟨max r (xs.length + r'), fun c hc hroom => ?_⟩
  obtain ⟨c₁, h₁, w₁, a₁⟩ := hw c hc (by omega)
  obtain ⟨c₂, h₂⟩ := hf c₁ a₁ (by rw [w₁.pos, w₁.size]; omega)
  exact ⟨c₂, (bind_ok h₁).trans h₂⟩

theorem Goes.broken (hw : Goes before w (.broke reason)) : Goes before (w >>= f) (.broke reason) := by
  obtain ⟨r, hw⟩ := hw
  refine ⟨r, fun c hc hroom => ?_⟩
  obtain ⟨c', h⟩ := hw c hc hroom
  exact ⟨c', bind_error h⟩

/-- A message is opened where there is room for its key and its slot, and its body starts behind them. -/
theorem openMessage_goes (field : Nat) : ∃ room, ∀ c : Cursor, c.pos + room ≤ c.buffer.size →
    ∃ c', openMessage field c = .ok (slotOf field c) c' ∧ Pending field c c' [] ∧ c'.renders = c.renders ∧
      c'.pos = c.pos + ((key field .lengthDelimited).length + Varint.slotSize) := by
  obtain ⟨room, -, hopen⟩ := openMessage_emits field
  refine ⟨room, fun c hroom => ?_⟩
  obtain ⟨c', h, p⟩ := (hopen c).1 hroom
  refine ⟨c', h, p, asksNothing_openMessage field _ _ _ h, ?_⟩
  rw [p.pos, slotOf, List.length_nil]
  omega

/-- A message is opened and its body written. -/
theorem Goes.opened {body : Write α} (field : Nat) (h : Goes before body (.wrote a xs after)) :
    ∃ room, ∀ c : Cursor, c.renders = before → c.pos + room ≤ c.buffer.size → ∃ c₁ c₂,
      openMessage field c = .ok (slotOf field c) c₁ ∧ body c₁ = .ok a c₂ ∧ Pending field c c₂ xs ∧
        c₂.renders = after := by
  obtain ⟨r, h⟩ := h
  obtain ⟨k, hopen⟩ := openMessage_goes field
  refine ⟨max k ((key field .lengthDelimited).length + Varint.slotSize + r), fun c hc hroom => ?_⟩
  obtain ⟨c₁, h₁, p₁, a₁, hpos⟩ := hopen c (by omega)
  obtain ⟨c₂, h₂, w₂, a₂⟩ := h c₁ (a₁.trans hc) (by rw [hpos, p₁.size]; omega)
  exact ⟨c₁, c₂, h₁, h₂, p₁.wrote w₂ (w₂.inside p₁.inside), a₂⟩

theorem Goes.openedBreaks {body : Write α} (field : Nat) (h : Goes before body (.broke reason)) :
    ∃ room, ∀ c : Cursor, c.renders = before → c.pos + room ≤ c.buffer.size → ∃ c', ∀ g : Nat → α → Write β,
      (openMessage field >>= fun slot => body >>= g slot) c = .error (.aborted reason) c' := by
  obtain ⟨r, h⟩ := h
  obtain ⟨k, hopen⟩ := openMessage_goes field
  refine ⟨max k ((key field .lengthDelimited).length + Varint.slotSize + r), fun c hc hroom => ?_⟩
  obtain ⟨c₁, h₁, p₁, a₁, hpos⟩ := hopen c (by omega)
  obtain ⟨c₂, h₂⟩ := h c₁ (a₁.trans hc) (by rw [hpos, p₁.size]; omega)
  exact ⟨c₂, fun _ => (bind_ok h₁).trans (bind_error h₂)⟩

theorem Goes.message {body : Write α} (field : Nat) (h : Goes before body (.wrote a xs after)) :
    Goes before (message field body) (.wrote a (enclosed field xs) after) := by
  obtain ⟨room, hrun⟩ := h.opened field
  refine ⟨room, fun c hc hroom => ?_⟩
  obtain ⟨c₁, c₂, h₁, h₂, p₂, a₂⟩ := hrun c hc hroom
  obtain ⟨c₃, h₃, w₃⟩ := fillSlot_pending p₂
  exact ⟨c₃, (bind_ok h₁).trans ((bind_ok h₂).trans (bind_ok h₃)), w₃, (asksNothing_fillSlot _ _ _ _ h₃).trans a₂⟩

theorem Goes.messageBreaks {body : Write α} (field : Nat) (h : Goes before body (.broke reason)) :
    Goes before (Wire.message field body) (.broke reason) := by
  obtain ⟨room, hrun⟩ := h.openedBreaks (β := α) field
  refine ⟨room, fun c hc hroom => ?_⟩
  obtain ⟨c', h'⟩ := hrun c hc hroom
  exact ⟨c', h' _⟩

theorem Goes.messageIf_true {body : Write Bool} (field : Nat) (h : Goes before body (.wrote true xs after)) :
    Goes before (messageIf field body) (.wrote true (enclosed field xs) after) := by
  obtain ⟨room, hrun⟩ := h.opened field
  refine ⟨room, fun c hc hroom => ?_⟩
  obtain ⟨c₁, c₂, h₁, h₂, p₂, a₂⟩ := hrun c hc hroom
  obtain ⟨c₃, h₃, w₃⟩ := fillSlot_pending p₂
  exact ⟨c₃, (bind_ok (w := position) rfl).trans ((bind_ok h₁).trans ((bind_ok h₂).trans (bind_ok h₃))), w₃,
    (asksNothing_fillSlot _ _ _ _ h₃).trans a₂⟩

/-- A message whose body gave up is taken back. -/
theorem Goes.messageIf_false {body : Write Bool} (field : Nat) (h : Goes before body (.wrote false xs after)) :
    Goes before (messageIf field body) (.wrote false [] after) := by
  obtain ⟨room, hrun⟩ := h.opened field
  refine ⟨room, fun c hc hroom => ?_⟩
  obtain ⟨c₁, c₂, h₁, h₂, p₂, a₂⟩ := hrun c hc hroom
  have hback : moveTo c.pos c₂ = .ok () ⟨c₂.buffer, c.pos, c₂.renders⟩ := if_pos p₂.start_le
  refine ⟨⟨c₂.buffer, c.pos, c₂.renders⟩, (bind_ok (w := position) rfl).trans ((bind_ok h₁).trans ((bind_ok h₂).trans
    (bind_ok hback))), ⟨p₂.size, rfl, ?_⟩, a₂⟩
  rw [List.append_nil]
  exact p₂.front_start (by omega)

theorem Goes.messageIfBreaks {body : Write Bool} (field : Nat) (h : Goes before body (.broke reason)) :
    Goes before (messageIf field body) (.broke reason) := by
  obtain ⟨room, hrun⟩ := h.openedBreaks (β := Bool) field
  refine ⟨room, fun c hc hroom => ?_⟩
  obtain ⟨c', h'⟩ := hrun c hc hroom
  exact ⟨c', (bind_ok (w := position) rfl).trans (h' _)⟩

/-- What a request for a text gives, by the number of earlier requests. -/
theorem render_goes (d : Deferred) (before : Renders) :
    let after := before.insert d.id (before.getD d.id 0 + 1)
    match d.render (before.getD d.id 0) with
    | .text s => Goes before (render d) (.wrote (some s) [] after)
    | .failed => Goes before (render d) (.wrote none [] after)
    | .aborted reason => Goes before (render d) (.broke reason) := by
  intro after
  have hsame : ∀ c : Cursor, Wrote c ⟨c.buffer, c.pos, after⟩ [] := fun c => ⟨rfl, rfl, (List.append_nil _).symm⟩
  cases hd : d.render (before.getD d.id 0) with
  | text s =>
    refine ⟨0, fun c hc _ => ⟨⟨c.buffer, c.pos, after⟩, ?_, hsame c, rfl⟩⟩
    simp only [render, hc, hd, after]
  | failed =>
    refine ⟨0, fun c hc _ => ⟨⟨c.buffer, c.pos, after⟩, ?_, hsame c, rfl⟩⟩
    simp only [render, hc, hd, after]
  | aborted reason =>
    refine ⟨0, fun c hc _ => ⟨⟨c.buffer, c.pos, after⟩, ?_⟩⟩
    simp only [render, hc, hd, after]

/-! ## Pairs -/

/-- The texts were asked for equally often, but for those that `fails` names. -/
def Agree (fails : Nat → Bool) (r r' : Renders) : Prop := ∀ id, fails id = false → r.getD id 0 = r'.getD id 0

/-- Two steps end in the same bytes with answers that are related, or break off for the same reason. -/
inductive Same (fails : Nat → Bool) (Q : α → β → Prop) : Outcome α → Outcome β → Prop
  | wrote {a : α} {b : β} {bytes : List UInt8} {after after' : Renders} (asked : Agree fails after after')
    (answers : Q a b) : Same fails Q (.wrote a bytes after) (.wrote b bytes after')
  | broke (reason : String) : Same fails Q (.broke reason) (.broke reason)

/-- Two steps go the same way. -/
def Paired (fails : Nat → Bool) (w : Write α) (w' : Write β) (Q : α → β → Prop) : Prop :=
  ∀ before before', Agree fails before before' → ∃ o o', Goes before w o ∧ Goes before' w' o' ∧ Same fails Q o o'

/-- A step that leaves no bytes, and asks only for texts that `fails` names. -/
def Vanishes (fails : Nat → Bool) (w : Write α) (a : α) : Prop :=
  ∀ before, ∃ after, Goes before w (.wrote a [] after) ∧ Agree fails after before

/-- Two runs leave the same bytes up to the same position with answers that are related, or break off for the same
reason. -/
inductive LeaveSame (Q : α → β → Prop) : EStateM.Result Stop Cursor α → EStateM.Result Stop Cursor β → Prop
  | wrote {a : α} {b : β} {c c' : Cursor} (pos : c.pos = c'.pos) (behind : c.behind = c'.behind) (answers : Q a b) :
    LeaveSame Q (.ok a c) (.ok b c')
  | broke (reason : String) (c c' : Cursor) : LeaveSame Q (.error (.aborted reason) c) (.error (.aborted reason) c')

variable {fails : Nat → Bool} {Q : α → γ → Prop} {R : β → δ → Prop} {w' : Write γ} {f' : γ → Write δ} {c : γ}

/-- Paired steps that start at one cursor leave the same. -/
theorem Paired.run (h : Paired fails w w' Q) (asked : Renders) : ∃ room, ∀ c : Cursor, c.renders = asked →
    c.pos + room ≤ c.buffer.size → LeaveSame Q (w c) (w' c) := by
  obtain ⟨_, _, hw, hw', hsame⟩ := h asked asked fun _ _ => rfl
  cases hsame with
  | wrote _ answers =>
    obtain ⟨room, hw⟩ := hw
    obtain ⟨room', hw'⟩ := hw'
    refine ⟨max room room', fun c hc hroom => ?_⟩
    obtain ⟨c₁, h₁, w₁, -⟩ := hw c hc (by omega)
    obtain ⟨c₂, h₂, w₂, -⟩ := hw' c hc (by omega)
    rw [h₁, h₂]
    exact .wrote (w₁.pos.trans w₂.pos.symm) (w₁.behind.trans w₂.behind.symm) answers
  | broke reason =>
    obtain ⟨room, hw⟩ := hw
    obtain ⟨room', hw'⟩ := hw'
    refine ⟨max room room', fun c hc hroom => ?_⟩
    obtain ⟨c₁, h₁⟩ := hw c hc (by omega)
    obtain ⟨c₂, h₂⟩ := hw' c hc (by omega)
    rw [h₁, h₂]
    exact .broke reason c₁ c₂

theorem Paired.mono {Q' : α → γ → Prop} (h : Paired fails w w' Q) (hq : ∀ a c, Q a c → Q' a c) :
    Paired fails w w' Q' := by
  intro before before' agree
  obtain ⟨o, o', hw, hw', hsame⟩ := h before before' agree
  refine ⟨o, o', hw, hw', ?_⟩
  cases hsame with
  | wrote asked answers => exact .wrote asked (hq _ _ answers)
  | broke reason => exact .broke reason

theorem paired_pure (h : Q a c) : Paired fails (pure a) (pure c) Q := fun _ _ agree =>
  ⟨_, _, (emits_pure a).goes (asksNothing_pure a), (emits_pure c).goes (asksNothing_pure c), .wrote agree h⟩

theorem Paired.bind (hw : Paired fails w w' Q) (hf : ∀ a c, Q a c → Paired fails (f a) (f' c) R) :
    Paired fails (w >>= f) (w' >>= f') R := by
  intro before before' agree
  obtain ⟨_, _, hw, hw', hsame⟩ := hw before before' agree
  cases hsame with
  | broke reason => exact ⟨_, _, hw.broken, hw'.broken, .broke reason⟩
  | wrote asked answers =>
    obtain ⟨_, _, hf, hf', hsame⟩ := hf _ _ answers _ _ asked
    cases hsame with
    | broke reason => exact ⟨_, _, hw.breaks hf, hw'.breaks hf', .broke reason⟩
    | wrote asked answers => exact ⟨_, _, hw.bind hf, hw'.bind hf', .wrote asked answers⟩

theorem Paired.message (field : Nat) (h : Paired fails w w' Q) :
    Paired fails (message field w) (message field w') Q := by
  intro before before' agree
  obtain ⟨_, _, hw, hw', hsame⟩ := h before before' agree
  cases hsame with
  | broke reason => exact ⟨_, _, hw.messageBreaks field, hw'.messageBreaks field, .broke reason⟩
  | wrote asked answers => exact ⟨_, _, hw.message field, hw'.message field, .wrote asked answers⟩

theorem Paired.messageIf {w w' : Write Bool} (field : Nat) (h : Paired fails w w' Eq) :
    Paired fails (messageIf field w) (messageIf field w') Eq := by
  intro before before' agree
  obtain ⟨_, _, hw, hw', hsame⟩ := h before before' agree
  cases hsame with
  | broke reason => exact ⟨_, _, hw.messageIfBreaks field, hw'.messageIfBreaks field, .broke reason⟩
  | @wrote kept _ _ _ _ asked answers =>
    subst answers
    cases kept with
    | true => exact ⟨_, _, hw.messageIf_true field, hw'.messageIf_true field, .wrote asked rfl⟩
    | false => exact ⟨_, _, hw.messageIf_false field, hw'.messageIf_false field, .wrote asked rfl⟩

/-- A text that is asked for on both sides was asked for equally often before. -/
theorem paired_text {d : Deferred} (h : fails d.id = false) : Paired fails (render d) (render d) Eq := by
  intro before before' agree
  have hcount := agree d.id h
  have hafter : Agree fails (before.insert d.id (before.getD d.id 0 + 1))
      (before'.insert d.id (before'.getD d.id 0 + 1)) := by
    intro id hid
    rw [Std.HashMap.getD_insert, Std.HashMap.getD_insert, hcount, agree id hid]
  have hgoes := render_goes d before
  have hgoes' := render_goes d before'
  rw [← hcount] at hgoes'
  rw [← hcount] at hafter
  cases hd : d.render (before.getD d.id 0) with
  | text s =>
    rw [hd] at hgoes hgoes'
    exact ⟨_, _, hgoes, hgoes', .wrote hafter rfl⟩
  | failed =>
    rw [hd] at hgoes hgoes'
    exact ⟨_, _, hgoes, hgoes', .wrote hafter rfl⟩
  | aborted reason =>
    rw [hd] at hgoes hgoes'
    exact ⟨_, _, hgoes, hgoes', .broke reason⟩

/-- **A writer that asks for none of the texts goes the same way** however often these were asked for. -/
theorem Composed.paired (h : Composed (fun d => fails d.id = false) w) : Paired fails w w Eq := by
  induction h with
  | pure a => exact paired_pure rfl
  | raw b => exact fun _ _ agree =>
      ⟨_, _, (fills_putRaw b).emits.goes (asksNothing_putRaw b), (fills_putRaw b).emits.goes (asksNothing_putRaw b), .wrote agree rfl⟩
  | bind _ _ ihw ihf =>
    refine ihw.bind fun a _ h => ?_
    subst h
    exact ihf a
  | message field _ ih => exact ih.message field
  | messageIf field _ ih => exact ih.messageIf field
  | text h => exact paired_text h

/-- **A composed writer goes some way** from wherever it starts. -/
theorem Composed.goes (h : Composed (fun _ => True) w) (before : Renders) : ∃ o, Goes before w o := by
  have hall : Paired (fun _ => false) w w Eq := Composed.paired (by simpa using h)
  obtain ⟨o, -, hw, -⟩ := hall before before fun _ _ => rfl
  exact ⟨o, hw⟩

/-! ## Steps that vanish -/

theorem vanishes_text {d : Deferred} (h : fails d.id = true) (hd : ∀ earlier, d.render earlier = .failed) :
    Vanishes fails (render d) none := by
  intro before
  have hgoes := render_goes d before
  rw [hd] at hgoes
  refine ⟨_, hgoes, fun id hid => ?_⟩
  have hne : (d.id == id) = false := by
    rw [beq_eq_false_iff_ne]
    rintro rfl
    rw [h] at hid
    cases hid
  rw [Std.HashMap.getD_insert, hne]
  rfl

theorem vanishes_pure (a : α) : Vanishes fails (pure a : Write α) a := fun before =>
  ⟨before, (emits_pure a).goes (asksNothing_pure a), fun _ _ => rfl⟩

theorem Vanishes.bind (hw : Vanishes fails w a) (hf : Vanishes fails (f a) b) : Vanishes fails (w >>= f) b := by
  intro before
  obtain ⟨middle, hw, asked⟩ := hw before
  obtain ⟨after, hf, asked'⟩ := hf middle
  exact ⟨after, hw.bind hf, fun id hid => (asked' id hid).trans (asked id hid)⟩

theorem Vanishes.messageIf {body : Write Bool} (field : Nat) (h : Vanishes fails body false) :
    Vanishes fails (messageIf field body) false := by
  intro before
  obtain ⟨after, hbody, asked⟩ := h before
  exact ⟨after, hbody.messageIf_false field, asked⟩

/-- What the body has put before it gave up is gone with the message. -/
theorem Vanishes.behind {put : Write Unit} {last : Write Bool} (field : Nat) (hput : Emits put () xs)
    (hasks : AsksNothing put) (h : Vanishes fails last false) :
    Vanishes fails (Wire.messageIf field do put; last) false := by
  intro before
  obtain ⟨after, hlast, asked⟩ := h before
  exact ⟨after, ((hput.goes hasks).bind hlast).messageIf_false field, asked⟩

/-- Nothing is left of the step on either side. -/
theorem Vanishes.both (h : Vanishes fails w a) : Paired fails w w Eq := by
  intro before before' agree
  obtain ⟨after, hw, asked⟩ := h before
  obtain ⟨after', hw', asked'⟩ := h before'
  exact ⟨_, _, hw, hw', .wrote (fun id hid => ((asked id hid).trans (agree id hid)).trans (asked' id hid).symm) rfl⟩

theorem Vanishes.paired {Q : β → γ → Prop} (h : Vanishes fails w a) (hf : Paired fails (f a) w' Q) :
    Paired fails (w >>= f) w' Q := by
  intro before before' agree
  obtain ⟨middle, hw, asked⟩ := h before
  obtain ⟨_, _, hf, hf', hsame⟩ := hf middle before' fun id hid => (asked id hid).trans (agree id hid)
  cases hsame with
  | broke reason => exact ⟨_, _, hw.breaks hf, hf', .broke reason⟩
  | wrote asked answers => exact ⟨_, _, hw.bind hf, hf', .wrote asked answers⟩

end Wire
end Courier
