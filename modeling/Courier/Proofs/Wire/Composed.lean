import Courier.Proofs.Deferrals
import Courier.Proofs.Wire.Emission
/-!
# Composed - writers, by the steps that they are made of

Every writer is made of runs of bytes, deferred texts and messages, one after the other.  `Composed P w` says that `w`
is, and that its deferred texts satisfy `P`; what holds of all writers is proved by induction on it.  Main statements:
a composed writer that starts inside a buffer puts the items that it yields, or is stopped because the buffer is full
or a deferred text broke off, and for no other reason (`Composed.run`); and one whose deferred texts are alike emits
the same bytes wherever it starts, or breaks off for the same reason (`Composed.settled`).
-/
namespace Courier
namespace Wire

/-- A writer is made of steps whose deferred texts satisfy `P`. -/
inductive Composed (P : Deferred → Prop) : {α : Type} → Write α → Prop
  | pure {α : Type} (a : α) : Composed P (pure a)
  | raw (b : ByteArray) : Composed P (putRaw b)
  | bind {α β : Type} {w : Write α} {f : α → Write β} (hw : Composed P w) (hf : ∀ a, Composed P (f a)) :
    Composed P (w >>= f)
  | message {α : Type} (field : Nat) {body : Write α} (h : Composed P body) : Composed P (message field body)
  | messageIf (field : Nat) {body : Write Bool} (h : Composed P body) : Composed P (messageIf field body)
  | text {d : Deferred} (h : P d) : Composed P (render d)

variable {P : Deferred → Prop} {α β : Type} {w : Write α} {f : α → Write β} {a : α} {b : β}

theorem Composed.andThen {w' : Write β} (hw : Composed P w) (h : Composed P w') : Composed P (do let _ ← w; w') :=
  hw.bind fun _ => h

theorem Composed.ite {c : Prop} [Decidable c] {w' : Write α} (hw : Composed P w) (h : Composed P w') :
    Composed P (if c then w else w') := by
  split <;> assumption

/-! ## The steps -/

theorem composed_putByte (x : UInt8) : Composed P (putByte x) := by
  rw [putByte_eq]
  exact .raw _

theorem composed_putEach : ∀ xs : List UInt8, Composed P (putEach xs)
  | [] => .pure ()
  | x :: xs => (composed_putByte x).andThen (composed_putEach xs)

theorem composed_putVarint (n : Nat) : Composed P (putVarint n) := composed_putEach _

theorem composed_putKey (field : Nat) (form : Form) : Composed P (putKey field form) := composed_putVarint _

theorem composed_putNumber (field n : Nat) : Composed P (putNumber field n) :=
  (composed_putKey field .varint).andThen (composed_putVarint n)

theorem composed_putFixed32 (field : Nat) (n : UInt32) : Composed P (putFixed32 field n) :=
  (composed_putKey field .fixed32).andThen (.raw _)

theorem composed_putFixed64 (field : Nat) (n : UInt64) : Composed P (putFixed64 field n) :=
  (composed_putKey field .fixed64).andThen (.raw _)

theorem composed_putBytes (field : Nat) (bytes : ByteArray) : Composed P (putBytes field bytes) :=
  (composed_putKey field .lengthDelimited).andThen ((composed_putVarint _).andThen (.raw bytes))

theorem composed_putString (field : Nat) (s : String) : Composed P (putString field s) := composed_putBytes field _

theorem composed_putAll {put : α → Write Unit} : ∀ {xs : List α}, (∀ x ∈ xs, Composed P (put x)) →
    Composed P (putAll put xs)
  | [], _ => .pure ()
  | x :: _, h =>
    (h x List.mem_cons_self).andThen (composed_putAll fun y hy => h y (List.mem_cons_of_mem x hy))

/-! ## What a writer yields -/

/-- What a writer puts: bytes, and messages around other items. -/
inductive Item
  | bytes (content : List UInt8)
  | message (field : Nat) (items : List Item)

mutual

def Item.encode : Item → List UInt8
  | .bytes content => content
  | .message field items => enclosed field (encodeItems items)

def encodeItems : List Item → List UInt8
  | [] => []
  | i :: items => i.encode ++ encodeItems items

end

theorem encodeItems_append (xs ys : List Item) : encodeItems (xs ++ ys) = encodeItems xs ++ encodeItems ys := by
  induction xs with
  | nil => rfl
  | cons x xs ih => rw [List.cons_append, encodeItems, encodeItems, ih, List.append_assoc]

theorem encodeItems_singleton (i : Item) : encodeItems [i] = i.encode := List.append_nil _

/-- A writer may answer `a` and put the items, by the answers that its deferred texts may give.  A message that was
taken back is not among the items. -/
inductive Yields : {α : Type} → Write α → α → List Item → Prop
  | pure {α : Type} (a : α) : Yields (pure a) a []
  | raw (b : ByteArray) : Yields (putRaw b) () [.bytes b.data.toList]
  | bind {α β : Type} {w : Write α} {f : α → Write β} {a : α} {b : β} {xs ys : List Item} (hw : Yields w a xs)
    (hf : Yields (f a) b ys) : Yields (w >>= f) b (xs ++ ys)
  | message {α : Type} (field : Nat) {body : Write α} {a : α} {items : List Item} (h : Yields body a items) :
    Yields (message field body) a [.message field items]
  | kept (field : Nat) {body : Write Bool} {items : List Item} (h : Yields body true items) :
    Yields (messageIf field body) true [.message field items]
  | takenBack (field : Nat) {body : Write Bool} {items : List Item} (h : Yields body false items) :
    Yields (messageIf field body) false []
  | text {d : Deferred} {earlier : Nat} {s : String} (h : d.render earlier = .text s) : Yields (render d) (some s) []
  | failed {d : Deferred} {earlier : Nat} (h : d.render earlier = .failed) : Yields (render d) none []

/-! ## Runs -/

/-- Why a writer may be stopped whose deferred texts satisfy `P`. -/
inductive Stop.Due (P : Deferred → Prop) : Stop → Prop
  | full : Due P .full
  | aborted {d : Deferred} {earlier : Nat} {reason : String} (text : P d) (h : d.render earlier = .aborted reason) :
    Due P (.aborted reason)

/-- How a writer ends that starts at a cursor. -/
inductive Ran (P : Deferred → Prop) {α : Type} (w : Write α) (c : Cursor) : Prop
  | wrote {a : α} {c' : Cursor} {items : List Item} (answer : w c = .ok a c') (wrote : Wrote c c' (encodeItems items))
    (yields : Yields w a items)
  | stopped {e : Stop} {c' : Cursor} (stop : w c = .error e c') (kept : Stopped c c') (due : e.Due P)

theorem Ran.bind {c : Cursor} (hw : Ran P w c) (hc : c.pos ≤ c.buffer.size)
    (hf : ∀ a c', c'.pos ≤ c'.buffer.size → Ran P (f a) c') : Ran P (w >>= f) c := by
  cases hw with
  | stopped stop kept due => exact .stopped (bind_error stop) kept due
  | wrote answer wrote yields =>
    cases hf _ _ (wrote.inside hc) with
    | stopped stop kept due => exact .stopped ((bind_ok answer).trans stop) (kept.after wrote hc) due
    | wrote answer' wrote' yields' =>
      refine .wrote ((bind_ok answer).trans answer') ?_ (yields.bind yields')
      rw [encodeItems_append]
      exact wrote.trans wrote'

/-- A message is opened and its body written, or it is stopped whatever would come after the body. -/
theorem Ran.opened {body : Write α} (field : Nat) {c : Cursor} (hc : c.pos ≤ c.buffer.size)
    (hbody : ∀ c' : Cursor, c'.pos ≤ c'.buffer.size → Ran P body c') :
    (∃ a c₁ c₂ items, openMessage field c = .ok (slotOf field c) c₁ ∧ body c₁ = .ok a c₂ ∧
      Pending field c c₂ (encodeItems items) ∧ Yields body a items) ∨
    ∃ e c', (∀ g : Nat → α → Write β, (openMessage field >>= fun slot => body >>= g slot) c = .error e c') ∧
      Stopped c c' ∧ e.Due P := by
  obtain ⟨room, -, hopen⟩ := openMessage_emits field
  by_cases hroom : c.pos + room ≤ c.buffer.size
  · obtain ⟨c₁, h₁, p₁⟩ := (hopen c).1 hroom
    cases hbody c₁ p₁.inside with
    | wrote answer wrote yields =>
      exact .inl ⟨_, c₁, _, _, h₁, answer, p₁.wrote wrote (wrote.inside p₁.inside), yields⟩
    | stopped stop kept due =>
      exact .inr ⟨_, _, fun _ => (bind_ok h₁).trans (bind_error stop), p₁.stopped kept hc, due⟩
  · obtain ⟨c₁, h₁, s₁⟩ := (hopen c).2 hc (Nat.lt_of_not_le hroom)
    exact .inr ⟨_, c₁, fun _ => bind_error h₁, s₁, .full⟩

theorem Ran.message {body : Write α} (field : Nat) {c : Cursor} (hc : c.pos ≤ c.buffer.size)
    (hbody : ∀ c' : Cursor, c'.pos ≤ c'.buffer.size → Ran P body c') :
    (∃ a c' items, message field body c = .ok a c' ∧ Wrote c c' (enclosed field (encodeItems items)) ∧
      Yields body a items) ∨
    ∃ e c', message field body c = .error e c' ∧ Stopped c c' ∧ e.Due P := by
  obtain ⟨a, c₁, c₂, items, h₁, h₂, p₂, yields⟩ | ⟨e, c', hstop, kept, due⟩ := Ran.opened (β := α) field hc hbody
  · obtain ⟨c₃, h₃, w₃⟩ := fillSlot_pending p₂
    exact .inl ⟨a, c₃, items, (bind_ok h₁).trans ((bind_ok h₂).trans (bind_ok h₃)), w₃, yields⟩
  · exact .inr ⟨e, c', hstop _, kept, due⟩

theorem Ran.messageIf {body : Write Bool} (field : Nat) {c : Cursor} (hc : c.pos ≤ c.buffer.size)
    (hbody : ∀ c' : Cursor, c'.pos ≤ c'.buffer.size → Ran P body c') : Ran P (messageIf field body) c := by
  have hpos : position c = .ok c.pos c := rfl
  obtain ⟨a, c₁, c₂, items, h₁, h₂, p₂, yields⟩ | ⟨e, c', hstop, kept, due⟩ := Ran.opened (β := Bool) field hc hbody
  · cases a with
    | true =>
      obtain ⟨c₃, h₃, w₃⟩ := fillSlot_pending p₂
      refine .wrote ((bind_ok hpos).trans ((bind_ok h₁).trans ((bind_ok h₂).trans (bind_ok h₃)))) ?_
        (.kept field yields)
      rwa [encodeItems_singleton]
    | false =>
      -- The body stands behind the start, so moving back leaves what was in front of it.
      have hback : moveTo c.pos c₂ = .ok () ⟨c₂.buffer, c.pos, c₂.renders⟩ := if_pos p₂.start_le
      refine .wrote ((bind_ok hpos).trans ((bind_ok h₁).trans ((bind_ok h₂).trans (bind_ok hback))))
        ⟨p₂.size, rfl, ?_⟩ (.takenBack field yields)
      exact (p₂.front_start hc).trans (List.append_nil _).symm
  · exact .stopped ((bind_ok hpos).trans (hstop _)) kept due

theorem Ran.text {d : Deferred} (h : P d) (c : Cursor) : Ran P (render d) c := by
  let renders := c.renders.insert d.id (c.renders.getD d.id 0 + 1)
  have hsame : Wrote c ⟨c.buffer, c.pos, renders⟩ (encodeItems []) := ⟨rfl, rfl, (List.append_nil _).symm⟩
  cases hd : d.render (c.renders.getD d.id 0) with
  | text s =>
    have answer : render d c = .ok (some s) ⟨c.buffer, c.pos, renders⟩ := by simp only [render, hd, renders]
    exact .wrote answer hsame (.text hd)
  | failed =>
    have answer : render d c = .ok none ⟨c.buffer, c.pos, renders⟩ := by simp only [render, hd, renders]
    exact .wrote answer hsame (.failed hd)
  | aborted reason =>
    have stop : render d c = .error (.aborted reason) ⟨c.buffer, c.pos, renders⟩ := by simp only [render, hd, renders]
    exact .stopped stop ⟨rfl, rfl⟩ (.aborted h hd)

/-- **A composed writer puts what it yields or is stopped**: in front of its start nothing changes, and it is stopped
only where the buffer is full or one of its deferred texts breaks off. -/
theorem Composed.run (h : Composed P w) : ∀ c : Cursor, c.pos ≤ c.buffer.size → Ran P w c := by
  -- A step starts wherever the one before it ended, so the cursor is left open.
  induction h with
  | pure a =>
    intro c _
    have hsame : Wrote c c (encodeItems []) := ⟨rfl, rfl, (List.append_nil _).symm⟩
    exact .wrote rfl hsame (.pure a)
  | raw b =>
    intro c hc
    obtain ⟨room, hput⟩ := (fills_putRaw b).emits
    by_cases hroom : c.pos + room ≤ c.buffer.size
    · obtain ⟨c', answer, wrote⟩ := hput.fits c hroom
      refine .wrote answer ?_ (.raw b)
      rwa [encodeItems_singleton]
    · obtain ⟨c', stop, kept⟩ := hput.full c hc (Nat.lt_of_not_le hroom)
      exact .stopped stop kept .full
  | bind _ _ ihw ihf => exact fun c hc => (ihw c hc).bind hc ihf
  | message field _ ih =>
    intro c hc
    obtain ⟨a, c', items, answer, wrote, yields⟩ | ⟨e, c', stop, kept, due⟩ := Ran.message field hc ih
    · refine .wrote answer ?_ (.message field yields)
      rwa [encodeItems_singleton]
    · exact .stopped stop kept due
  | messageIf field _ ih => exact fun c hc => Ran.messageIf field hc ih
  | text h => exact fun c _ => Ran.text h c

/-! ## Writers whose deferred texts are alike -/

/-- Wherever it starts, a step breaks off for a reason if so much room is left, and else is stopped. -/
structure BreaksIn {α : Type} (room : Nat) (w : Write α) (reason : String) : Prop where
  aborts : ∀ c : Cursor, c.pos + room ≤ c.buffer.size → ∃ c', w c = .error (.aborted reason) c'
  full : ∀ c : Cursor, c.pos ≤ c.buffer.size → c.buffer.size < c.pos + room → ∃ c', w c = .error .full c'

def Breaks {α : Type} (w : Write α) (reason : String) : Prop := ∃ room, BreaksIn room w reason

variable {reason : String} {xs : List UInt8}

theorem Breaks.bind (h : Breaks w reason) : Breaks (w >>= f) reason := by
  obtain ⟨room, hbreak, hfull⟩ := h
  refine ⟨room, fun c hc => ?_, fun c hc hc' => ?_⟩
  · obtain ⟨c', h'⟩ := hbreak c hc
    exact ⟨c', bind_error h'⟩
  · obtain ⟨c', h'⟩ := hfull c hc hc'
    exact ⟨c', bind_error h'⟩

theorem Emits.breaks (hw : Emits w a xs) (hf : Breaks (f a) reason) : Breaks (w >>= f) reason := by
  obtain ⟨r, hl, hfit, hfull⟩ := hw
  obtain ⟨r', hbreak, hfull'⟩ := hf
  -- The first step may look further ahead than it goes.
  refine ⟨max r (xs.length + r'), fun c hc => ?_, fun c hc hc' => ?_⟩
  · obtain ⟨c₁, h₁, w₁⟩ := hfit c (by omega)
    obtain ⟨c₂, h₂⟩ := hbreak c₁ (by rw [w₁.pos, w₁.size]; omega)
    exact ⟨c₂, (bind_ok h₁).trans h₂⟩
  · by_cases hr : c.pos + r ≤ c.buffer.size
    · obtain ⟨c₁, h₁, w₁⟩ := hfit c hr
      obtain ⟨c₂, h₂⟩ := hfull' c₁ (w₁.inside hc) (by rw [w₁.pos, w₁.size]; omega)
      exact ⟨c₂, (bind_ok h₁).trans h₂⟩
    · obtain ⟨c₁, h₁, -⟩ := hfull c hc (by omega)
      exact ⟨c₁, bind_error h₁⟩

/-- A message whose body breaks off does so whatever would come after the body. -/
theorem Breaks.opened {body : Write α} (field : Nat) (h : Breaks body reason) : ∃ room, ∀ c : Cursor,
    (c.pos + room ≤ c.buffer.size → ∃ c', ∀ g : Nat → α → Write β,
      (openMessage field >>= fun slot => body >>= g slot) c = .error (.aborted reason) c') ∧
    (c.pos ≤ c.buffer.size → c.buffer.size < c.pos + room → ∃ c', ∀ g : Nat → α → Write β,
      (openMessage field >>= fun slot => body >>= g slot) c = .error .full c') := by
  obtain ⟨r, hbreak, hfull⟩ := h
  obtain ⟨k, hk, hopen⟩ := openMessage_emits field
  have hslot : ∀ {c c₁ : Cursor}, Pending field c c₁ [] →
      c₁.pos = c.pos + ((key field .lengthDelimited).length + Varint.slotSize) := by
    intro c c₁ p
    rw [p.pos, slotOf, List.length_nil]
    omega
  refine ⟨max k ((key field .lengthDelimited).length + Varint.slotSize + r), fun c => ⟨fun hc => ?_, fun hc hc' => ?_⟩⟩
  · obtain ⟨c₁, h₁, p₁⟩ := (hopen c).1 (by omega)
    obtain ⟨c₂, h₂⟩ := hbreak c₁ (by rw [hslot p₁, p₁.size]; omega)
    exact ⟨c₂, fun _ => (bind_ok h₁).trans (bind_error h₂)⟩
  · by_cases hr : c.pos + k ≤ c.buffer.size
    · obtain ⟨c₁, h₁, p₁⟩ := (hopen c).1 hr
      obtain ⟨c₂, h₂⟩ := hfull c₁ p₁.inside (by rw [hslot p₁, p₁.size]; omega)
      exact ⟨c₂, fun _ => (bind_ok h₁).trans (bind_error h₂)⟩
    · obtain ⟨c₁, h₁, -⟩ := (hopen c).2 hc (by omega)
      exact ⟨c₁, fun _ => bind_error h₁⟩

theorem Breaks.message {body : Write α} (field : Nat) (h : Breaks body reason) :
    Breaks (message field body) reason := by
  obtain ⟨room, hrun⟩ := h.opened (β := α) field
  refine ⟨room, fun c hc => ?_, fun c hc hc' => ?_⟩
  · obtain ⟨c', h'⟩ := (hrun c).1 hc
    exact ⟨c', h' _⟩
  · obtain ⟨c', h'⟩ := (hrun c).2 hc hc'
    exact ⟨c', h' _⟩

theorem Breaks.messageIf {body : Write Bool} (field : Nat) (h : Breaks body reason) :
    Breaks (messageIf field body) reason := by
  obtain ⟨room, hrun⟩ := h.opened (β := Bool) field
  refine ⟨room, fun c hc => ?_, fun c hc hc' => ?_⟩
  · obtain ⟨c', h'⟩ := (hrun c).1 hc
    exact ⟨c', (bind_ok (w := position) rfl).trans (h' _)⟩
  · obtain ⟨c', h'⟩ := (hrun c).2 hc hc'
    exact ⟨c', (bind_ok (w := position) rfl).trans (h' _)⟩

theorem settled_text {d : Deferred} (h : d.Alike) :
    (∃ o, Emits (render d) o []) ∨ ∃ reason, Breaks (render d) reason := by
  have hd : ∀ c : Cursor, d.render (c.renders.getD d.id 0) = d.render 0 := fun c => h _
  cases h0 : d.render 0 with
  | text s => exact .inl ⟨some s, emits_nothing fun c => ⟨_, by simp only [render, hd c, h0]; rfl⟩⟩
  | failed => exact .inl ⟨none, emits_nothing fun c => ⟨_, by simp only [render, hd c, h0]; rfl⟩⟩
  | aborted reason =>
    refine .inr ⟨reason, 0, fun c _ => ?_, fun c hc hc' => absurd hc' (by omega)⟩
    exact ⟨⟨c.buffer, c.pos, c.renders.insert d.id (c.renders.getD d.id 0 + 1)⟩, by simp only [render, hd c, h0]⟩

/-- **A writer whose deferred texts are alike is settled**: it emits the same bytes wherever it starts, or breaks off
for the same reason. -/
theorem Composed.settled (h : Composed Deferred.Alike w) :
    (∃ a xs, Emits w a xs) ∨ ∃ reason, Breaks w reason := by
  induction h with
  | pure a => exact .inl ⟨a, [], emits_pure a⟩
  | raw b => exact .inl ⟨(), _, (fills_putRaw b).emits⟩
  | bind _ _ ihw ihf =>
    obtain ⟨a, xs, hw⟩ | ⟨reason, hw⟩ := ihw
    · obtain ⟨b, ys, hf⟩ | ⟨reason, hf⟩ := ihf a
      · exact .inl ⟨b, _, hw.bind hf⟩
      · exact .inr ⟨reason, hw.breaks hf⟩
    · exact .inr ⟨reason, hw.bind⟩
  | message field _ ih =>
    obtain ⟨a, xs, hbody⟩ | ⟨reason, hbody⟩ := ih
    · exact .inl ⟨a, _, hbody.message field⟩
    · exact .inr ⟨reason, hbody.message field⟩
  | messageIf field _ ih =>
    obtain ⟨kept, xs, hbody⟩ | ⟨reason, hbody⟩ := ih
    · cases kept with
      | true => exact .inl ⟨true, _, hbody.messageIf_true field⟩
      | false => exact .inl ⟨false, _, hbody.messageIf_false field⟩
    · exact .inr ⟨reason, hbody.messageIf field⟩
  | text h =>
    obtain ⟨o, ho⟩ | ⟨reason, hbreak⟩ := settled_text h
    · exact .inl ⟨o, [], ho⟩
    · exact .inr ⟨reason, hbreak⟩

end Wire
end Courier
