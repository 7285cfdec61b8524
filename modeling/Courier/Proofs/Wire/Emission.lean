import Courier.Wire.Field
/-!
# Emission - what a step of writing puts into a buffer, wherever it starts

`Emits w a bytes` says that `w`, started anywhere inside any buffer, answers `a` and puts `bytes` at its
position when a fixed amount of room is left there, and stops as full when less is left.  The room covers the
bytes and may exceed them, for what is written and then taken back; the primitive steps need room for their bytes
and no more (`Fills`).  Emission is kept by sequencing (`Emits.bind`), by putting a message around a body
(`Emits.message`, `Emits.messageIf_true`, `Emits.messageIf_false`) and by running through a list (`Emits.putAll`),
so that a writer is a function of what it writes and of nothing in the buffer.
-/
namespace Courier
namespace Wire

/-! ## Buffers as lists of bytes -/

/-- The bytes of a buffer in front of a position. -/
def front (buffer : ByteArray) (n : Nat) : List UInt8 := buffer.data.toList.take n

theorem length_front {buffer : ByteArray} {n : Nat} (h : n ≤ buffer.size) : (front buffer n).length = n := by
  rw [front, List.length_take, Array.length_toList, ByteArray.size_data, Nat.min_eq_left h]

theorem front_of_le (buffer : ByteArray) {m n : Nat} (h : m ≤ n) : front buffer m = (front buffer n).take m := by
  rw [front, front, List.take_take, Nat.min_eq_left h]

theorem toList_extract (buffer : ByteArray) (start stop : Nat) :
    (buffer.extract start stop).data.toList = (front buffer stop).drop start := by
  rw [ByteArray.data_extract, Array.toList_extract, front, List.extract_eq_take_drop, List.drop_take]

/-- Overwriting leaves what is in front of the start and what comes after the bytes. -/
theorem toList_overwrite (buffer : ByteArray) (start : Nat) (bytes : ByteArray) :
    (overwrite buffer start bytes).data.toList =
      front buffer start ++ bytes.data.toList ++ buffer.data.toList.drop (start + bytes.size) := by
  have h1 : bytes.data.toList.take bytes.size = bytes.data.toList := List.take_of_length_le (by simp)
  have h2 : (buffer.data.toList.drop (start + bytes.size)).take (buffer.size - (start + bytes.size)) =
      buffer.data.toList.drop (start + bytes.size) := List.take_of_length_le (by simp)
  simp only [overwrite, ByteArray.copySlice, front, Array.toList_append, Array.toList_extract,
    List.extract_eq_take_drop, Nat.sub_zero, List.drop_zero, Nat.zero_add, ByteArray.size_data, Nat.min_self, h1, h2]

theorem size_overwrite {buffer : ByteArray} {start : Nat} {bytes : ByteArray}
    (h : start + bytes.size ≤ buffer.size) : (overwrite buffer start bytes).size = buffer.size := by
  have hl := congrArg List.length (toList_overwrite buffer start bytes)
  rw [List.length_append, List.length_append, length_front (by omega), List.length_drop, Array.length_toList,
    Array.length_toList, Array.length_toList, ByteArray.size_data, ByteArray.size_data, ByteArray.size_data] at hl
  omega

theorem front_overwrite {buffer : ByteArray} {start : Nat} {bytes : ByteArray} {n : Nat}
    (h : start + bytes.size ≤ n) (hn : n ≤ buffer.size) :
    front (overwrite buffer start bytes) n =
      front buffer start ++ bytes.data.toList ++ (front buffer n).drop (start + bytes.size) := by
  have hf := length_front (show start ≤ buffer.size by omega)
  have hb : bytes.data.toList.length = bytes.size := by rw [Array.length_toList, ByteArray.size_data]
  have hl : (front buffer start ++ bytes.data.toList).length = start + bytes.size := by
    rw [List.length_append, hf, hb]
  rw [front, toList_overwrite, List.take_append, List.take_of_length_le (by omega), hl]
  simp only [front, List.drop_take]

/-! ## Emission -/

/-- The bytes in front of the position. -/
def Cursor.behind (c : Cursor) : List UInt8 := front c.buffer c.pos

/-- `c'` is where a step that puts the bytes at the position of `c` leaves off. -/
structure Wrote (c c' : Cursor) (bytes : List UInt8) : Prop where
  size : c'.buffer.size = c.buffer.size
  pos : c'.pos = c.pos + bytes.length
  behind : c'.behind = c.behind ++ bytes

/-- `c'` is where a step that began at `c` was stopped: nothing in front of `c` has changed. -/
structure Stopped (c c' : Cursor) : Prop where
  size : c'.buffer.size = c.buffer.size
  front : front c'.buffer c.pos = c.behind

/-- Wherever it starts, a step answers `a` and puts the bytes there if so much room is left, and else is
stopped. -/
structure EmitsIn {α : Type} (room : Nat) (w : Write α) (a : α) (bytes : List UInt8) : Prop where
  length_le : bytes.length ≤ room
  fits : ∀ c : Cursor, c.pos + room ≤ c.buffer.size → ∃ c', w c = .ok a c' ∧ Wrote c c' bytes
  full : ∀ c : Cursor, c.pos ≤ c.buffer.size → c.buffer.size < c.pos + room →
    ∃ c', w c = .error .full c' ∧ Stopped c c'

/-- A step answers `a` and puts the bytes where it starts, given enough room. -/
def Emits {α : Type} (w : Write α) (a : α) (bytes : List UInt8) : Prop := ∃ room, EmitsIn room w a bytes

variable {α β : Type} {w : Write α} {f : α → Write β} {a : α} {b : β} {xs ys : List UInt8}

theorem Wrote.trans {c c' c'' : Cursor} (h : Wrote c c' xs) (h' : Wrote c' c'' ys) : Wrote c c'' (xs ++ ys) where
  size := h'.size.trans h.size
  pos := by rw [h'.pos, h.pos, List.length_append, Nat.add_assoc]
  behind := by rw [h'.behind, h.behind, List.append_assoc]

theorem Stopped.after {c c' c'' : Cursor} (h' : Stopped c' c'') (h : Wrote c c' xs) (hc : c.pos ≤ c.buffer.size) :
    Stopped c c'' where
  size := h'.size.trans h.size
  front := by
    have hp : c.pos ≤ c'.pos := by rw [h.pos]; omega
    have hl : c.behind.length = c.pos := length_front hc
    rw [front_of_le c''.buffer hp, h'.front, h.behind, List.take_append_of_le_length (by omega),
      List.take_of_length_le (by omega)]

theorem Stopped.refl (c : Cursor) : Stopped c c := ⟨rfl, rfl⟩

theorem Wrote.inside {c c' : Cursor} (h : Wrote c c' xs) (hc : c.pos ≤ c.buffer.size) :
    c'.pos ≤ c'.buffer.size := by
  have hl := congrArg List.length h.behind
  have hp := h.pos
  have hb : c.behind.length = c.pos := length_front hc
  rw [List.length_append, hb, Cursor.behind, front, List.length_take, Array.length_toList, ByteArray.size_data] at hl
  omega

/-- A step that does not write needs no room. -/
theorem emitsIn_nothing (h : ∀ c, ∃ renders, w c = .ok a ⟨c.buffer, c.pos, renders⟩) : EmitsIn 0 w a [] := by
  refine ⟨Nat.le_refl 0, fun c _ => ?_, fun c hc hc' => absurd hc' (by omega)⟩
  obtain ⟨renders, hc⟩ := h c
  exact ⟨_, hc, rfl, rfl, (List.append_nil _).symm⟩

theorem emitsIn_pure (a : α) : EmitsIn 0 (pure a : Write α) a [] := emitsIn_nothing fun c => ⟨c.renders, rfl⟩

/-- A step that does not write emits nothing. -/
theorem emits_nothing (h : ∀ c, ∃ renders, w c = .ok a ⟨c.buffer, c.pos, renders⟩) : Emits w a [] :=
  ⟨0, emitsIn_nothing h⟩

theorem emits_pure (a : α) : Emits (pure a : Write α) a [] := ⟨0, emitsIn_pure a⟩

theorem bind_ok {c c' : Cursor} (h : w c = .ok a c') : (w >>= f) c = f a c' := by
  show EStateM.bind w f c = _
  rw [EStateM.bind, h]

theorem bind_error {e : Stop} {c c' : Cursor} (h : w c = .error e c') : (w >>= f) c = .error e c' := by
  show EStateM.bind w f c = _
  rw [EStateM.bind, h]

/-- What a sequence answers, its second step answers after the first. -/
theorem bind_eq_ok {c c'' : Cursor} (h : (w >>= f) c = .ok b c'') : ∃ a c', w c = .ok a c' ∧ f a c' = .ok b c'' := by
  cases hw : w c with
  | ok a c' => exact ⟨a, c', rfl, (bind_ok hw).symm.trans h⟩
  | error e c' => exact nomatch (bind_error hw).symm.trans h

/-- One step after another puts its bytes after the other's, and the second needs its room after the first. -/
theorem Emits.bind (hw : Emits w a xs) (hf : Emits (f a) b ys) : Emits (w >>= f) b (xs ++ ys) := by
  obtain ⟨r, hl, hfit, hfull⟩ := hw
  obtain ⟨r', hl', hfit', hfull'⟩ := hf
  refine ⟨max r (xs.length + r'), by rw [List.length_append]; omega, fun c hc => ?_, fun c hc hc' => ?_⟩
  · obtain ⟨c₁, h₁, w₁⟩ := hfit c (by omega)
    obtain ⟨c₂, h₂, w₂⟩ := hfit' c₁ (by rw [w₁.pos, w₁.size]; omega)
    exact ⟨c₂, (bind_ok h₁).trans h₂, w₁.trans w₂⟩
  · by_cases hr : c.pos + r ≤ c.buffer.size
    · obtain ⟨c₁, h₁, w₁⟩ := hfit c hr
      obtain ⟨c₂, h₂, s₂⟩ := hfull' c₁ (by rw [w₁.pos, w₁.size]; omega) (by rw [w₁.pos, w₁.size]; omega)
      exact ⟨c₂, (bind_ok h₁).trans h₂, s₂.after w₁ hc⟩
    · obtain ⟨c₁, h₁, s₁⟩ := hfull c hc (by omega)
      exact ⟨c₁, bind_error h₁, s₁⟩

theorem Emits.andThen {w' : Write β} (hw : Emits w a xs) (hf : Emits w' b ys) :
    Emits (do let _ ← w; w') b (xs ++ ys) := hw.bind hf

/-- A step answers `a` and puts the bytes wherever they fit, and is stopped wherever they do not, also past the end of
the buffer. -/
structure Fills {α : Type} (w : Write α) (a : α) (bytes : List UInt8) : Prop where
  fits : ∀ c : Cursor, c.pos + bytes.length ≤ c.buffer.size → ∃ c', w c = .ok a c' ∧ Wrote c c' bytes
  full : ∀ c : Cursor, c.buffer.size < c.pos + bytes.length → ∃ c', w c = .error .full c' ∧ Stopped c c'

theorem Fills.emitsIn (h : Fills w a xs) : EmitsIn xs.length w a xs :=
  ⟨Nat.le_refl xs.length, h.fits, fun c _ => h.full c⟩

theorem Fills.emits (h : Fills w a xs) : Emits w a xs := ⟨xs.length, h.emitsIn⟩

/-- A step that comes after another starts inside the buffer. -/
theorem Fills.bind (hw : Fills w a xs) (hf : EmitsIn ys.length (f a) b ys) : Fills (w >>= f) b (xs ++ ys) := by
  refine ⟨fun c hc => ?_, fun c hc => ?_⟩
  · rw [List.length_append] at hc
    obtain ⟨c₁, h₁, w₁⟩ := hw.fits c (by omega)
    obtain ⟨c₂, h₂, w₂⟩ := hf.fits c₁ (by rw [w₁.pos, w₁.size]; omega)
    exact ⟨c₂, (bind_ok h₁).trans h₂, w₁.trans w₂⟩
  · rw [List.length_append] at hc
    by_cases hr : c.pos + xs.length ≤ c.buffer.size
    · obtain ⟨c₁, h₁, w₁⟩ := hw.fits c hr
      obtain ⟨c₂, h₂, s₂⟩ := hf.full c₁ (by rw [w₁.pos, w₁.size]; omega) (by rw [w₁.pos, w₁.size]; omega)
      exact ⟨c₂, (bind_ok h₁).trans h₂, s₂.after w₁ (by omega)⟩
    · obtain ⟨c₁, h₁, s₁⟩ := hw.full c (by omega)
      exact ⟨c₁, bind_error h₁, s₁⟩

theorem Fills.andThen {w' : Write β} (hw : Fills w a xs) (hf : Fills w' b ys) :
    Fills (do let _ ← w; w') b (xs ++ ys) := hw.bind hf.emitsIn

/-! ## The steps -/

theorem fills_putRaw (bytes : ByteArray) : Fills (putRaw bytes) () bytes.data.toList := by
  have hb : bytes.data.toList.length = bytes.size := by rw [Array.length_toList, ByteArray.size_data]
  refine ⟨fun c hc => ?_, fun c hc => ⟨c, if_neg (by omega), Stopped.refl c⟩⟩
  rw [hb] at hc
  have hd : (front c.buffer (c.pos + bytes.size)).drop (c.pos + bytes.size) = [] :=
    List.drop_of_length_le (Nat.le_of_eq (length_front hc))
  refine ⟨_, if_pos hc, size_overwrite hc, by rw [hb], ?_⟩
  rw [Cursor.behind, Cursor.behind, front_overwrite (Nat.le_refl _) hc, hd, List.append_nil]

theorem set_eq_overwrite (buffer : ByteArray) (i : Nat) (x : UInt8) (h : i < buffer.size) :
    buffer.set i x h = overwrite buffer i [x].toByteArray := by
  apply ByteArray.ext
  apply Array.toList_inj.1
  rw [toList_overwrite, List.data_toByteArray]
  simp only [ByteArray.set, Array.toList_set, List.size_toByteArray, List.length_singleton, front]
  rw [List.set_eq_take_append_cons_drop, if_pos (by simpa using h), List.append_assoc, List.singleton_append]

theorem putByte_eq (x : UInt8) : putByte x = putRaw [x].toByteArray := by
  funext c
  by_cases h : c.pos < c.buffer.size
  · rw [putByte, dif_pos h, putRaw, if_pos (by simpa using Nat.succ_le_of_lt h), set_eq_overwrite,
      List.size_toByteArray]
    rfl
  · rw [putByte, dif_neg h, putRaw, if_neg (by rw [List.size_toByteArray, List.length_singleton]; omega)]

theorem fills_putByte (x : UInt8) : Fills (putByte x) () [x] := by
  rw [putByte_eq]
  simpa using fills_putRaw [x].toByteArray

/-- Bytes are put one by one, and past the end of the buffer the first of them is stopped. -/
theorem fills_putEach : ∀ (x : UInt8) (xs : List UInt8), Fills (putEach (x :: xs)) () (x :: xs)
  | x, [] => (fills_putByte x).bind (emitsIn_pure ())
  | x, y :: xs => (fills_putByte x).andThen (fills_putEach y xs)

theorem fills_putVarint (n : Nat) : Fills (putVarint n) () (Varint.encode n) := by
  unfold putVarint
  rw [Varint.encode]
  split
  · exact fills_putEach _ _
  · exact fills_putEach _ _

/-- The bytes that begin a field. -/
def key (field : Nat) (form : Form) : List UInt8 := Varint.encode (8 * field + form.code)

theorem fills_putKey (field : Nat) (form : Form) : Fills (putKey field form) () (key field form) :=
  fills_putVarint _

theorem fills_putNumber (field n : Nat) :
    Fills (putNumber field n) () (key field .varint ++ Varint.encode n) :=
  (fills_putKey field .varint).andThen (fills_putVarint n)

theorem fills_fixed32 (n : UInt32) : Fills (putRaw (fixed32 n)) () (littleEndian 4 n.toNat) := by
  have h := fills_putRaw (fixed32 n)
  rwa [fixed32, List.data_toByteArray] at h

theorem fills_fixed64 (n : UInt64) : Fills (putRaw (fixed64 n)) () (littleEndian 8 n.toNat) := by
  have h := fills_putRaw (fixed64 n)
  rwa [fixed64, List.data_toByteArray] at h

theorem fills_putFixed32 (field : Nat) (n : UInt32) :
    Fills (putFixed32 field n) () (key field .fixed32 ++ littleEndian 4 n.toNat) :=
  (fills_putKey field .fixed32).andThen (fills_fixed32 n)

theorem fills_putFixed64 (field : Nat) (n : UInt64) :
    Fills (putFixed64 field n) () (key field .fixed64 ++ littleEndian 8 n.toNat) :=
  (fills_putKey field .fixed64).andThen (fills_fixed64 n)

theorem fills_putBytes (field : Nat) (bytes : ByteArray) :
    Fills (putBytes field bytes) ()
      (key field .lengthDelimited ++ (Varint.encode bytes.size ++ bytes.data.toList)) :=
  (fills_putKey field .lengthDelimited).andThen ((fills_putVarint bytes.size).andThen (fills_putRaw bytes))

theorem Emits.putAll {put : α → Write Unit} {bytes : α → List UInt8} :
    ∀ {xs : List α}, (∀ x ∈ xs, Emits (put x) () (bytes x)) → Emits (putAll put xs) () (xs.flatMap bytes)
  | [], _ => emits_pure ()
  | x :: xs, h => by
    rw [List.flatMap_cons]
    exact (h x (List.mem_cons_self)).andThen (Emits.putAll fun y hy => h y (List.mem_cons_of_mem x hy))

/-! ## Messages

A message begins with its key and a slot whose old bytes stay until the slot is filled, so what a message
emits is told of the message as a whole. -/

/-- Where the slot of a message that begins at a cursor stands. -/
def slotOf (field : Nat) (c : Cursor) : Nat := c.pos + (key field .lengthDelimited).length

/-- `c'` is where the body of a message that began at `c` leaves off, before the slot is filled. -/
structure Pending (field : Nat) (c c' : Cursor) (bytes : List UInt8) : Prop where
  size : c'.buffer.size = c.buffer.size
  inside : c'.pos ≤ c'.buffer.size
  pos : c'.pos = slotOf field c + Varint.slotSize + bytes.length
  front : front c'.buffer (slotOf field c) = c.behind ++ key field .lengthDelimited
  body : c'.behind.drop (slotOf field c + Varint.slotSize) = bytes

/-- A message is opened wherever its key and its slot fit, and is stopped wherever they do not. -/
theorem openMessage_fills (field : Nat) (c : Cursor) :
    (c.pos + ((key field .lengthDelimited).length + Varint.slotSize) ≤ c.buffer.size →
      ∃ c', openMessage field c = .ok (slotOf field c) c' ∧ Pending field c c' []) ∧
    (c.buffer.size < c.pos + ((key field .lengthDelimited).length + Varint.slotSize) →
      ∃ c', openMessage field c = .error .full c' ∧ Stopped c c') := by
  have hkey := fills_putKey field .lengthDelimited
  refine ⟨fun hc => ?_, fun hc => ?_⟩
  · obtain ⟨c₁, h₁, w₁⟩ := hkey.fits c (by omega)
    have hroom : c₁.pos + Varint.slotSize ≤ c₁.buffer.size := by rw [w₁.pos, w₁.size]; omega
    have hslot : slotOf field c = c₁.pos := w₁.pos.symm
    refine ⟨⟨c₁.buffer, c₁.pos + Varint.slotSize, c₁.renders⟩, ?_, w₁.size, hroom, by rw [hslot]; rfl, ?_, ?_⟩
    · rw [openMessage, bind_ok h₁, hslot]
      exact (bind_ok (w := position) rfl).trans (bind_ok (w := leaveRoom _) (if_pos hroom))
    · rw [hslot]; exact w₁.behind
    · rw [hslot]
      exact List.drop_of_length_le (Nat.le_of_eq (length_front hroom))
  · by_cases hr : c.pos + (key field .lengthDelimited).length ≤ c.buffer.size
    · obtain ⟨c₁, h₁, w₁⟩ := hkey.fits c hr
      have hroom : ¬ c₁.pos + Varint.slotSize ≤ c₁.buffer.size := by rw [w₁.pos, w₁.size]; omega
      refine ⟨c₁, ?_, (Stopped.refl c₁).after w₁ (by omega)⟩
      rw [openMessage, bind_ok h₁]
      exact (bind_ok (w := position) rfl).trans (bind_error (w := leaveRoom _) (if_neg hroom))
    · obtain ⟨c₁, h₁, s₁⟩ := hkey.full c (by omega)
      exact ⟨c₁, bind_error h₁, s₁⟩

/-- A message that was opened is pending. -/
theorem openMessage_pending {field slot : Nat} {c c' : Cursor} (h : openMessage field c = .ok slot c') :
    slot = slotOf field c ∧ Pending field c c' [] := by
  by_cases hroom : c.pos + ((key field .lengthDelimited).length + Varint.slotSize) ≤ c.buffer.size
  · obtain ⟨c₁, h₁, p₁⟩ := (openMessage_fills field c).1 hroom
    cases h.symm.trans h₁
    exact ⟨rfl, p₁⟩
  · obtain ⟨c₁, h₁, -⟩ := (openMessage_fills field c).2 (Nat.lt_of_not_le hroom)
    cases h.symm.trans h₁

theorem openMessage_emits (field : Nat) : ∃ room, (key field .lengthDelimited).length ≤ room ∧ ∀ c : Cursor,
    (c.pos + room ≤ c.buffer.size → ∃ c', openMessage field c = .ok (slotOf field c) c' ∧ Pending field c c' []) ∧
    (c.pos ≤ c.buffer.size → c.buffer.size < c.pos + room →
      ∃ c', openMessage field c = .error .full c' ∧ Stopped c c') :=
  ⟨_, Nat.le_add_right _ _, fun c => ⟨(openMessage_fills field c).1, fun _ => (openMessage_fills field c).2⟩⟩

theorem Pending.start_le {field : Nat} {c c' : Cursor} (h : Pending field c c' xs) : c.pos ≤ c'.pos := by
  rw [h.pos, slotOf]
  omega

theorem Pending.front_start {field : Nat} {c c' : Cursor} (h : Pending field c c' xs) (hc : c.pos ≤ c.buffer.size) :
    Wire.front c'.buffer c.pos = c.behind := by
  have hl : c.behind.length = c.pos := length_front hc
  rw [front_of_le c'.buffer (n := slotOf field c) (by rw [slotOf]; omega), h.front,
    List.take_append_of_le_length (by omega), List.take_of_length_le (by omega)]

/-- A body that is written inside a message leaves it pending. -/
theorem Pending.wrote {field : Nat} {c c' c'' : Cursor} (h : Pending field c c' []) (h' : Wrote c' c'' xs)
    (hin : c''.pos ≤ c''.buffer.size) : Pending field c c'' xs := by
  have hl : c'.behind.length = c'.pos := length_front h.inside
  have hp := h.pos
  rw [List.length_nil, Nat.add_zero] at hp
  refine ⟨h'.size.trans h.size, hin, by rw [h'.pos, hp], ?_, ?_⟩
  · rw [front_of_le c''.buffer (n := c''.pos) (by rw [h'.pos]; omega), ← Cursor.behind, h'.behind,
      List.take_append_of_le_length (by omega), Cursor.behind, ← front_of_le c'.buffer (by omega), h.front]
  · rw [h'.behind, List.drop_append, h.body, hl, hp, Nat.sub_self, List.drop_zero, List.nil_append]

theorem Pending.stopped {field : Nat} {c c' c'' : Cursor} (h : Pending field c c' xs) (h' : Stopped c' c'')
    (hc : c.pos ≤ c.buffer.size) : Stopped c c'' := by
  have hp := h.start_le
  refine ⟨h'.size.trans h.size, ?_⟩
  rw [front_of_le c''.buffer hp, h'.front, Cursor.behind, ← front_of_le c'.buffer hp, h.front_start hc]

/-- The bytes of a message around the bytes of its body. -/
def enclosed (field : Nat) (bytes : List UInt8) : List UInt8 :=
  key field .lengthDelimited ++ (Varint.padded bytes.length ++ bytes)

theorem fillSlot_pending {field : Nat} {c c' : Cursor} (h : Pending field c c' xs) :
    ∃ c'', fillSlot (slotOf field c) c' = .ok () c'' ∧ Wrote c c'' (enclosed field xs) := by
  have hlen : c'.pos - (slotOf field c + Varint.slotSize) = xs.length := by rw [h.pos]; omega
  have hsize : (Varint.padded xs.length).toByteArray.size = Varint.slotSize := by
    rw [List.size_toByteArray, Varint.length_padded]
  have hp := h.pos
  have hc := h.inside
  refine ⟨⟨overwrite c'.buffer (slotOf field c) (Varint.padded xs.length).toByteArray, c'.pos, c'.renders⟩, ?_,
    ?_, ?_, ?_⟩
  · rw [← hlen]
    exact if_pos ⟨by omega, by omega⟩
  · rw [← h.size]; exact size_overwrite (by omega)
  · show c'.pos = _
    rw [h.pos, enclosed, List.length_append, List.length_append, Varint.length_padded, slotOf]; omega
  · show front _ c'.pos = _
    rw [front_overwrite (by omega) hc, h.front, hsize, ← Cursor.behind, h.body, enclosed,
      List.data_toByteArray, List.append_assoc, List.append_assoc]

/-- A message with a body that emits is opened and its body written, where there is room, and else is stopped
whatever would come after it. -/
theorem Emits.opened {body : Write α} (field : Nat) (h : Emits body a xs) :
    ∃ room, (enclosed field xs).length ≤ room ∧ ∀ c : Cursor,
      (c.pos + room ≤ c.buffer.size → ∃ c₁ c₂, openMessage field c = .ok (slotOf field c) c₁ ∧
        body c₁ = .ok a c₂ ∧ Pending field c c₂ xs) ∧
      (c.pos ≤ c.buffer.size → c.buffer.size < c.pos + room → ∀ g : Nat → α → Write β, ∃ c',
        (openMessage field >>= fun slot => body >>= g slot) c = .error .full c' ∧ Stopped c c') := by
  obtain ⟨r, hl, hfit, hfull⟩ := h
  obtain ⟨k, hk, hopen⟩ := openMessage_emits field
  refine ⟨max k ((key field .lengthDelimited).length + Varint.slotSize + r), ?_, fun c => ⟨fun hc => ?_,
    fun hc hc' g => ?_⟩⟩
  · rw [enclosed, List.length_append, List.length_append, Varint.length_padded]; omega
  · obtain ⟨c₁, h₁, p₁⟩ := (hopen c).1 (by omega)
    have hp := p₁.pos
    have hs := p₁.size
    rw [slotOf, List.length_nil] at hp
    obtain ⟨c₂, h₂, w₂⟩ := hfit c₁ (by omega)
    exact ⟨c₁, c₂, h₁, h₂, p₁.wrote w₂ (by rw [w₂.pos, w₂.size]; omega)⟩
  · by_cases hr : c.pos + k ≤ c.buffer.size
    · obtain ⟨c₁, h₁, p₁⟩ := (hopen c).1 hr
      have hp := p₁.pos
      have hs := p₁.size
      rw [slotOf, List.length_nil] at hp
      obtain ⟨c₂, h₂, s₂⟩ := hfull c₁ p₁.inside (by omega)
      exact ⟨c₂, (bind_ok h₁).trans (bind_error h₂), p₁.stopped s₂ hc⟩
    · obtain ⟨c₁, h₁, s₁⟩ := (hopen c).2 hc (by omega)
      exact ⟨c₁, bind_error h₁, s₁⟩

/-- **A message emits what its body emits, behind its key and its length.** -/
theorem Emits.message {body : Write α} (field : Nat) (h : Emits body a xs) :
    Emits (message field body) a (enclosed field xs) := by
  obtain ⟨r, hl, hrun⟩ := h.opened field
  refine ⟨r, hl, fun c hc => ?_, fun c hc hc' => (hrun c).2 hc hc' _⟩
  obtain ⟨c₁, c₂, h₁, h₂, p₂⟩ := (hrun c).1 hc
  obtain ⟨c₃, h₃, w₃⟩ := fillSlot_pending p₂
  exact ⟨c₃, (bind_ok h₁).trans ((bind_ok h₂).trans (bind_ok h₃)), w₃⟩

theorem Emits.messageIf_true {body : Write Bool} (field : Nat) (h : Emits body true xs) :
    Emits (messageIf field body) true (enclosed field xs) := by
  obtain ⟨r, hl, hrun⟩ := h.opened field
  refine ⟨r, hl, fun c hc => ?_, fun c hc hc' => (hrun c).2 hc hc' _⟩
  obtain ⟨c₁, c₂, h₁, h₂, p₂⟩ := (hrun c).1 hc
  obtain ⟨c₃, h₃, w₃⟩ := fillSlot_pending p₂
  exact ⟨c₃, (bind_ok (w := position) rfl).trans ((bind_ok h₁).trans ((bind_ok h₂).trans (bind_ok h₃))), w₃⟩

/-- **A message whose body gave up is gone**: it takes room while it is written and leaves no bytes. -/
theorem Emits.messageIf_false {body : Write Bool} (field : Nat) (h : Emits body false xs) :
    Emits (messageIf field body) false [] := by
  obtain ⟨r, hl, hrun⟩ := h.opened field
  refine ⟨r, Nat.zero_le r, fun c hc => ?_, fun c hc hc' => (hrun c).2 hc hc' _⟩
  obtain ⟨c₁, c₂, h₁, h₂, p₂⟩ := (hrun c).1 hc
  have hback : moveTo c.pos c₂ = .ok () ⟨c₂.buffer, c.pos, c₂.renders⟩ := if_pos p₂.start_le
  refine ⟨⟨c₂.buffer, c.pos, c₂.renders⟩, (bind_ok (w := position) rfl).trans ((bind_ok h₁).trans ((bind_ok h₂).trans
    (bind_ok hback))), p₂.size, rfl, ?_⟩
  rw [List.append_nil]
  exact p₂.front_start (by omega)

/-! ## Past the end -/

/-- A step that is stopped where it starts past the end of the buffer, even if it has nothing to write. -/
def StopsOutside {α : Type} (w : Write α) : Prop := ∀ c : Cursor, c.buffer.size < c.pos → w c = .error .full c

theorem StopsOutside.bind (h : StopsOutside w) : StopsOutside (w >>= f) := fun c hc => bind_error (h c hc)

theorem putByte_stopsOutside (x : UInt8) : StopsOutside (putByte x) := fun _ hc => dif_neg (by omega)

theorem putVarint_stopsOutside (n : Nat) : StopsOutside (putVarint n) := by
  unfold putVarint
  rw [Varint.encode]
  split
  · exact (putByte_stopsOutside _).bind
  · exact (putByte_stopsOutside _).bind

theorem message_stopsOutside (field : Nat) (body : Write α) : StopsOutside (message field body) :=
  StopsOutside.bind (StopsOutside.bind (putVarint_stopsOutside _))

end Wire
end Courier
