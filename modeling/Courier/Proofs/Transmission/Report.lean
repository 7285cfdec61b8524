import Courier.Proofs.Transmission.Demand
/-!
# Report - the result of a transmission tells what its last answer was

Each exit of a transmission has a result of its own.  Main statement: a transmission makes the attempts that its
answers demand and no others, and its result is a success exactly when the last answer was, the failure of a client
that would not try, or else a text that tells how often was tried, where it tells that (`History.answers_obeyed`).
All of that takes a deadline that the clock can show: without one no attempt is made, and there is no result
(`History.deadlineless_brink`).
-/
namespace Courier
namespace Transmission

variable {t : Transmission} {began deadline : Moment}

/-- The answer to the last attempt. -/
def lastReply? (rounds : List Round) : Option (Except Failure Response) :=
  rounds.head?.bind fun r => r.answer.map Answer.reply

/-- A text that says how many attempts there were, or nothing about it. -/
def Counts (t : Transmission) (n : Nat) (text : String) : Prop :=
  text = t.signal.text ++ " export cancelled by shutdown" ∨
  ∃ reason, text = t.signal.text ++ " export failed after " ++ attemptsText n ++ ": " ++ reason ∨
    text = t.signal.text ++ " export did not complete within " ++ t.timeout.text ++ " after " ++ attemptsText n ++
      ": " ++ reason

/-- What a result says of the attempts of a transmission.  Its texts count attempts in 32 bits. -/
structure Reported (t : Transmission) (rounds : List Round) (result : Except Fault Result) : Prop where
  ok_iff : result = .ok (.ok ()) ↔ ∃ r, lastReply? rounds = some (.ok r) ∧ r.success = true
  rejected : ∀ f, lastReply? rounds = some (.error f) → result = .ok (.error f)
  failed : (∀ f, lastReply? rounds ≠ some (.error f)) → result ≠ .ok (.ok ()) →
    ∃ text, result = .ok (.error (.failed text)) ∧ (rounds.length < 0x100000000 → Counts t rounds.length text)

theorem lastReply?_cons {a : Round} {answer : Answer} (h : a.answer = some answer) (rest : List Round) :
    lastReply? (a :: rest) = some answer.reply := by
  simp [lastReply?, h]

/-- A transmission that ended with an attempt that failed says so. -/
theorem reported_failed {rounds : List Round} {text : String} {result : Except Fault Result}
    (hresult : result = .ok (.error (.failed text)))
    (hreply : ∀ reply, lastReply? rounds = some reply → ∃ r, reply = .ok r ∧ r.success = false)
    (hcounts : Counts t rounds.length text) : Reported t rounds result where
  ok_iff := by
    constructor
    · rintro h
      rw [hresult] at h
      cases h
    · rintro ⟨r, hr, hsuccess⟩
      obtain ⟨r', hr', hfailed⟩ := hreply _ hr
      cases hr'
      rw [hsuccess] at hfailed
      cases hfailed
  rejected f hf := by
    obtain ⟨r, hr, -⟩ := hreply _ hf
    cases hr
  failed _ _ := ⟨text, hresult, fun _ => hcounts⟩

theorem Exit.reported {rounds : List Round} {now : Moment} {ending : Ending}
    (hshown : (began.add t.timeout).Shown) (h : Exit t began deadline rounds now ending) :
    Reported t rounds (t.result rounds.length ending) := by
  have hlast : ∀ {a : Round} {rest : List Round} {answer : Answer} {r : Response}, a.Failed answer r →
      ∀ reply, lastReply? (a :: rest) = some reply → ∃ r, reply = .ok r ∧ r.success = false := by
    intro a rest answer r hf reply hreply
    rw [lastReply?_cons hf.answered, hf.replied] at hreply
    cases hreply
    exact ⟨r, rfl, hf.failed⟩
  cases h with
  | overflow h => exact absurd hshown h
  | lateAtStart => exact reported_failed rfl (fun _ h => by cases h) (.inr ⟨_, .inr rfl⟩)
  | accepted answered replied success =>
    rename_i a rest answer r
    have hreply := lastReply?_cons answered rest
    rw [replied] at hreply
    refine ⟨⟨fun _ => ⟨r, hreply, success⟩, fun _ => rfl⟩, fun f hf => ?_, fun _ hne => absurd rfl hne⟩
    rw [hreply] at hf
    cases hf
  | rejected answered replied =>
    rename_i a rest answer f
    have hreply := lastReply?_cons answered rest
    rw [replied] at hreply
    refine ⟨⟨?_, ?_⟩, fun f' hf' => ?_, fun hne _ => absurd hreply (hne f)⟩
    · rintro ⟨⟩
    · rintro ⟨r, hr, -⟩
      rw [hreply] at hr
      cases hr
    · rw [hreply] at hf'
      cases hf'
      rfl
  | shutAtAnswer failed => exact reported_failed rfl (hlast failed) (.inl rfl)
  | single failed => exact reported_failed rfl (hlast failed) (.inr ⟨_, .inl rfl⟩)
  | refused failed => exact reported_failed rfl (hlast failed) (.inr ⟨_, .inl rfl⟩)
  | expired failed => exact reported_failed rfl (hlast failed) (.inr ⟨_, .inr rfl⟩)
  | lateAtAnswer failed => exact reported_failed rfl (hlast failed) (.inr ⟨_, .inr rfl⟩)
  | shutInWait demands => exact reported_failed rfl (hlast demands.toFailed) (.inl rfl)
  | lateAtWake demands => exact reported_failed rfl (hlast demands.toFailed) (.inr ⟨_, .inr rfl⟩)

/-- Where failed attempts are not made again, there is one attempt. -/
theorem length_of_not_repeats {phase : Phase} {rounds : List Round} {now : Moment} {moves : Nat}
    (hshown : (began.add t.timeout).Shown) (hr : t.repeats = false) (hl : Linked t began deadline rounds)
    (hs : Stage t began deadline phase rounds now moves) : rounds.length = 1 := by
  cases hl with
  | none =>
    cases hs with
    | ended exit =>
      cases exit with
      | overflow h => exact absurd hshown h
      | lateAtStart repeats => rw [hr] at repeats; cases repeats
  | first => rfl
  | next repeats => rw [hr] at repeats; cases repeats

/-- A transmission without a deadline that the clock can show breaks off, whatever happens. -/
theorem History.run_of_not_shown (h : ¬ (began.add t.timeout).Shown) (body : ByteArray) (xs : List Happening) :
    (run t body began xs).rounds = [] ∧ (run t body began xs).phase = .ended 0 .clockOverflow := by
  have hphase : (begun t body false began).phase = .ended 0 .clockOverflow := start_of_not_shown h
  rw [run, foldl_of_ended hphase]
  refine ⟨?_, hphase⟩
  simp only [begun, opening, start_of_not_shown h]

/-- **A transmission does what the answers demand.** Whatever happens, its attempts carry the same body and are
linked: each but the first follows an attempt that failed and demanded it, in time, with no shutdown seen, after all
of the delay.  With a deadline that the clock can show, a transmission without repeats makes one attempt; and one
that is over left by an exit that its last attempt explains: it succeeds exactly when that attempt was accepted, hands
on the failure of a client unchanged, and else tells the number of attempts, where it tells one, as far as 32 bits
count.  Without such a deadline there is no attempt at all. -/
theorem History.answers_obeyed (t : Transmission) (body : ByteArray) (began : Moment) (xs : List Happening) :
    let h := History.run t body began xs
    (∀ r ∈ h.rounds, r.body = body) ∧ Linked t began (began.add t.timeout) h.rounds ∧
    ((began.add t.timeout).Shown →
      (t.repeats = false → h.rounds.length = 1) ∧
      ∀ n ending, h.phase = .ended n ending → (h.rounds.length < 0x100000000 → n = h.rounds.length) ∧
        Exit t began (began.add t.timeout) h.rounds h.now ending ∧ Reported t h.rounds (t.result n ending)) ∧
    (¬ (began.add t.timeout).Shown → h.rounds = [] ∧ h.phase = .ended 0 .clockOverflow) := by
  obtain ⟨-, hkept, hstage⟩ := sound_run t body began xs
  refine ⟨hkept.bodies, hkept.linked, fun hshown => ⟨fun hr => ?_, fun n ending hphase => ?_⟩, fun hnot => ?_⟩
  · exact length_of_not_repeats hshown hr hkept.linked hstage
  · rw [hphase] at hstage
    cases hstage with
    | ended exit => exact ⟨fun _ => rfl, exit, exit.reported hshown⟩
  · exact run_of_not_shown hnot body xs

/-- A single attempt, with the longest timeout of fewer than 2^63 seconds. -/
def brink : Transmission := { signal := .traces, timeout := ⟨9223372036854775807999999999⟩, repeats := false }

/-- A service that recovers is sent the payload twice within ten seconds.  It would be sent none with the longest
timeout of fewer than 2^63 seconds, a millisecond after the clock began. -/
theorem History.answers_obeyed_recovery :
    let h := History.run patient "a".toUTF8 ⟨7⟩ recovery
    (Moment.add ⟨7⟩ patient.timeout).Shown ∧ Linked patient ⟨7⟩ (Moment.add ⟨7⟩ patient.timeout) h.rounds ∧
    h.rounds.length = 2 ∧ h.phase = .ended 2 .delivered ∧ Reported patient h.rounds (.ok (.ok ())) ∧
    ¬ (Moment.add ⟨1000000⟩ brink.timeout).Shown ∧
    (History.run brink "a".toUTF8 ⟨1000000⟩ recovery).phase = .ended 0 .clockOverflow := by
  have hphase : (History.run patient "a".toUTF8 ⟨7⟩ recovery).phase = .ended 2 .delivered := rfl
  obtain ⟨-, hlinked, hshown, -⟩ := answers_obeyed patient "a".toUTF8 ⟨7⟩ recovery
  obtain ⟨-, hover⟩ := hshown (by decide)
  obtain ⟨hcount, -, hreported⟩ := hover 2 .delivered hphase
  obtain ⟨-, -, -, hnot⟩ := answers_obeyed brink "a".toUTF8 ⟨1000000⟩ recovery
  exact ⟨by decide, hlinked, (hcount (by decide)).symm, hphase, hreported, by decide, (hnot (by decide)).2⟩

/-- A timeout of fewer than 2^63 seconds is not enough for a deadline: with the longest of them, a millisecond after
the clock began, the payload is not tried even once, and there is no result. -/
theorem History.deadlineless_brink :
    let h := History.run brink "a".toUTF8 ⟨1000000⟩ recovery
    brink.repeats = false ∧ brink.timeout.seconds < 0x8000000000000000 ∧ h.rounds.length ≠ 1 ∧
    h.phase = .ended 0 .clockOverflow ∧ (∀ r, brink.result 0 .clockOverflow ≠ .ok r) ∧
    ¬ Reported brink h.rounds (brink.result 0 .clockOverflow) := by
  have hnot : ¬ (Moment.add ⟨1000000⟩ brink.timeout).Shown := by decide
  obtain ⟨hrounds, hphase⟩ := run_of_not_shown hnot "a".toUTF8 recovery
  have hnone : ∀ r, brink.result 0 .clockOverflow ≠ .ok r := nofun
  refine ⟨rfl, by decide, ?_, hphase, hnone, ?_⟩
  · rw [hrounds]
    decide
  · rw [hrounds]
    intro hreported
    obtain ⟨text, hresult, -⟩ := hreported.failed nofun (hnone _)
    exact hnone _ hresult

end Transmission
end Courier
