import Courier.Proofs.Transmission.Throttle
/-!
# Judgement - which failed attempts are made again

Whether a failure is transient is told by its code or its status alone, but for a resource that is exhausted, which
needs a hint.  A delay is counted from a deadline that is still ahead, so that no delay is too short to be waited for
and none is too long, not even one whose end the clock cannot show (`Decision.resumes_of_lt`).  Main statement: the
decision on every response, in every window and at every instant (`Decision.onResponse_exact`).
-/
namespace Courier

/-- The failure may pass. -/
inductive Response.Transient : Response → Prop
  | code {g : GrpcResponse} {s : Status} (status : g.status = some s)
      (code : s.code ∈ [.cancelled, .deadlineExceeded, .aborted, .outOfRange, .unavailable, .dataLoss]) :
      Transient (.grpc g)
  | recovering {g : GrpcResponse} {s : Status} {d : Duration} (status : g.status = some s)
      (code : s.code = .resourceExhausted) (delay : RetryInfo.delayIn s.details = some d) : Transient (.grpc g)
  | unanswered {h : HttpResponse} (status : h.status = none) : Transient (.http h)
  | status {h : HttpResponse} {n : Nat} (status : h.status = some n) (code : n ∈ [408, 429, 502, 503, 504]) :
      Transient (.http h)

/-- The responses differ at most in where a hint could be, and their code or status takes none. -/
inductive Response.Alike : Response → Response → Prop
  | details {g : GrpcResponse} {s : Status} (status : g.status = some s) (exhausted : s.code ≠ .resourceExhausted)
      (unavailable : s.code ≠ .unavailable) (details : List UInt8) :
      Alike (.grpc g) (.grpc { g with status := some { s with details } })
  | headers {h : HttpResponse} (exhausted : h.status ≠ some 429) (unavailable : h.status ≠ some 503)
      (headers : Header.Table) : Alike (.http h) (.http { h with headers })

namespace Verdict

theorem ofStatus_ne_permanent {s : Status} : ofStatus s ≠ .permanent ↔
    isPassingCode s.code = true ∨ s.code = .resourceExhausted ∧ ∃ d, RetryInfo.delayIn s.details = some d := by
  unfold ofStatus
  cases hdelay : delayOfStatus? s with
  | some d =>
    obtain ⟨hcode, hd⟩ := delayOfStatus?_eq_some.1 hdelay
    rcases hcode with hcode | hcode
    · simp [hcode, hd]
    · simp [hcode, isPassingCode]
  | none =>
    have hnone : ¬ (s.code = .resourceExhausted ∧ ∃ d, RetryInfo.delayIn s.details = some d) := by
      rintro ⟨hcode, d, hd⟩
      cases hdelay.symm.trans (delayOfStatus?_eq_some.2 ⟨.inl hcode, hd⟩)
    cases hpassing : isPassingCode s.code <;> simp [hnone]

theorem isPassingCode_iff {c : StatusCode} : isPassingCode c = true ↔
    c ∈ [.cancelled, .deadlineExceeded, .aborted, .outOfRange, .unavailable, .dataLoss] := by
  cases c <;> decide

theorem ofHttp_ne_permanent {status : Option Nat} {headers : Header.Table} {now : Timestamp} :
    ofHttp status headers now ≠ .permanent ↔ ∀ n ∈ status, n ∈ [408, 429, 502, 503, 504] := by
  cases status with
  | none => simp [ofHttp]
  | some n =>
    have hlisted : isPassingStatus n = true ↔ n ∈ [408, 429, 502, 503, 504] := List.contains_iff_mem
    rw [show (∀ m ∈ some n, m ∈ [408, 429, 502, 503, 504]) ↔ isPassingStatus n = true by simp [hlisted]]
    cases hpass : isPassingStatus n with
    | false => simp [ofHttp, hpass]
    | true =>
      simp only [ofHttp, hpass, Bool.not_true, Bool.false_eq_true, if_false, iff_true]
      cases retryAfter? headers now <;> cases mayThrottle n <;> simp

theorem ne_permanent_iff {r : Response} (now : Timestamp) :
    (∃ v ∈ Decision.verdict? r now, v ≠ .permanent) ↔ r.Transient := by
  cases r with
  | grpc g =>
    simp only [Decision.verdict?, Option.mem_def, Option.map_eq_some_iff]
    constructor
    · rintro ⟨_, ⟨s, hs, rfl⟩, hne⟩
      rcases ofStatus_ne_permanent.1 hne with hcode | ⟨hcode, d, hd⟩
      · exact .code hs (isPassingCode_iff.1 hcode)
      · exact .recovering hs hcode hd
    · rintro (⟨hs, hcode⟩ | ⟨hs, hcode, hd⟩)
      · exact ⟨_, ⟨_, hs, rfl⟩, ofStatus_ne_permanent.2 (.inl (isPassingCode_iff.2 hcode))⟩
      · exact ⟨_, ⟨_, hs, rfl⟩, ofStatus_ne_permanent.2 (.inr ⟨hcode, _, hd⟩)⟩
  | http h =>
    simp only [Decision.verdict?, Option.mem_def, Option.some.injEq, exists_eq_left', ofHttp_ne_permanent]
    constructor
    · intro hpass
      cases hs : h.status with
      | none => exact .unanswered hs
      | some n => exact .status hs (hpass n hs)
    · rintro (_ | _ | hs | ⟨hs, hcode⟩) m hm
      · cases hs.symm.trans hm
      · cases hs.symm.trans hm
        exact hcode

end Verdict

namespace Decision

/-- Before the deadline, the end of a delay that is counted from the deadline is ahead. -/
theorem resumes_of_lt {deadline now : Timestamp} (h : now < deadline) (delay : Duration) :
    resumes deadline delay now = true := by
  have hlater : now < (⟨deadline.nanos + delay.nanos⟩ : Timestamp) := by
    show now.nanos < deadline.nanos + delay.nanos
    have : now.nanos < deadline.nanos := h
    omega
  unfold resumes Timestamp.add?
  -- A sum that the clock cannot show counts as ahead, like one that it can.
  by_cases hshown : (⟨deadline.nanos + delay.nanos⟩ : Timestamp).Shown <;> simp [hshown, hlater]

theorem ofVerdict_of_lt {deadline now : Timestamp} (h : now < deadline) (verdict : Verdict) (window draw : Nat) :
    ofVerdict verdict deadline window now draw =
      match verdict with
      | .permanent => none
      | .throttled delay => some ⟨true, delay, Window.next (throttledBase (max window 1) delay)⟩
      | .passing => some ⟨false, jitter (max window 1) draw, Window.next (max window 1)⟩ := by
  cases verdict <;> simp [ofVerdict, resumes_of_lt h]

theorem onResponse_of_lt {r : Response} {now : Timestamp} (h : now < r.deadline) (window draw : Nat) :
    onResponse r window now draw = (verdict? r now).bind fun v => ofVerdict v r.deadline window now draw :=
  if_neg (Int.not_le.2 h)

theorem lt_of_onResponse {r : Response} {now : Timestamp} {window draw : Nat} {d : Decision}
    (h : onResponse r window now draw = some d) : now < r.deadline := by
  unfold onResponse at h
  split at h
  · cases h
  · exact Int.not_le.1 ‹_›

theorem onResponse_isSome {r : Response} {window draw : Nat} {now : Timestamp} :
    (onResponse r window now draw).isSome = true ↔ now < r.deadline ∧ r.Transient := by
  rw [← Verdict.ne_permanent_iff now]
  constructor
  · intro hsome
    obtain ⟨d, hd⟩ := Option.isSome_iff_exists.1 hsome
    have hlt := lt_of_onResponse hd
    obtain ⟨v, hv, hdecided⟩ := Option.bind_eq_some_iff.1 (onResponse_of_lt hlt window draw ▸ hd)
    refine ⟨hlt, v, hv, ?_⟩
    rintro rfl
    cases hdecided
  · rintro ⟨hlt, v, hv, hne⟩
    rw [onResponse_of_lt hlt, Option.mem_def.1 hv, Option.bind_some, ofVerdict_of_lt hlt]
    cases v with
    | permanent => exact absurd rfl hne
    | passing => rfl
    | throttled delay => rfl

theorem onResponse_throttled {r : Response} {window draw : Nat} {now : Timestamp} {hint : Duration} :
    (∃ d ∈ onResponse r window now draw, d.throttled = true ∧ d.delay = hint) ↔
      now < r.deadline ∧ r.Asks now hint := by
  rw [← Verdict.throttled_iff]
  constructor
  · rintro ⟨d, hd, hthrottled, rfl⟩
    have hlt := lt_of_onResponse hd
    obtain ⟨v, hv, hdecided⟩ := Option.bind_eq_some_iff.1 (onResponse_of_lt hlt window draw ▸ hd)
    rw [ofVerdict_of_lt hlt] at hdecided
    cases v with
    | permanent => cases hdecided
    | passing =>
      cases hdecided
      cases hthrottled
    | throttled delay =>
      cases hdecided
      exact ⟨hlt, hv⟩
  · rintro ⟨hlt, hv⟩
    rw [onResponse_of_lt hlt, hv, Option.bind_some, ofVerdict_of_lt hlt]
    exact ⟨_, rfl, rfl, rfl⟩

theorem verdict?_alike {r r' : Response} (h : r.Alike r') (now : Timestamp) : verdict? r' now = verdict? r now := by
  cases h with
  | @details g s status exhausted unavailable details =>
    have hhint : ∀ details, Verdict.delayOfStatus? { s with details } = none := by
      intro details
      refine Option.eq_none_iff_forall_ne_some.2 fun d hd => ?_
      rcases (Verdict.delayOfStatus?_eq_some.1 hd).1 with hcode | hcode
      · exact exhausted hcode
      · exact unavailable hcode
    have hsame : ∀ details, Verdict.ofStatus { s with details } =
        if Verdict.isPassingCode s.code then .passing else .permanent := by
      intro details
      rw [Verdict.ofStatus, hhint]
    simp only [verdict?, status, Option.map_some, hsame details]
    exact congrArg some (hsame s.details).symm
  | @headers h exhausted unavailable headers =>
    have hquiet : ∀ n ∈ h.status, Verdict.mayThrottle n = false := by
      intro n hn
      rw [Option.mem_def.1 hn] at exhausted unavailable
      simpa [Verdict.mayThrottle] using And.intro exhausted unavailable
    simp only [verdict?, Option.some.injEq]
    cases hs : h.status with
    | none => rfl
    | some n => simp [Verdict.ofHttp, hquiet n hs]

theorem deadline_alike {r r' : Response} (h : r.Alike r') : r'.deadline = r.deadline := by
  cases h <;> rfl

/-- **The decision on a response is exact.** There is one just where the deadline is ahead and the response is
transient, whatever the window and however long the delay.  It is a throttle just where the response asks for a
delay, and then for that delay.  And nothing hangs on details or headers of a response that takes no hint. -/
theorem onResponse_exact (r : Response) (window : Nat) (now : Timestamp) (draw : Nat) :
    ((onResponse r window now draw).isSome = true ↔ now < r.deadline ∧ r.Transient) ∧
    (∀ hint, (∃ d ∈ onResponse r window now draw, d.throttled = true ∧ d.delay = hint) ↔
      now < r.deadline ∧ r.Asks now hint) ∧
    (∀ d ∈ onResponse r window now draw,
      (d.throttled = true ↔ ∃ hint, r.Asks now hint) ∧ ∀ hint, r.Asks now hint → d.delay = hint) ∧
    ∀ r', r.Alike r' → onResponse r' window now draw = onResponse r window now draw := by
  refine ⟨onResponse_isSome, fun hint => onResponse_throttled, fun d hd => ?_, fun r' halike => ?_⟩
  · have hlt := lt_of_onResponse hd
    refine ⟨⟨fun hthrottled => ?_, ?_⟩, fun hint hasks => ?_⟩
    · exact ⟨d.delay, (onResponse_throttled.1 ⟨d, hd, hthrottled, rfl⟩).2⟩
    · rintro ⟨hint, hasks⟩
      obtain ⟨d', hd', hthrottled, -⟩ := onResponse_throttled.2 ⟨hlt, hasks⟩
      cases hd.symm.trans hd'
      exact hthrottled
    · exact delay_of_throttled (Verdict.throttled_iff.2 hasks) hd
  · simp only [onResponse, deadline_alike halike, verdict?_alike halike]

/-- A resource that is away for longer than the clock can show, to a caller who has until its last instant. -/
def longAway : Response :=
  .grpc (.ended ⟨0x8000000000000000 * 1000000000 - 1⟩
    { code := .unavailable, details := RetryInfo.encode ⟨RetryInfo.longestGiven⟩ })

/-- The longest hint that is given, one nanosecond before the last instant that the clock can show and in an empty
window: the attempt is made again after that time.  And the end of a request with status 504 is decided alike
whatever its headers. -/
theorem onResponse_exact_longAway :
    let now : Timestamp := ⟨0x8000000000000000 * 1000000000 - 2⟩
    now < longAway.deadline ∧ longAway.deadline.add? ⟨RetryInfo.longestGiven⟩ = none ∧
    (∃ d ∈ onResponse longAway 0 now 7, d.throttled = true ∧ d.delay = ⟨RetryInfo.longestGiven⟩) ∧
    ∀ headers, onResponse (.http { (HttpResponse.received ⟨9⟩ 504 []) with headers }) 0 ⟨8⟩ 7 =
      onResponse (.http (.received ⟨9⟩ 504 [])) 0 ⟨8⟩ 7 := by
  intro now
  have hlt : now < longAway.deadline := by decide +kernel
  have hasks : longAway.Asks now ⟨RetryInfo.longestGiven⟩ := .details rfl (.inr rfl) (by decide +kernel)
  refine ⟨hlt, by decide +kernel, ?_, fun headers => ?_⟩
  · exact ((onResponse_exact longAway 0 now 7).2.1 _).2 ⟨hlt, hasks⟩
  · exact (onResponse_exact (.http (.received ⟨9⟩ 504 [])) 0 ⟨8⟩ 7).2.2.2 _ (.headers (by decide) (by decide) headers)

end Decision
end Courier
