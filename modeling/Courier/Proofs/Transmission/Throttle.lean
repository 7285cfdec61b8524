import Courier.Proofs.Transmission.Deadline
/-!
# Throttle - a delay that a server asks for is honoured

A server asks by the details of a status or by a header, and a response is throttled just where one of them can be
read (`throttled_iff`).  A wait is cut at the deadline, so it may well be shorter than what was asked for; but then
there is no attempt after it.  Main statement: the delay has passed when the next attempt starts, and there is no
next attempt when the delay does not fit before the deadline (`History.throttle_honoured`).
-/
namespace Courier

/-- A response asks for a delay: by the details of a status for a resource that is exhausted or unavailable, or by the
`Retry-After` header that comes with 429 or 503. -/
inductive Response.Asks (now : Timestamp) : Response → Duration → Prop
  | details {g : GrpcResponse} {s : Status} {d : Duration} (status : g.status = some s)
      (code : s.code = .resourceExhausted ∨ s.code = .unavailable) (delay : RetryInfo.delayIn s.details = some d) :
      Asks now (.grpc g) d
  | header {h : HttpResponse} {d : Duration} (status : h.status = some 429 ∨ h.status = some 503)
      (delay : Verdict.retryAfter? h.headers now = some d) : Asks now (.http h) d

namespace Verdict

theorem delayOfStatus?_eq_some {s : Status} {d : Duration} : delayOfStatus? s = some d ↔
    (s.code = .resourceExhausted ∨ s.code = .unavailable) ∧ RetryInfo.delayIn s.details = some d := by
  unfold delayOfStatus?
  cases s.code <;> simp

theorem ofStatus_throttled {s : Status} {d : Duration} :
    ofStatus s = .throttled d ↔ delayOfStatus? s = some d := by
  unfold ofStatus
  cases delayOfStatus? s with
  | some delay => simp
  | none => cases isPassingCode s.code <;> simp

theorem isPassingStatus_of_mayThrottle {n : Nat} (h : mayThrottle n = true) : isPassingStatus n = true := by
  simp only [mayThrottle, List.contains_eq_mem, List.mem_cons, List.not_mem_nil, or_false, decide_eq_true_eq] at h
  rcases h with rfl | rfl <;> rfl

theorem ofHttp_throttled {status : Option Nat} {headers : Header.Table} {now : Timestamp} {d : Duration} :
    ofHttp status headers now = .throttled d ↔
      (status = some 429 ∨ status = some 503) ∧ retryAfter? headers now = some d := by
  cases status with
  | none => simp [ofHttp]
  | some n =>
    have hmay : mayThrottle n = true ↔ n = 429 ∨ n = 503 := by simp [mayThrottle]
    cases hthrottle : mayThrottle n with
    | true =>
      rw [hthrottle] at hmay
      simp only [ofHttp, isPassingStatus_of_mayThrottle hthrottle, hthrottle, Option.some.injEq, hmay.1 rfl,
        Bool.not_true, Bool.false_eq_true, if_false, if_true, true_and]
      cases retryAfter? headers now <;> simp
    | false =>
      have hnot : ¬ (n = 429 ∨ n = 503) := by simp [← hmay, hthrottle]
      cases hpass : isPassingStatus n <;> simp [ofHttp, hpass, hthrottle, hnot]

/-- A response is throttled just where it asks for a delay. -/
theorem throttled_iff {r : Response} {now : Timestamp} {d : Duration} :
    Decision.verdict? r now = some (.throttled d) ↔ r.Asks now d := by
  cases r with
  | grpc g =>
    simp only [Decision.verdict?, Option.map_eq_some_iff, ofStatus_throttled, delayOfStatus?_eq_some]
    constructor
    · rintro ⟨s, status, code, delay⟩
      exact .details status code delay
    · rintro ⟨status, code, delay⟩
      exact ⟨_, status, code, delay⟩
  | http h =>
    simp only [Decision.verdict?, Option.some.injEq, ofHttp_throttled]
    constructor
    · rintro ⟨status, delay⟩
      exact .header status delay
    · rintro ⟨⟩
      exact ⟨‹_›, ‹_›⟩

end Verdict

/-- A decision on a throttled response is for the delay that was asked for. -/
theorem Decision.delay_of_throttled {r : Response} {window draw : Nat} {now : Timestamp} {d : Duration}
    {decision : Decision} (hd : Decision.verdict? r now = some (.throttled d))
    (h : Decision.onResponse r window now draw = some decision) : decision.delay = d := by
  simp only [onResponse, hd, Option.bind_some, ofVerdict] at h
  split at h
  · cases h
  · split at h
    · cases h
      rfl
    · cases h

namespace Transmission

variable {t : Transmission} {body : ByteArray} {began deadline : Moment}

/-- The attempt after another one follows it. -/
theorem Linked.follows {later earlier : List Round} {a b : Round}
    (h : Linked t began deadline (later ++ a :: earlier)) (hb : b ∈ later.getLast?) : Follows deadline a b := by
  induction later with
  | nil => cases hb
  | cons c rest ih =>
    cases rest with
    | nil =>
      cases hb
      cases h with
      | next _ follows _ => exact follows
    | cons c' rest =>
      rw [List.getLast?_cons_cons] at hb
      cases h with
      | next _ _ before => exact ih before hb

/-- **A throttle is honoured.** A response is throttled just where its server asks for a delay, in one of the two
ways there are.  After the answer to an attempt with such a response the next attempt starts when all of the delay
has passed, whatever came before and however the wait was cut; and where the delay is all the time that was left or
more, there is no next attempt. -/
theorem History.throttle_honoured (t : Transmission) (body : ByteArray) (began : Moment) (xs : List Happening) :
    let h := History.run t body began xs
    (∀ r now d, Decision.verdict? r now = some (.throttled d) ↔ r.Asks now d) ∧
    ∀ later a earlier answer r d, h.rounds = later ++ a :: earlier → a.answer = some answer → answer.reply = .ok r →
      Decision.verdict? r answer.wall = some (.throttled d) →
      (∀ b ∈ later.getLast?, answer.finish.add d ≤ b.start) ∧
      ((began.add t.timeout).since answer.finish ≤ d → later = []) := by
  refine ⟨fun _ _ _ => Verdict.throttled_iff, ?_⟩
  intro later a earlier answer r d hrounds hanswer hreply hthrottled
  obtain ⟨-, hkept, -⟩ := sound_run t body began xs
  have hnext : ∀ b ∈ later.getLast?, answer.finish.add d ≤ b.start ∧ b.start < began.add t.timeout := by
    intro b hb
    obtain ⟨answer', r', decision, demands, -, -, hwaited, hearly⟩ := (hrounds ▸ hkept.linked).follows hb
    obtain rfl : answer = answer' := Option.some.inj (hanswer ▸ demands.answered)
    obtain rfl : r = r' := Except.ok.inj (hreply ▸ demands.replied)
    rw [Decision.delay_of_throttled hthrottled demands.decided] at hwaited
    exact ⟨hwaited, hearly⟩
  refine ⟨fun b hb => (hnext b hb).1, fun hleft => ?_⟩
  cases hlast : later.getLast? with
  | none => exact List.getLast?_eq_none_iff.1 hlast
  | some b =>
    obtain ⟨hwaited, hearly⟩ := hnext b hlast
    rw [Moment.le_iff, Moment.nanos_add] at hwaited
    rw [Moment.lt_iff] at hearly
    rw [Duration.le_iff, Moment.nanos_since] at hleft
    omega

/-- A resource that is exhausted for two seconds. -/
def exhausted : Response :=
  .grpc (.ended ⟨100⟩ { code := .resourceExhausted, details := RetryInfo.encode (.ofSeconds 2) })

theorem onResponse_exhausted :
    Decision.onResponse exhausted Window.initial ⟨0⟩ 0 = some ⟨true, .ofSeconds 2, 3000⟩ := by
  decide +kernel

/-- It is asked for again after the two seconds. -/
def patience : List Happening :=
  [⟨.ofMillis 5, false, .answered (.ok exhausted) ⟨0⟩ 0⟩, ⟨.ofSeconds 2, false, .resumed⟩]

theorem rounds_patience : ∃ b a answer, (History.run patient "a".toUTF8 ⟨7⟩ patience).rounds = [b] ++ [a] ∧
    a.answer = some answer ∧ answer.reply = .ok exhausted ∧ answer.wall = ⟨0⟩ := by
  have hwait : afterFailure ⟨⟨10000000007⟩, 1, Window.initial, none⟩ exhausted ⟨5000007⟩ ⟨0⟩ 0 =
      .waiting ⟨⟨10000000007⟩, 1, 3000, some exhausted⟩ ⟨2005000007⟩ := by
    rw [afterFailure, onResponse_exhausted]
    rfl
  have hfirst : ((History.begun patient "a".toUTF8 false ⟨7⟩).step patient
      ⟨.ofMillis 5, false, .answered (.ok exhausted) ⟨0⟩ 0⟩).phase =
        .waiting ⟨⟨10000000007⟩, 1, 3000, some exhausted⟩ ⟨2005000007⟩ := hwait
  simp only [History.run, patience, List.foldl_cons, List.foldl_nil]
  rw [History.step, hfirst]
  exact ⟨_, _, _, rfl, rfl, rfl, rfl⟩

/-- The second attempt starts two seconds after the answer to the first one, or later. -/
theorem History.throttle_honoured_exhausted :
    let h := History.run patient "a".toUTF8 ⟨7⟩ patience
    ∃ b a answer, h.rounds = [b] ++ [a] ∧ a.answer = some answer ∧ answer.reply = .ok exhausted ∧
      exhausted.Asks answer.wall (.ofSeconds 2) ∧ answer.finish.add (.ofSeconds 2) ≤ b.start := by
  obtain ⟨b, a, answer, hrounds, hanswer, hreply, hwall⟩ := rounds_patience
  have hverdict : Decision.verdict? exhausted answer.wall = some (.throttled (.ofSeconds 2)) := by
    rw [hwall]
    decide +kernel
  obtain ⟨hasks, hnext⟩ := throttle_honoured patient "a".toUTF8 ⟨7⟩ patience
  refine ⟨b, a, answer, hrounds, hanswer, hreply, (hasks _ _ _).1 hverdict, ?_⟩
  exact (hnext [b] a [] answer exhausted _ hrounds hanswer hreply hverdict).1 b rfl

end Transmission
end Courier
