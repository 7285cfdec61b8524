import Courier.Proofs.Transmission.History
/-!
# Demand - a transmission does what the answers to its attempts demand

An attempt that failed demands another one when no shutdown was seen, the decision on its response is for it and the
deadline is still ahead.  Main statement: whatever happens, each attempt of a history but the first is demanded by
the one before it, and what the transmission does next, or by which of its exits it left, follows from the last of
them (`History.sound_run`).
-/
namespace Courier
namespace Transmission

/-- The attempt was answered by a response, and the payload was not accepted. -/
structure Round.Failed (a : Round) (answer : Answer) (r : Response) : Prop where
  answered : a.answer = some answer
  replied : answer.reply = .ok r
  failed : r.success = false
  started : a.start ≤ answer.finish

/-- The attempt failed, and everything is there for another one. -/
structure Round.Demands (deadline : Moment) (a : Round) (answer : Answer) (r : Response) (d : Decision) : Prop
    extends a.Failed answer r where
  unshut : answer.shut = false
  decided : Decision.onResponse r a.window answer.wall answer.draw = some d
  early : answer.finish < deadline

/-- The attempt `b` is the one that the answer to `a` demands: in time, and after all of the delay. -/
def Follows (deadline : Moment) (a b : Round) : Prop :=
  ∃ answer r d, a.Demands deadline answer r d ∧ b.window = d.window ∧ b.shut = false ∧
    answer.finish.add d.delay ≤ b.start ∧ b.start < deadline

/-- The moment at which a wait should end: after the delay, or at the deadline if that is earlier. -/
def wakeAt (deadline : Moment) (answer : Answer) (d : Decision) : Moment :=
  answer.finish.add (d.delay.min (deadline.since answer.finish))

/-- A wait is one that the answer demands. -/
def Round.WaitsInTime (deadline : Moment) (r : Round) : Prop :=
  ∀ w ∈ r.wait, ∃ answer response d, r.Demands deadline answer response d ∧ w.wake = wakeAt deadline answer d

/-- Attempts, the last one first, of which each follows the one before it.  A first one that may be followed is
made in time as well. -/
inductive Linked (t : Transmission) (began deadline : Moment) : List Round → Prop
  | none : Linked t began deadline []
  | first {r : Round} (start : r.start = began) (window : r.window = Window.initial) (unshut : r.shut = false)
      (early : t.repeats = true → r.start < deadline) : Linked t began deadline [r]
  | next {a b : Round} {rest : List Round} (repeats : t.repeats = true) (follows : Follows deadline a b)
      (before : Linked t began deadline (a :: rest)) : Linked t began deadline (b :: a :: rest)

/-- The exits of a transmission, by its attempts and the moment. -/
inductive Exit (t : Transmission) (began deadline : Moment) : List Round → Moment → Ending → Prop
  /-- The clock cannot show the deadline. -/
  | overflow (h : ¬ (began.add t.timeout).Shown) : Exit t began deadline [] began .clockOverflow
  /-- There is no time for a first attempt. -/
  | lateAtStart (repeats : t.repeats = true) (late : deadline ≤ began) :
      Exit t began deadline [] began (.outOfTime none)
  /-- The payload is accepted. -/
  | accepted {a : Round} {rest : List Round} {answer : Answer} {r : Response} (answered : a.answer = some answer)
      (replied : answer.reply = .ok r) (success : r.success = true) :
      Exit t began deadline (a :: rest) answer.finish .delivered
  /-- The client would not make the attempt. -/
  | rejected {a : Round} {rest : List Round} {answer : Answer} {f : Failure} (answered : a.answer = some answer)
      (replied : answer.reply = .error f) : Exit t began deadline (a :: rest) answer.finish (.rejected f)
  /-- The attempt failed, and the exporter was shut down by then. -/
  | shutAtAnswer {a : Round} {rest : List Round} {answer : Answer} {r : Response} (failed : a.Failed answer r)
      (shut : answer.shut = true) : Exit t began deadline (a :: rest) answer.finish .cancelled
  /-- The attempt failed, and there is only one. -/
  | single {a : Round} {rest : List Round} {answer : Answer} {r : Response} (failed : a.Failed answer r)
      (unshut : answer.shut = false) (repeats : t.repeats = false) :
      Exit t began deadline (a :: rest) answer.finish (.refused r)
  /-- The attempt failed, and the decision is against another one. -/
  | refused {a : Round} {rest : List Round} {answer : Answer} {r : Response} (failed : a.Failed answer r)
      (unshut : answer.shut = false)
      (decided : Decision.onResponse r a.window answer.wall answer.draw = none) (early : ¬ r.deadline ≤ answer.wall) :
      Exit t began deadline (a :: rest) answer.finish (.refused r)
  /-- The attempt failed, and its own time is up. -/
  | expired {a : Round} {rest : List Round} {answer : Answer} {r : Response} (failed : a.Failed answer r)
      (unshut : answer.shut = false)
      (decided : Decision.onResponse r a.window answer.wall answer.draw = none) (late : r.deadline ≤ answer.wall) :
      Exit t began deadline (a :: rest) answer.finish (.outOfTime (some r))
  /-- The attempt failed, and the decision is for another one, but the deadline is there. -/
  | lateAtAnswer {a : Round} {rest : List Round} {answer : Answer} {r : Response} {d : Decision}
      (failed : a.Failed answer r) (unshut : answer.shut = false)
      (decided : Decision.onResponse r a.window answer.wall answer.draw = some d) (late : deadline ≤ answer.finish) :
      Exit t began deadline (a :: rest) answer.finish (.outOfTime (some r))
  /-- The exporter is shut down during a wait. -/
  | shutInWait {a : Round} {rest : List Round} {answer : Answer} {r : Response} {d : Decision} {wake finish : Moment}
      (demands : a.Demands deadline answer r d) (wait : a.wait = some ⟨wake, some finish, true⟩) :
      Exit t began deadline (a :: rest) finish .cancelled
  /-- The deadline is there at the end of a wait. -/
  | lateAtWake {a : Round} {rest : List Round} {answer : Answer} {r : Response} {d : Decision} {wake finish : Moment}
      (demands : a.Demands deadline answer r d) (wait : a.wait = some ⟨wake, some finish, false⟩)
      (late : deadline ≤ finish) : Exit t began deadline (a :: rest) finish (.outOfTime (some r))

/-- Where a transmission is, by its attempts, the moment and the number of its moves. -/
inductive Stage (t : Transmission) (began deadline : Moment) : Phase → List Round → Moment → Nat → Prop
  | attempting {run : Run} {r : Round} {rest : List Round} {now : Moment} (unanswered : r.answer = none)
      (counts : run.attempts = rest.length + 1) (window : run.window = r.window) (ends : run.deadline = deadline)
      (started : r.start ≤ now) :
      Stage t began deadline (.attempting run) (r :: rest) now (2 * rest.length)
  | waiting {run : Run} {r : Round} {rest : List Round} {now wake : Moment} {answer : Answer} {response : Response}
      {d : Decision} (repeats : t.repeats = true) (demands : r.Demands deadline answer response d)
      (wait : r.wait = some { wake }) (asked : wake = wakeAt deadline answer d)
      (counts : run.attempts = rest.length + 1) (window : run.window = d.window) (ends : run.deadline = deadline)
      (last : run.last = some response) :
      Stage t began deadline (.waiting run wake) (r :: rest) now (2 * rest.length + 1)
  | ended {ending : Ending} {rounds : List Round} {now : Moment} {moves : Nat}
      (exit : Exit t began deadline rounds now ending) (moved : moves ≤ 2 * rounds.length) :
      Stage t began deadline (.ended rounds.length ending) rounds now moves

variable {t : Transmission} {body : ByteArray} {began deadline : Moment}

/-- The attempt `r'` is `r`, with more known of what came of it. -/
structure Round.Grows (r r' : Round) : Prop where
  body : r'.body = r.body
  start : r'.start = r.start
  shut : r'.shut = r.shut
  window : r'.window = r.window

theorem Linked.amend {r r' : Round} {rest : List Round} (h : Linked t began deadline (r :: rest)) (hg : r.Grows r') :
    Linked t began deadline (r' :: rest) := by
  cases h with
  | first start window unshut early =>
    exact .first (hg.start.trans start) (hg.window.trans window) (hg.shut.trans unshut) fun hr => hg.start ▸ early hr
  | next repeats follows before =>
    obtain ⟨answer, response, d, demands, window, unshut, waited, early⟩ := follows
    exact .next repeats ⟨answer, response, d, demands, hg.window.trans window, hg.shut.trans unshut,
      hg.start ▸ waited, hg.start ▸ early⟩ before

/-- What holds of the attempts of a transmission whatever happens. -/
structure Kept (t : Transmission) (body : ByteArray) (began deadline : Moment) (rounds : List Round) : Prop where
  bodies : ∀ r ∈ rounds, r.body = body
  linked : Linked t began deadline rounds
  waits : ∀ r ∈ rounds, r.WaitsInTime deadline

theorem Kept.amend {r r' : Round} {rest : List Round} (h : Kept t body began deadline (r :: rest)) (hg : r.Grows r')
    (hw : r'.WaitsInTime deadline) : Kept t body began deadline (r' :: rest) := by
  obtain ⟨hbody, hbodies⟩ := List.forall_mem_cons.1 h.bodies
  obtain ⟨-, hwaits⟩ := List.forall_mem_cons.1 h.waits
  exact ⟨List.forall_mem_cons.2 ⟨hg.body.trans hbody, hbodies⟩, h.linked.amend hg,
    List.forall_mem_cons.2 ⟨hw, hwaits⟩⟩

theorem Kept.next {a b : Round} {rest : List Round} (h : Kept t body began deadline (a :: rest))
    (repeats : t.repeats = true) (hf : Follows deadline a b) (hbody : b.body = body) (hwait : b.wait = none) :
    Kept t body began deadline (b :: a :: rest) where
  bodies := List.forall_mem_cons.2 ⟨hbody, h.bodies⟩
  linked := .next repeats hf h.linked
  waits := List.forall_mem_cons.2 ⟨fun w hw => (Option.not_mem_none w (hwait ▸ hw)).elim, h.waits⟩

theorem Round.Demands.grow {r r' : Round} {answer : Answer} {response : Response} {d : Decision}
    (h : r.Demands deadline answer response d) (hg : r.Grows r') (ha : r'.answer = r.answer) :
    r'.Demands deadline answer response d where
  answered := ha.trans h.answered
  replied := h.replied
  failed := h.failed
  started := hg.start ▸ h.started
  unshut := h.unshut
  decided := hg.window ▸ h.decided
  early := h.early

/-- A wait that was over before the deadline lasted as long as the decision asked for. -/
theorem add_delay_le {answer : Answer} {d : Decision} {now : Moment} (hdue : wakeAt deadline answer d ≤ now)
    (hearly : now < deadline) : answer.finish.add d.delay ≤ now := by
  simp only [wakeAt, Moment.le_iff, Moment.lt_iff, Moment.nanos_add, Moment.nanos_since, Duration.nanos_min] at *
  omega

/-- As long as a transmission is not over, time may pass. -/
theorem Stage.later {phase : Phase} {rounds : List Round} {now later : Moment} {moves : Nat}
    (h : Stage t began deadline phase rounds now moves) (hle : now ≤ later)
    (hopen : ∀ n ending, phase ≠ .ended n ending) : Stage t began deadline phase rounds later moves := by
  cases h with
  | attempting unanswered counts window ends started =>
    exact .attempting unanswered counts window ends (Nat.le_trans started hle)
  | waiting repeats demands wait asked counts window ends last =>
    exact .waiting repeats demands wait asked counts window ends last
  | ended exit moved => exact absurd rfl (hopen _ _)

theorem Stage.attempting_inv {run : Run} {rounds : List Round} {now : Moment} {moves : Nat}
    (h : Stage t began deadline (.attempting run) rounds now moves) :
    ∃ r rest, rounds = r :: rest ∧ moves = 2 * rest.length ∧ run.attempts = rest.length + 1 ∧
      run.window = r.window ∧ run.deadline = deadline ∧ r.start ≤ now := by
  cases h with
  | attempting unanswered counts window ends started =>
    exact ⟨_, _, rfl, rfl, counts, window, ends, started⟩

theorem Stage.waiting_inv {run : Run} {wake : Moment} {rounds : List Round} {now : Moment} {moves : Nat}
    (h : Stage t began deadline (.waiting run wake) rounds now moves) :
    ∃ r rest answer response d, rounds = r :: rest ∧ moves = 2 * rest.length + 1 ∧ t.repeats = true ∧
      r.Demands deadline answer response d ∧ r.wait = some { wake } ∧ wake = wakeAt deadline answer d ∧
      run.attempts = rest.length + 1 ∧ run.window = d.window ∧ run.deadline = deadline ∧
      run.last = some response := by
  cases h with
  | waiting repeats demands wait asked counts window ends last =>
    exact ⟨_, _, _, _, _, rfl, rfl, repeats, demands, wait, asked, counts, window, ends, last⟩

/-- Each attempt is two moves: to its answer, and through the wait after it. -/
theorem Stage.moves_le {phase : Phase} {rounds : List Round} {now : Moment} {moves : Nat}
    (h : Stage t began deadline phase rounds now moves) : moves ≤ 2 * rounds.length := by
  cases h with
  | attempting => rw [List.length_cons]; omega
  | waiting => rw [List.length_cons]; omega
  | ended exit moved => exact moved

theorem start_of_not_shown (h : ¬ (began.add t.timeout).Shown) : t.start false began = .ended 0 .clockOverflow := by
  rw [start, Moment.add?_of_not_shown h]
  rfl

theorem start_of_shown (h : (began.add t.timeout).Shown) : t.start false began =
    let run : Run := { deadline := began.add t.timeout }
    if t.repeats then run.next began else .attempting run.attempt := by
  rw [start, Moment.add?_of_shown h]
  rfl

/-- A transmission begins with an attempt, or without any, because there is no time for one or the clock cannot show
the deadline. -/
theorem start_open (t : Transmission) (began : Moment) :
    (∃ ending, t.start false began = .ended 0 ending ∧
      Exit t began (began.add t.timeout) [] began ending) ∨
    (t.start false began = .attempting (Run.attempt { deadline := began.add t.timeout }) ∧
      (t.repeats = true → began < began.add t.timeout)) := by
  by_cases hshown : (began.add t.timeout).Shown
  · rw [start_of_shown hshown]
    cases hr : t.repeats with
    | false => exact .inr ⟨rfl, fun h => by cases h⟩
    | true =>
      by_cases hlate : began.add t.timeout ≤ began
      · exact .inl ⟨_, by simp [Run.next, hlate], .lateAtStart hr hlate⟩
      · exact .inr ⟨by simp [Run.next, hlate], fun _ => Nat.lt_of_not_le hlate⟩
  · exact .inl ⟨_, start_of_not_shown hshown, .overflow hshown⟩

/-- What an answer leads to: the transmission is over, or it waits because the answer demands another attempt. -/
theorem replied_cases (t : Transmission) (began : Moment) {run : Run} {r : Round} (rest : List Round) {a : Answer}
    (answered : r.answer = some a) (started : r.start ≤ a.finish) (hwindow : run.window = r.window)
    (hdeadline : run.deadline = deadline) :
    (∃ ending, t.replied run a.reply a.shut a.finish a.wall a.draw = .ended run.attempts ending ∧
      Exit t began deadline (r :: rest) a.finish ending) ∨
    (∃ response d, t.repeats = true ∧ r.Demands deadline a response d ∧
      t.replied run a.reply a.shut a.finish a.wall a.draw =
        .waiting { run with window := d.window, last := some response } (wakeAt deadline a d)) := by
  cases hreply : a.reply with
  | error f => exact .inl ⟨_, rfl, .rejected answered hreply⟩
  | ok response =>
    cases hsuccess : response.success with
    | true => exact .inl ⟨.delivered, by simp [replied, hsuccess], .accepted answered hreply hsuccess⟩
    | false =>
      have hfailed : r.Failed a response := ⟨answered, hreply, hsuccess, started⟩
      cases hshut : a.shut with
      | true => exact .inl ⟨.cancelled, by simp [replied, hsuccess], .shutAtAnswer hfailed hshut⟩
      | false =>
        by_cases hrepeats : t.repeats = true
        · have hafter : t.replied run (.ok response) false a.finish a.wall a.draw =
              afterFailure run response a.finish a.wall a.draw := by simp [replied, hsuccess, hrepeats]
          rw [hafter]
          simp only [afterFailure, hwindow, hdeadline]
          cases hdecided : Decision.onResponse response r.window a.wall a.draw with
          | none =>
            by_cases hlate : response.deadline ≤ a.wall
            · exact .inl ⟨.outOfTime (some response), by simp [hlate], .expired hfailed hshut hdecided hlate⟩
            · exact .inl ⟨.refused response, by simp [hlate], .refused hfailed hshut hdecided hlate⟩
          | some d =>
            by_cases hleft : (deadline.since a.finish).nanos = 0
            · have hlate : deadline.nanos ≤ a.finish.nanos := Nat.le_of_sub_eq_zero hleft
              exact .inl ⟨.outOfTime (some response), if_pos hleft, .lateAtAnswer hfailed hshut hdecided hlate⟩
            · have hearly : a.finish.nanos < deadline.nanos := Nat.lt_of_sub_ne_zero hleft
              exact .inr ⟨response, d, hrepeats, ⟨hfailed, hshut, hdecided, hearly⟩, if_neg hleft⟩
        · exact .inl ⟨.refused response, by simp [replied, hsuccess, hrepeats],
            .single hfailed hshut (Bool.eq_false_iff.2 hrepeats)⟩

namespace History

variable {h : History}

/-- What holds of a history whatever happens. -/
structure Sound (t : Transmission) (body : ByteArray) (began : Moment) (h : History) : Prop where
  own : h.body = body
  kept : Kept t body began (began.add t.timeout) h.rounds
  stage : Stage t began (began.add t.timeout) h.phase h.rounds h.now h.moves

theorem sound_begun (t : Transmission) (body : ByteArray) (began : Moment) :
    Sound t body began (begun t body false began) := by
  obtain ⟨ending, hphase, hexit⟩ | ⟨hphase, hearly⟩ := start_open t began
  · have hrounds : (begun t body false began).rounds = [] := by simp [begun, opening, hphase]
    refine ⟨rfl, ?_, ?_⟩
    · rw [hrounds]
      exact ⟨by simp, .none, by simp⟩
    · rw [hrounds]
      show Stage t began _ (t.start false began) [] began 0
      rw [hphase]
      exact .ended hexit (Nat.le_refl 0)
  · have hrounds : (begun t body false began).rounds =
        [{ body, start := began, shut := false, window := Window.initial }] := by
      simp [begun, opening, hphase, Run.attempt]
    refine ⟨rfl, ?_, ?_⟩
    · rw [hrounds]
      exact ⟨by simp, .first rfl rfl rfl hearly, by simp [Round.WaitsInTime]⟩
    · rw [hrounds]
      show Stage t began _ (t.start false began) _ began 0
      rw [hphase]
      exact .attempting rfl rfl rfl rfl (Nat.le_refl _)

/-- An attempt that is answered is the last one, or demands another. -/
theorem sound_answered (hs : Sound t body began h) {run : Run} (hphase : h.phase = .attempting run) {a : Answer}
    (hnow : h.now ≤ a.finish) : Sound t body began (h.answered t run a) := by
  obtain ⟨r, rest, hrounds, hmoves, hcounts, hwindow, hends, hstarted⟩ := (hphase ▸ hs.stage).attempting_inv
  let phase := t.replied run a.reply a.shut a.finish a.wall a.draw
  let r' : Round := { r with answer := some a, wait := waitIn phase }
  have hg : r.Grows r' := ⟨rfl, rfl, rfl, rfl⟩
  have hrounds' : (h.answered t run a).rounds = r' :: rest := by
    simp only [answered, hrounds, List.modifyHead_cons]
    rfl
  have hmoves' : (h.answered t run a).moves = 2 * rest.length + 1 := by simp only [answered, hmoves]
  have hkept := hrounds ▸ hs.kept
  obtain ⟨ending, hover, exit⟩ | ⟨response, d, repeats, demands, hwait⟩ :=
    replied_cases t began rest (show r'.answer = some a from rfl) (Nat.le_trans hstarted hnow) hwindow hends
  · have hnone : r'.wait = none := by simp only [r', phase, hover, waitIn]
    refine ⟨hs.own, ?_, ?_⟩
    · rw [hrounds']
      exact hkept.amend hg fun w hw => (Option.not_mem_none w (hnone ▸ hw)).elim
    · rw [hrounds', hmoves']
      show Stage t began _ phase _ a.finish _
      rw [show phase = .ended (r' :: rest).length ending by rw [List.length_cons, ← hcounts]; exact hover]
      exact .ended exit (by rw [List.length_cons]; omega)
  · have hsome : r'.wait = some { wake := wakeAt (began.add t.timeout) a d } := by
      simp only [r', phase, hwait, waitIn]
    refine ⟨hs.own, ?_, ?_⟩
    · rw [hrounds']
      refine hkept.amend hg fun w hw => ?_
      cases hsome ▸ hw
      exact ⟨a, response, d, demands, rfl⟩
    · rw [hrounds', hmoves']
      show Stage t began _ phase _ a.finish _
      rw [show phase = _ from hwait]
      exact .waiting repeats demands hsome rfl hcounts rfl hends rfl

theorem sound_later (hs : Sound t body began h) {now : Moment} (hnow : h.now ≤ now)
    (hopen : ∀ n ending, h.phase ≠ .ended n ending) : Sound t body began { h with now } :=
  ⟨hs.own, hs.kept, hs.stage.later hnow hopen⟩

/-- What is known of a transmission when a wait is over: its attempts, and what the last of them demands. -/
structure Waited (t : Transmission) (body : ByteArray) (began : Moment) (h : History) (run : Run) (wake now : Moment)
    (shut : Bool) (r : Round) (rest : List Round) (answer : Answer) (response : Response) (d : Decision) : Prop where
  own : h.body = body
  rounds : (h.rounds.modifyHead fun r =>
    { r with wait := r.wait.map fun w => { w with finish := some now, cut := shut } }) = r :: rest
  kept : Kept t body began (began.add t.timeout) (r :: rest)
  moves : h.moves = 2 * rest.length + 1
  repeats : t.repeats = true
  demands : r.Demands (began.add t.timeout) answer response d
  wait : r.wait = some ⟨wake, some now, shut⟩
  asked : wake = wakeAt (began.add t.timeout) answer d
  counts : run.attempts = rest.length + 1
  window : run.window = d.window
  ends : run.deadline = began.add t.timeout
  last : run.last = some response

theorem waited (hs : Sound t body began h) {run : Run} {wake : Moment} (hphase : h.phase = .waiting run wake)
    (shut : Bool) (now : Moment) :
    ∃ r rest answer response d, Waited t body began h run wake now shut r rest answer response d := by
  obtain ⟨r, rest, answer, response, d, hrounds, hmoves, repeats, demands, hwait, hasked, hcounts, hwindow, hends,
    hlast⟩ := (hphase ▸ hs.stage).waiting_inv
  let r' : Round := { r with wait := some { wake, finish := some now, cut := shut } }
  have hg : r.Grows r' := ⟨rfl, rfl, rfl, rfl⟩
  have hdemands : r'.Demands (began.add t.timeout) answer response d := demands.grow hg rfl
  have hkept : Kept t body began (began.add t.timeout) (r' :: rest) := by
    refine (hrounds ▸ hs.kept).amend hg fun w hw => ?_
    cases hw
    exact ⟨answer, response, d, hdemands, hasked⟩
  refine ⟨r', rest, answer, response, d, hs.own, ?_, hkept, hmoves, repeats, hdemands, rfl, hasked, hcounts, hwindow,
    hends, hlast⟩
  rw [hrounds, List.modifyHead_cons, hwait]
  rfl

section

variable {run : Run} {wake now : Moment} {shut : Bool} {r : Round} {rest : List Round} {answer : Answer}
  {response : Response} {d : Decision}

/-- A wait after which the transmission leaves by one of its exits. -/
theorem Waited.sound_ended (hw : Waited t body began h run wake now shut r rest answer response d) {ending : Ending}
    (exit : Exit t began (began.add t.timeout) (r :: rest) now ending) :
    Sound t body began (h.roused now shut (.ended run.attempts ending)) := by
  refine ⟨hw.own, ?_, ?_⟩
  · simpa only [roused, opening, List.nil_append, hw.rounds] using hw.kept
  · simp only [roused, opening, List.nil_append, hw.rounds, hw.moves]
    rw [hw.counts]
    exact .ended exit (by rw [List.length_cons]; omega)

/-- A wait after which the attempt is made that was demanded. -/
theorem Waited.sound_next (hw : Waited t body began h run wake now false r rest answer response d)
    (hdue : wake ≤ now) (hearly : now < began.add t.timeout) :
    Sound t body began (h.roused now false (.attempting run.attempt)) := by
  let next : Round := { body := h.body, start := now, shut := false, window := run.window }
  have hfollows : Follows (began.add t.timeout) r next :=
    ⟨answer, response, d, hw.demands, hw.window, rfl, add_delay_le (hw.asked ▸ hdue) hearly, hearly⟩
  have hstage : Stage t began (began.add t.timeout) (.attempting run.attempt) (next :: r :: rest) now
      (2 * (r :: rest).length) :=
    .attempting rfl (congrArg (· + 1) hw.counts) rfl hw.ends (Nat.le_refl now.nanos)
  refine ⟨hw.own, ?_, ?_⟩
  · simp only [roused, opening, List.singleton_append, hw.rounds]
    exact hw.kept.next hw.repeats hfollows hw.own rfl
  · simp only [roused, opening, List.singleton_append, hw.rounds, hw.moves]
    exact hstage

end

/-- A look at a transmission that waits ends it, makes the attempt that was demanded, or changes nothing. -/
theorem sound_resumed (hs : Sound t body began h) {run : Run} {wake : Moment} (hphase : h.phase = .waiting run wake)
    (shut : Bool) {now : Moment} (hnow : h.now ≤ now) : Sound t body began (h.resumed run wake shut now) := by
  obtain ⟨r, rest, answer, response, d, hw⟩ := waited hs hphase shut now
  rw [resumed]
  cases shut with
  | true => exact hw.sound_ended (.shutInWait hw.demands hw.wait)
  | false =>
    rw [if_neg Bool.false_ne_true]
    split
    · rename_i hdue
      rw [woken, Run.next, hw.ends, hw.last]
      split
      · rename_i hlate
        exact hw.sound_ended (.lateAtWake hw.demands hw.wait hlate)
      · rename_i hearly
        exact hw.sound_next hdue (Nat.lt_of_not_le hearly)
    · exact sound_later hs hnow (by simp [hphase])

theorem sound_step (hs : Sound t body began h) (x : Happening) : Sound t body began (h.step t x) := by
  have hnow : h.now ≤ h.now.add x.gap := Nat.le_add_right _ _
  obtain ⟨run, reply, wall, draw, hphase, -, hstep⟩ | ⟨run, wake, hphase, -, hstep⟩ | ⟨n, ending, -, hstep⟩ |
    ⟨hopen, hstep⟩ := step_cases t h x
  · exact hstep ▸ sound_answered hs hphase hnow
  · exact hstep ▸ sound_resumed hs hphase x.shut hnow
  · rwa [hstep]
  · exact hstep ▸ sound_later hs hnow hopen

/-- **Every history is sound**, whatever happens. -/
theorem sound_run (t : Transmission) (body : ByteArray) (began : Moment) (xs : List Happening) :
    Sound t body began (run t body began xs) := by
  have hfold : ∀ (xs : List Happening) {h : History}, Sound t body began h →
      Sound t body began (xs.foldl (step t) h) := by
    intro xs
    induction xs with
    | nil => exact fun hs => hs
    | cons x xs ih => exact fun hs => ih (sound_step hs x)
  exact hfold xs (sound_begun t body began)

end History
end Transmission
end Courier
