import AppendLog.Exchange

/-!
# One exchange over a link

When an exchange ends against one turn of the other side, and in what: `Exchange.settle_of_inTime`
and `Exchange.settle_cases`. `Exchange.Ran` says everything that an exchange over a link may come
to. Proofs about runs go by its cases and do not open `run`, and proofs about what is made of a
result go by `Exchange.run_map`.
-/

namespace AppendLog.Exchange

variable {α β : Type} {timer : Timer} {grace : Duration} {exchange : Exchange α}
  {link after : Link} {ending : Ending α}

/-! ## One turn -/

/-- An answer with this delay comes before the timer goes off that is set to the deadline of the
caller, if there is one. -/
def InTime (timer : Timer) (grace : Duration) (exchange : Exchange α) (delay : Duration) : Prop :=
  ∀ limit, exchange.deadline? grace = some limit →
    delay.nanoseconds ≤ timer.roundUp limit.nanoseconds

/-- What comes before the deadline is in time by every timer. -/
theorem inTime_of_le {delay : Duration} (timer : Timer)
    (h : ∀ limit, exchange.deadline? grace = some limit → delay.nanoseconds ≤ limit.nanoseconds) :
    exchange.InTime timer grace delay := by
  intro limit hlimit
  exact Nat.le_trans (h limit hlimit) (timer.le_roundUp limit.nanoseconds)

theorem settle_of_inTime {delay : Duration} (h : exchange.InTime timer grace delay)
    (outcome : Outcome) : exchange.settle timer grace (.answers delay outcome) =
      some (delay.nanoseconds, exchange.receive outcome) := by
  cases hlimit : exchange.deadline? grace with
  | none => rw [settle, hlimit]
  | some limit =>
    simp only [settle, hlimit]
    exact if_neg (Nat.not_lt.2 (h limit hlimit))

/-- A turn settles in what is received of it in time, or in what an expired deadline comes to. -/
theorem settle_cases {turn : Turn} {elapsed : Nat} {result : Except Fault α}
    (h : exchange.settle timer grace turn = some (elapsed, result)) :
    (∃ delay outcome, turn = .answers delay outcome ∧ exchange.InTime timer grace delay ∧
        exchange.receive outcome = result) ∨
      (exchange.deadline? grace).isSome ∧ exchange.expire = result ∧
        ∀ delay outcome, turn = .answers delay outcome → ¬ exchange.InTime timer grace delay := by
  cases turn with
  | stalls =>
    rw [settle, Option.map_eq_some_iff] at h
    obtain ⟨limit, hlimit, hresult⟩ := h
    exact .inr ⟨by rw [hlimit]; rfl, (Prod.mk.inj hresult).2, by simp⟩
  | answers delay outcome =>
    by_cases htime : exchange.InTime timer grace delay
    · rw [settle_of_inTime htime] at h
      exact .inl ⟨delay, outcome, rfl, htime, (Prod.mk.inj (Option.some.inj h)).2⟩
    · -- Some deadline lies before the answer, so the exchange ends by that.
      have hlate := htime
      rw [InTime, Classical.not_forall] at hlate
      obtain ⟨limit, hlate⟩ := hlate
      rw [Classical.not_imp, Nat.not_le] at hlate
      simp only [settle, hlate.1] at h
      rw [if_pos hlate.2] at h
      refine .inr ⟨by rw [hlate.1]; rfl, (Prod.mk.inj (Option.some.inj h)).2, ?_⟩
      intro _ _ hturn
      obtain ⟨rfl, -⟩ := Turn.answers.inj hturn
      exact htime

/-- A deadline that passes here is to the caller what one that passes on the other side is. -/
theorem expire_eq_receive (exchange : Exchange α) :
    exchange.expire = exchange.receive .timedOut := by
  cases exchange <;> rfl

/-- However a turn settles, it is in something that the exchange receives. -/
theorem exists_receive_of_settle {turn : Turn} {elapsed : Nat} {result : Except Fault α}
    (h : exchange.settle timer grace turn = some (elapsed, result)) :
    ∃ outcome, exchange.receive outcome = result := by
  rcases settle_cases h with ⟨_, outcome, -, -, hresult⟩ | ⟨-, hresult, -⟩
  · exact ⟨outcome, hresult⟩
  · exact ⟨.timedOut, (expire_eq_receive exchange).symm.trans hresult⟩

@[simp] theorem receive_map (f : α → β) (exchange : Exchange α) (outcome : Outcome) :
    (exchange.map f).receive outcome = (exchange.receive outcome).map f := by
  cases exchange <;> cases outcome <;> rfl

@[simp] theorem dispatch_map (f : α → β) (exchange : Exchange α) :
    (exchange.map f).dispatch = exchange.dispatch := by
  cases exchange <;> rfl

@[simp] theorem deadline?_map (f : α → β) (exchange : Exchange α) :
    (exchange.map f).deadline? grace = exchange.deadline? grace := by
  cases exchange <;> rfl

@[simp] theorem expire_map (f : α → β) (exchange : Exchange α) :
    (exchange.map f).expire = exchange.expire.map f := by
  cases exchange <;> rfl

/-- What is made of the result does not change when an exchange ends. -/
theorem settle_map (f : α → β) (exchange : Exchange α) (turn : Turn) :
    (exchange.map f).settle timer grace turn =
      (exchange.settle timer grace turn).map fun (elapsed, result) => (elapsed, result.map f) := by
  cases turn with
  | stalls =>
    rw [settle, settle, deadline?_map, expire_map]
    cases exchange.deadline? grace <;> rfl
  | answers delay outcome =>
    simp only [settle, deadline?_map, expire_map, receive_map]
    cases exchange.deadline? grace with
    | none => rfl
    | some limit =>
      dsimp only
      split <;> rfl

/-! ## Runs -/

/-- What an exchange over a link comes to: its ending, and the link after it. -/
inductive Ran (grace : Duration) (exchange : Exchange α) (link : Link) :
    Ending α → Link → Prop where
  /-- The other side has nothing more to say. -/
  | exhausted (hturns : link.turns = []) :
      Ran grace exchange link (.finished (.error (LinkFailure.broken "script exhausted").fault))
        { link with sent := link.sent ++ [exchange.dispatch] }
  /-- The turn never settles. -/
  | unsettled {turn : Turn} {turns : List Turn} (hturns : link.turns = turn :: turns)
      (hsettle : exchange.settle link.timer grace turn = none) :
      Ran grace exchange link .abandoned
        { link with turns, sent := link.sent ++ [exchange.dispatch] }
  /-- The turn settles when nobody waits for it any more. -/
  | outlasted {turn : Turn} {turns : List Turn} {elapsed : Nat} {result : Except Fault α}
      (hturns : link.turns = turn :: turns)
      (hsettle : exchange.settle link.timer grace turn = some (elapsed, result))
      (hlate : link.patience < link.waited + elapsed) :
      Ran grace exchange link .abandoned
        { link with turns, sent := link.sent ++ [exchange.dispatch],
                    waited := link.waited + elapsed }
  | settled {turn : Turn} {turns : List Turn} {elapsed : Nat} {result : Except Fault α}
      (hturns : link.turns = turn :: turns)
      (hsettle : exchange.settle link.timer grace turn = some (elapsed, result))
      (htime : link.waited + elapsed ≤ link.patience) :
      Ran grace exchange link (.finished result)
        { link with turns, sent := link.sent ++ [exchange.dispatch],
                    waited := link.waited + elapsed }

theorem ran_run (grace : Duration) (exchange : Exchange α) (link : Link) :
    exchange.Ran grace link (exchange.run grace link).1 (exchange.run grace link).2 := by
  obtain ⟨turns, sent, waited, patience, timer⟩ := link
  cases turns with
  | nil => exact .exhausted rfl
  | cons turn turns =>
    simp only [run]
    split
    · next hsettle => exact .unsettled rfl hsettle
    · next elapsed result hsettle =>
      split
      · next hlate => exact .outlasted rfl hsettle hlate
      · next htime => exact .settled rfl hsettle (Nat.not_lt.1 htime)

/-- An exchange sends one request, and the other side takes one turn for it. -/
theorem Ran.sends (h : exchange.Ran grace link ending after) :
    after.sent = link.sent ++ [exchange.dispatch] ∧ after.turns = link.turns.drop 1 := by
  cases h with
  | exhausted hturns => exact ⟨rfl, by simp [hturns]⟩
  | unsettled hturns => exact ⟨rfl, by simp [hturns]⟩
  | outlasted hturns => exact ⟨rfl, by simp [hturns]⟩
  | settled hturns => exact ⟨rfl, by simp [hturns]⟩

/-- Whatever a run ends in, the end of the turns included, the exchange receives it of something. -/
theorem exists_receive_of_run {result : Except Fault α}
    (h : (exchange.run grace link).1 = .finished result) :
    ∃ outcome, exchange.receive outcome = result := by
  have hran := ran_run grace exchange link
  rw [h] at hran
  generalize (exchange.run grace link).2 = after at hran
  cases hran with
  | exhausted => exact ⟨.failed (.broken "script exhausted"), by cases exchange <;> rfl⟩
  | settled _ hsettle => exact exists_receive_of_settle hsettle

/-- An exchange ends with a value only when its turn settles in that. -/
theorem run_cases (h : exchange.run grace link = (ending, after)) :
    after.sent = link.sent ++ [exchange.dispatch] ∧
      (ending = .abandoned ∨ (∃ fault, ending = .finished (.error fault)) ∨
        ∃ turn turns elapsed value, link.turns = turn :: turns ∧
          exchange.settle link.timer grace turn = some (elapsed, .ok value) ∧
          ending = .finished (.ok value)) := by
  have hran := ran_run grace exchange link
  rw [h] at hran
  refine ⟨hran.sends.1, ?_⟩
  cases hran with
  | exhausted => exact .inr (.inl ⟨_, rfl⟩)
  | unsettled => exact .inl rfl
  | outlasted => exact .inl rfl
  | @settled turn turns elapsed result hturns hsettle =>
    cases result with
    | error fault => exact .inr (.inl ⟨fault, rfl⟩)
    | ok value => exact .inr (.inr ⟨turn, turns, elapsed, value, hturns, hsettle, rfl⟩)

/-- A turn that settles within the patience of the link ends the run. -/
theorem run_of_settle {turn : Turn} {turns : List Turn} {elapsed : Nat} {result : Except Fault α}
    (hturns : link.turns = turn :: turns)
    (hsettle : exchange.settle link.timer grace turn = some (elapsed, result))
    (htime : link.waited + elapsed ≤ link.patience) :
    exchange.run grace link = (.finished result,
      { link with turns, sent := link.sent ++ [exchange.dispatch],
                  waited := link.waited + elapsed }) := by
  obtain ⟨_, sent, waited, patience, timer⟩ := link
  obtain rfl := hturns
  rw [run]
  simp only [hsettle]
  rw [if_neg (Nat.not_lt.2 htime)]

/-- A turn that never settles is waited for in vain. -/
theorem run_of_unsettled {turn : Turn} {turns : List Turn} (hturns : link.turns = turn :: turns)
    (hsettle : exchange.settle link.timer grace turn = none) :
    (exchange.run grace link).1 = .abandoned := by
  obtain ⟨_, sent, waited, patience, timer⟩ := link
  obtain rfl := hturns
  rw [run]
  simp only [hsettle]

/-- What is made of the result changes nothing on the link. -/
theorem run_map (f : α → β) (exchange : Exchange α) :
    (exchange.map f).run grace link =
      ((exchange.run grace link).1.map f, (exchange.run grace link).2) := by
  obtain ⟨turns, sent, waited, patience, timer⟩ := link
  cases turns with
  | nil =>
    rw [run, run, dispatch_map]
    rfl
  | cons turn turns =>
    simp only [run, dispatch_map, settle_map]
    cases exchange.settle timer grace turn with
    | none => rfl
    | some settled =>
      rw [Option.map_some]
      dsimp only
      split <;> rfl

end AppendLog.Exchange
