/-
Timers of a looper on Linux.

`AsTimer` turns an interval into a periodic timerfd when its handle is first asked for.  The
looper dispatches it in three calls: `wait` returns while the timerfd has expirations that
have not been read, the reader reads how many there are, and `onAwoken` runs the wake
function.  Whatever else the looper does in between is time that passes.  The timer is in
this looper only, so nobody else reads the timerfd.
-/

import CoreLib.Foundation.Runs

set_option autoImplicit false

namespace CoreLib.Timer

open Foundation

/-! ### The timerfd -/

def NSEC_PER_SEC : Nat := 1000000000

structure TimeSpec where
  tv_sec : Int
  tv_nsec : Int
deriving DecidableEq, Repr

structure ITimerSpec where
  it_interval : TimeSpec
  it_value : TimeSpec
deriving DecidableEq, Repr

def specOf (repeatInterval : Int64) : ITimerSpec :=
  let nano_secs : Nat := (repeatInterval.toInt % 2 ^ 64).toNat
  let it_value : TimeSpec :=
    { tv_sec := (nano_secs / NSEC_PER_SEC : Nat)
      tv_nsec := (nano_secs % NSEC_PER_SEC : Nat) }
  { it_interval := it_value
    it_value := it_value }

/-- The largest time that the kernel counts to, in nanoseconds. -/
def KTIME_MAX : Nat := 2 ^ 63 - 1

def KTIME_SEC_MAX : Nat := KTIME_MAX / NSEC_PER_SEC

def TimeSpec.valid (time : TimeSpec) : Bool :=
  decide (0 ≤ time.tv_sec ∧ 0 ≤ time.tv_nsec ∧ time.tv_nsec ≤ 999999999)

/-- `timespec64_to_ktime`: the seconds alone decide whether a time is too long. -/
def TimeSpec.nanoseconds (time : TimeSpec) : Nat :=
  if KTIME_SEC_MAX ≤ time.tv_sec then KTIME_MAX
  else (time.tv_sec * NSEC_PER_SEC + time.tv_nsec).toNat

/-- An armed timerfd, from the time when it was armed; a first expiration at 0 is none. -/
structure Timerfd where
  first : Nat
  interval : Nat
deriving DecidableEq, Repr

/-- `timerfd_settime`; the failure is EINVAL. -/
def timerfd_settime (spec : ITimerSpec) : Option Timerfd :=
  if spec.it_value.valid && spec.it_interval.valid then
    some
      { first := spec.it_value.nanoseconds
        interval := spec.it_interval.nanoseconds }
  else none

def Timerfd.expirations (timer : Timerfd) (now : Nat) : Nat :=
  if timer.first = 0 then 0
  else if now < timer.first then 0
  else if timer.interval = 0 then 1
  else 1 + (now - timer.first) / timer.interval

/-! ### The looper -/

inductive Phase where
  | waiting
  | reading
  | awaking
deriving DecidableEq, Repr

structure State where
  timer : Timerfd
  now : Nat
  fireCounts : List Nat
  phase : Phase
  wakes : List Nat

inductive Action where
  | elapse (nanoseconds : Nat)
  | wait
  | read
  | onAwoken

def State.pending (state : State) : Nat :=
  state.timer.expirations state.now - state.fireCounts.sum

/-- The handle is asked for; the CL_CHECK of `timerfd_settime` has to pass. -/
def start (repeatInterval : Int64) : Option State :=
  (timerfd_settime (specOf repeatInterval)).map fun timer =>
    { timer := timer
      now := 0
      fireCounts := []
      phase := .waiting
      wakes := [] }

/-- A read of a timer without expirations would block. -/
def step (state : State) : Action → Option State
  | .elapse nanoseconds => some { state with now := state.now + nanoseconds }
  | .wait =>
      if state.phase = .waiting ∧ 0 < state.pending then some { state with phase := .reading }
      else none
  | .read =>
      if state.phase = .reading ∧ 0 < state.pending then
        some { state with
          fireCounts := state.fireCounts ++ [state.pending]
          phase := .awaking }
      else none
  | .onAwoken =>
      if state.phase = .awaking then
        some { state with
          phase := .waiting
          wakes := state.wakes ++ [state.now] }
      else none

/-! ### Intervals -/

theorem expirations_periodic (interval now : Nat) :
    Timerfd.expirations
      { first := interval
        interval := interval } now = now / interval := by
  unfold Timerfd.expirations
  dsimp only
  by_cases none_ : interval = 0
  · rw [if_pos none_, none_, Nat.div_zero]
  · rw [if_neg none_]
    by_cases early : now < interval
    · rw [if_pos early, Nat.div_eq_of_lt early]
    · rw [if_neg early, if_neg none_, Nat.div_eq now interval, if_pos (by omega), Nat.add_comm]

/-! ### Runs -/

/-- A read that has returned and whose wake function has not been called. -/
def State.unfinished (state : State) : Nat := if state.phase = .awaking then 1 else 0

structure OnSchedule (interval : Nat) (state : State) : Prop where
  timer : state.timer =
    { first := interval
      interval := interval }
  spent : state.fireCounts.sum ≤ state.now / interval
  positive : ∀ count ∈ state.fireCounts, 0 < count
  ready : state.phase = .reading → state.fireCounts.sum < state.now / interval
  paired : state.wakes.length + state.unfinished = state.fireCounts.length
  late : ∀ index time, state.wakes[index]? = some time → (index + 1) * interval ≤ time

section OnSchedule

variable {interval : Nat} {state next : State}

theorem OnSchedule.pending (onSchedule : OnSchedule interval state) :
    state.pending = state.now / interval - state.fireCounts.sum := by
  rw [State.pending, onSchedule.timer, expirations_periodic]

theorem OnSchedule.step {action : Action} (onSchedule : OnSchedule interval state)
    (enabled : Timer.step state action = some next) : OnSchedule interval next := by
  have pending := onSchedule.pending
  have spent := onSchedule.spent
  have paired := onSchedule.paired
  cases action with
  | elapse nanoseconds =>
      cases enabled
      have later : state.now / interval ≤ (state.now + nanoseconds) / interval :=
        Nat.div_le_div_right (Nat.le_add_right ..)
      refine ⟨onSchedule.timer, spent.trans later, onSchedule.positive, ?_, paired,
        onSchedule.late⟩
      intro reading
      exact (onSchedule.ready reading).trans_le later
  | wait =>
      obtain ⟨⟨waiting, readable⟩, same⟩ := Option.ite_none_right_eq_some.mp enabled
      cases same
      refine ⟨onSchedule.timer, spent, onSchedule.positive, fun _ => ?_, ?_, onSchedule.late⟩
      · dsimp only
        omega
      · simp only [State.unfinished, waiting, reduceCtorEq, if_false] at paired ⊢
        exact paired
  | read =>
      obtain ⟨⟨reading, readable⟩, same⟩ := Option.ite_none_right_eq_some.mp enabled
      cases same
      refine ⟨onSchedule.timer, ?_, ?_, nofun, ?_, onSchedule.late⟩
      · simp only [List.sum_append, List.sum_singleton]
        omega
      · intro count member
        rcases List.mem_append.mp member with earlier | new
        · exact onSchedule.positive count earlier
        · rw [List.mem_singleton.mp new]
          exact readable
      · simp only [State.unfinished, reading, reduceCtorEq, if_false] at paired
        simp only [State.unfinished, List.length_append, List.length_singleton, if_true]
        omega
  | onAwoken =>
      obtain ⟨awaking, same⟩ := Option.ite_none_right_eq_some.mp enabled
      cases same
      simp only [State.unfinished, awaking, if_true] at paired
      refine ⟨onSchedule.timer, spent, onSchedule.positive, nofun, ?_, ?_⟩
      · simp only [State.unfinished, List.length_append, List.length_singleton, reduceCtorEq,
          if_false]
        exact paired
      · intro index time listed
        have reads := List.length_le_sum_of_one_le state.fireCounts onSchedule.positive
        rcases Nat.lt_or_ge index state.wakes.length with earlier | new
        · rw [List.getElem?_append_left earlier] at listed
          exact onSchedule.late index time listed
        · rw [List.getElem?_append_right new, List.getElem?_singleton] at listed
          split at listed
          · rename_i last
            cases listed
            apply Nat.mul_le_of_le_div
            omega
          · contradiction

end OnSchedule

end CoreLib.Timer
