import RtpPlayer.Foundations.Machine
import RtpPlayer.Foundations.Stopwatch

/-! # The timer

The model of `Common/AVTimer.h`.  It has two times and a flag, and shows what a stopwatch shows that
adds up every interval. -/

namespace RtpPlayer

open Foundations

/-- Times are those of `Timer::now()`, in milliseconds. -/
structure AVTimer where
  stopped : Bool
  startTime : Int
  endTime : Int
  deriving DecidableEq

namespace AVTimer

def startClock (timer : AVTimer) (now : Int) (offsetMs : Int32) : AVTimer :=
  { timer with startTime := now - offsetMs.toInt, stopped := false }

/-- The constructor. -/
def create (startOnCreate : Bool) (now : Int) : AVTimer :=
  let timer : AVTimer := { stopped := true, startTime := -1, endTime := -1 }
  if startOnCreate then timer.startClock now 0 else timer

def stopClock (timer : AVTimer) (now : Int) : AVTimer :=
  if timer.stopped = false then { timer with endTime := now, stopped := true } else timer

/-- The difference is an `int64_t` and is returned as an `int`. -/
def clockMs (timer : AVTimer) (now : Int) : Int32 :=
  if timer.stopped then Int32.ofInt (timer.endTime - timer.startTime)
  else Int32.ofInt (now - timer.startTime)

/-- Reads the time twice, in `clock_ms` and in `start_clock`. -/
def resumeClock (timer : AVTimer) (measured started : Int) : AVTimer :=
  timer.startClock started (timer.clockMs measured)

/-- A call and its time. -/
structure Call where
  call : StopwatchCall Int32
  now : Int
  /-- The second reading of `resume_clock`. -/
  restarted : Int

/-- A call all of whose readings are the same. -/
def Call.at (now : Int) (call : StopwatchCall Int32) : Call := ⟨call, now, now⟩

def machine : Machine AVTimer Call (Option Int32) where
  step
    | timer, ⟨.start offsetMs, now, _⟩ => (timer.startClock now offsetMs, none)
    | timer, ⟨.stop, now, _⟩ => (timer.stopClock now, none)
    | timer, ⟨.resume, now, restarted⟩ => (timer.resumeClock now restarted, none)
    | timer, ⟨.read, now, _⟩ => (timer, some (timer.clockMs now))

/-! ## The stopwatch it refines -/

/-- What a call does to the stopwatch, which rests between the two readings of a resume. -/
def Call.record (watch : Stopwatch Int) : Call → Stopwatch Int
  | ⟨.start offsetMs, now, _⟩ => watch.after (.start offsetMs.toInt) now
  | ⟨.stop, now, _⟩ => watch.after .stop now
  | ⟨.resume, now, restarted⟩ => (watch.after .stop now).after .resume restarted
  | ⟨.read, now, _⟩ => watch.after .read now

/-- The stopwatch after the same calls at the same times. -/
def stopwatch (calls : List Call) : Stopwatch Int := calls.foldl Call.record .idle

/-- The stopwatch after the same calls, each at one time. -/
def stopwatchAtOnce (calls : List Call) : Stopwatch Int :=
  calls.foldl (fun watch call => watch.after (call.call.map Int32.toInt) call.now) .idle

/-- The timer shows what the stopwatch shows, as an `int`. -/
structure Shows (timer : AVTimer) (watch : Stopwatch Int) : Prop where
  stopped : timer.stopped = watch.runningSince.isNone
  clockMs : ∀ now, timer.clockMs now = Int32.ofInt (watch.value now)

theorem shows_create (now : Int) : (create false now).Shows .idle := by
  refine ⟨rfl, fun now => ?_⟩
  simp [create, AVTimer.clockMs, Stopwatch.value, Stopwatch.idle]

/-- A clock set going at a time with an offset shows the offset and the time since. -/
theorem startClock_clockMs (timer : AVTimer) (started now : Int) (offsetMs : Int32) :
    (timer.startClock started offsetMs).clockMs now =
      Int32.ofInt (offsetMs.toInt + (now - started)) := by
  have difference : now - (started - offsetMs.toInt) = offsetMs.toInt + (now - started) := by omega
  rw [AVTimer.clockMs, startClock, if_neg Bool.false_ne_true, difference]

theorem Shows.next {timer : AVTimer} {watch : Stopwatch Int} (shows : timer.Shows watch)
    (call : Call) :
    (machine.step timer call).1.Shows (call.record watch) := by
  obtain ⟨call, now, restarted⟩ := call
  cases call with
  | start offsetMs =>
    refine ⟨rfl, fun later => ?_⟩
    rw [Call.record, Stopwatch.value_after_start]
    exact startClock_clockMs timer now later offsetMs
  | stop =>
    simp only [machine, Call.record]
    cases stopped : timer.stopped with
    | true =>
      -- both stay as they are
      have idle : watch.runningSince = none := by
        rw [← Option.isNone_iff_eq_none, ← shows.stopped, stopped]
      rw [stopClock, if_neg (by simp [stopped])]
      refine ⟨stopped, fun later => ?_⟩
      rw [shows.clockMs, Stopwatch.value_after_stop, Stopwatch.value_of_stopped idle]
    | false =>
      rw [stopClock, if_pos stopped]
      refine ⟨rfl, fun later => ?_⟩
      rw [Stopwatch.value_after_stop, ← shows.clockMs now, AVTimer.clockMs, AVTimer.clockMs,
        stopped]
      rfl
  | resume =>
    refine ⟨rfl, fun later => ?_⟩
    simp only [machine, Call.record]
    rw [Stopwatch.value_after_stop_resume, resumeClock, startClock_clockMs, shows.clockMs,
      Int32.ofInt_add, Int32.ofInt_add, Int32.ofInt_toInt]
  | read => exact shows

theorem Shows.run {timer : AVTimer} {watch : Stopwatch Int} (shows : timer.Shows watch)
    (calls : List Call) :
    (machine.run timer calls).Shows (calls.foldl Call.record watch) := by
  induction calls generalizing timer watch with
  | nil => exact shows
  | cons call calls ih => exact ih (shows.next call)

theorem Call.value_record {watch other : Stopwatch Int}
    (same : ∀ now, watch.value now = other.value now) {call : Call}
    (once : call.restarted = call.now) (later : Int) :
    (call.record watch).value later =
      (other.after (call.call.map Int32.toInt) call.now).value later := by
  obtain ⟨call, now, restarted⟩ := call
  obtain rfl : restarted = now := once
  cases call with
  | start | stop | read => exact Stopwatch.value_after_congr same _ _ _
  | resume =>
    simp only [Call.record, StopwatchCall.map]
    rw [Stopwatch.value_after_stop_resume, Stopwatch.value_after_resume, same]

/-- Where the time does not pass within a call, the stopwatch is the one without a second
reading. -/
theorem value_stopwatch_of_once {calls : List Call}
    (once : ∀ call ∈ calls, call.restarted = call.now) (now : Int) :
    (stopwatch calls).value now = (stopwatchAtOnce calls).value now := by
  have goesOn : ∀ watch other : Stopwatch Int, (∀ now, watch.value now = other.value now) →
      (calls.foldl Call.record watch).value now = (calls.foldl
        (fun watch call => watch.after (call.call.map Int32.toInt) call.now) other).value now := by
    induction calls with
    | nil => exact fun watch other same => same now
    | cons call calls ih =>
      rw [List.forall_mem_cons] at once
      intro watch other same
      exact ih once.2 _ _ (Call.value_record same once.1)
  exact goesOn _ _ fun _ => rfl

/-- A stopped timer that is not set going again goes on showing the same. -/
theorem clockMs_of_stopped {timer : AVTimer} (stopped : timer.stopped = true) {calls : List Call}
    (rests : ∀ call ∈ calls, call.call.starts = false) (now later : Int) :
    (machine.run timer calls).clockMs later = timer.clockMs now := by
  have same : machine.run timer calls = timer := by
    induction calls with
    | nil => rfl
    | cons call calls ih =>
      rw [List.forall_mem_cons] at rests
      have kept : (machine.step timer call).1 = timer := by
        obtain ⟨call, now, restarted⟩ := call
        cases call with
        | start | resume => cases rests.1
        | stop => exact if_neg (by simp [stopped])
        | read => rfl
      rw [Machine.run_cons, kept]
      exact ih rests.2
  rw [same, AVTimer.clockMs, AVTimer.clockMs, stopped]
  rfl

/-- `clock_ms` returns the offset of the last `start_clock` and the time the timer has been running
since, less what passes between the readings of a resume, and stays where it is while the timer is
stopped.  Where no time passes there, this is the plain sum of the intervals. -/
theorem clockMs_eq_stopwatch (created : Int) (calls : List Call) (now : Int)
    (lower : -2 ^ 31 ≤ (stopwatch calls).value now) (upper : (stopwatch calls).value now < 2 ^ 31) :
    ((machine.run (create false created) calls).clockMs now).toInt =
        (stopwatch calls).value now ∧
      ((∀ call ∈ calls, call.restarted = call.now) →
        ((machine.run (create false created) calls).clockMs now).toInt =
          (stopwatchAtOnce calls).value now) ∧
      ((machine.run (create false created) calls).stopped = true →
        ∀ more : List Call, (∀ call ∈ more, call.call.starts = false) → ∀ later,
          (machine.run (create false created) (calls ++ more)).clockMs later =
            (machine.run (create false created) calls).clockMs now) := by
  have shown : ((machine.run (create false created) calls).clockMs now).toInt =
      (stopwatch calls).value now := by
    rw [((shows_create created).run calls).clockMs now]
    exact Int32.toInt_ofInt_of_le lower upper
  refine ⟨shown, ?_, ?_⟩
  · intro once
    rw [shown, value_stopwatch_of_once once]
  · intro stopped more rests later
    rw [Machine.run_append]
    exact clockMs_of_stopped stopped rests now later

/-- Five milliseconds on an offset of 100, three stopped, and two more. -/
def stopAndResume : List Call := [.at 10 (.start 100), .at 15 .stop, .at 16 .stop, .at 18 .resume]

theorem clockMs_eq_stopwatch_resumed :
    (stopwatchAtOnce stopAndResume).value 20 = 107 ∧
      ((machine.run (create false 0) stopAndResume).clockMs 20).toInt = 107 := by
  have shown : (stopwatchAtOnce stopAndResume).value 20 = 107 := by decide
  refine ⟨shown, ?_⟩
  rw [(clockMs_eq_stopwatch 0 stopAndResume 20 (by decide) (by decide)).2.1 (by decide), shown]

end AVTimer

end RtpPlayer
