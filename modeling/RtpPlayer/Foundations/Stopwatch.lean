import Mathlib.Algebra.BigOperators.Group.List.Basic
import Mathlib.Tactic.Abel

/-! # Stopwatches

What a stopwatch shows, over any kind of time: an offset and the lengths of all the intervals in
which it has been running. -/

namespace Foundations

inductive StopwatchCall (δ : Type) where
  | start (offset : δ)
  | stop
  | resume
  | read

def StopwatchCall.map {δ ε : Type} (convert : δ → ε) : StopwatchCall δ → StopwatchCall ε
  | start offset => .start (convert offset)
  | stop => .stop
  | resume => .resume
  | read => .read

/-- The call can set a stopped stopwatch going. -/
def StopwatchCall.starts {δ : Type} : StopwatchCall δ → Bool
  | start _ | resume => true
  | stop | read => false

/-- The intervals that have ended, and the start of the one that has not. -/
structure Stopwatch (τ : Type) where
  offset : τ
  intervals : List τ
  runningSince : Option τ

namespace Stopwatch

variable {τ : Type} [AddCommGroup τ]

/-- A stopwatch that has never been started. -/
def idle : Stopwatch τ := ⟨0, [], none⟩

def value (watch : Stopwatch τ) (now : τ) : τ :=
  watch.offset + watch.intervals.sum + (watch.runningSince.elim 0 fun since => now - since)

/-- What a call at a time leaves. -/
def after (watch : Stopwatch τ) : StopwatchCall τ → τ → Stopwatch τ
  | .start offset, now => ⟨offset, [], some now⟩
  | .stop, now =>
    { watch with
      intervals := watch.intervals ++ (watch.runningSince.map fun since => now - since).toList
      runningSince := none }
  | .resume, now => { watch with runningSince := some (watch.runningSince.getD now) }
  | .read, _ => watch

variable (watch : Stopwatch τ)

theorem value_after_start (offset now later : τ) :
    (watch.after (.start offset) now).value later = offset + (later - now) := by
  simp [value, after]

/-- What has been shown when the stopwatch is stopped is shown from then on. -/
theorem value_after_stop (now later : τ) :
    (watch.after .stop now).value later = watch.value now := by
  cases running : watch.runningSince with
  | none => simp [value, after, running]
  | some since =>
    simp only [value, after, running, Option.map_some, Option.toList_some, List.sum_append,
      List.sum_singleton, Option.elim_none, Option.elim_some]
    abel

theorem value_after_resume (now later : τ) :
    (watch.after .resume now).value later = watch.value now + (later - now) := by
  cases running : watch.runningSince with
  | none => simp [value, after, running]
  | some since =>
    simp only [value, after, running, Option.getD_some, Option.elim_some]
    abel

/-- What passes between a stop and a resume does not count. -/
theorem value_after_stop_resume (now restarted later : τ) :
    ((watch.after .stop now).after .resume restarted).value later =
      watch.value now + (later - restarted) := by
  rw [value_after_resume, value_after_stop]

/-- Stopwatches that show the same go on showing the same. -/
theorem value_after_congr {watch other : Stopwatch τ}
    (same : ∀ now, watch.value now = other.value now) (call : StopwatchCall τ) (now later : τ) :
    (watch.after call now).value later = (other.after call now).value later := by
  cases call with
  | start offset => rw [value_after_start, value_after_start]
  | stop => rw [value_after_stop, value_after_stop, same]
  | resume => rw [value_after_resume, value_after_resume, same]
  | read => exact same later

theorem value_of_stopped {watch : Stopwatch τ} (stopped : watch.runningSince = none)
    (now later : τ) : watch.value later = watch.value now := by
  simp [value, stopped]

end Stopwatch

end Foundations
