import Mathlib.Data.List.Basic

/-! # Layered prediction

Frames of a temporal layer predict from buffers and update buffers.  A buffer is tagged with the
layer of the frame that updated it last, and layers can be dropped from the top when no frame
predicts from a buffer of a higher layer. -/

namespace Foundations

universe u

/-- A frame as far as the buffers `β` are concerned. -/
structure Prediction (β : Type u) where
  layer : Nat
  /-- The frame can follow the base layer alone. -/
  sync : Bool
  refs : β → Bool
  updates : β → Bool

/-- The layer of the frame that updated a buffer last, if any did. -/
abbrev Tags (β : Type u) := β → Option Nat

namespace Tags

variable {β : Type u}

def update (tags : Tags β) (frame : Prediction β) : Tags β :=
  fun buffer => if frame.updates buffer then some frame.layer else tags buffer

/-- The tags after the frames. -/
def updateAll : Tags β → List (Prediction β) → Tags β :=
  List.foldl update

/-- No buffer is tagged above its level. -/
def Within (level : β → Nat) (tags : Tags β) : Prop :=
  ∀ buffer tag, tags buffer = some tag → tag ≤ level buffer

theorem updateAll_concat (tags : Tags β) (frames : List (Prediction β)) (frame : Prediction β) :
    tags.updateAll (frames ++ [frame]) = (tags.updateAll frames).update frame :=
  List.foldl_concat ..

theorem update_isSome {tags : Tags β} (frame : Prediction β) {buffer : β}
    (tagged : (tags buffer).isSome) : (tags.update frame buffer).isSome := by
  unfold update
  split
  · rfl
  · exact tagged

theorem updateAll_isSome {tags : Tags β} {buffer : β} (tagged : (tags buffer).isSome)
    (frames : List (Prediction β)) : (tags.updateAll frames buffer).isSome := by
  induction frames generalizing tags with
  | nil => exact tagged
  | cons frame frames ih => exact ih (update_isSome frame tagged)

end Tags

namespace Prediction

variable {β : Type u}

/-- The frame predicts from no buffer above its layer, and from the base layer alone if it is to
follow that. -/
structure Safe (frame : Prediction β) (tags : Tags β) : Prop where
  below : ∀ buffer, frame.refs buffer → ∀ tag, tags buffer = some tag → tag ≤ frame.layer
  base : frame.layer ≠ 0 → frame.sync → ∀ buffer, frame.refs buffer →
    ∀ tag, tags buffer = some tag → tag = 0

/-- The frame keeps to the levels of the buffers. -/
structure Fits (frame : Prediction β) (level : β → Nat) : Prop where
  updates : ∀ buffer, frame.updates buffer → frame.layer ≤ level buffer
  refs : ∀ buffer, frame.refs buffer → level buffer ≤ frame.layer

variable {frame : Prediction β} {level : β → Nat} {tags : Tags β}

theorem Fits.update (fits : frame.Fits level) (within : tags.Within level) :
    (tags.update frame).Within level := by
  intro buffer tag tagged
  by_cases updated : frame.updates buffer
  · simp only [Tags.update, updated, if_true, Option.some.injEq] at tagged
    exact tagged ▸ fits.updates buffer updated
  · simp only [Tags.update, updated, Bool.false_eq_true, if_false] at tagged
    exact within buffer tag tagged

/-- A frame that follows the base layer refers to buffers of level 0. -/
theorem Fits.safe (fits : frame.Fits level) (within : tags.Within level)
    (base : frame.layer ≠ 0 → frame.sync → ∀ buffer, frame.refs buffer → level buffer = 0) :
    frame.Safe tags where
  below buffer ref tag tagged := Nat.le_trans (within buffer tag tagged) (fits.refs buffer ref)
  base above sync buffer ref tag tagged := by
    have atMost := within buffer tag tagged
    rw [base above sync buffer ref] at atMost
    exact Nat.le_zero.mp atMost

/-- From buffers of the base layer every frame may predict. -/
theorem safe_of_base (base : tags.Within fun _ => 0) : frame.Safe tags where
  below buffer _ tag tagged := Nat.le_trans (base buffer tag tagged) (Nat.zero_le _)
  base _ _ buffer _ tag tagged := Nat.le_zero.mp (base buffer tag tagged)

end Prediction

end Foundations
