import RtpPlayer.Foundations.Pipelines

/-! # Frames over a lossy channel

A frame is sent in packets, and some of the packets never arrive.  A stage that forgets all about a
frame at its last packet is not confused by what it has missed before: it puts out every frame that
arrives whole where it is between two frames. -/

namespace Foundations

variable {ι φ ο σ : Type}

/-- Packets, each with whether it arrives. -/
abbrev LossyFrame (ι : Type) := List (ι × Bool)

namespace LossyFrame

def sent (packets : LossyFrame ι) : List ι := packets.map Prod.fst

def arriving (packets : LossyFrame ι) : List ι := (packets.filter Prod.snd).map Prod.fst

def whole (packets : LossyFrame ι) : Bool := packets.all Prod.snd

/-- The receiver is between two frames behind the packets: the last arrives, or it was between two
frames before and none arrives. -/
def between (before : Bool) (packets : LossyFrame ι) : Bool :=
  if packets.any Prod.snd then packets.getLast?.any Prod.snd else before

theorem arriving_of_whole {packets : LossyFrame ι} (whole : packets.whole = true) :
    packets.arriving = packets.sent := by
  rw [arriving, sent, List.filter_eq_self.mpr (by simpa [LossyFrame.whole] using whole)]

theorem arriving_of_none {packets : LossyFrame ι} (lost : packets.any Prod.snd = false) :
    packets.arriving = [] := by
  rw [arriving, List.filter_eq_nil_iff.mpr (by simpa using lost), List.map_nil]

theorem sent_of_arriving {packets : LossyFrame ι} {packet : ι}
    (member : packet ∈ packets.arriving) : packet ∈ packets.sent := by
  simp only [arriving, sent, List.mem_map, List.mem_filter] at member ⊢
  obtain ⟨item, ⟨inside, -⟩, same⟩ := member
  exact ⟨item, inside, same⟩

/-- Where the last packet arrives, it arrives last. -/
theorem arriving_of_last {packets : LossyFrame ι} (arrives : packets.getLast?.any Prod.snd) :
    ∃ earlier last, packets.arriving = earlier ++ [last] ∧ last ∈ packets.sent.getLast? := by
  rcases List.eq_nil_or_concat' packets with rfl | ⟨packets, last, rfl⟩
  · cases arrives
  · rw [List.getLast?_concat, Option.any_some] at arrives
    refine ⟨arriving packets, last.1, ?_, ?_⟩
    · simp [arriving, arrives]
    · simp [sent]

end LossyFrame

open LossyFrame

/-- The frames that arrive whole where the receiver is between two frames. -/
def intactFrames : Bool → List (φ × LossyFrame ι) → List φ
  | _, [] => []
  | before, (frame, packets) :: frames =>
    (if before && packets.whole then [frame] else []) ++
      intactFrames (between before packets) frames

/-- What is left of the packets of frames. -/
def arrivingPackets (frames : List (φ × LossyFrame ι)) : List ι :=
  frames.flatMap fun frame => frame.2.arriving

namespace Machine

/-- The stage keeps `live`, is `idle` behind the last packet whatever it missed before, and puts the
frame out where it was idle and gets it whole. -/
structure Reassembles (stage : Machine σ ι (List ο)) (live idle : σ → Prop) (packets : List ι)
    (delivered : ο) : Prop where
  keeps : ∀ state, live state → ∀ packet ∈ packets, live (stage.step state packet).1
  closes : ∀ state, live state → ∀ last ∈ packets.getLast?, idle (stage.step state last).1
  delivers : ∀ state, live state → idle state → stage.emissions state packets = [delivered]

variable {stage : Machine σ ι (List ο)} {live idle : σ → Prop} {state : σ}

theorem run_keeps {packets : List ι}
    (keeps : ∀ state, live state → ∀ packet ∈ packets, live (stage.step state packet).1)
    (alive : live state) : live (stage.run state packets) := by
  induction packets generalizing state with
  | nil => exact alive
  | cons packet packets ih =>
    rw [run_cons]
    exact ih (fun state alive packet member => keeps state alive packet (.tail _ member))
      (keeps state alive packet List.mem_cons_self)

namespace Reassembles

variable {delivered : ο} {packets : LossyFrame ι}

theorem live_arriving (reassembles : stage.Reassembles live idle packets.sent delivered)
    (alive : live state) : live (stage.run state packets.arriving) :=
  run_keeps (fun state alive packet member =>
    reassembles.keeps state alive packet (sent_of_arriving member)) alive

theorem idle_arriving (reassembles : stage.Reassembles live idle packets.sent delivered)
    (alive : live state) {before : Bool} (rests : before = true → idle state)
    (behind : between before packets = true) : idle (stage.run state packets.arriving) := by
  rw [between] at behind
  split at behind
  case isFalse lost =>
    rw [arriving_of_none (Bool.eq_false_iff.mpr lost)]
    exact rests behind
  case isTrue =>
    obtain ⟨earlier, last, arrived, isLast⟩ := arriving_of_last behind
    -- what comes before the last packet can only keep the stage alive
    have kept : live (stage.run state earlier) := by
      refine run_keeps (fun state alive packet member => ?_) alive
      have arrives : packet ∈ packets.arriving := by simp [arrived, member]
      exact reassembles.keeps state alive packet (sent_of_arriving arrives)
    rw [arrived, run_concat]
    exact reassembles.closes _ kept last isLast

end Reassembles

/-- Every frame that arrives whole between two boundaries is put out, in order. -/
theorem intact_sublist (deliver : φ → ο) {frames : List (φ × LossyFrame ι)}
    (reassembles : ∀ frame ∈ frames,
      stage.Reassembles live idle frame.2.sent (deliver frame.1))
    (alive : live state) {before : Bool} (rests : before = true → idle state) :
    ((intactFrames before frames).map deliver).Sublist
      (stage.emissions state (arrivingPackets frames)) := by
  -- on the frames; behind each the stage is alive, and idle where the flag says so
  induction frames generalizing state before with
  | nil => exact .slnil
  | cons frame frames ih =>
    obtain ⟨frame, packets⟩ := frame
    obtain ⟨first, others⟩ := List.forall_mem_cons.mp reassembles
    have rest := ih others (first.live_arriving alive) (first.idle_arriving alive rests)
    rw [intactFrames, arrivingPackets, List.flatMap_cons, emissions_append, List.map_append]
    refine List.Sublist.append ?_ rest
    split
    case isTrue arrives =>
      obtain ⟨between, whole⟩ := Bool.and_eq_true_iff.mp arrives
      rw [arriving_of_whole whole, first.delivers state alive (rests between)]
      exact List.Sublist.refl _
    case isFalse => exact List.nil_sublist _

end Machine

end Foundations
