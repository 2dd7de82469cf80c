import RtpPlayer.Foundations.Transitions
import RtpPlayer.Streams.RtpStream

/-! # Frames between two threads

`send_frame` runs on the thread of the client and `on_send_frame` on that of the task, which
performs its commands in the order in which it took them.  A `MediaFrame` is named by its place in
the order of the allocations. -/

namespace RtpPlayer

open Foundations

/-- Where the thread of the task is in `on_send_frame`. -/
inductive OnSendFrame where
  | waiting
  /-- Before the call of the observer. -/
  | entered (name : Nat) (frame : SentFrame)
  /-- Before the `delete`. -/
  | observed (name : Nat)

structure StreamTask (σ : Type) where
  client : RtpClient
  stream : StreamObject σ
  /-- `m_commands`, each with its `MediaFrame`. -/
  commands : Channel (Nat × SentFrame)
  thread : OnSendFrame
  /-- How many `MediaFrame`s were allocated. -/
  allocated : Nat
  /-- The frames that were deleted, with their `data`. -/
  deleted : List Nat
  /-- The frames that `m_observer->on_media_frame` was called with. -/
  handed : List SentFrame

namespace StreamTask

variable {σ : Type}

def create (client : RtpClient) (stream : StreamObject σ) : StreamTask σ where
  client := client
  stream := stream
  commands := .empty
  thread := .waiting
  allocated := 0
  deleted := []
  handed := []

inductive Action where
  /-- A datagram arrives; if it is a packet, the thread of the client is at it until `read`. -/
  | receive (datagram : List UInt8) (around : PacketSurroundings)
  | takeCommand
  | onMediaFrame
  | deleteFrame

namespace Action

/-- What arrives with the action. -/
def arrival : Action → Option (List UInt8 × PacketSurroundings)
  | receive datagram around => some (datagram, around)
  | _ => none

end Action

/-- The datagrams of a run. -/
def arrivals (actions : List Action) : List (List UInt8 × PacketSurroundings) :=
  actions.filterMap Action.arrival

/-- What is left of a frame that was copied: a command in the queue, or nothing. -/
def sendFrame (task : StreamTask σ) (around : PacketSurroundings) (frame : SentFrame) :
    StreamTask σ :=
  let name := task.allocated
  let task := { task with allocated := name + 1 }
  if around.command ∧ around.put then
    { task with commands := task.commands.put [(name, frame)] }
  else
    { task with deleted := task.deleted ++ [name] }

variable [OnRtpPacket σ]

/-- `RtpClientObserver::on_rtp_packet` of the stream. -/
def onRtpPacket (task : StreamTask σ) (packet : RtpPacket) (around : PacketSurroundings) :
    StreamTask σ :=
  let called := task.stream.onRtpPacket packet around
  let task := { task with stream := called.1 }
  match called.2 with
  | none => task
  | some frame => task.sendFrame around frame

def step (task : StreamTask σ) : Action → Option (StreamTask σ)
  | .receive datagram around =>
    let (client, packet) := task.client.deliver datagram
    let task := { task with client := client }
    match packet with
    | none => some task
    | some packet => some (task.onRtpPacket packet around)
  | .takeCommand =>
    match task.thread with
    | .waiting =>
      task.commands.take.map fun (command, commands) =>
        { task with commands := commands, thread := .entered command.1 command.2 }
    | _ => none
  | .onMediaFrame =>
    match task.thread with
    | .entered name frame =>
      some { task with thread := .observed name, handed := task.handed ++ [frame] }
    | _ => none
  | .deleteFrame =>
    match task.thread with
    | .observed name =>
      some { task with thread := .waiting, deleted := task.deleted ++ [name] }
    | _ => none

/-- The order in which the two threads take their sections is the list of actions. -/
def system (σ : Type) [OnRtpPacket σ] : Transitions (StreamTask σ) Action where
  step := step

end StreamTask

namespace OnSendFrame

/-- The frame that is not yet handed over. -/
def frame : OnSendFrame → Option SentFrame
  | entered _ frame => some frame
  | _ => none

/-- The frame that is going to be deleted. -/
def name : OnSendFrame → Option Nat
  | waiting => none
  | entered name _ => some name
  | observed name => some name

end OnSendFrame

namespace StreamTask

variable {σ : Type} [OnRtpPacket σ] {client : RtpClient} {stream : StreamObject σ}
  {actions : List Action} {task next : StreamTask σ}

/-! ## What a run leaves -/

/-- The frames that wait for the observer or for their `delete`. -/
def live (task : StreamTask σ) : List Nat :=
  task.thread.name.toList ++ task.commands.waiting.map Prod.fst

/-- The frames behind the stream are those that the stream puts out by itself, in that order, and
every frame that was allocated is live or deleted. -/
structure Relays (client : RtpClient) (stream : StreamObject σ) (actions : List Action)
    (task : StreamTask σ) : Prop where
  receives : (task.client, task.stream) =
    (receiving σ).run (client, stream) (arrivals actions)
  sent : task.commands.sent.map Prod.snd =
    (receiving σ).emissions (client, stream) (arrivals actions)
  handed : task.handed ++ task.thread.frame.toList = task.commands.taken.map Prod.snd
  names : (List.range task.allocated).Perm (task.deleted ++ task.live)

theorem relays_create (client : RtpClient) (stream : StreamObject σ) :
    Relays client stream [] (create client stream) where
  receives := rfl
  sent := rfl
  handed := rfl
  names := .refl _

theorem arrivals_concat (actions : List Action) (action : Action) :
    arrivals (actions ++ [action]) = arrivals actions ++ action.arrival.toList := by
  rw [arrivals, List.filterMap_append]
  cases arrived : action.arrival <;> simp [arrivals, arrived]

/-- An action of the thread of the task brings no datagram. -/
theorem Relays.of_silent (relays : Relays client stream actions task) {action : Action}
    (silent : action.arrival = none)
    (same : (next.client, next.stream) = (task.client, task.stream))
    (sent : next.commands.sent = task.commands.sent)
    (handed : next.handed ++ next.thread.frame.toList = next.commands.taken.map Prod.snd)
    (names : (List.range next.allocated).Perm (next.deleted ++ next.live)) :
    Relays client stream (actions ++ [action]) next where
  receives := by simp [arrivals_concat, silent, same, relays.receives]
  sent := by simp [arrivals_concat, silent, sent, relays.sent]
  handed := handed
  names := names

omit [OnRtpPacket σ] in
/-- What `send_frame` leaves of a frame. -/
theorem sendFrame_sent (task : StreamTask σ) (around : PacketSurroundings) (frame : SentFrame) :
    (task.sendFrame around frame).commands.sent.map Prod.snd =
      task.commands.sent.map Prod.snd ++ StreamObject.accepted around (some frame) := by
  by_cases taken : around.command ∧ around.put <;>
    simp [sendFrame, StreamObject.accepted, taken]

omit [OnRtpPacket σ] in
theorem sendFrame_names (task : StreamTask σ) (around : PacketSurroundings) (frame : SentFrame)
    (names : (List.range task.allocated).Perm (task.deleted ++ task.live)) :
    (List.range (task.sendFrame around frame).allocated).Perm
      ((task.sendFrame around frame).deleted ++ (task.sendFrame around frame).live) := by
  have grown := names.append_right [task.allocated]
  rw [← List.range_succ] at grown
  by_cases taken : around.command ∧ around.put
  · simp only [sendFrame, taken, and_self, if_true, live, Channel.put] at grown ⊢
    simpa using grown
  · simp only [sendFrame, taken, if_false]
    refine grown.trans ?_
    rw [List.append_assoc, List.append_assoc]
    exact List.perm_append_comm.append_left _

theorem onRtpPacket_names (task : StreamTask σ) (packet : RtpPacket)
    (around : PacketSurroundings)
    (names : (List.range task.allocated).Perm (task.deleted ++ task.live)) :
    (List.range (task.onRtpPacket packet around).allocated).Perm
      ((task.onRtpPacket packet around).deleted ++ (task.onRtpPacket packet around).live) := by
  simp only [onRtpPacket]
  split
  · exact names
  · exact sendFrame_names _ around _ names

/-- A packet leaves of its frame what the stream puts out. -/
theorem onRtpPacket_relays (task : StreamTask σ) (packet : RtpPacket)
    (around : PacketSurroundings) :
    let next := task.onRtpPacket packet around
    next.client = task.client ∧ next.stream = (task.stream.onRtpPacket packet around).1 ∧
      next.commands.sent.map Prod.snd = task.commands.sent.map Prod.snd ++
        StreamObject.accepted around (task.stream.onRtpPacket packet around).2 ∧
      next.commands.taken = task.commands.taken ∧ next.handed = task.handed ∧
      next.thread = task.thread := by
  unfold onRtpPacket
  cases sent : (task.stream.onRtpPacket packet around).2 with
  | none => simp [sent, StreamObject.accepted]
  | some frame =>
    simp only [sent, sendFrame_sent, true_and]
    unfold sendFrame
    split <;> simp

theorem Relays.receive (relays : Relays client stream actions task) (datagram : List UInt8)
    (around : PacketSurroundings) (received : task.step (.receive datagram around) = some next) :
    Relays client stream (actions ++ [.receive datagram around]) next := by
  have receives := relays.receives
  cases delivered : task.client.deliver datagram with
  | mk client' packet =>
    have arrived : arrivals (actions ++ [.receive datagram around]) =
        arrivals actions ++ [(datagram, around)] := arrivals_concat _ _
    cases packet with
    | none =>
      simp only [StreamTask.step, delivered, Option.some.injEq] at received
      subst received
      have stepped : (receiving σ).step (task.client, task.stream) (datagram, around) =
          ((client', task.stream), []) := receiving_step_of_none around delivered
      constructor
      case receives => rw [arrived, Machine.run_concat, ← receives, stepped]
      case sent =>
        rw [arrived, Machine.emissions_concat, ← receives, stepped, ← relays.sent, List.append_nil]
      case handed => exact relays.handed
      case names => exact relays.names
    | some packet =>
      simp only [StreamTask.step, delivered, Option.some.injEq] at received
      subst received
      have stepped : (receiving σ).step (task.client, task.stream) (datagram, around) =
          ((client', (task.stream.onRtpPacket packet around).1),
            StreamObject.accepted around (task.stream.onRtpPacket packet around).2) :=
        receiving_step_of_packet around delivered
      obtain ⟨sameClient, newStream, sent, taken, handed, thread⟩ :=
        { task with client := client' }.onRtpPacket_relays packet around
      constructor
      case receives => rw [arrived, Machine.run_concat, ← receives, stepped, sameClient, newStream]
      case sent => rw [arrived, Machine.emissions_concat, ← receives, stepped, sent, ← relays.sent]
      case handed => rw [taken, handed, thread, relays.handed]
      case names => exact onRtpPacket_names _ packet around relays.names

theorem Relays.step (relays : Relays client stream actions task) {action : Action}
    (stepped : task.step action = some next) :
    Relays client stream (actions ++ [action]) next := by
  cases action with
  | receive datagram around => exact relays.receive datagram around stepped
  | takeCommand =>
    simp only [StreamTask.step] at stepped
    cases waiting : task.thread with
    | waiting =>
      simp only [waiting, Option.map_eq_some_iff] at stepped
      obtain ⟨⟨command, commands⟩, took, rfl⟩ := stepped
      have handed := relays.handed
      have names := relays.names
      obtain ⟨rest, queued, rfl⟩ := Channel.take_eq_some_iff.mp took
      refine relays.of_silent rfl rfl (Channel.sent_of_take took) ?_ ?_
      · simpa [waiting, OnSendFrame.frame] using handed
      · simpa [live, waiting, OnSendFrame.name, queued] using names
    | entered name frame => simp [waiting] at stepped
    | observed name => simp [waiting] at stepped
  | onMediaFrame =>
    simp only [StreamTask.step] at stepped
    cases entered : task.thread with
    | waiting => simp [entered] at stepped
    | entered name frame =>
      simp only [entered, Option.some.injEq] at stepped
      subst stepped
      have handed := relays.handed
      have names := relays.names
      refine relays.of_silent rfl rfl rfl ?_ ?_
      · simpa [entered, OnSendFrame.frame] using handed
      · simpa [live, entered, OnSendFrame.name] using names
    | observed name => simp [entered] at stepped
  | deleteFrame =>
    simp only [StreamTask.step] at stepped
    cases observed : task.thread with
    | waiting => simp [observed] at stepped
    | entered name frame => simp [observed] at stepped
    | observed name =>
      simp only [observed, Option.some.injEq] at stepped
      subst stepped
      have handed := relays.handed
      have names := relays.names
      refine relays.of_silent rfl rfl rfl ?_ ?_
      · simpa [observed, OnSendFrame.frame] using handed
      · simpa [live, observed, OnSendFrame.name] using names

theorem relays_of_run (ran : (system σ).run (create client stream) actions = some task) :
    Relays client stream actions task := by
  have keeps : ∀ past state action next, Relays client stream past state →
      (system σ).step state action = some next → Relays client stream (past ++ [action]) next :=
    fun _ _ _ _ relays stepped => relays.step stepped
  exact (system σ).run_history (relays_create client stream) keeps ran

/-- The thread of the client never waits for that of the task. -/
theorem exists_receive (task : StreamTask σ) (datagram : List UInt8) (around : PacketSurroundings) :
    ∃ next, task.step (.receive datagram around) = some next := by
  simp only [StreamTask.step]
  split <;> exact ⟨_, rfl⟩

theorem exists_run_receive (task : StreamTask σ)
    (datagrams : List (List UInt8 × PacketSurroundings)) :
    ∃ final, (system σ).run task (datagrams.map fun input => .receive input.1 input.2) =
      some final := by
  induction datagrams generalizing task with
  | nil => exact ⟨task, rfl⟩
  | cons input datagrams ih =>
    obtain ⟨next, stepped⟩ := task.exists_receive input.1 input.2
    obtain ⟨final, ran⟩ := ih next
    refine ⟨final, ?_⟩
    rw [List.map_cons, Transitions.run_cons]
    simpa only [system, stepped, Option.bind_some] using ran

theorem arrivals_receive (datagrams : List (List UInt8 × PacketSurroundings)) :
    arrivals (datagrams.map fun input => .receive input.1 input.2) = datagrams := by
  rw [arrivals, List.filterMap_map]
  exact List.filterMap_some

/-! ## The task catches up -/

/-- Neither a frame nor a command is left. -/
def Settled (task : StreamTask σ) : Prop := task.live = []

omit [OnRtpPacket σ] in
theorem thread_of_settled (settled : task.Settled) :
    task.thread.frame = none ∧ task.commands.waiting = [] := by
  simp only [Settled, live, List.append_eq_nil_iff, Option.toList_eq_nil_iff,
    List.map_eq_nil_iff] at settled
  obtain ⟨noName, waiting⟩ := settled
  refine ⟨?_, waiting⟩
  cases thread : task.thread with
  | entered name frame => simp [thread, OnSendFrame.name] at noName
  | waiting | observed => rfl

/-- The actions of the thread of the task. -/
def OfTask (action : Action) : Prop := action.arrival = none

/-- A command that waits can be performed. -/
theorem leads_settled_of_waiting (waits : task.thread = .waiting) :
    ∃ final, (system σ).Leads OfTask task final ∧ final.Settled := by
  cases task with
  | mk client stream commands thread allocated deleted handed =>
    cases commands with
    | mk waiting taken =>
      cases waits
      -- on the commands: each goes through its three sections
      induction waiting generalizing taken deleted handed with
      | nil => exact ⟨_, .refl, rfl⟩
      | cons command rest ih =>
        obtain ⟨final, leads, settled⟩ :=
          ih (deleted ++ [command.1]) (handed ++ [command.2]) (taken ++ [command])
        refine ⟨final, ?_, settled⟩
        have takes : OfTask .takeCommand := rfl
        have hands : OfTask .onMediaFrame := rfl
        have deletes : OfTask .deleteFrame := rfl
        exact .head takes rfl (.head hands rfl (.head deletes rfl leads))

theorem leads_settled_of_observed {name : Nat} (observed : task.thread = .observed name) :
    ∃ final, (system σ).Leads OfTask task final ∧ final.Settled := by
  let deleted := { task with thread := .waiting, deleted := task.deleted ++ [name] }
  have stepped : (system σ).step task .deleteFrame = some deleted := by
    simp only [system, StreamTask.step, observed, deleted]
  obtain ⟨final, leads, settled⟩ := @leads_settled_of_waiting _ _ deleted rfl
  have deletes : OfTask .deleteFrame := rfl
  exact ⟨final, .head deletes stepped leads, settled⟩

theorem leads_settled (task : StreamTask σ) :
    ∃ final, (system σ).Leads OfTask task final ∧ final.Settled := by
  cases thread : task.thread with
  | waiting => exact leads_settled_of_waiting thread
  | entered name frame =>
    let handedOver := { task with thread := .observed name, handed := task.handed ++ [frame] }
    have stepped : (system σ).step task .onMediaFrame = some handedOver := by
      simp only [system, StreamTask.step, thread, handedOver]
    obtain ⟨final, leads, settled⟩ := @leads_settled_of_observed _ _ handedOver _ rfl
    have hands : OfTask .onMediaFrame := rfl
    exact ⟨final, .head hands stepped leads, settled⟩
  | observed name => exact leads_settled_of_observed thread

/-- The observer gets a beginning of what the stream puts out by itself. -/
theorem Relays.handed_isPrefix (relays : Relays client stream actions task) :
    task.handed <+: (receiving σ).emissions (client, stream) (arrivals actions) := by
  have taken : task.handed <+: task.commands.taken.map Prod.snd := by
    rw [← relays.handed]
    exact List.prefix_append ..
  rw [← relays.sent]
  exact taken.trans (task.commands.taken_prefix_sent.map _)

/-- While the datagrams of a longer stream arrive, the observer gets a beginning of what that
stream comes to. -/
theorem Relays.handed_isPrefix_of {α : Type} {read : SentFrame → α} {frames : List α}
    {datagrams : List (List UInt8 × PacketSurroundings)}
    (relays : Relays client stream actions task)
    (emitted : ((receiving σ).emissions (client, stream) datagrams).map read = frames)
    (arrived : arrivals actions <+: datagrams) : task.handed.map read <+: frames := by
  rw [← emitted]
  exact (relays.handed_isPrefix.trans ((receiving σ).emissions_isPrefix _ arrived)).map read

theorem Relays.handed_of_settled (relays : Relays client stream actions task)
    (settled : task.Settled) :
    task.handed = (receiving σ).emissions (client, stream) (arrivals actions) := by
  obtain ⟨noFrame, noCommand⟩ := thread_of_settled settled
  have handed := relays.handed
  rw [(Channel.taken_eq_sent_iff _).mpr noCommand, relays.sent, noFrame] at handed
  simpa using handed

/-- The thread of the task can get to where all frames are handed over and deleted. -/
theorem catches_up (ran : (system σ).run (create client stream) actions = some task) :
    ∃ more final, (∀ action ∈ more, action.arrival = none) ∧
      (system σ).run task more = some final ∧
      final.handed = (receiving σ).emissions (client, stream) (arrivals actions) ∧
      final.deleted.Perm (List.range final.allocated) := by
  obtain ⟨final, ⟨more, silent, goes⟩, settled⟩ := leads_settled task
  refine ⟨more, final, silent, goes, ?_⟩
  have relays := relays_of_run ((system σ).run_trans ran goes)
  have same : arrivals (actions ++ more) = arrivals actions := by
    have none : arrivals more = [] := List.filterMap_eq_nil_iff.mpr silent
    rw [arrivals, List.filterMap_append, ← arrivals, ← arrivals, none, List.append_nil]
  have names := relays.names
  rw [settled, List.append_nil] at names
  exact ⟨same ▸ relays.handed_of_settled settled, names.symm⟩

/-- What a stream of datagrams comes to is what the observer gets, once all of it has arrived and
the thread of the task has caught up. -/
theorem handed_of_emits {α : Type} {read : SentFrame → α} {frames : List α}
    {datagrams : List (List UInt8 × PacketSurroundings)}
    (emitted : ((receiving σ).emissions (client, stream) datagrams).map read = frames)
    (ran : (system σ).run (create client stream) actions = some task)
    (arrived : arrivals actions <+: datagrams) :
    task.handed.map read <+: frames ∧
      (arrivals actions = datagrams →
        ∃ more final, (∀ action ∈ more, action.arrival = none) ∧
          (system σ).run task more = some final ∧ final.handed.map read = frames) := by
  constructor
  · exact (relays_of_run ran).handed_isPrefix_of emitted arrived
  · intro whole
    obtain ⟨more, final, silent, goes, handed, -⟩ := catches_up ran
    exact ⟨more, final, silent, goes, by rw [handed, whole, emitted]⟩

/-- In any order of the sections the observer gets the frames that the stream makes of its
datagrams, in their order; every frame is deleted once, none while it waits for the observer; and
the thread of the task can always catch up by itself, until all frames are handed over and deleted.
-/
theorem relays_every_frame (client : RtpClient) (stream : StreamObject σ) (actions : List Action)
    (task : StreamTask σ) (ran : (system σ).run (create client stream) actions = some task) :
    let frames := (receiving σ).emissions (client, stream) (arrivals actions)
    task.handed <+: frames ∧
      (List.range task.allocated).Perm (task.deleted ++ task.live) ∧
      ∃ more final, (∀ action ∈ more, action.arrival = none) ∧
        (system σ).run task more = some final ∧ final.handed = frames ∧
        final.deleted.Perm (List.range final.allocated) :=
  ⟨(relays_of_run ran).handed_isPrefix, (relays_of_run ran).names, catches_up ran⟩

/-- A packet of an audio stream, and one of another stream. -/
def sampleDatagrams : List (List UInt8 × PacketSurroundings) :=
  [([0x80, 111, 0, 1, 0, 0, 0, 0, 0, 0, 0, 0, 7], ⟨fun _ => 0, ⟨0, 0, 0, 0, 0⟩, true, true⟩),
    ([0x80, 96, 0, 1, 0, 0, 0, 0, 0, 0, 0, 0, 8], ⟨fun _ => 0, ⟨0, 0, 0, 0, 0⟩, true, true⟩)]

theorem relays_every_frame_audio :
    ∃ (task : StreamTask AudioStream) (more : List Action) (final : StreamTask AudioStream),
      (system _).run task more = some final ∧ final.handed.map SentFrame.data = [[7]] := by
  let client := RtpClient.onNetworkAccept .built .create
  let stream := AudioStream.setAudioMedia .audioOpus 111
  obtain ⟨task, ran⟩ := exists_run_receive (create client stream) sampleDatagrams
  obtain ⟨-, -, more, final, -, goes, handed, -⟩ := relays_every_frame client stream _ task ran
  refine ⟨task, more, final, goes, ?_⟩
  rw [handed, arrivals_receive]
  decide +kernel

end StreamTask

end RtpPlayer
