import RtpPlayer.Foundations.Transitions
import RtpPlayer.Rtp.RtpPacket

/-! # A video stream destroyed while it receives

The thread of the client hands each packet to `RtpStream::on_rtp_packet`, which calls the
`on_rtp_packet` of the derived class.  `~VideoStream` deletes the depacketizer and leaves its
pointer as it is; only `~RtpStream`, which runs after it, deletes the client and so waits for the
thread. -/

namespace RtpPlayer

open Foundations

/-- What `RtpClient::on_network_read` makes of a datagram. -/
inductive NetworkRead where
  /-- `RtpPacket::parse` rejects it. -/
  | rejected
  /-- The packet cannot be created. -/
  | notCreated
  | handed (packet : RtpPacket)

/-- What `RtpClient::on_network_read` hands on, where the client has its observer. -/
def NetworkRead.ofDatagram (data : Memory UInt8) (bytes : Nat) : NetworkRead :=
  let parsed := (RtpPacket.parse (UInt16.ofNat bytes) (RtpHeader.ofBytes fun _ => 0)).value data
  if parsed.ret then
    match RtpPacket.ofParsed data parsed with
    | some packet => .handed packet
    | none => .notCreated
  else .rejected

/-- Where the thread of the client is. -/
inductive Receiver where
  /-- In `m_service->run()`. -/
  | waiting
  /-- At `RtpStream::on_rtp_packet`. -/
  | received (packet : RtpPacket)
  /-- In `VideoStream::on_rtp_packet`, before the look at `m_depacketizer`. -/
  | dispatched (packet : RtpPacket)
  /-- Before the call of `parse`. -/
  | checked (packet : RtpPacket)
  /-- Before `read()`. -/
  | returning
  | exited

/-- How far the destruction of the stream is. -/
inductive Destruction where
  | alive
  /-- After `destroy_depacketizer`. -/
  | depacketizerDestroyed
  /-- In `~RtpStream`: virtual calls go to `RtpStream`. -/
  | baseDestructor
  /-- `tear` has set `m_exit`. -/
  | exitSet
  | serviceStopped
  /-- `Wait()` has returned. -/
  | joined
  deriving DecidableEq

namespace Destruction

/-- A virtual call finds the functions of `VideoStream`. -/
def Derived (destruction : Destruction) : Prop :=
  destruction = .alive ∨ destruction = .depacketizerDestroyed

instance (destruction : Destruction) : Decidable destruction.Derived :=
  inferInstanceAs (Decidable (destruction = .alive ∨ destruction = .depacketizerDestroyed))

/-- `m_exit` -/
def exit (destruction : Destruction) : Bool :=
  destruction = .exitSet ∨ destruction = .serviceStopped ∨ destruction = .joined

end Destruction

structure StreamThreads where
  /-- `m_payload_type` -/
  payloadType : Int
  /-- `m_depacketizer` is not null. -/
  depacketizer : Bool
  destruction : Destruction
  receiver : Receiver
  /-- A receive is posted to the socket. -/
  pending : Bool
  /-- For each call of `parse`, whether it came after `destroy_depacketizer`. -/
  parses : List Bool

namespace StreamThreads

def create (payloadType : Int) (depacketizer pending : Bool) : StreamThreads where
  payloadType := payloadType
  depacketizer := depacketizer
  destruction := .alive
  receiver := .waiting
  pending := pending
  parses := []

inductive Action where
  | onNetworkRead (data : Memory UInt8) (bytes : Nat)
  | onRtpPacket
  | checkDepacketizer
  | parse
  /-- The packet is released, and the next receive posted. -/
  | read
  /-- `m_service->run()` returns. -/
  | leave
  | destroyDepacketizer
  | enterBase
  | setExit
  | stopService
  | join

def step (state : StreamThreads) : Action → Option StreamThreads
  | .onNetworkRead data bytes =>
    match state.receiver with
    | .waiting =>
      if state.pending ∧ state.destruction ≠ .serviceStopped ∧ state.destruction ≠ .joined then
        match NetworkRead.ofDatagram data bytes with
        | .rejected => some { state with pending := false }
        | .notCreated => some { state with receiver := .returning, pending := false }
        | .handed packet => some { state with receiver := .received packet, pending := false }
      else none
    | _ => none
  | .onRtpPacket =>
    match state.receiver with
    | .received packet =>
      if packet.payloadType ≠ state.payloadType then
        some { state with receiver := .returning }
      else if state.destruction.Derived then
        some { state with receiver := .dispatched packet }
      else
        -- the function of the base class does nothing
        some { state with receiver := .returning }
    | _ => none
  | .checkDepacketizer =>
    match state.receiver with
    | .dispatched packet =>
      some { state with receiver := if state.depacketizer then .checked packet else .returning }
    | _ => none
  | .parse =>
    match state.receiver with
    | .checked _ =>
      some { state with
        receiver := .returning
        parses := state.parses ++ [decide (state.destruction ≠ .alive)] }
    | _ => none
  | .read =>
    match state.receiver with
    | .returning =>
      some { state with receiver := .waiting, pending := ¬ state.destruction.exit }
    | _ => none
  | .leave =>
    match state.receiver, state.destruction with
    | .waiting, .serviceStopped => some { state with receiver := .exited }
    | _, _ => none
  | .destroyDepacketizer =>
    if state.destruction = .alive then
      some { state with destruction := .depacketizerDestroyed }
    else none
  | .enterBase =>
    if state.destruction = .depacketizerDestroyed then
      some { state with destruction := .baseDestructor }
    else none
  | .setExit =>
    if state.destruction = .baseDestructor then
      some { state with destruction := .exitSet }
    else none
  | .stopService =>
    if state.destruction = .exitSet then
      some { state with destruction := .serviceStopped }
    else none
  | .join =>
    match state.receiver, state.destruction with
    | .exited, .serviceStopped => some { state with destruction := .joined }
    | _, _ => none

def system : Transitions StreamThreads Action where
  step := step

/-! ## Parses after the destruction -/

/-- No `parse` came after `destroy_depacketizer`. -/
def NoLateParse (state : StreamThreads) : Prop := ∀ late ∈ state.parses, late = false

/-- The receiving thread is on its way to `parse`. -/
def Heading (state : StreamThreads) : Prop :=
  match state.receiver with
  | .dispatched _ => state.depacketizer = true
  | .checked _ => True
  | _ => False

/-- The depacketizer is destroyed when no packet is on its way to it, and from then on none is
dispatched before `~RtpStream` begins. -/
def Undisturbed (state : StreamThreads) : Action → Prop
  | .destroyDepacketizer => ¬ state.Heading
  | .onRtpPacket =>
    match state.receiver with
    | .received packet =>
      state.depacketizer = true → packet.payloadType = state.payloadType →
        state.destruction ≠ .depacketizerDestroyed
    | _ => True
  | _ => True

/-- No parse was late and none is going to be. -/
structure Clear (state : StreamThreads) : Prop where
  parses : state.NoLateParse
  heading : state.Heading → state.destruction = .alive

theorem clear_create (payloadType : Int) (depacketizer pending : Bool) :
    (create payloadType depacketizer pending).Clear where
  parses := by simp [NoLateParse, create]
  heading := fun _ => rfl

/-- What a step can be to a packet on its way to `parse`. -/
inductive Stepped (state : StreamThreads) : Action → StreamThreads → Prop where
  /-- No packet is on its way, before or after. -/
  | aside (action : Action) (next : StreamThreads) (undisturbed : state.Undisturbed action)
      (parses : next.parses = state.parses) (before : ¬ state.Heading) (after : ¬ next.Heading) :
    Stepped state action next
  | dispatch (packet : RtpPacket) (received : state.receiver = .received packet)
      (own : packet.payloadType = state.payloadType) (derived : state.destruction.Derived) :
    Stepped state .onRtpPacket { state with receiver := .dispatched packet }
  | check (packet : RtpPacket) (dispatched : state.receiver = .dispatched packet)
      (there : state.depacketizer = true) :
    Stepped state .checkDepacketizer { state with receiver := .checked packet }
  | parse (packet : RtpPacket) (checked : state.receiver = .checked packet) :
    Stepped state .parse
      { state with
        receiver := .returning
        parses := state.parses ++ [decide (state.destruction ≠ .alive)] }
  | destroyDepacketizer (alive : state.destruction = .alive) :
    Stepped state .destroyDepacketizer { state with destruction := .depacketizerDestroyed }
  /-- The destruction goes on after `destroy_depacketizer`. -/
  | goOn (action : Action) (destruction : Destruction) (undisturbed : state.Undisturbed action)
      (before : state.destruction ≠ .alive) (after : destruction ≠ .alive) :
    Stepped state action { state with destruction }

theorem stepped_of_step {state next : StreamThreads} {action : Action}
    (stepped : state.step action = some next) : Stepped state action next := by
  cases action with
  | onNetworkRead data bytes =>
    simp only [step] at stepped
    split at stepped
    case h_1 waiting =>
      rw [Option.ite_none_right_eq_some] at stepped
      obtain ⟨-, stepped⟩ := stepped
      have before : ¬ state.Heading := by simp [Heading, waiting]
      split at stepped <;> obtain rfl := Option.some.inj stepped
      · exact .aside _ _ trivial rfl before (by simp [Heading, waiting])
      · exact .aside _ _ trivial rfl before (by simp [Heading])
      · exact .aside _ _ trivial rfl before (by simp [Heading])
    case h_2 => exact absurd stepped (Option.some_ne_none _).symm
  | onRtpPacket =>
    simp only [step] at stepped
    split at stepped
    case h_1 packet received =>
      have before : ¬ state.Heading := by simp [Heading, received]
      split at stepped
      case isTrue foreign =>
        obtain rfl := Option.some.inj stepped
        -- a packet of another payload type is dropped
        refine .aside _ _ ?_ rfl before (by simp [Heading])
        simp [Undisturbed, received, foreign]
      case isFalse own =>
        split at stepped
        case isTrue derived =>
          obtain rfl := Option.some.inj stepped
          exact .dispatch packet received (not_not.mp own) derived
        -- the destructor of the derived class is through: the call reaches the base class
        case isFalse base =>
          obtain rfl := Option.some.inj stepped
          refine .aside _ _ ?_ rfl before (by simp [Heading])
          simp only [Undisturbed, received]
          exact fun _ _ destroyed => base (Or.inr destroyed)
    case h_2 => exact absurd stepped (Option.some_ne_none _).symm
  | checkDepacketizer =>
    simp only [step] at stepped
    split at stepped
    case h_1 packet dispatched =>
      obtain rfl := Option.some.inj stepped
      by_cases there : state.depacketizer = true
      · rw [if_pos there]
        exact .check packet dispatched there
      · rw [if_neg there]
        exact .aside _ _ trivial rfl (by simpa [Heading, dispatched] using there)
          (by simp [Heading])
    case h_2 => exact absurd stepped (Option.some_ne_none _).symm
  | parse =>
    simp only [step] at stepped
    split at stepped
    case h_1 packet checked =>
      obtain rfl := Option.some.inj stepped
      exact .parse packet checked
    case h_2 => exact absurd stepped (Option.some_ne_none _).symm
  | read =>
    simp only [step] at stepped
    split at stepped
    case h_1 returning =>
      obtain rfl := Option.some.inj stepped
      exact .aside _ _ trivial rfl (by simp [Heading, returning]) (by simp [Heading])
    case h_2 => exact absurd stepped (Option.some_ne_none _).symm
  | leave =>
    simp only [step] at stepped
    split at stepped
    case h_1 waiting stopped =>
      obtain rfl := Option.some.inj stepped
      exact .aside _ _ trivial rfl (by simp [Heading, waiting]) (by simp [Heading])
    case h_2 => exact absurd stepped (Option.some_ne_none _).symm
  | destroyDepacketizer =>
    simp only [step, Option.ite_none_right_eq_some, Option.some.injEq] at stepped
    obtain ⟨alive, rfl⟩ := stepped
    exact .destroyDepacketizer alive
  | enterBase | setExit | stopService =>
    simp only [step, Option.ite_none_right_eq_some, Option.some.injEq] at stepped
    obtain ⟨before, rfl⟩ := stepped
    exact .goOn _ _ trivial (by simp [before]) (by simp)
  | join =>
    simp only [step] at stepped
    split at stepped
    case h_1 exited stopped =>
      obtain rfl := Option.some.inj stepped
      exact .goOn _ _ trivial (by simp [stopped]) (by simp)
    case h_2 => exact absurd stepped (Option.some_ne_none _).symm

theorem noLateParse_append {state : StreamThreads} (never : state.NoLateParse) (late : Bool) :
    (∀ found ∈ state.parses ++ [late], found = false) ↔ late = false := by
  simp only [List.forall_mem_append, List.forall_mem_singleton]
  exact and_iff_right never

theorem Clear.step_iff {state next : StreamThreads} {action : Action} (clear : state.Clear)
    (stepped : Stepped state action next) : next.Clear ↔ state.Undisturbed action := by
  cases stepped with
  | aside _ _ undisturbed parses before after =>
    have never : next.NoLateParse := by
      rw [NoLateParse, parses]
      exact clear.parses
    exact iff_of_true ⟨never, fun heading => absurd heading after⟩ undisturbed
  | dispatch packet received own derived =>
    simp only [Undisturbed, received]
    constructor
    · intro next there _ destroyed
      -- a packet that is let through now has to be parsed before the destruction
      have alive := next.heading there
      rw [destroyed] at alive
      cases alive
    · intro undisturbed
      refine ⟨clear.parses, ?_⟩
      intro there
      exact derived.resolve_right (undisturbed there own)
  | check packet dispatched there =>
    have alive := clear.heading (by simp [Heading, dispatched, there])
    exact iff_of_true ⟨clear.parses, fun _ => alive⟩ trivial
  | parse packet checked =>
    have alive := clear.heading (by simp [Heading, checked])
    have inTime : decide (state.destruction ≠ .alive) = false := by simp [alive]
    have never := (noLateParse_append clear.parses _).mpr inTime
    exact iff_of_true ⟨never, fun _ => alive⟩ trivial
  | destroyDepacketizer alive =>
    constructor
    · intro next heading
      cases next.heading heading
    · intro undisturbed
      exact ⟨clear.parses, fun heading => absurd heading undisturbed⟩
  | goOn _ destruction undisturbed before after =>
    exact iff_of_true ⟨clear.parses, fun heading => absurd (clear.heading heading) before⟩
      undisturbed

/-- What is not clear does not become clear. -/
theorem Clear.before {state next : StreamThreads} {action : Action} (clear : next.Clear)
    (stepped : Stepped state action next) : state.Clear := by
  obtain ⟨never, heading⟩ := clear
  cases stepped with
  | aside _ _ undisturbed parses before after =>
    rw [NoLateParse, parses] at never
    exact ⟨never, fun heading => absurd heading before⟩
  | dispatch packet received own derived =>
    refine ⟨never, ?_⟩
    intro headed
    simp [Heading, received] at headed
  | check packet dispatched there => exact ⟨never, fun _ => heading trivial⟩
  | parse packet checked =>
    simp only [NoLateParse, List.forall_mem_append, List.forall_mem_singleton] at never
    exact ⟨never.1, fun _ => by simpa using never.2⟩
  | destroyDepacketizer alive => exact ⟨never, fun _ => alive⟩
  | goOn _ destruction undisturbed before after =>
    exact ⟨never, fun headed => absurd (heading headed) after⟩

/-! ## Every run -/

theorem always_clear_iff (payloadType : Int) (depacketizer pending : Bool)
    (actions : List Action) :
    system.Always Clear (create payloadType depacketizer pending) actions ↔
      system.Guarded Undisturbed (create payloadType depacketizer pending) actions := by
  apply @Transitions.always_iff_guarded _ _ system Clear fun _ => True
  · intros
    trivial
  · intro state action next _ clear stepped
    exact Clear.step_iff clear (stepped_of_step stepped)
  · trivial
  · exact clear_create payloadType depacketizer pending

/-- Where no packet is on its way in the end, all that was to be late was late. -/
theorem always_clear {start final : StreamThreads} {actions : List Action}
    (ran : system.run start actions = some final) (returned : ¬ final.Heading)
    (always : system.Always NoLateParse start actions) : system.Always Clear start actions := by
  have last : final.Clear :=
    ⟨always actions List.prefix_rfl final ran, fun heading => absurd heading returned⟩
  rintro past ⟨rest, rfl⟩ state reached
  rw [Transitions.run_append, reached, Option.bind_some] at ran
  by_contra late
  have keeps : ∀ state action next, ¬ state.Clear → system.step state action = some next →
      ¬ next.Clear :=
    fun state action next late stepped clear => late (clear.before (stepped_of_step stepped))
  exact system.run_invariant keeps late ran last

/-- A run whose steps all meet the condition parses nothing late; and where the receiving thread is
out of `on_rtp_packet` in the end, as it is when the destruction is complete, only such a run
does. -/
theorem noLateParse_iff (payloadType : Int) (depacketizer pending : Bool)
    (actions : List Action) :
    let start := create payloadType depacketizer pending
    (system.Guarded Undisturbed start actions → system.Always NoLateParse start actions) ∧
      ∀ final, system.run start actions = some final → ¬ final.Heading →
        (system.Always NoLateParse start actions ↔ system.Guarded Undisturbed start actions) := by
  intro start
  have parses : system.Always Clear start actions → system.Always NoLateParse start actions :=
    fun always past isPrefix state reached => (always past isPrefix state reached).parses
  have exactly := always_clear_iff payloadType depacketizer pending actions
  refine ⟨fun guarded => parses (exactly.mpr guarded), ?_⟩
  intro final ran returned
  constructor
  · intro always
    exact exactly.mp (always_clear ran returned always)
  · intro guarded
    exact parses (exactly.mpr guarded)

/-- A packet with the payload type 96. -/
def samplePacket : Memory UInt8 :=
  Memory.ofList [0x80, 96, 0, 1, 0, 0, 0, 0, 0, 0, 0, 0, 7] fun _ => 0

/-- The stream is destroyed between the look at the pointer and the call. -/
def lateParseActions : List Action :=
  [.onNetworkRead samplePacket 13, .onRtpPacket, .checkDepacketizer, .destroyDepacketizer, .parse]

theorem parse_destroyed :
    (∃ state, system.run (create 96 true true) lateParseActions = some state ∧
        state.parses = [true]) ∧
      ¬ system.Always NoLateParse (create 96 true true) lateParseActions := by
  have ran : (system.run (create 96 true true) lateParseActions).map StreamThreads.parses =
      some [true] := by
    decide +kernel
  obtain ⟨state, ran, late⟩ := Option.map_eq_some_iff.mp ran
  refine ⟨⟨state, ran, late⟩, ?_⟩
  intro always
  have never := always lateParseActions List.prefix_rfl state ran
  exact absurd (never true (by simp [late])) (by decide)

end StreamThreads

end RtpPlayer
