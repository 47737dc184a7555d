/-!
# The channel to a device

The owner of a device tells its thread what to do through an unbounded channel with one sender and
one receiver. The sender can put an instruction into the channel, and it can be given up; the
receiver asks for the next instruction. The channel is not made here: a type of channels is any type
with the operations of `Channel`, and all that is built on them is built for every such type.

What may be expected of the operations is `Channel.Documented`: the instructions come out once and
in the order in which they went in, those that were there before the sender was given up included,
and only after them does the receiver learn that nothing more will come. `InstructionQueue` is a
type of channels that does this, and the one with which drivers run here.
-/

namespace SerialBridge

/-- What the thread of a device is told. -/
inductive Instruction where
  /-- Echo the bytes. -/
  | bytes (bytes : List UInt8)
  /-- Come to an end. -/
  | shutdown
deriving DecidableEq

/-- What comes of asking a channel in `κ` for the next instruction. -/
inductive Received (κ : Type) where
  /-- There is one, and this is what remains. -/
  | instruction (instruction : Instruction) (rest : κ)
  /-- There is none yet, so the receiver goes on waiting. -/
  | waits
  /-- There is none, and the sender was given up. -/
  | disconnected

/-- Channels with states in `κ`. -/
class Channel (κ : Type) where
  /-- A new channel. -/
  fresh : κ
  /-- Puts an instruction into the channel. -/
  send : Instruction → κ → κ
  /-- Gives the sender up. -/
  disconnect : κ → κ
  /-- Asks for the next instruction. -/
  receive : κ → Received κ
  /-- The number of instructions in the channel. -/
  length : κ → Nat

/-- What is documented of channels, given the instructions that wait in one, oldest first, and
whether it still has its sender. -/
structure Channel.Documented {κ : Type} [Channel κ] (waiting : κ → List Instruction)
    (isOpen : κ → Bool) : Prop where
  /-- A new channel is empty. -/
  waiting_fresh : waiting fresh = []
  /-- A new channel has its sender. -/
  isOpen_fresh : isOpen fresh = true
  /-- An instruction that is sent waits behind the others. -/
  waiting_send : ∀ (i : Instruction) (c : κ), isOpen c = true →
    waiting (send i c) = waiting c ++ [i]
  /-- Sending does not use the sender up. -/
  isOpen_send : ∀ (i : Instruction) (c : κ), isOpen (send i c) = isOpen c
  /-- What waits goes on waiting when the sender is given up. -/
  waiting_disconnect : ∀ c : κ, waiting (disconnect c) = waiting c
  /-- A sender that is given up is gone. -/
  isOpen_disconnect : ∀ c : κ, isOpen (disconnect c) = false
  /-- The oldest instruction is the next one, and it is taken out. -/
  receive_of_cons : ∀ (c : κ) (i : Instruction) (is : List Instruction), waiting c = i :: is →
    ∃ rest, receive c = .instruction i rest ∧ waiting rest = is ∧ isOpen rest = isOpen c
  /-- The receiver waits for the sender. -/
  receive_of_open : ∀ c : κ, waiting c = [] → isOpen c = true → receive c = .waits
  /-- Without a sender there is nothing to wait for. -/
  receive_of_closed : ∀ c : κ, waiting c = [] → isOpen c = false → receive c = .disconnected
  /-- The length is the number of instructions that wait. -/
  length_eq : ∀ c : κ, length c = (waiting c).length

/-- A channel that is a list of instructions. -/
structure InstructionQueue where
  /-- The instructions that wait, oldest first. -/
  waiting : List Instruction := []
  /-- Whether the sender is still there. -/
  isOpen : Bool := true
deriving DecidableEq

namespace InstructionQueue

/-- The next instruction of a queue. -/
def receive : InstructionQueue → Received InstructionQueue
  | ⟨i :: is, isOpen⟩ => .instruction i ⟨is, isOpen⟩
  | ⟨[], true⟩ => .waits
  | ⟨[], false⟩ => .disconnected

instance : Channel InstructionQueue where
  fresh := {}
  send i q := { q with waiting := q.waiting ++ [i] }
  disconnect q := { q with isOpen := false }
  receive := receive
  length q := q.waiting.length

@[simp] theorem fresh_def : (Channel.fresh : InstructionQueue) = {} := rfl

@[simp] theorem send_def (i : Instruction) (q : InstructionQueue) :
    Channel.send i q = { q with waiting := q.waiting ++ [i] } := rfl

@[simp] theorem disconnect_def (q : InstructionQueue) :
    Channel.disconnect q = { q with isOpen := false } := rfl

@[simp] theorem receive_def (q : InstructionQueue) : Channel.receive q = q.receive := rfl

@[simp] theorem length_def (q : InstructionQueue) : Channel.length q = q.waiting.length := rfl

/-- A queue does what is documented of channels. -/
theorem documented : Channel.Documented waiting isOpen where
  waiting_fresh := rfl
  isOpen_fresh := rfl
  waiting_send _ _ _ := rfl
  isOpen_send _ _ := rfl
  waiting_disconnect _ := rfl
  isOpen_disconnect _ := rfl
  receive_of_cons := by
    rintro ⟨waiting, isOpen⟩ i is rfl
    exact ⟨_, rfl, rfl, rfl⟩
  receive_of_open := by
    rintro ⟨waiting, isOpen⟩ rfl rfl
    rfl
  receive_of_closed := by
    rintro ⟨waiting, isOpen⟩ rfl rfl
    rfl
  length_eq _ := rfl

end InstructionQueue

end SerialBridge
