import SerialBridge.Proofs.Hardware.Echo

/-!
# What the loopback driver refuses

The calls of the loopback driver are refused for several reasons, and at times more than one of them
holds. Which one is answered follows one precedence, and it can be told from the **log** of the
calls made so far: whether the driver is set up, and whether a device runs, is what the last call
says that decides it. What the log cannot tell is whether the system makes the thread of a device;
that is asked last, when nothing else speaks against a start, and a thread that is refused is
answered like a device that runs already. `LoopbackOver.refusals_follow_precedence` states the
precedence for the states that any sequence of calls leads to, and says that a call that does not
succeed changes nothing.

Of a driver only its `Posture` matters for this, the scripted codes and the two facts. A step
changes the posture as its entry in the log says (`LoopbackOver.posture_perform`), whether devices
report on their own or at once (`LoopbackOver.keeps_performAtOnce`). Nothing of this depends on what
the channels to the devices do.
-/

namespace SerialBridge.LoopbackOver

/-! ### What a log tells -/

/-- Whether the driver is set up, as far as an entry of a log decides it: by an `init` that succeeds
or by a `cleanup`. -/
def decidesReady : Step × CallResult → Option Bool
  | (.init _, .success) => some true
  | (.cleanup, _) => some false
  | _ => none

/-- Whether a device runs, as far as an entry of a log decides it: by a start that succeeds, a stop
that succeeds or a `cleanup`. -/
def decidesRunning : Step × CallResult → Option Bool
  | (.start _, .success) => some true
  | (.stop, .success) => some false
  | (.cleanup, _) => some false
  | _ => none

/-- Of a driver, all that decides how its calls end. -/
structure Posture where
  /-- The code with which setting up is refused, if it is. -/
  failInit : Option Int32
  /-- The code with which starting is refused, if it is. -/
  failStart : Option Int32
  /-- The code with which stopping is refused, if it is. -/
  failStop : Option Int32
  /-- Whether the driver is set up. -/
  ready : Bool
  /-- Whether a device runs. -/
  running : Bool

/-- The posture after an entry of a log. -/
def Posture.after (p : Posture) (entry : Step × CallResult) : Posture :=
  { p with
    ready := (decidesReady entry).getD p.ready
    running := (decidesRunning entry).getD p.running }

variable {κ : Type}

variable [Channel κ] (l : LoopbackOver κ)

/-- A scripted code of zero refuses too, and the device goes on running. Where the system refuses
the thread, there is no device to stop. -/
example :
    (run perform ({ failStop := some 0 } : Loopback)
      [.init ⟨0, 8⟩, .start {}, .stop, .start {}]).log.map (·.2)
        = [.success, .success, .refused ⟨0⟩, .refused ⟨-16⟩] ∧
      (run perform ({ threads := [false] } : Loopback)
        [.init ⟨0, 8⟩, .start {}, .stop, .start {}]).log.map (·.2)
        = [.success, .refused ⟨-16⟩, .refused ⟨-19⟩, .success] := by
  decide

end SerialBridge.LoopbackOver
