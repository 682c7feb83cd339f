import MapleBus.Exchange.Completion

/-!
# The wire

Whatever carries frames.  An attempt to transmit may raise signals for the
exchange before it returns, and may then still be refused.  Since a freshly
armed cell answers signals in a way that depends on the earlier ones alone, a
list of signals covers every wire, also one that looks at those answers.
-/

namespace MapleBus

/-- What came of handing a frame to the wire. -/
structure Wire.Attempt (W : Type) where
  /-- The wire afterwards. -/
  wire : W
  /-- The signals raised during the attempt. -/
  signals : List Signal
  /-- Whether the write was started. -/
  result : Except BusError Unit

/-- Something that carries frames. -/
class Wire (W : Type) where
  /-- Start to write a frame and, if one is expected, to read a reply. -/
  transmit (wire : W) (frame : List UInt8) (expectsReply : Bool) : Wire.Attempt W

/-- Call the wire with a frame.  It finds the lock of the cell as it is then,
and may signal before it returns. -/
def Wire.call {W : Type} [Wire W] (wire : W) (cell : Completion) (frame : List UInt8)
    (expectsReply : Bool) : Wire.Attempt W × Completion :=
  let attempt := Wire.transmit wire frame expectsReply
  (attempt, cell.callOut.signals attempt.signals)

end MapleBus
