import MapleBus.Packet.Frame

/-!
# Expectations

Reading a frame that is supposed to be valid.  A disappointed expectation is a
text that names the check and the cause.
-/

namespace MapleBus.Bench

/-- The ways to insist on a packet. -/
inductive Expectation where
  /-- Name the cause. -/
  | bare
  /-- Say only this. -/
  | saying (text : String)
  /-- Name the context and the cause. -/
  | within (context : String)
  /-- Name the bytes and the wording of the cause. -/
  | frame

/-- The packet of a frame, or what to say when there is none. -/
def Expectation.decode (expectation : Expectation) (bytes : List UInt8) :
    Except String Packet :=
  (Packet.decode bytes).mapError fun cause =>
    match expectation with
    | bare => "must: unexpected Err: " ++ cause.dump
    | saying text => "must_some: " ++ text
    | within context => "must_with: " ++ context ++ ": " ++ cause.dump
    | frame => "must_decode: " ++ Text.Hex.dump bytes ++ ": " ++ cause.message

end MapleBus.Bench
