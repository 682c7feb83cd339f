import MapleBus.Saturating

/-!
# Periodic deadlines

Deadlines lie on a grid that starts at an offset and repeats with a period.
-/

namespace MapleBus.Cadence

/-- The first instant of the grid after `now`, capped at the largest
sixty-four-bit word.  An offset that is still ahead is the next deadline.  With
period zero every instant after the offset lies on the grid. -/
def next (now period offset : UInt64) : UInt64 :=
  if now < offset then
    offset
  else if period = 0 then
    Saturating.word64 (now.toNat + 1)
  else
    let periods := (now.toNat - offset.toNat) / period.toNat + 1
    Saturating.word64 (offset.toNat + period.toNat * periods)

end MapleBus.Cadence
