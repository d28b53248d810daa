/-!
# Dialects

Programs for this machine were written against interpreters that disagree on two points. A `Dialect`
says which side a machine takes on each.
-/

namespace Chip8

/-- The two points on which interpreters disagree. -/
structure Dialect where
  /-- shifts read their second register instead of the first -/
  shiftReadsY : Bool := false
  /-- storing and loading registers moves the index behind the last byte -/
  transferMovesIndex : Bool := true
deriving DecidableEq, Repr

/-- The dialect as the log shows it. -/
def Dialect.text (d : Dialect) : String :=
  s!"Quirks \x7b shift_uses_vy: {d.shiftReadsY}, load_store_increments_index: " ++
    s!"{d.transferMovesIndex} \x7d"

end Chip8
