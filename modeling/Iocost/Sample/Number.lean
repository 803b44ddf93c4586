import Iocost.Binary64.Text

/-!
Numbers as they stand in samples: the shortest decimal that reads back, with its point in place
while the number is neither too small nor too large, and with an exponent otherwise.
-/

namespace Iocost

/-- The least magnitude, apart from zero, that is written without an exponent, and the least one
that is not any more. -/
def positionalRange : Binary64 × Binary64 := (.ofDecimal false ⟨1, -4⟩, .ofDecimal false ⟨1, 16⟩)

/-- The magnitude of a number in the shortest decimal that reads back. -/
def magnitudeText (m : Magnitude) : List Char :=
  let v : Binary64 := .finite false m
  if m.units = 0 then ['0', '.', '0']
  else if positionalRange.1.le v && v.lt positionalRange.2 then m.shortest.positional
  else m.shortest.scientific

/-- A number in the shortest decimal that reads back, at least one digit on either side of the
point where there is no exponent. -/
def numberText : Binary64 → List Char
  | .nan => ['n', 'a', 'n']
  | .infinite negative => Binary64.signText negative ++ ['i', 'n', 'f']
  | .finite negative m => Binary64.signText negative ++ magnitudeText m

end Iocost
