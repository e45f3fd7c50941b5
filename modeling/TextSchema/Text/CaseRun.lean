/-!
# Runs of a case mapping

Case mappings send long runs of evenly spaced code points to runs with the same
spacing. A table of runs is short and still lists the mapping exactly.
-/

set_option autoImplicit false

namespace TextSchema.Text

/-- The code points `first`, `first + step`, … up to `last`, sent to `image`,
`image + step`, …. -/
structure CaseRun where
  first : Nat
  last : Nat
  step : Nat
  image : Nat

namespace CaseRun

def forward? (run : CaseRun) (code : Nat) : Option Nat :=
  if run.first ≤ code ∧ code ≤ run.last ∧ (code - run.first) % run.step = 0 then
    some (run.image + (code - run.first))
  else
    none

def backward? (run : CaseRun) (code : Nat) : Option Nat :=
  if run.image ≤ code ∧ code ≤ run.image + (run.last - run.first) ∧
      (code - run.image) % run.step = 0 then
    some (run.first + (code - run.image))
  else
    none

/-- All codes of the run, and all that they are sent to. -/
def codes (run : CaseRun) : List Nat :=
  let steps := (List.range ((run.last - run.first) / run.step + 1)).map (run.step * ·)
  steps.map (run.first + ·) ++ steps.map (run.image + ·)

end CaseRun

end TextSchema.Text
