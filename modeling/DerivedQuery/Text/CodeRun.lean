/-!
# Runs of code points

Character properties and case mappings are finite data of the Unicode standard. The tables of
this folder store them as *runs*: the code points `first`, `first + step`, …, `last`. Most
properties are plain intervals (`step = 1`); alternating alphabets such as Latin Extended-A, where
upper and lower case letters take turns, need `step = 2` and shrink the table tenfold.

The tables hold only code points from 128 on. Every classifier treats ASCII by an explicit
comparison first, so that reasoning about ASCII identifiers never has to look into a table.
-/

namespace DerivedQuery.Text

/-- The code points `first`, `first + step`, …, `last`. -/
structure CodeRun where
  first : Nat
  last : Nat
  step : Nat
deriving Repr

namespace CodeRun

/-- Membership of one code point in one run. -/
def contains (run : CodeRun) (code : Nat) : Bool :=
  run.first ≤ code && code ≤ run.last && (code - run.first) % run.step == 0

end CodeRun

/-- Membership of a character in a table of runs. -/
def inRuns (runs : List CodeRun) (c : Char) : Bool :=
  runs.any (·.contains c.toNat)

/-- A run of code points that all move by the same distance when their case changes. -/
structure CaseRun where
  first : Nat
  last : Nat
  step : Nat
  shift : Int
deriving Repr

namespace CaseRun

/-- The image of `code` under the run, if the run covers it. -/
def image? (run : CaseRun) (code : Nat) : Option Nat :=
  if (CodeRun.mk run.first run.last run.step).contains code then
    some ((code : Int) + run.shift).toNat
  else
    none

end CaseRun

end DerivedQuery.Text
