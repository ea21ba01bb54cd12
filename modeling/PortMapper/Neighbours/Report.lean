import PortMapper.Neighbours
import PortMapper.Address.Dotted
import PortMapper.Text.Padding

/-!
# The report on neighbours

A report has two comment lines, the first with the number of neighbours, and
then a line for each: its address, for how many whole seconds it has been
silent, and its further addresses, if it has any.
-/

namespace PortMapper

namespace Neighbours

/-- The line of a neighbour. -/
def reportLine (now : Nat) (n : Neighbour) : List Char :=
  let address := padRight 18 n.address.dotted
  let silence := Decimal.text (n.silence now / oneSecond)
  if n.aliases = [] then address ++ ' ' :: silence
  else address ++ ' ' :: padRight 10 silence ++ ' ' :: [','].intercalate (n.aliases.map (·.dotted))

/-- The lines of the report. -/
def reportLines (t : Neighbours) (now : Nat) : List (List Char) :=
  ("# gdomap peer table (".toList ++ Decimal.text t.records.length ++ " peers)".toList) ::
    "# address          idle-secs  aliases".toList :: t.records.map (reportLine now)

/-- The report, each line ended by a line feed. -/
def report (t : Neighbours) (now : Nat) : List Char :=
  (t.reportLines now).flatMap (· ++ ['\n'])

end Neighbours

end PortMapper
