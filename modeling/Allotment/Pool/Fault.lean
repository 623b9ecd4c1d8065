import Allotment.Text.Quoted
/-!
# What can be wrong with a pool

The causes for which the text of a pool does not describe an interval.
-/
namespace Allotment

/-- Why a pool's text describes no interval. -/
inductive PoolFault where
  /-- The text is no block. -/
  | malformedBlock (text : String)
  /-- An end of a range is no address. -/
  | malformedAddress (text : String)
  /-- The text of a range has no dash. -/
  | missingSeparator (text : String)
  /-- The ends of a range are of different families. -/
  | mixedFamilies (first last : String)
  /-- A range ends before it starts. -/
  | inverted (first last : String)
  /-- A block has no address for a host. -/
  | noHosts (block : String)
deriving DecidableEq, Repr

/-- The fault in words. -/
def PoolFault.message : PoolFault → String
  | malformedBlock t => "malformed CIDR block: " ++ Text.quoted t
  | malformedAddress t => "malformed address: " ++ Text.quoted t
  | missingSeparator t => "range " ++ Text.quoted t ++ " is not of the form <start>-<end>"
  | mixedFamilies f l => "range mixes address families: " ++ f ++ " - " ++ l
  | inverted f l => "range start " ++ f ++ " is greater than end " ++ l
  | noHosts b => "block " ++ b ++ " has no usable host addresses"

end Allotment
