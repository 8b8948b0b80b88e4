import ResilientChannel.Url.Domain.Direction
import ResilientChannel.Url.Domain.Joining
import ResilientChannel.Url.Domain.Mapping
import ResilientChannel.Url.Domain.Mark
import ResilientChannel.Url.Domain.Punycode

/-!
Domain names within ASCII.

`Domain.toAscii?` maps and composes the characters of a name, checks its labels and writes those
beyond ASCII in Punycode behind `xn--`. Labels that come in this form are read back and checked as
well. A few characters of ASCII may stand in no name (`Domain.isForbidden`); all others may, and
neither length nor hyphens are restricted.
-/

namespace ResilientChannel.Url.Domain

/-- The characters of ASCII that a host name may not hold. -/
def isForbidden (c : Char) : Bool :=
  c.toNat ≤ 0x20 || c.toNat = 0x7f ||
    c ∈ ['#', '%', '/', ':', '<', '>', '?', '@', '[', '\\', ']', '^', '|']

/-- What a label in Punycode begins with. -/
def acePrefix : List Char := ['x', 'n', '-', '-']

/-- The name with its characters mapped and composed. -/
def mapped? (name : List Char) : Option (List Char) :=
  (name.mapM Mapping.image?).map fun parts => Composition.normalize parts.flatten

/-- The label satisfies what is asked of a label on its own. -/
def isSound (label : List Char) : Bool :=
  !label.head?.any Mark.isMark && Joining.isAllowed [] label

/-- What a label stands for: the label itself, or what its Punycode reads as. -/
def reveal? (label : List Char) : Option (List Char) :=
  if acePrefix.isPrefixOf label then
    (Punycode.decode? (label.drop 4)).filter fun text =>
      text.any (0x80 ≤ ·.toNat) && text.all Mapping.isStable && '.' ∉ text &&
        !acePrefix.isPrefixOf text && Composition.normalize text = text
  else some label

/-- The label within ASCII. -/
def write (label : List Char) : List Char :=
  if label.all (·.toNat < 0x80) then label else acePrefix ++ Punycode.encode label

/-- The name within ASCII, if it is a domain name. -/
def toAscii? (name : List Char) : Option (List Char) :=
  match mapped? name with
  | none => none
  | some mapped =>
    if mapped.any isForbidden then none
    else
      match (mapped.splitOn '.').mapM reveal? with
      | none => none
      | some labels =>
        if labels.all isSound && Direction.agrees labels then
          some (['.'].intercalate (labels.map write))
        else none

end ResilientChannel.Url.Domain
