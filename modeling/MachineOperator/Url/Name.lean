/-!
Names of hosts in ASCII. A plain name is put in lower case; how any other name is written is left open.
-/
namespace MachineOperator.Url

/-- How names are written in ASCII that are not plain. It takes tables to tell: of what each character is mapped to, of
composed forms, of directions and joiners, and of what may stand in no name. They are no part of this library, which goes
with any rules. A text that is no name has no spelling. -/
class NameRules where
  ascii? : String → Option String

def isAscii (c : Char) : Bool := c.toNat < 128

/-- What a label starts with, in either case, that stands for one beyond ASCII. -/
def encodedMark : List Char := ['x', 'n', '-', '-']

/-- A name is plain if it is in ASCII, and so is what its labels stand for. -/
def isPlainName (cs : List Char) : Bool :=
  cs.all isAscii && !((cs.map Char.toLower).splitOn '.').any encodedMark.isPrefixOf

/-- A name in ASCII and in lower case. -/
def asciiName? [NameRules] (text : String) : Option (List Char) :=
  if isPlainName text.toList then some (text.toList.map Char.toLower) else (NameRules.ascii? text).map String.toList

end MachineOperator.Url
