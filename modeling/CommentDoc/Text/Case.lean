/-! Case folding for labels and names, which are written in ASCII and the Latin letters next to
it. -/

namespace CommentDoc.Text

def isLatinCapital (c : Char) : Bool :=
  0xC0 ≤ c.toNat && c.toNat ≤ 0xDE && c.toNat ≠ 0xD7

/-- Lower case: the Kelvin sign is a capital `k`, the sign for the unit of length a capital `å`,
and a dotted capital `I` becomes `i` with a dot. -/
def lowerChar (c : Char) : List Char :=
  if c = '\u212A' then ['k']
  else if c = '\u212B' then ['\u00E5']
  else if c = '\u0130' then ['i', '\u0307']
  else if isLatinCapital c then [.ofNat (c.toNat + 0x20)]
  else [c.toLower]

def lower (s : List Char) : List Char :=
  s.flatMap lowerChar

/-- Upper case: the dotless `i`, the long `s`, the sharp `s` and the Latin ligatures have ASCII
capitals. -/
def upperChar (c : Char) : List Char :=
  if c = '\u00DF' then ['S', 'S']
  else if c = '\u0131' then ['I']
  else if c = '\u017F' then ['S']
  else if c = '\uFB00' then ['F', 'F']
  else if c = '\uFB01' then ['F', 'I']
  else if c = '\uFB02' then ['F', 'L']
  else if c = '\uFB03' then ['F', 'F', 'I']
  else if c = '\uFB04' then ['F', 'F', 'L']
  else if c = '\uFB05' then ['S', 'T']
  else if c = '\uFB06' then ['S', 'T']
  else [c.toUpper]

def upper (s : List Char) : List Char :=
  s.flatMap upperChar

def foldChar (c : Char) : Char :=
  if c = '\u212A' then 'k'
  else if c = '\u017F' then 's'
  else c.toLower

def fold (s : List Char) : List Char :=
  s.map foldChar

end CommentDoc.Text
