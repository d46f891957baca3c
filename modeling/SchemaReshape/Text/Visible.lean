import SchemaReshape.Text.Blank
import SchemaReshape.Text.Extender
import SchemaReshape.Text.Unassigned

/-!
# Characters that show on a page

A quoted text shows a character as it stands if the character has a mark of its own and stands
apart from its neighbours: it is not blank, its code point is assigned, and it does not extend the
grapheme before it.
-/

namespace SchemaReshape.Text

def isVisible (c : Char) : Bool :=
  !blanks.contains c && !extenders.contains c && !unassigned.contains c

end SchemaReshape.Text
