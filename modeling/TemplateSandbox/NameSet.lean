/-
# Sets of member names

The set of names that some strings spell: each name once, by code point. It is
asked for a text as it stands, without folding it first, so a text with an ASCII
capital is never found.
-/

import TemplateSandbox.Name
import TemplateSandbox.Text.Ordered

namespace TemplateSandbox
namespace MemberName

/-- The names that some strings spell, by code point, each once. -/
def setOf (raws : List String) : List MemberName := sortByKey text (raws.map fold)

/-- Whether a set holds the name with exactly this text. -/
def holdsText (names : List MemberName) (s : String) : Bool := names.any fun n => n.text == s

end MemberName
end TemplateSandbox
