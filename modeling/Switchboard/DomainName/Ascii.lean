import Switchboard.DomainName.Label

/-!
# Domain names in ASCII

A domain name may be given in the letters of any language.  It is looked up in ASCII, so that each
name has one written form whatever the size and style of its letters.

Main definitions

* `DomainName.labels?`: the labels of a name;
* `DomainName.ascii?`: a name in ASCII.
-/

set_option autoImplicit false

namespace Switchboard

namespace DomainName

/-- The labels of a name; nothing if the name cannot be one. -/
def labels? (name : List Char) : Option (List Label) := do
  let folded ← foldName? name
  let labels ← (splitAt '.' (normalize folded)).mapM Label.of?
  if !labels.all Label.isWellFormed then none
  else if labels.any (readsFromRight ·.reading) && !labels.all (keepsDirection ·.reading) then none
  else some labels

/-- A name in ASCII; nothing if it cannot be a name. -/
def ascii? (name : List Char) : Option (List Char) :=
  (labels? name).map fun labels => ['.'].intercalate (labels.map Label.ascii)

end DomainName

end Switchboard
