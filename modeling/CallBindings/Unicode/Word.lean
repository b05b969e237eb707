import CallBindings.Unicode.AlphanumericTable
import CallBindings.Unicode.HiddenTable
import CallBindings.Unicode.Range

set_option autoImplicit false

/-! # Word code points and visible code points

Word code points name URL variables: letters and numbers of any script, and the underscore.
Visible code points are shown as themselves where a message quotes a value.
-/

namespace CallBindings

/-- A letter or a number of any script, or the underscore. -/
def CodePoint.isWord (c : CodePoint) : Bool :=
  c.val == 0x5F || Unicode.inRanges Unicode.alphanumeric c.val

/-- A code point with a visible form, the plain space included. -/
def CodePoint.isVisible (c : CodePoint) : Bool := !Unicode.inRanges Unicode.hidden c.val

end CallBindings
