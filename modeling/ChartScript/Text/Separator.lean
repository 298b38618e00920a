import ChartScript.Text.Basic

/-!
# Cutting a text at a separator

`piecesAt sep t` cuts `t` at every occurrence of the non-empty separator `sep`, found from left to
right and without overlap.  There is always at least one piece, and empty pieces are kept.

The recursion is on the text: after an occurrence, `skip` counts the code points of the separator
that are still to be passed over.
-/

set_option autoImplicit false

namespace ChartScript
namespace Text

/-- The first piece of a text and the pieces after it, once `skip` code points are passed over. -/
def cutFrom (sep : Text) : Nat → Text → Text × List Text
  | _, [] => ([], [])
  | skip + 1, _ :: rest => cutFrom sep skip rest
  | 0, c :: rest =>
    if sep.isPrefixOf (c :: rest) then
      let (piece, pieces) := cutFrom sep (sep.length - 1) rest
      ([], piece :: pieces)
    else
      let (piece, pieces) := cutFrom sep 0 rest
      (c :: piece, pieces)

/-- The pieces of `t` between the occurrences of `sep`. -/
def piecesAt (sep t : Text) : List Text :=
  let (piece, pieces) := cutFrom sep 0 t
  piece :: pieces

end Text
end ChartScript
