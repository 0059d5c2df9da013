/-!
# Cutting lists at a separator

## Main Definitions

* `pieces`: what stands between the separators
-/

namespace JsxDetect

variable {α : Type} [DecidableEq α]

/-- What stands before, between and after the separators of a list; one piece more than there
are separators. -/
def pieces (separator : α) (items : List α) : List (List α) :=
  let (piece, others) := items.foldr
    (fun item (piece, others) =>
      if item = separator then ([], piece :: others) else (item :: piece, others))
    ([], [])
  piece :: others

end JsxDetect
