import Diffusion.Tensor

/-!
Tensors as text: nested brackets, with the middle of long axes left out.

An axis is long when the whole tensor has many elements and the axis more than its limit; the last
two axes may be longer than the others.
-/

namespace Diffusion.Tensor

/-- Tensors with this many elements have their long axes shortened. -/
def shortenFrom : Nat := 500

/-- The most items of an axis that are shown in a shortened tensor, by the axes from it on. -/
def axisLimit (axes : Nat) : Nat := if axes ≤ 2 then 11 else 6

/-- What stands for the items left out. -/
def ellipsis : String := "..."

/-- The items of an axis that are shown, by position, with a gap where others are left out. -/
def shown (limit extent : Nat) : List (Option Nat) :=
  if extent ≤ limit then (List.range extent).map some
  else
    let half := limit / 2
    (List.range half).map some ++ [none] ++
      (List.range half).map fun i => some (extent - half + i)

/-- What stands between the items of an axis: a comma, then a space between elements, and line
breaks that grow with the rank of the items between tensors. -/
def separator (depth axes : Nat) : String :=
  if axes ≤ 1 then ", "
  else ",\n" ++ String.ofList (List.replicate (axes - 2) '\n' ++ List.replicate (depth + 1) ' ')

/-- The items of a shape from an element on. -/
def displayFrom (text : Nat → String) (shorten : Bool) : Shape → (depth start : Nat) → String
  | [], _, start => text start
  | extent :: rest, depth, start =>
    let limit := if shorten then axisLimit (rest.length + 1) else extent
    let items := (shown limit extent).map fun
      | some i => displayFrom text shorten rest (depth + 1) (start + i * Shape.volume rest)
      | none => ellipsis
    "[" ++ (separator depth (rest.length + 1)).intercalate items ++ "]"

/-- A tensor as text. One without elements shows its rank alone. -/
def display {α : Type} (text : α → String) (a : Tensor α) : String :=
  if a.shape.contains 0 then
    String.ofList (List.replicate a.shape.length '[' ++ List.replicate a.shape.length ']')
  else
    displayFrom (fun i => (a.data[i]?.map text).getD "") (shortenFrom ≤ a.data.size) a.shape 0 0

end Diffusion.Tensor
