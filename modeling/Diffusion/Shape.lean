/-!
Shapes: the extents of a tensor along its axes, outermost first. The first axis is the batch.
-/

namespace Diffusion

/-- The extents along the axes. A scalar has none. -/
abbrev Shape := List Nat

namespace Shape

abbrev volume (s : Shape) : Nat := s.foldr (· * ·) 1

/-- The volume with empty axes left out: what bounds the strides of a layout. -/
def span (s : Shape) : Nat := (s.filter (· ≠ 0)).foldr (· * ·) 1

/-- How a shape reads inside a message. -/
def text (s : Shape) : String := "[" ++ ", ".intercalate (s.map toString) ++ "]"

/-- The shape of one tensor laid after another along the batch axis. Both need that axis, and all
other extents must agree. -/
def stack? : Shape → Shape → Option Shape
  | m :: rest, n :: others => if rest = others then some ((m + n) :: rest) else none
  | _, _ => none

/-- The shape of one half of the batch, when it has two halves that hold something. -/
def half? : Shape → Option Shape
  | [] => none
  | n :: rest => if n = 0 ∨ n % 2 = 1 then none else some (n / 2 :: rest)

theorem volume_stack {a b s : Shape} (stacked : stack? a b = some s) :
    s.volume = a.volume + b.volume := by
  cases a with
  | nil => simp [stack?] at stacked
  | cons m rest =>
      cases b with
      | nil => simp [stack?] at stacked
      | cons n others =>
          simp only [stack?] at stacked
          split at stacked
          · subst others
            cases stacked
            simp [Nat.add_mul]
          · contradiction

theorem volume_half {a s : Shape} (halved : half? a = some s) :
    a.volume = s.volume + s.volume := by
  cases a with
  | nil => simp [half?] at halved
  | cons n rest =>
      simp only [half?] at halved
      split at halved
      · contradiction
      · rename_i fine
        cases halved
        have even : n = n / 2 + n / 2 := by omega
        simp only [volume, List.foldr_cons]
        rw [← Nat.add_mul, ← even]

end Shape

end Diffusion
