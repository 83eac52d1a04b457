import Diffusion.Random.Generator
import Diffusion.Random.Ziggurat

/-!
Standard normal numbers from random words, by rejection from a ziggurat.

A layer and a point in it come from one double word. Points inside the next layer's edge are
taken at once; the others are weighed against the density, and those of the lowest layer go to
the tail. A rejected point starts a new attempt, so the number of attempts is bounded here by a
count that no seed comes near.
-/

namespace Diffusion.Random

open Ziggurat

/-- Attempts before a draw gives up. One in a hundred is rejected. -/
def attempts : Nat := 4096

namespace Generator

/-- A number strictly between 0 and 1. -/
def openUnit (g : Generator) : Float × Generator :=
  let (w, g) := g.doubleWord
  (Float.ofBits (w >>> 12 ||| 0x3ff0000000000000) - (1 - 1.1102230246251565e-16), g)

/-- A number of `[0, 1)` with 53 bits. -/
def unit (g : Generator) : Float × Generator :=
  let (w, g) := g.doubleWord
  (Float.ofNat (w >>> 11).toNat * 1.1102230246251565e-16, g)

/-- The distance beyond the tail's start, by rejection from an exponential. -/
def tailDistance : Nat → Generator → Float × Generator
  | 0, g => (0, g)
  | fuel + 1, g =>
    let (a, g) := g.openUnit
    let (c, g) := g.openUnit
    let x := Float.log a / tailStart
    let y := Float.log c
    if -2 * y < x * x then tailDistance fuel g else (x, g)

/-- One standard normal number. -/
def normalFrom : Nat → Generator → Float × Generator
  | 0, g => (0, g)
  | fuel + 1, g =>
    let (bits, g) := g.doubleWord
    let layer := (bits &&& 255).toNat
    let u := Float.ofBits (bits >>> 12 ||| 0x4000000000000000) - 3
    let x := u * edge layer
    if x.abs < edge (layer + 1) then (x, g)
    else if layer = 0 then
      let (distance, g) := tailDistance attempts g
      (if u < 0 then distance - tailStart else tailStart - distance, g)
    else
      let (v, g) := g.unit
      let height := density (layer + 1) + (density layer - density (layer + 1)) * v
      if height < Float.exp (-x * x / 2) then (x, g) else normalFrom fuel g

def normal (g : Generator) : Float32 × Generator :=
  let (x, g) := normalFrom attempts g
  (x.toFloat32, g)

end Generator

def normals (seed : UInt64) (count : Nat) : Vector Float32 count :=
  ((Generator.ofSeed seed).draws Generator.normal count).1

def uniforms (seed : UInt64) (count : Nat) : Vector Float32 count :=
  ((Generator.ofSeed seed).draws Generator.uniform count).1

end Diffusion.Random
