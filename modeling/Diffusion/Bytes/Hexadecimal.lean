/-!
Hexadecimal digits, and bytes as two of them each.
-/

namespace Diffusion.Bytes

def hexDigit (n : Nat) : Char := Char.ofNat (if n < 10 then 48 + n else 87 + n)

def hexValue? (c : Char) : Option Nat :=
  if '0' ≤ c ∧ c ≤ '9' then some (c.toNat - 48)
  else if 'a' ≤ c ∧ c ≤ 'f' then some (c.toNat - 87)
  else if 'A' ≤ c ∧ c ≤ 'F' then some (c.toNat - 55)
  else none

theorem hexValue?_hexDigit {n : Nat} (small : n < 16) : hexValue? (hexDigit n) = some n := by
  have : ∀ k : Fin 16, hexValue? (hexDigit k) = some k.val := by decide
  exact this ⟨n, small⟩

def toHex (bytes : ByteArray) : String :=
  String.ofList (bytes.toList.flatMap fun b => [hexDigit (b.toNat / 16), hexDigit (b.toNat % 16)])

/-- The bytes that pairs of digits stand for. -/
def listOfHex? : List Char → Option (List UInt8)
  | [] => some []
  | [_] => none
  | high :: low :: rest => do
    let byte := UInt8.ofNat (16 * (← hexValue? high) + (← hexValue? low))
    return byte :: (← listOfHex? rest)

theorem listOfHex?_flatMap (bytes : List UInt8) :
    listOfHex? (bytes.flatMap fun b => [hexDigit (b.toNat / 16), hexDigit (b.toNat % 16)]) =
      some bytes := by
  induction bytes with
  | nil => rfl
  | cons b rest ih =>
      have bound := b.toNat_lt
      have high := hexValue?_hexDigit (n := b.toNat / 16) (by omega)
      have low := hexValue?_hexDigit (n := b.toNat % 16) (by omega)
      have same : UInt8.ofNat (16 * (b.toNat / 16) + b.toNat % 16) = b := by
        rw [Nat.div_add_mod, UInt8.ofNat_toNat]
      simp only [List.flatMap_cons, List.cons_append, List.nil_append, listOfHex?, high, low, ih,
        Option.bind_eq_bind, Option.bind_some, Option.pure_def, same]

def ofHex? (digits : List Char) : Option ByteArray :=
  (listOfHex? digits).map fun bytes => ⟨bytes.toArray⟩

end Diffusion.Bytes
