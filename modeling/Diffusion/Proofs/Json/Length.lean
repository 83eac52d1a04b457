import Diffusion.Json
import Mathlib.Algebra.Order.Ring.Nat

/-!
How long values are when they are written.

A character takes at most six characters to write, so the length of a text is bounded by a sum over
the tree of its value. Main statement: `length_text_le`.
-/

namespace Diffusion.Json

mutual

/-- As many characters as a value can need. -/
def lengthBound : Json → Nat
  | null => 4
  | bool _ => 5
  | number token => token.length
  | string s => 6 * s.length + 2
  | garbled => 2
  | array items => itemsBound items + 2
  | object fields => fieldsBound fields + 2

def itemsBound : List Json → Nat
  | [] => 0
  | item :: items => item.lengthBound + 1 + itemsBound items

def fieldsBound : List (String × Json) → Nat
  | [] => 0
  | (name, value) :: fields => 6 * name.length + value.lengthBound + 4 + fieldsBound fields

end

theorem fieldsBound_map {α : Type} (xs : List α) (name : α → String) (value : α → Json) :
    fieldsBound (xs.map fun x => (name x, value x)) =
      (xs.map fun x => 6 * (name x).length + (value x).lengthBound + 4).sum := by
  induction xs with
  | nil => rfl
  | cons x xs ih => rw [List.map_cons, fieldsBound, ih, List.map_cons, List.sum_cons]

theorem length_writeChar_le (c : Char) (rest : List Char) :
    (writeChar c rest).length ≤ rest.length + 6 := by
  unfold writeChar
  repeat' split
  all_goals simp only [List.length_cons]; omega

theorem length_writeString_le (s : String) (rest : List Char) :
    (writeString s rest).length ≤ rest.length + (6 * s.length + 2) := by
  have chars : ∀ cs, (writeChars cs rest).length ≤ rest.length + (6 * cs.length + 1) := by
    intro cs
    induction cs with
    | nil => simp [writeChars]
    | cons c cs ih =>
        have longer := length_writeChar_le c (writeChars cs rest)
        change (writeChar c (writeChars cs rest)).length ≤ _
        simp only [List.length_cons]
        omega
  have inside := chars s.toList
  rw [String.length_toList] at inside
  simp only [writeString, List.length_cons]
  omega

mutual

theorem length_write_le (j : Json) (rest : List Char) :
    (j.write rest).length ≤ rest.length + j.lengthBound := by
  match j with
  | null | bool true | bool false => simp [write, lengthBound]
  | number token => simp [write, lengthBound, String.length_toList, Nat.add_comm]
  | string s => exact length_writeString_le s rest
  | garbled => exact length_writeString_le "" rest
  | array items =>
      have inside := length_writeItems_le items true rest
      rw [write, List.length_cons, lengthBound]
      omega
  | object fields =>
      have inside := length_writeFields_le fields true rest
      rw [write, List.length_cons, lengthBound]
      omega

theorem length_writeItems_le (items : List Json) (first : Bool) (rest : List Char) :
    (writeItems items first rest).length ≤ rest.length + 1 + itemsBound items := by
  match items, first with
  | [], _ => simp [writeItems, itemsBound]
  | item :: items, true =>
      have later := length_writeItems_le items false rest
      have here := length_write_le item (writeItems items false rest)
      rw [writeItems, itemsBound]
      omega
  | item :: items, false =>
      have later := length_writeItems_le items false rest
      have here := length_write_le item (writeItems items false rest)
      rw [writeItems, itemsBound, List.length_cons]
      omega

theorem length_writeFields_le (fields : List (String × Json)) (first : Bool)
    (rest : List Char) :
    (writeFields fields first rest).length ≤ rest.length + 1 + fieldsBound fields := by
  match fields, first with
  | [], _ => simp [writeFields, fieldsBound]
  | (name, value) :: fields, true =>
      have later := length_writeFields_le fields false rest
      have here := length_write_le value (writeFields fields false rest)
      have named := length_writeString_le name (':' :: value.write (writeFields fields false rest))
      rw [List.length_cons] at named
      rw [writeFields, fieldsBound]
      omega
  | (name, value) :: fields, false =>
      have later := length_writeFields_le fields false rest
      have here := length_write_le value (writeFields fields false rest)
      have named := length_writeString_le name (':' :: value.write (writeFields fields false rest))
      rw [List.length_cons] at named
      rw [writeFields, fieldsBound, List.length_cons]
      omega

end

theorem length_text_le (j : Json) : j.text.length ≤ j.lengthBound := by
  have written := length_write_le j []
  rwa [List.length_nil, Nat.zero_add, ← String.length_ofList] at written

end Diffusion.Json
