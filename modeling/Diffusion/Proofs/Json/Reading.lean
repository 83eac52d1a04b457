import Diffusion.Proofs.Json.Numerals

/-!
Reading back what was written as JSON.

The proof follows the writer. A value is read from the front of what is left of a text, and what
follows it is left; the depth of the recursion that a text asks for is bounded by its length. Main
statement: `parse?_text`, by which the text of a value, with blanks after it, is read as that value.
-/

namespace Diffusion.Json

mutual

/-- Whether a value can be told from its text: its numbers have numerals, and it is garbled
nowhere. -/
def IsWritable : Json → Prop
  | null | bool _ | string _ => True
  | number token => IsNumeral token
  | garbled => False
  | array items => AreWritable items
  | object fields => AreWritableFields fields

def AreWritable : List Json → Prop
  | [] => True
  | item :: items => item.IsWritable ∧ AreWritable items

def AreWritableFields : List (String × Json) → Prop
  | [] => True
  | (_, value) :: fields => value.IsWritable ∧ AreWritableFields fields

end

theorem areWritable_map {α : Type} {write : α → Json} {xs : List α}
    (writable : ∀ x ∈ xs, (write x).IsWritable) : AreWritable (xs.map write) := by
  induction xs with
  | nil => trivial
  | cons x xs ih =>
      exact ⟨writable x List.mem_cons_self,
        ih fun y member => writable y (List.mem_cons_of_mem x member)⟩

theorem areWritableFields_of_forall {fields : List (String × Json)}
    (writable : ∀ f ∈ fields, f.2.IsWritable) : AreWritableFields fields := by
  induction fields with
  | nil => trivial
  | cons field fields ih =>
      exact ⟨writable field List.mem_cons_self,
        ih fun f member => writable f (List.mem_cons_of_mem field member)⟩

theorem isWritable_nat (n : Nat) : (nat n).IsWritable := isNumeral_toDigits n

/-! ### Strings -/

variable (rest : List Char)

theorem hexCode?_hexDigits {n : Nat} (small : n < 256) :
    hexCode? ('0' :: '0' :: Bytes.hexDigit (n / 16) :: Bytes.hexDigit (n % 16) :: rest) =
      some (n, rest) := by
  have high := Bytes.hexValue?_hexDigit (n := n / 16) (by omega)
  have low := Bytes.hexValue?_hexDigit (n := n % 16) (by omega)
  have zero : Bytes.hexValue? '0' = some 0 := by decide
  have same : 4096 * 0 + 256 * 0 + 16 * (n / 16) + n % 16 = n := by omega
  simp only [hexCode?, zero, high, low, Option.bind_eq_bind, Option.bind_some, Option.pure_def,
    same]

theorem readChars_escape {fuel : Nat} {cs : List Char} {c : Char}
    (escaped : escape? cs = some (some c, rest)) :
    readChars (fuel + 1) ('\\' :: cs) =
      (readChars fuel rest).map fun (more, left) => (more.map (c :: ·), left) := by
  have backslash : ¬ '\\' = '"' := by decide
  simp only [readChars, backslash, if_false, if_true, escaped, Option.bind_eq_bind,
    Option.bind_some, Option.pure_def]
  cases readChars fuel rest <;> rfl

theorem readChars_writeChar (c : Char) (fuel : Nat) :
    readChars (fuel + 1) (writeChar c rest) =
      (readChars fuel rest).map fun (more, left) => (more.map (c :: ·), left) := by
  by_cases control : c.toNat < 32
  · have code := hexCode?_hexDigits rest (n := c.toNat) (by omega)
    have unit : escapedUnit c.toNat rest = (some c, rest) := by
      unfold escapedUnit
      rw [if_pos (.inl (by omega)), Char.ofNat_toNat]
    unfold writeChar
    repeat' split
    all_goals first
      | contradiction
      | (subst c; exact readChars_escape rest rfl)
      | exact readChars_escape rest (by simp only [escape?, code, Option.map_some, unit])
  · by_cases special : c = '"' ∨ c = '\\'
    · rcases special with rfl | rfl
      · exact readChars_escape rest rfl
      · exact readChars_escape rest rfl
    · obtain ⟨quote, backslash⟩ := not_or.mp special
      have plain : writeChar c rest = c :: rest := by
        unfold writeChar
        repeat' split
        all_goals first
          | rfl
          | contradiction
          | (subst c; exact absurd (by decide) control)
      rw [plain]
      simp only [readChars, quote, backslash, control, if_false, Option.bind_eq_bind,
        Option.pure_def]
      cases readChars fuel rest <;> rfl

theorem readChars_writeChars (cs : List Char) {fuel : Nat} (enough : cs.length < fuel) :
    readChars fuel (writeChars cs rest) = some (some cs, rest) := by
  induction cs generalizing fuel with
  | nil =>
      cases fuel with
      | zero => simp at enough
      | succ fuel => rfl
  | cons c cs ih =>
      cases fuel with
      | zero => simp at enough
      | succ fuel =>
          have fewer : cs.length < fuel := by simpa using enough
          change readChars (fuel + 1) (writeChar c (writeChars cs rest)) = _
          rw [readChars_writeChar, ih fewer]
          rfl

theorem length_writeChar (c : Char) : rest.length < (writeChar c rest).length := by
  unfold writeChar
  repeat' split
  all_goals simp only [List.length_cons]; omega

theorem length_writeChars (cs : List Char) :
    rest.length + cs.length < (writeChars cs rest).length := by
  induction cs with
  | nil => simp [writeChars]
  | cons c cs ih =>
      have longer := length_writeChar (writeChars cs rest) c
      change _ < (writeChar c (writeChars cs rest)).length
      simp only [List.length_cons]
      omega

theorem length_writeString (s : String) : rest.length + 2 ≤ (writeString s rest).length := by
  have longer := length_writeChars rest s.toList
  simp only [writeString, List.length_cons]
  omega

theorem readString_writeChars (s : String) {fuel : Nat}
    (enough : (writeChars s.toList rest).length ≤ fuel) :
    readString fuel (writeChars s.toList rest) = some (some s, rest) := by
  have longer := length_writeChars rest s.toList
  rw [readString, readChars_writeChars rest s.toList (by omega)]
  simp

/-! ### Values -/

theorem writeChar_append (c : Char) (more : List Char) :
    writeChar c (rest ++ more) = writeChar c rest ++ more := by
  unfold writeChar
  repeat' split
  all_goals rfl

theorem writeChars_append (cs more : List Char) :
    writeChars cs (rest ++ more) = writeChars cs rest ++ more := by
  induction cs with
  | nil => rfl
  | cons c cs ih =>
      change writeChar c (writeChars cs (rest ++ more)) = writeChar c (writeChars cs rest) ++ more
      rw [ih, writeChar_append]

theorem writeString_append (s : String) (more : List Char) :
    writeString s (rest ++ more) = writeString s rest ++ more := by
  simp only [writeString, writeChars_append, List.cons_append]

mutual

theorem write_append (rest more : List Char) (j : Json) :
    j.write (rest ++ more) = j.write rest ++ more :=
  match j with
  | null | bool true | bool false => rfl
  | number token => by simp only [write, List.append_assoc]
  | string s => by simp only [write, writeString_append]
  | garbled => by simp only [write, writeString_append]
  | array items => by simp only [write, writeItems_append rest more items, List.cons_append]
  | object fields => by simp only [write, writeFields_append rest more fields, List.cons_append]

theorem writeItems_append (rest more : List Char) (items : List Json) (first : Bool) :
    writeItems items first (rest ++ more) = writeItems items first rest ++ more :=
  match items, first with
  | [], _ => rfl
  | item :: items, true => by
      simp only [writeItems, writeItems_append rest more items,
        write_append (writeItems items false rest) more item]
  | item :: items, false => by
      simp only [writeItems, writeItems_append rest more items,
        write_append (writeItems items false rest) more item, List.cons_append]

theorem writeFields_append (rest more : List Char) (fields : List (String × Json))
    (first : Bool) :
    writeFields fields first (rest ++ more) = writeFields fields first rest ++ more :=
  match fields, first with
  | [], _ => rfl
  | (name, value) :: fields, true => by
      simp only [writeFields, writeFields_append rest more fields,
        write_append (writeFields fields false rest) more value, ← List.cons_append,
        writeString_append]
  | (name, value) :: fields, false => by
      simp only [writeFields, writeFields_append rest more fields,
        write_append (writeFields fields false rest) more value, ← List.cons_append,
        writeString_append]

end

theorem length_write (j : Json) : rest.length ≤ (j.write rest).length := by
  have written := write_append [] rest j
  rw [List.nil_append] at written
  rw [written, List.length_append]
  omega

theorem skipBlanks_cons {c : Char} {more : List Char} (visible : isBlank c = false) :
    skipBlanks (c :: more) = c :: more := by
  simp [skipBlanks, visible]

/-- A value that can be read starts with a character that is no blank and ends no array. -/
theorem exists_write_head {j : Json} (writable : j.IsWritable) :
    ∃ c more, j.write rest = c :: more ∧ isBlank c = false ∧ c ≠ ']' := by
  match j, writable with
  | null, _ | bool true, _ | bool false, _ | string _, _ | array _, _ | object _, _ =>
      exact ⟨_, _, rfl, by decide, by decide⟩
  | number token, numeral =>
      obtain ⟨c, more, written, sign | digit⟩ := IsNumeral.exists_head numeral
      · subst sign
        exact ⟨_, more ++ rest, by rw [write, written]; rfl, by decide, by decide⟩
      · refine ⟨c, more ++ rest, by rw [write, written]; rfl, ?_, ?_⟩
        · by_contra blank
          simp only [isBlank, Bool.not_eq_false, Bool.or_eq_true, beq_iff_eq] at blank
          rcases blank with ((rfl | rfl) | rfl) | rfl <;> exact absurd digit (by decide)
        · rintro rfl
          exact absurd digit (by decide)

/-! What is read after each opening character. -/

section

variable {fuel : Nat} {cs more : List Char}

theorem readValue_number {token : String} (numeral : IsNumeral token) (delimited : Delimited rest) :
    readValue (fuel + 1) (token.toList ++ rest) = some (number token, rest) := by
  have read := numeral.read delimited
  obtain ⟨c, more, written, first⟩ := numeral.exists_head
  have plain : ∀ d : Char, d ≠ '-' → d.isDigit = false → c ≠ d := by
    rintro d sign digit rfl
    rcases first with same | same
    · exact sign same
    · rw [digit] at same
      cases same
  have visible : isBlank c = false := by
    simp only [isBlank, Bool.or_eq_false_iff, beq_eq_false_iff_ne]
    exact ⟨⟨⟨plain _ (by decide) (by decide), plain _ (by decide) (by decide)⟩,
      plain _ (by decide) (by decide)⟩, plain _ (by decide) (by decide)⟩
  rw [written, List.cons_append] at read ⊢
  unfold readValue
  rw [skipBlanks_cons visible]
  split
  · exact absurd (List.cons.inj ‹_›).1 (plain _ (by decide) (by decide))
  · exact absurd (List.cons.inj ‹_›).1 (plain _ (by decide) (by decide))
  · exact absurd (List.cons.inj ‹_›).1 (plain _ (by decide) (by decide))
  · exact absurd (List.cons.inj ‹_›).1 (plain _ (by decide) (by decide))
  · exact absurd (List.cons.inj ‹_›).1 (plain _ (by decide) (by decide))
  · exact absurd (List.cons.inj ‹_›).1 (plain _ (by decide) (by decide))
  · rw [read, Option.map_some, ← written]
    simp only [String.ofList_toList]

theorem readValue_string (s : String) (enough : (writeString s rest).length ≤ fuel + 1) :
    readValue (fuel + 1) (writeString s rest) = some (string s, rest) := by
  have fits : (writeChars s.toList rest).length ≤ fuel := by
    simp only [writeString, List.length_cons] at enough
    omega
  have read := readString_writeChars rest s fits
  simp [writeString, readValue, skipBlanks, isBlank, read]

theorem readValue_array {c : Char} {items : List Json} (visible : isBlank c = false)
    (opens : c ≠ ']') (read : readItems fuel (c :: more) = some (items, rest)) :
    readValue (fuel + 1) ('[' :: c :: more) = some (array items, rest) := by
  have bracket : isBlank '[' = false := by decide
  simp [readValue, skipBlanks, visible, bracket, opens, read]

theorem readValue_object {fields : List (String × Json)}
    (read : readFields fuel ('"' :: more) = some (some fields, rest)) :
    readValue (fuel + 1) ('\x7b' :: '"' :: more) = some (object fields, rest) := by
  have brace : isBlank '\x7b' = false := by decide
  have quote : isBlank '"' = false := by decide
  simp [readValue, skipBlanks, brace, quote, read]

theorem readItems_last {item : Json} (read : readValue fuel cs = some (item, ']' :: rest)) :
    readItems (fuel + 1) cs = some ([item], rest) := by
  have bracket : isBlank ']' = false := by decide
  simp [readItems, read, skipBlanks, bracket]

theorem readItems_more {item : Json} {items : List Json}
    (read : readValue fuel cs = some (item, ',' :: more))
    (others : readItems fuel more = some (items, rest)) :
    readItems (fuel + 1) cs = some (item :: items, rest) := by
  have comma : isBlank ',' = false := by decide
  simp [readItems, read, skipBlanks, comma, others]

theorem readFields_last {name : String} {value : Json}
    (enough : (writeString name (':' :: cs)).length ≤ fuel + 1)
    (read : readValue fuel cs = some (value, '\x7d' :: rest)) :
    readFields (fuel + 1) (writeString name (':' :: cs)) = some (some [(name, value)], rest) := by
  have fits : (writeChars name.toList (':' :: cs)).length ≤ fuel := by
    simp only [writeString, List.length_cons] at enough
    omega
  have named := readString_writeChars (':' :: cs) name fits
  have quote : isBlank '"' = false := by decide
  have colon : isBlank ':' = false := by decide
  have brace : isBlank '\x7d' = false := by decide
  simp [readFields, writeString, skipBlanks, quote, colon, brace, named, read]

theorem readFields_more {name : String} {value : Json} {fields : List (String × Json)}
    (enough : (writeString name (':' :: cs)).length ≤ fuel + 1)
    (read : readValue fuel cs = some (value, ',' :: more))
    (others : readFields fuel more = some (some fields, rest)) :
    readFields (fuel + 1) (writeString name (':' :: cs)) =
      some (some ((name, value) :: fields), rest) := by
  have fits : (writeChars name.toList (':' :: cs)).length ≤ fuel := by
    simp only [writeString, List.length_cons] at enough
    omega
  have named := readString_writeChars (':' :: cs) name fits
  have quote : isBlank '"' = false := by decide
  have colon : isBlank ':' = false := by decide
  have comma : isBlank ',' = false := by decide
  simp [readFields, writeString, skipBlanks, quote, colon, comma, named, read, others]

end

mutual

/-- A value is read back, and what follows it is left. -/
theorem readValue_write (rest : List Char) (j : Json) (writable : j.IsWritable)
    (delimited : Delimited rest) {fuel : Nat} (enough : 2 * (j.write rest).length ≤ fuel) :
    readValue fuel (j.write rest) = some (j, rest) := by
  obtain ⟨c, more, written, -, -⟩ := exists_write_head rest writable
  obtain ⟨fuel, rfl⟩ : ∃ left, fuel = left + 1 := by
    rw [written, List.length_cons] at enough
    exact ⟨fuel - 1, by omega⟩
  match j with
  | null | bool true | bool false => rfl
  | number token => exact readValue_number rest writable delimited
  | string s => exact readValue_string rest s (by rw [write] at enough; omega)
  | garbled => exact writable.elim
  | array [] => rfl
  | array (item :: items) =>
      simp only [write, List.length_cons] at enough
      have fits : 2 * (writeItems (item :: items) true rest).length + 1 ≤ fuel := by omega
      have inside := readItems_write rest (item :: items) writable (by simp) fits
      obtain ⟨c, more, written, visible, opens⟩ :=
        exists_write_head (writeItems items false rest) writable.1
      rw [write]
      rw [writeItems, written] at inside ⊢
      exact readValue_array rest visible opens inside
  | object [] => rfl
  | object ((name, value) :: fields) =>
      simp only [write, List.length_cons] at enough
      have fits : 2 * (writeFields ((name, value) :: fields) true rest).length + 1 ≤ fuel := by
        omega
      have inside := readFields_write rest ((name, value) :: fields) writable (by simp) fits
      exact readValue_object rest inside

theorem readItems_write (rest : List Char) (items : List Json) (writable : AreWritable items)
    (nonempty : items ≠ []) {fuel : Nat}
    (enough : 2 * (writeItems items true rest).length + 1 ≤ fuel) :
    readItems fuel (writeItems items true rest) = some (items, rest) := by
  obtain ⟨fuel, rfl⟩ : ∃ left, fuel = left + 1 := ⟨fuel - 1, by omega⟩
  match items with
  | [] => exact absurd rfl nonempty
  | [item] =>
      have stops : Delimited (']' :: rest) := delimited_cons (by decide)
      exact readItems_last rest (readValue_write _ item writable.1 stops (by
        simp only [writeItems] at enough ⊢
        omega))
  | item :: next :: items =>
      have stops : Delimited (',' :: writeItems (next :: items) true rest) :=
        delimited_cons (by decide)
      have longer := length_write (',' :: writeItems (next :: items) true rest) item
      have same : writeItems (item :: next :: items) true rest =
        item.write (',' :: writeItems (next :: items) true rest) := rfl
      rw [same] at enough ⊢
      rw [List.length_cons] at longer
      exact readItems_more rest (readValue_write _ item writable.1 stops (by omega))
        (readItems_write rest (next :: items) writable.2 (by simp) (by omega))

theorem readFields_write (rest : List Char) (fields : List (String × Json))
    (writable : AreWritableFields fields) (nonempty : fields ≠ []) {fuel : Nat}
    (enough : 2 * (writeFields fields true rest).length + 1 ≤ fuel) :
    readFields fuel (writeFields fields true rest) = some (some fields, rest) := by
  obtain ⟨fuel, rfl⟩ : ∃ left, fuel = left + 1 := ⟨fuel - 1, by omega⟩
  match fields with
  | [] => exact absurd rfl nonempty
  | [(name, value)] =>
      have stops : Delimited ('\x7d' :: rest) := delimited_cons (by decide)
      have named := length_writeString (':' :: value.write ('\x7d' :: rest)) name
      have same : writeFields [(name, value)] true rest =
        writeString name (':' :: value.write ('\x7d' :: rest)) := rfl
      rw [same] at enough ⊢
      rw [List.length_cons] at named
      exact readFields_last rest (by omega) (readValue_write _ value writable.1 stops (by omega))
  | (name, value) :: next :: fields =>
      have stops : Delimited (',' :: writeFields (next :: fields) true rest) :=
        delimited_cons (by decide)
      have longer := length_write (',' :: writeFields (next :: fields) true rest) value
      have named :=
        length_writeString (':' :: value.write (',' :: writeFields (next :: fields) true rest)) name
      have same : writeFields ((name, value) :: next :: fields) true rest =
        writeString name (':' :: value.write (',' :: writeFields (next :: fields) true rest)) := rfl
      rw [same] at enough ⊢
      rw [List.length_cons] at longer named
      exact readFields_more rest (by omega)
        (readValue_write _ value writable.1 stops (by omega))
        (readFields_write rest (next :: fields) writable.2 (by simp) (by omega))

end

/-- The text of a value, with blanks after it, is read as that value. -/
theorem parse?_text {j : Json} (writable : j.IsWritable) {blanks : List Char}
    (blank : ∀ c ∈ blanks, isBlank c = true) :
    parse? (j.text ++ String.ofList blanks) = some j := by
  have delimited : Delimited blanks := by
    intro c first
    have member := blank c (List.mem_of_mem_head? first)
    simp only [isBlank, Bool.or_eq_true, beq_iff_eq] at member
    rcases member with ((rfl | rfl) | rfl) | rfl <;> decide
  have written : (j.text ++ String.ofList blanks).toList = j.write blanks := by
    rw [text, ← String.ofList_append, String.toList_ofList, ← write_append, List.nil_append]
  have fits : 2 * (j.write blanks).length ≤ 2 * (j.write blanks).length + 2 := by omega
  have read := readValue_write blanks j writable delimited fits
  have left : skipBlanks blanks = [] := List.dropWhile_eq_nil_iff.mpr blank
  simp only [parse?, written, read, left, Option.bind_eq_bind, Option.bind_some,
    List.isEmpty_nil, if_true, Option.pure_def]

end Diffusion.Json
