import Diffusion.Json
import Diffusion.Numeral.Token

/-!
Reading values of known types out of JSON.

A record comes as an object, whose unknown fields are passed over and whose known fields may not
be repeated, or as an array of all its fields in order.
-/

namespace Diffusion.Json

def asString? : Json → Option String
  | string s => some s
  | _ => none

def asBool? : Json → Option Bool
  | bool b => some b
  | _ => none

def asWord? : Json → Option Nat
  | number token => Numeral.wordOfToken? token
  | _ => none

def asNumber? {α : Type} (read : String → Option α) : Json → Option α
  | number token => read token
  | _ => none

/-- An array with all its items. -/
def asList? {α : Type} (read : Json → Option α) : Json → Option (List α)
  | array items => items.mapM read
  | _ => none

/-- A name out of an enumeration, alone or as the only field of an object that holds null. -/
def asName? : Json → Option String
  | string s => some s
  | object [(name, null)] => some name
  | _ => none

/-- A name out of an enumeration, in a value that was kept until its kind was known. In such a value
an empty object stands for null as well. -/
def asKeptName? : Json → Option String
  | object [(name, object [])] => some name
  | j => j.asName?

/-- The member of an enumeration with a name. -/
def memberNamed? {α : Type} (members : List α) (name : α → String) (found : String) : Option α :=
  members.find? fun member => name member == found

def asMember? {α : Type} (members : List α) (name : α → String) (j : Json) : Option α :=
  j.asName?.bind (memberNamed? members name)

/-- A member of an enumeration, by its name in a value that was kept until its kind was known. -/
def asKeptMember? {α : Type} (members : List α) (name : α → String) (j : Json) : Option α :=
  j.asKeptName?.bind (memberNamed? members name)

/-- A value that null stands in for. -/
def asOptional? {α : Type} (read : Json → Option α) : Json → Option (Option α)
  | null => some none
  | j => (read j).map some

/-- The fields of a record, by name. -/
structure Record where
  fields : List (String × Json)

/-- The record with the given fields. Of an object it keeps only these. -/
def asRecord? (names : List String) : Json → Option Record
  | object fields =>
    let known := fields.filter fun (name, _) => names.contains name
    if (known.map (·.1)).eraseDups.length = known.length then some ⟨known⟩ else none
  | array items => if items.length = names.length then some ⟨names.zip items⟩ else none
  | _ => none

namespace Record

/-- A field that must be there. -/
def required? {α : Type} (r : Record) (name : String) (read : Json → Option α) : Option α :=
  (r.fields.lookup name).bind read

/-- A field that may be missing or null. -/
def optional? {α : Type} (r : Record) (name : String) (read : Json → Option α) :
    Option (Option α) :=
  match r.fields.lookup name with
  | none => some none
  | some j => j.asOptional? read

end Record

/-- How many arrays and objects of a text may lie inside one another where values are kept until
their kind is known. -/
def maxNesting : Nat := 127

mutual

/-- Whether every string and number in a value stands for a text or a finite number, and no more
arrays and objects lie inside one another than there is room for. -/
def isReadable (room : Nat) : Json → Bool
  | null | bool _ | string _ => true
  | number token => (Numeral.floatOfToken? token).isSome
  | garbled => false
  | array items => 0 < room && areReadable (room - 1) items
  | object fields => 0 < room && areReadableFields (room - 1) fields

/-- Whether all items are readable. -/
def areReadable (room : Nat) : List Json → Bool
  | [] => true
  | item :: items => item.isReadable room && areReadable room items

/-- Whether all values of fields are readable. -/
def areReadableFields (room : Nat) : List (String × Json) → Bool
  | [] => true
  | (_, value) :: fields => value.isReadable room && areReadableFields room fields

end

def ofOption {α : Type} (write : α → Json) : Option α → Json
  | none => null
  | some x => write x

/-- A number by its numeral, or null if it has none. -/
def ofNumeral? (numeral : Option String) : Json := ofOption number numeral

end Diffusion.Json
