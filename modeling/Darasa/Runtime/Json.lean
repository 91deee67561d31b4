import Darasa.Runtime.Decimal

/-!
JSON values as Python holds them after `json.loads`: a request body, a
`JSONField` column, an event payload.

A float is kept as the decimal its `repr` writes, which is all that `str`,
`Decimal(str(..))` and `json.dumps` see of it.  `canonical` sorts the keys of
every object, so two values have the same `canonical` form exactly when
`json.dumps(.., sort_keys=True)` writes the same text for them; a SHA-256
digest of that text, taken as injective, is modelled by the form itself.
-/

namespace Darasa

/-- A JSON value. -/
inductive Json where
  | null
  | bool (b : Bool)
  | int (n : ℤ)
  | float (repr : Decimal)
  | str (s : String)
  | arr (items : List Json)
  | obj (fields : List (String × Json))
  deriving Repr

namespace Json

mutual

/-- Equality of JSON values is decidable. -/
def decEq : (x y : Json) → Decidable (x = y)
  | null, null => isTrue rfl
  | bool a, bool b => decidable_of_iff (a = b) (by simp)
  | int a, int b => decidable_of_iff (a = b) (by simp)
  | float a, float b => decidable_of_iff (a = b) (by simp)
  | str a, str b => decidable_of_iff (a = b) (by simp)
  | arr a, arr b =>
    match decEqItems a b with
    | isTrue same => isTrue (by rw [same])
    | isFalse differ => isFalse (by simpa using differ)
  | obj a, obj b =>
    match decEqFields a b with
    | isTrue same => isTrue (by rw [same])
    | isFalse differ => isFalse (by simpa using differ)
  | null, bool _ | null, int _ | null, float _ | null, str _ | null, arr _ | null, obj _
  | bool _, null | bool _, int _ | bool _, float _ | bool _, str _ | bool _, arr _ | bool _, obj _
  | int _, null | int _, bool _ | int _, float _ | int _, str _ | int _, arr _ | int _, obj _
  | float _, null | float _, bool _ | float _, int _ | float _, str _ | float _, arr _
  | float _, obj _
  | str _, null | str _, bool _ | str _, int _ | str _, float _ | str _, arr _ | str _, obj _
  | arr _, null | arr _, bool _ | arr _, int _ | arr _, float _ | arr _, str _ | arr _, obj _
  | obj _, null | obj _, bool _ | obj _, int _ | obj _, float _ | obj _, str _ | obj _, arr _ =>
    isFalse (by simp)

def decEqItems : (xs ys : List Json) → Decidable (xs = ys)
  | [], [] => isTrue rfl
  | [], _ :: _ | _ :: _, [] => isFalse (by simp)
  | x :: xs, y :: ys =>
    match decEq x y, decEqItems xs ys with
    | isTrue head, isTrue tail => isTrue (by rw [head, tail])
    | isFalse differ, _ => isFalse (by simp [differ])
    | _, isFalse differ => isFalse (by simp [differ])

def decEqFields : (xs ys : List (String × Json)) → Decidable (xs = ys)
  | [], [] => isTrue rfl
  | [], _ :: _ | _ :: _, [] => isFalse (by simp)
  | (k, x) :: xs, (l, y) :: ys =>
    match (inferInstance : Decidable (k = l)), decEq x y, decEqFields xs ys with
    | isTrue key, isTrue head, isTrue tail => isTrue (by rw [key, head, tail])
    | isFalse differ, _, _ => isFalse (by simp [differ])
    | _, isFalse differ, _ => isFalse (by simp [differ])
    | _, _, isFalse differ => isFalse (by simp [differ])

end

instance : DecidableEq Json := decEq

/-! ### What Python asks of a value -/

/-- `d.get(key)` on the items of a dict. -/
def lookup (key : String) (fields : List (String × Json)) : Option Json :=
  (fields.find? fun field => field.1 == key).map Prod.snd

/-- The keys of a dict. -/
def keys : Json → List String
  | obj fields => fields.map Prod.fst
  | _ => []

/-- `type(value).__name__`. -/
def typeName : Json → String
  | null => "NoneType"
  | bool _ => "bool"
  | int _ => "int"
  | float _ => "float"
  | str _ => "str"
  | arr _ => "list"
  | obj _ => "dict"

/-- `bool(value)`. -/
def truthy : Json → Bool
  | null => false
  | bool b => b
  | int n => n != 0
  | float (.finite _ coefficient _) => coefficient != 0
  | float _ => true
  | str s => !s.isEmpty
  | arr items => !items.isEmpty
  | obj fields => !fields.isEmpty

/-- `value in [None, ""]`. -/
def isBlank : Json → Bool
  | null => true
  | str s => s.isEmpty
  | _ => false

/-- `Decimal(str(value))`; `none` is `decimal.InvalidOperation`.  The `str` of
`None`, a boolean, a list or a dict is no number. -/
def toDecimal? [Unicode] : Json → Option Decimal
  | int n => some (.finite (decide (n < 0)) n.natAbs 0)
  | float repr => some repr
  | str s => Decimal.ofString? s
  | _ => none

/-- Insert a field at its place in key order. -/
def insertField (field : String × Json) : List (String × Json) → List (String × Json)
  | [] => [field]
  | other :: rest =>
    if field.1 ≤ other.1 then field :: other :: rest else other :: insertField field rest

mutual

/-- The value with the keys of every object in order: what
`json.dumps(.., sort_keys=True)` tells apart. -/
def canonical : Json → Json
  | arr items => arr (canonicalItems items)
  | obj fields => obj (canonicalFields fields)
  | scalar => scalar

def canonicalItems : List Json → List Json
  | [] => []
  | item :: items => item.canonical :: canonicalItems items

def canonicalFields : List (String × Json) → List (String × Json)
  | [] => []
  | (key, value) :: fields => insertField (key, value.canonical) (canonicalFields fields)

end

/-! ### The text of a value -/

/-- `repr` of a float: positional when the leading digit stands between `1e-4` and
`1e16`, scientific otherwise. -/
def floatText : Decimal → String
  | .finite negative coefficient exponent =>
    let digits := (Nat.repr coefficient).toList
    let leading := exponent + digits.length - 1
    let sign := if negative then "-" else ""
    if -4 ≤ leading ∧ leading < 16 then
      if 0 ≤ exponent then
        sign ++ .ofList digits ++ .ofList (List.replicate exponent.toNat '0') ++ ".0"
      else if 0 ≤ leading then
        sign ++ .ofList (digits.take (leading + 1).toNat) ++ "." ++
          .ofList (digits.drop (leading + 1).toNat)
      else
        sign ++ "0." ++ .ofList (List.replicate (-leading - 1).toNat '0') ++ .ofList digits
    else
      let fraction := digits.drop 1
      let power := Nat.repr leading.natAbs
      sign ++ .ofList (digits.take 1) ++
        (if fraction.isEmpty then "" else "." ++ .ofList fraction) ++
        (if leading < 0 then "e-" else "e+") ++
        (if power.length = 1 then "0" ++ power else power)
  | .infinity negative => if negative then "-inf" else "inf"
  | .nan _ => "nan"

section

variable [Unicode]

/-- Hexadecimal digits of a character's code, padded to a width. -/
def hexCode (width : ℕ) (c : Char) : String :=
  let digits := Nat.toDigits 16 c.toNat
  .ofList (List.replicate (width - digits.length) '0' ++ digits)

/-- A character inside the `repr` of a string. -/
def reprChar (quote c : Char) : String :=
  if c = quote ∨ c = '\\' then .ofList ['\\', c]
  else if c = '\n' then "\\n"
  else if c = '\r' then "\\r"
  else if c = '\t' then "\\t"
  else if Unicode.isPrintable c then .ofList [c]
  else if c.toNat < 256 then "\\x" ++ hexCode 2 c
  else if c.toNat < 65536 then "\\u" ++ hexCode 4 c
  else "\\U" ++ hexCode 8 c

/-- `repr` of a string: in single quotes, unless only those occur in it. -/
def stringRepr (s : String) : String :=
  let quote := if s.toList.contains '\'' && !s.toList.contains '"' then '"' else '\''
  .ofList [quote] ++ String.join (s.toList.map (reprChar quote)) ++ .ofList [quote]

mutual

/-- `repr(value)`. -/
def repr : Json → String
  | null => "None"
  | bool b => if b then "True" else "False"
  | int n => toString n
  | float value => floatText value
  | str s => stringRepr s
  | arr items => "[" ++ reprItems items ++ "]"
  | obj fields => "\x7b" ++ reprFields fields ++ "\x7d"

def reprItems : List Json → String
  | [] => ""
  | [item] => item.repr
  | item :: items => item.repr ++ ", " ++ reprItems items

def reprFields : List (String × Json) → String
  | [] => ""
  | [(key, value)] => stringRepr key ++ ": " ++ value.repr
  | (key, value) :: fields => stringRepr key ++ ": " ++ value.repr ++ ", " ++ reprFields fields

end

/-- `str(value)`. -/
def text : Json → String
  | str s => s
  | value => value.repr

end

/-! ### The text on the wire -/

/-- `\uXXXX`. -/
def escapeUnit (code : ℕ) : String :=
  let digits := Nat.toDigits 16 code
  "\\u" ++ .ofList (List.replicate (4 - digits.length) '0' ++ digits)

/-- What `json.dumps` writes for one character of a string: past the basic plane the two
halves of a surrogate pair. -/
def escapeChar (c : Char) : String :=
  if c = '"' ∨ c = '\\' then .ofList ['\\', c]
  else if c = '\n' then "\\n"
  else if c = '\r' then "\\r"
  else if c = '\t' then "\\t"
  else if c.toNat = 8 then "\\b"
  else if c.toNat = 12 then "\\f"
  else if 32 ≤ c.toNat ∧ c.toNat ≤ 126 then .ofList [c]
  else if c.toNat < 65536 then escapeUnit c.toNat
  else
    escapeUnit (55296 + (c.toNat - 65536) / 1024) ++ escapeUnit (56320 + (c.toNat - 65536) % 1024)

/-- A string in its quotes. -/
def dumpString (s : String) : String := "\"" ++ String.join (s.toList.map escapeChar) ++ "\""

mutual

/-- `json.dumps(value, separators=(",", ":"))`. -/
def dumps : Json → String
  | null => "null"
  | bool b => if b then "true" else "false"
  | int n => toString n
  | float (.infinity negative) => if negative then "-Infinity" else "Infinity"
  | float (.nan _) => "NaN"
  | float value => floatText value
  | str s => dumpString s
  | arr items => "[" ++ dumpItems items ++ "]"
  | obj fields => "\x7b" ++ dumpFields fields ++ "\x7d"

def dumpItems : List Json → String
  | [] => ""
  | [item] => item.dumps
  | item :: items => item.dumps ++ "," ++ dumpItems items

def dumpFields : List (String × Json) → String
  | [] => ""
  | [(key, value)] => dumpString key ++ ":" ++ value.dumps
  | (key, value) :: fields => dumpString key ++ ":" ++ value.dumps ++ "," ++ dumpFields fields

end

/-! ### The size of a value on the wire -/

/-- Bytes `json.dumps` writes for one character of a string. -/
def charLength (c : Char) : ℕ :=
  if c = '"' ∨ c = '\\' ∨ c = '\n' ∨ c = '\r' ∨ c = '\t' ∨ c.toNat = 8 ∨ c.toNat = 12 then 2
  else if 32 ≤ c.toNat ∧ c.toNat ≤ 126 then 1
  else if c.toNat < 65536 then 6
  else 12

/-- Bytes of a string with its quotes. -/
def stringLength (s : String) : ℕ := (s.toList.map charLength).sum + 2

/-- Bytes of a float's `repr`: positional when the leading digit stands between
`1e-4` and `1e16`, scientific otherwise. -/
def floatLength : Decimal → ℕ
  | .finite negative coefficient exponent =>
    let digits := (toString coefficient).length
    let leading := exponent + digits - 1
    let sign := if negative then 1 else 0
    if -4 ≤ leading ∧ leading < 16 then
      if 0 ≤ exponent then sign + digits + exponent.toNat + 2
      else if 0 ≤ leading then sign + digits + 1
      else sign + (-exponent).toNat + 2
    else sign + digits + (if digits = 1 then 0 else 1) + 2 +
      max 2 (toString leading.natAbs).length
  | .infinity negative => if negative then 9 else 8
  | .nan _ => 3

mutual

/-- `len(json.dumps(value, separators=(",", ":")).encode())`. -/
def encodedLength : Json → ℕ
  | null => 4
  | bool b => if b then 4 else 5
  | int n => (toString n).length
  | float repr => floatLength repr
  | str s => stringLength s
  | arr items => encodedItems items + 2 + (items.length - 1)
  | obj fields => encodedFields fields + 2 + (fields.length - 1)

def encodedItems : List Json → ℕ
  | [] => 0
  | item :: items => item.encodedLength + encodedItems items

def encodedFields : List (String × Json) → ℕ
  | [] => 0
  | (key, value) :: fields => stringLength key + 1 + value.encodedLength + encodedFields fields

end

end Json

end Darasa
