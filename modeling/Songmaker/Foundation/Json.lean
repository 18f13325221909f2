import Mathlib.Data.String.Basic
import Mathlib.Data.List.Sort

/-!
`json.dumps` with ASCII escapes, and `json.loads`. A text is the list of its
characters.
-/

namespace Songmaker.Foundation

namespace Json

section Numbers

/-- The fraction of a number, empty where there is none. -/
def readFraction : List Char → List Char × List Char
  | '.' :: rest =>
      if (rest.takeWhile Char.isDigit).isEmpty then ([], '.' :: rest)
      else ('.' :: rest.takeWhile Char.isDigit, rest.dropWhile Char.isDigit)
  | text => ([], text)

def readSign : List Char → List Char × List Char
  | '+' :: rest => (['+'], rest)
  | '-' :: rest => (['-'], rest)
  | text => ([], text)

/-- The exponent of a number, empty where there is none. -/
def readExponent : List Char → List Char × List Char
  | e :: rest =>
      let (sign, digits) := readSign rest
      if (e = 'e' ∨ e = 'E') ∧ !(digits.takeWhile Char.isDigit).isEmpty then
        (e :: sign ++ digits.takeWhile Char.isDigit, digits.dropWhile Char.isDigit)
      else ([], e :: rest)
  | [] => ([], [])

/-- A leading zero ends the integer part. -/
def readInteger : List Char → Option (List Char × List Char)
  | '0' :: rest => some (['0'], rest)
  | text =>
      if (text.takeWhile Char.isDigit).isEmpty then none
      else some (text.takeWhile Char.isDigit, text.dropWhile Char.isDigit)

def readMinus : List Char → Bool × List Char
  | '-' :: rest => (true, rest)
  | text => (false, text)

/-- A number's parts, as the scanner reads them. -/
structure Scanned where
  negative : Bool
  digits : List Char
  fraction : List Char
  exponent : List Char
deriving DecidableEq

def Scanned.text (number : Scanned) : List Char :=
  (if number.negative then ['-'] else []) ++ number.digits ++ number.fraction ++ number.exponent

/-- A number without fraction and exponent is read as an `int`. -/
def Scanned.isInteger (number : Scanned) : Bool :=
  number.fraction.isEmpty && number.exponent.isEmpty

/-- The longest number at the start of a text. -/
def scanNumber (text : List Char) : Option (Scanned × List Char) := do
  let (negative, text) := readMinus text
  let (digits, rest) ← readInteger text
  let (fraction, rest) := readFraction rest
  let (exponent, rest) := readExponent rest
  return (⟨negative, digits, fraction, exponent⟩, rest)

/-- The texts that `float.__repr__` writes. -/
def isFloatText (text : List Char) : Bool :=
  match scanNumber text with
  | some (number, []) => !number.isInteger && number.text = text
  | _ => false

end Numbers

end Json

/-- A float, by the text that `repr` writes for it. -/
inductive JsonFloat where
  | finite (text : List Char) (valid : Json.isFloatText text = true)
  | nan
  | infinity
  | negativeInfinity
deriving DecidableEq

/-- A JSON value; an object keeps its keys in their order. -/
inductive Json where
  | null
  | bool (value : Bool)
  | int (value : Int)
  | float (value : JsonFloat)
  | string (value : String)
  | array (values : List Json)
  | object (fields : List (String × Json))

namespace Json

section Characters

def hexDigit (n : Nat) : Char :=
  Nat.digitChar n

def hex4 (n : Nat) : List Char :=
  [hexDigit (n / 4096 % 16), hexDigit (n / 256 % 16), hexDigit (n / 16 % 16), hexDigit (n % 16)]

/-- `ensure_ascii`: characters past the basic plane become a surrogate pair. -/
def escapeChar (c : Char) : List Char :=
  if c = '"' then ['\\', '"']
  else if c = '\\' then ['\\', '\\']
  else if c = '\n' then ['\\', 'n']
  else if c = '\r' then ['\\', 'r']
  else if c = '\t' then ['\\', 't']
  else if c = '\x0c' then ['\\', 'f']
  else if c = '\x08' then ['\\', 'b']
  else if ' ' ≤ c ∧ c ≤ '~' then [c]
  else if c.toNat < 65536 then '\\' :: 'u' :: hex4 c.toNat
  else
    '\\' :: 'u' :: hex4 (55296 + (c.toNat - 65536) / 1024) ++
      '\\' :: 'u' :: hex4 (56320 + (c.toNat - 65536) % 1024)

/-- A string with its quotes, and its other characters escaped where they must be. -/
def dumpsString (s : String) : List Char :=
  '"' :: s.toList.flatMap escapeChar ++ ['"']

def hexValue? (c : Char) : Option Nat :=
  if '0' ≤ c ∧ c ≤ '9' then some (c.toNat - 48)
  else if 'a' ≤ c ∧ c ≤ 'f' then some (c.toNat - 87)
  else if 'A' ≤ c ∧ c ≤ 'F' then some (c.toNat - 55)
  else none

def readHex4 : List Char → Option (Nat × List Char)
  | a :: b :: c :: d :: rest => do
      return (4096 * (← hexValue? a) + 256 * (← hexValue? b) + 16 * (← hexValue? c) +
        (← hexValue? d), rest)
  | _ => none

/-- The rest of a `\u` escape. A surrogate that is not half of a pair is no
character. -/
def readUnicode (text : List Char) : Option (Char × List Char) := do
  let (code, rest) ← readHex4 text
  if 55296 ≤ code ∧ code < 56320 then
    match rest with
    | '\\' :: 'u' :: rest => do
        let (low, rest) ← readHex4 rest
        if 56320 ≤ low ∧ low < 57344 then
          return (Char.ofNat (65536 + (code - 55296) * 1024 + (low - 56320)), rest)
        else none
    | _ => none
  else if 56320 ≤ code ∧ code < 57344 then none
  else return (Char.ofNat code, rest)

/-- The next character of a string, which may be escaped. -/
def readChar : List Char → Option (Char × List Char)
  | '\\' :: 'u' :: rest => readUnicode rest
  | '\\' :: '"' :: rest => some ('"', rest)
  | '\\' :: '\\' :: rest => some ('\\', rest)
  | '\\' :: '/' :: rest => some ('/', rest)
  | '\\' :: 'n' :: rest => some ('\n', rest)
  | '\\' :: 'r' :: rest => some ('\r', rest)
  | '\\' :: 't' :: rest => some ('\t', rest)
  | '\\' :: 'f' :: rest => some ('\x0c', rest)
  | '\\' :: 'b' :: rest => some ('\x08', rest)
  | '\\' :: _ => none
  | c :: rest => if c < ' ' then none else some (c, rest)
  | [] => none

/-- The characters of a string up to its closing quote. -/
def readString : Nat → List Char → Option (List Char × List Char)
  | 0, _ => none
  | _ + 1, '"' :: rest => some ([], rest)
  | fuel + 1, text => do
      let (c, rest) ← readChar text
      let (cs, rest) ← readString fuel rest
      return (c :: cs, rest)

end Characters

section Values

def skipSpace (text : List Char) : List Char :=
  text.dropWhile fun c => c = ' ' ∨ c = '\t' ∨ c = '\n' ∨ c = '\r'

/-- The number in front of the text. -/
def readNumber (text : List Char) : Option (Json × List Char) := do
  let (number, rest) ← scanNumber text
  if number.isInteger then
    let value : Int := Nat.ofDigitChars 10 number.digits 0
    return (.int (if number.negative then -value else value), rest)
  else if h : isFloatText number.text then return (.float (.finite number.text h), rest)
  else none

mutual

/-- The fuel bounds the nesting and the lengths of arrays and objects. -/
def readValue : Nat → List Char → Option (Json × List Char)
  | 0, _ => none
  | fuel + 1, text =>
      match text with
      | '"' :: rest => do
          let (cs, rest) ← readString (rest.length + 1) rest
          return (.string (String.ofList cs), rest)
      | '{' :: rest =>
          match skipSpace rest with
          | '}' :: rest => some (.object [], rest)
          | rest => do
              let (fields, rest) ← readMembers fuel rest
              return (.object fields, rest)
      | '[' :: rest =>
          match skipSpace rest with
          | ']' :: rest => some (.array [], rest)
          | rest => do
              let (values, rest) ← readElements fuel rest
              return (.array values, rest)
      | 'n' :: 'u' :: 'l' :: 'l' :: rest => some (.null, rest)
      | 't' :: 'r' :: 'u' :: 'e' :: rest => some (.bool true, rest)
      | 'f' :: 'a' :: 'l' :: 's' :: 'e' :: rest => some (.bool false, rest)
      | 'N' :: 'a' :: 'N' :: rest => some (.float .nan, rest)
      | 'I' :: 'n' :: 'f' :: 'i' :: 'n' :: 'i' :: 't' :: 'y' :: rest =>
        some (.float .infinity, rest)
      | '-' :: 'I' :: 'n' :: 'f' :: 'i' :: 'n' :: 'i' :: 't' :: 'y' :: rest =>
          some (.float .negativeInfinity, rest)
      | text => readNumber text

/-- The members of an object after its first brace, and what follows its last. -/
def readMembers : Nat → List Char → Option (List (String × Json) × List Char)
  | 0, _ => none
  | fuel + 1, text =>
      match text with
      | '"' :: rest => do
          let (key, rest) ← readString (rest.length + 1) rest
          match skipSpace rest with
          | ':' :: rest => do
              let (value, rest) ← readValue fuel (skipSpace rest)
              match skipSpace rest with
              | '}' :: rest => return ([(String.ofList key, value)], rest)
              | ',' :: rest => do
                  let (fields, rest) ← readMembers fuel (skipSpace rest)
                  return ((String.ofList key, value) :: fields, rest)
              | _ => none
          | _ => none
      | _ => none

/-- The elements of an array after its first bracket, and what follows its last. -/
def readElements : Nat → List Char → Option (List Json × List Char)
  | 0, _ => none
  | fuel + 1, text => do
      let (value, rest) ← readValue fuel text
      match skipSpace rest with
      | ']' :: rest => return ([value], rest)
      | ',' :: rest => do
          let (values, rest) ← readElements fuel (skipSpace rest)
          return (value :: values, rest)
      | _ => none

end

/-- `json.loads`. -/
def loads (text : List Char) : Option Json := do
  let (value, rest) ← readValue (2 * text.length + 2) (skipSpace text)
  if (skipSpace rest).isEmpty then some value else none

def dumpsInt (value : Int) : List Char :=
  if value < 0 then '-' :: Nat.toDigits 10 value.natAbs else Nat.toDigits 10 value.natAbs

def dumpsFloat : JsonFloat → List Char
  | .finite text _ => text
  | .nan => ['N', 'a', 'N']
  | .infinity => ['I', 'n', 'f', 'i', 'n', 'i', 't', 'y']
  | .negativeInfinity => ['-', 'I', 'n', 'f', 'i', 'n', 'i', 't', 'y']

/-- A separator, with the space that the default separators put after it. -/
def separator (spaced : Bool) (c : Char) : List Char :=
  if spaced then [c, ' '] else [c]

mutual

/-- `json.dumps`, with or without the blanks after commas and colons. -/
def dumps (spaced : Bool) : Json → List Char
  | .null => ['n', 'u', 'l', 'l']
  | .bool true => ['t', 'r', 'u', 'e']
  | .bool false => ['f', 'a', 'l', 's', 'e']
  | .int value => dumpsInt value
  | .float value => dumpsFloat value
  | .string value => dumpsString value
  | .array values => '[' :: dumpsElements spaced values ++ [']']
  | .object fields => '{' :: dumpsMembers spaced fields ++ ['}']

def dumpsElements (spaced : Bool) : List Json → List Char
  | [] => []
  | value :: values => dumps spaced value ++ dumpsMoreElements spaced values

def dumpsMoreElements (spaced : Bool) : List Json → List Char
  | [] => []
  | value :: values =>
      separator spaced ',' ++ dumps spaced value ++ dumpsMoreElements spaced values

def dumpsMembers (spaced : Bool) : List (String × Json) → List Char
  | [] => []
  | (key, value) :: fields =>
      dumpsString key ++ separator spaced ':' ++ dumps spaced value ++
        dumpsMoreMembers spaced fields

def dumpsMoreMembers (spaced : Bool) : List (String × Json) → List Char
  | [] => []
  | (key, value) :: fields =>
      separator spaced ',' ++ dumpsString key ++ separator spaced ':' ++ dumps spaced value ++
        dumpsMoreMembers spaced fields

end

/-- The order that `sort_keys` puts the fields of a dictionary in. -/
def sortKeys (fields : List (String × Json)) : List (String × Json) :=
  fields.mergeSort fun field field' => field.1 ≤ field'.1

end Values

end Json

end Songmaker.Foundation
