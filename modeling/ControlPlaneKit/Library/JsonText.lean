import ControlPlaneKit.Library.PyValue

/-!
# JsonText — reading JSON

`json.loads` reads bytes in two steps: a text of the JSON grammar is taken apart, and
hooks build the value.  Numbers keep their tokens until a hook converts them.  A text
denotes a value when every number, text and entry of the one stands in the other; a
value that is read back is the one that was written, but for the order of entries and
integral numbers.
-/

namespace ControlPlaneKit.Library

/-- A JSON text taken apart: numbers by their tokens, objects by their pairs. -/
inductive JsonSyntax where
  | null
  | bool (b : Bool)
  | integer (token : String)
  | real (token : String)
  | text (s : String)
  | array (items : List JsonSyntax)
  | object (pairs : List (String × JsonSyntax))

namespace JsonText

/-! ## UTF-8 -/

/-- Continuation bytes of a character, and what follows them. -/
def continuation : Nat → Nat → List Nat → Option (Nat × List Nat)
  | 0, value, rest => some (value, rest)
  | count + 1, value, b :: rest =>
      if 0x80 ≤ b && b ≤ 0xbf then continuation count (value * 64 + (b - 0x80)) rest
      else none
  | _ + 1, _, [] => none

/-- A character that takes more than the least number of bytes, or none at all, is no
character. -/
def charOf (least : Nat) (found : Nat × List Nat) : Option (Char × List Nat) :=
  if least ≤ found.1 && found.1.isValidChar then some (Char.ofNat found.1, found.2)
  else none

def decodeChar : List Nat → Option (Char × List Nat)
  | [] => none
  | b :: rest =>
      if b < 0x80 then some (Char.ofNat b, rest)
      else if 0xc0 ≤ b && b ≤ 0xdf then
        (continuation 1 (b - 0xc0) rest).bind (charOf 0x80)
      else if 0xe0 ≤ b && b ≤ 0xef then
        (continuation 2 (b - 0xe0) rest).bind (charOf 0x800)
      else if 0xf0 ≤ b && b ≤ 0xf7 then
        (continuation 3 (b - 0xf0) rest).bind (charOf 0x10000)
      else none

/-- One character after another, of as many as there are bytes. -/
def decodeChars : Nat → List Nat → Option (List Char)
  | _, [] => some []
  | 0, _ :: _ => none
  | limit + 1, bytes => do
      let (c, rest) ← decodeChar bytes
      let chars ← decodeChars limit rest
      return c :: chars

/-- `encoded.decode("utf-8")`. -/
def decodeUtf8 (encoded : List UInt8) : Option (List Char) :=
  decodeChars encoded.length (encoded.map UInt8.toNat)

/-! ## Texts -/

def hexDigit (c : Char) : Option Nat :=
  let n := c.toNat
  if 48 ≤ n && n ≤ 57 then some (n - 48)
  else if 65 ≤ n && n ≤ 70 then some (n - 55)
  else if 97 ≤ n && n ≤ 102 then some (n - 87)
  else none

/-- The code unit of four hexadecimal digits. -/
def hexUnit (a b c d : Char) : Option Nat := do
  let a ← hexDigit a
  let b ← hexDigit b
  let c ← hexDigit c
  let d ← hexDigit d
  return ((a * 16 + b) * 16 + c) * 16 + d

def simpleEscape : Char → Option Nat
  | '"' => some 34
  | '\\' => some 92
  | '/' => some 47
  | 'b' => some 8
  | 'f' => some 12
  | 'n' => some 10
  | 'r' => some 13
  | 't' => some 9
  | _ => none

/-- The code units of a text up to its closing quote, and what follows it. -/
def scanUnits : List Char → Option (List Nat × List Char)
  | [] => none
  | '"' :: rest => some ([], rest)
  | '\\' :: 'u' :: a :: b :: c :: d :: rest => do
      let unit ← hexUnit a b c d
      let (units, rest) ← scanUnits rest
      return (unit :: units, rest)
  | '\\' :: e :: rest => do
      let unit ← simpleEscape e
      let (units, rest) ← scanUnits rest
      return (unit :: units, rest)
  | c :: rest =>
      if c.toNat < 0x20 then none
      else do
        let (units, rest) ← scanUnits rest
        return (c.toNat :: units, rest)

/-- The characters of code units.  `json.loads` keeps a surrogate without its other
half; no text here has one, and it stands as U+FFFD. -/
def joinSurrogates : List Nat → List Char
  | [] => []
  | [unit] => [if unit.isValidChar then Char.ofNat unit else '\ufffd']
  | high :: low :: rest =>
      if 0xd800 ≤ high && high ≤ 0xdbff && 0xdc00 ≤ low && low ≤ 0xdfff then
        Char.ofNat (0x10000 + (high - 0xd800) * 0x400 + (low - 0xdc00)) ::
          joinSurrogates rest
      else (if high.isValidChar then Char.ofNat high else '\ufffd') ::
        joinSurrogates (low :: rest)

/-- A text after its opening quote. -/
def scanText (text : List Char) : Option (String × List Char) :=
  (scanUnits text).map fun (units, rest) => (String.ofList (joinSurrogates units), rest)

/-! ## Numbers -/

def isDigit (c : Char) : Bool := 48 ≤ c.toNat && c.toNat ≤ 57

/-- The digits at the start of a text, and what follows them. -/
def digits (text : List Char) : List Char × List Char :=
  (text.takeWhile isDigit, text.dropWhile isDigit)

/-- `-?(?:0|[1-9]\d*)` after the sign. -/
def scanNatural : List Char → Option (List Char × List Char)
  | '0' :: rest => some (['0'], rest)
  | text =>
      match digits text with
      | ([], _) => none
      | (found, rest) => some (found, rest)

def scanInteger : List Char → Option (List Char × List Char)
  | '-' :: rest => (scanNatural rest).map fun (found, rest) => ('-' :: found, rest)
  | text => scanNatural text

/-- `(\.\d+)?`. -/
def scanFraction (text : List Char) : List Char × List Char :=
  match text with
  | '.' :: rest =>
      match digits rest with
      | ([], _) => ([], text)
      | (found, rest) => ('.' :: found, rest)
  | _ => ([], text)

/-- The sign of an exponent, and what follows it. -/
def exponentSign : List Char → List Char × List Char
  | '+' :: rest => (['+'], rest)
  | '-' :: rest => (['-'], rest)
  | text => ([], text)

/-- `([eE][-+]?\d+)?`. -/
def scanExponent (text : List Char) : List Char × List Char :=
  match text with
  | e :: rest =>
      if e = 'e' || e = 'E' then
        match digits (exponentSign rest).2 with
        | ([], _) => ([], text)
        | (found, after) => (e :: (exponentSign rest).1 ++ found, after)
      else ([], text)
  | [] => ([], text)

/-- A number, by its token. -/
def scanNumber (text : List Char) : Option (JsonSyntax × List Char) := do
  let (integer, rest) ← scanInteger text
  let (fraction, rest) := scanFraction rest
  let (exponent, rest) := scanExponent rest
  if fraction.isEmpty && exponent.isEmpty then
    return (.integer (String.ofList integer), rest)
  else return (.real (String.ofList (integer ++ fraction ++ exponent)), rest)

/-! ## Values -/

def isJsonSpace (c : Char) : Bool := c = ' ' || c = '\t' || c = '\n' || c = '\r'

def skipSpace (text : List Char) : List Char := text.dropWhile isJsonSpace

/-- What follows a word at the start of a text. -/
def afterWord (word : String) (text : List Char) : Option (List Char) :=
  if word.toList.isPrefixOf text then some (text.drop word.toList.length) else none

mutual

/-- One value, and what follows it.  `NaN` and the infinities are refused by the hook
for constants, so they are no values here. -/
def scanValue : Nat → List Char → Option (JsonSyntax × List Char)
  | 0, _ => none
  | limit + 1, text =>
      match text with
      | '"' :: rest => (scanText rest).map fun (s, rest) => (.text s, rest)
      | '[' :: rest =>
          match skipSpace rest with
          | ']' :: rest => some (.array [], rest)
          | rest => (scanItems limit rest).map fun (items, rest) => (.array items, rest)
      | '\x7b' :: rest =>
          match skipSpace rest with
          | '\x7d' :: rest => some (.object [], rest)
          | rest =>
              (scanPairs limit rest).map fun (pairs, rest) => (.object pairs, rest)
      | 'n' :: _ => (afterWord "null" text).map fun rest => (.null, rest)
      | 't' :: _ => (afterWord "true" text).map fun rest => (.bool true, rest)
      | 'f' :: _ => (afterWord "false" text).map fun rest => (.bool false, rest)
      | text => scanNumber text

/-- The items of an array after its bracket. -/
def scanItems : Nat → List Char → Option (List JsonSyntax × List Char)
  | 0, _ => none
  | limit + 1, text => do
      let (item, rest) ← scanValue limit text
      match skipSpace rest with
      | ',' :: rest =>
          (scanItems limit (skipSpace rest)).map fun (items, rest) =>
            (item :: items, rest)
      | ']' :: rest => some ([item], rest)
      | _ => none

/-- The pairs of an object after its brace. -/
def scanPairs : Nat → List Char → Option (List (String × JsonSyntax) × List Char)
  | limit + 1, '"' :: text => do
      let (key, rest) ← scanText text
      match skipSpace rest with
      | ':' :: rest => do
          let (item, rest) ← scanValue limit (skipSpace rest)
          match skipSpace rest with
          | ',' :: rest =>
              (scanPairs limit (skipSpace rest)).map fun (pairs, rest) =>
                ((key, item) :: pairs, rest)
          | '\x7d' :: rest => some ([(key, item)], rest)
          | _ => none
      | _ => none
  | _, _ => none

end

/-- `json.loads(encoded.decode("utf-8"))` before its hooks; every value takes a
character, and every step into one takes two of the limit. -/
def parse (encoded : List UInt8) : Option JsonSyntax := do
  let text ← decodeUtf8 encoded
  let (value, rest) ← scanValue (2 * text.length + 1) (skipSpace text)
  if (skipSpace rest).isEmpty then return value else none

/-! ## Hooks -/

/-- `int(token)` of an integer token, refused beyond the limit of digits. -/
def intOfToken (token : String) : Option Int :=
  let magnitude := token.toList.filter isDigit
  let value : Nat := magnitude.foldl (fun value c => 10 * value + (c.toNat - 48)) 0
  if PyValue.maxStrDigits < magnitude.length then none
  else if token.toList.head? = some '-' then some (-(value : Int)) else some value

section Hooks

variable (float : String → PyFloat) (integer : String → Option PyValue)

mutual

/-- The value the hooks build; none where a hook raises. -/
def built : JsonSyntax → Option PyValue
  | .null => some .none
  | .bool b => some (.bool b)
  | .integer token => integer token
  | .real token => some (.float (float token))
  | .text s => some (.str s)
  | .array items => (builtItems items).map .list
  | .object pairs => (builtEntries pairs).bind fun entries =>
      if (entries.map (·.1)).Nodup then some (.dict entries) else none

def builtItems : List JsonSyntax → Option (List PyValue)
  | [] => some []
  | item :: items => (built item).bind fun value =>
      (builtItems items).map fun values => value :: values

def builtEntries : List (String × JsonSyntax) → Option PyDict
  | [] => some []
  | (key, item) :: pairs => (built item).bind fun value =>
      (builtEntries pairs).map fun entries => (key, value) :: entries

end

end Hooks

end JsonText

end ControlPlaneKit.Library
