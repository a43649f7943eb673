import ControlPlaneKit.Library.EventFold
import ControlPlaneKit.Library.PyValue
import ControlPlaneKit.Library.Text

/-!
# PublicWire — which texts may stand on the public wire

Identifiers and references have an ASCII grammar.  Beyond it every public text is
searched, as it is written and with its percent escapes read, for credentials and
for runtime endpoints.  The search for endpoints converts ports to integers, which
the host language refuses for digits that are not decimal.
-/

namespace ControlPlaneKit.NodeControl

open ControlPlaneKit.Library (PyError)
open ControlPlaneKit.Library.Text (isAsciiAlnum isSpace)

/-! ## Digits -/

/-- The zeros of the decimal digits; the other nine follow each. -/
def decimalZeros : List Nat :=
  [0x30, 0x660, 0x6f0, 0x7c0, 0x966, 0x9e6, 0xa66, 0xae6, 0xb66, 0xbe6, 0xc66, 0xce6,
    0xd66, 0xde6, 0xe50, 0xed0, 0xf20, 0x1040, 0x1090, 0x17e0, 0x1810, 0x1946, 0x19d0,
    0x1a80, 0x1a90, 0x1b50, 0x1bb0, 0x1c40, 0x1c50, 0xa620, 0xa8d0, 0xa900, 0xa9d0,
    0xa9f0, 0xaa50, 0xabf0, 0xff10, 0x104a0, 0x10d30, 0x11066, 0x110f0, 0x11136,
    0x111d0, 0x112f0, 0x11450, 0x114d0, 0x11650, 0x116c0, 0x11730, 0x118e0, 0x11950,
    0x11c50, 0x11d50, 0x11da0, 0x16a60, 0x16ac0, 0x16b50, 0x1d7ce, 0x1d7d8, 0x1d7e2,
    0x1d7ec, 0x1d7f6, 0x1e140, 0x1e2f0, 0x1e950, 0x1fbf0]

/-- The digits that are not decimal: superscripts, subscripts and enclosed digits. -/
def otherDigits : List (Nat × Nat) :=
  [(0xb2, 0xb3), (0xb9, 0xb9), (0x1369, 0x1371), (0x19da, 0x19da), (0x2070, 0x2070),
    (0x2074, 0x2079), (0x2080, 0x2089), (0x2460, 0x2468), (0x2474, 0x247c),
    (0x2488, 0x2490), (0x24ea, 0x24ea), (0x24f5, 0x24fd), (0x24ff, 0x24ff),
    (0x2776, 0x277e), (0x2780, 0x2788), (0x278a, 0x2792), (0x10a40, 0x10a43),
    (0x10e60, 0x10e68), (0x11052, 0x1105a), (0x1f100, 0x1f10a)]

def decimalValue (c : Char) : Option Nat :=
  decimalZeros.findSome? fun first =>
    if first ≤ c.toNat && c.toNat < first + 10 then some (c.toNat - first) else none

/-- `\d` of a pattern. -/
def isDecimal (c : Char) : Bool := (decimalValue c).isSome

/-- `str.isdigit` of one character. -/
def isDigit (c : Char) : Bool :=
  isDecimal c || otherDigits.any fun range => range.1 ≤ c.toNat && c.toNat ≤ range.2

/-- `int(text)` of a text of digits. -/
def pyInt (digits : List Char) : Except PyError Nat :=
  if 4300 < digits.length then
    .error (.valueError
      ("Exceeds the limit (4300 digits) for integer string conversion: value has " ++
      toString digits.length ++
      " digits; use sys.set_int_max_str_digits() to increase the limit"))
  else match digits.mapM decimalValue with
    | some values => .ok (values.foldl (fun value digit => 10 * value + digit) 0)
    | none => .error (.valueError
        ("invalid literal for int() with base 10: '" ++ String.ofList digits ++ "'"))

/-- The value of an ASCII hexadecimal digit. -/
def hexValue (c : Char) : Option Nat :=
  let n := c.toNat
  if 48 ≤ n && n ≤ 57 then some (n - 48)
  else if 65 ≤ n && n ≤ 70 then some (n - 55)
  else if 97 ≤ n && n ≤ 102 then some (n - 87)
  else none

/-! ## Patterns -/

/-- A pattern over characters. -/
inductive Pattern where
  | chars (allowed : Char → Bool)
  | seq (first second : Pattern)
  | either (left right : Pattern)
  | many (body : Pattern)

/-- What may be left after any number of matches. -/
def leftAfterMany (left : List Char → List (List Char)) :
    Nat → List Char → List (List Char)
  | 0, text => [text]
  | limit + 1, text =>
      ((left text).filter (·.length < text.length)).flatMap
        (leftAfterMany left limit) ++ [text]

/-- What may be left of a text after a match at its start. -/
def Pattern.left : Pattern → List Char → List (List Char)
  | .chars _, [] => []
  | .chars allowed, c :: rest => if allowed c then [rest] else []
  | .seq first second, text => (first.left text).flatMap second.left
  | .either left right, text => left.left text ++ right.left text
  | .many body, text => leftAfterMany body.left text.length text

/-- `pattern.search(text)`, where `before` may stand in front of a match. -/
def Pattern.search (pattern : Pattern) (before : Option Char → Bool)
    (previous : Option Char) : List Char → Bool
  | [] => before previous && !(pattern.left []).isEmpty
  | c :: rest =>
      (before previous && !(pattern.left (c :: rest)).isEmpty) ||
        pattern.search before (some c) rest

/-- One match after another; the last of them is plain. -/
def sequence : List Pattern → Pattern
  | [] => .many (.chars fun _ => false)
  | [pattern] => pattern
  | pattern :: rest => .seq pattern (sequence rest)

/-- What a character of a pattern that ignores case is compared by. -/
def foldCase (c : Char) : Char :=
  let n := c.toNat
  if 65 ≤ n && n ≤ 90 then Char.ofNat (n + 32)
  else if n = 0x130 || n = 0x131 then 'i'
  else if n = 0x17f then 's'
  else if n = 0x212a then 'k'
  else c

/-- A text, whatever its case. -/
def word (text : String) : Pattern :=
  sequence (text.toList.map fun c => .chars fun d => foldCase d == c)

/-- One character of a class, whatever its case. -/
def oneOf (allowed : Char → Bool) : Pattern := .chars fun c => allowed (foldCase c)

def anyOf (allowed : Char → Bool) : Pattern := .many (oneOf allowed)

def isBlankOrTab (c : Char) : Bool := c = ' ' || c = '\t'

def isAsciiLetter (c : Char) : Bool :=
  let n := c.toNat
  (65 ≤ n && n ≤ 90) || (97 ≤ n && n ≤ 122)

/-- `[A-Za-z0-9_-]`. -/
def isWordOrDash (c : Char) : Bool := isAsciiAlnum c || c = '_' || c = '-'

/-- No character of the class stands in front. -/
def notAfter (barred : Char → Bool) (previous : Option Char) : Bool :=
  !(previous.any fun c => barred (foldCase c))

/-- `[^\s,;]`. -/
def valuePart : Pattern := .chars fun c => !(isSpace c || c = ',' || c = ';')

/-- `_AUTHORIZATION_ENVELOPE`. -/
def authorizationEnvelope : Pattern :=
  .seq (.either
    (sequence [word "authorization", anyOf isBlankOrTab, word ":", anyOf isBlankOrTab,
      oneOf isAsciiLetter, anyOf (fun c => isAsciiAlnum c || "._+-".toList.contains c),
      oneOf isBlankOrTab, anyOf isBlankOrTab])
    (sequence [word "bearer", oneOf isBlankOrTab, anyOf isBlankOrTab])) valuePart

/-- `_CREDENTIAL_ASSIGNMENT`. -/
def credentialAssignment : Pattern :=
  sequence [.either (word "credential") (.either (word "password")
    (.either (word "secret") (.either (word "signature") (word "token")))), anyOf
    isBlankOrTab, word "=", anyOf isBlankOrTab, valuePart]

/-- `_PRIVATE_KEY_ARMOR`. -/
def privateKeyArmor : Pattern :=
  sequence [word "-----begin",
    .many (sequence [word " ", oneOf isAsciiAlnum, anyOf isAsciiAlnum]),
    word " private key-----"]

/-- `_COMPACT_TOKEN`. -/
def compactToken : Pattern :=
  .seq (.either (word "sk-") (word "sg.")) (oneOf isAsciiAlnum)

/-- `[^\s/]`. -/
def hostStart : Pattern := .chars fun c => !(isSpace c || c = '/')

/-- `_SCHEME_ENDPOINT`. -/
def schemeEndpoint : Pattern :=
  sequence [oneOf isAsciiLetter, anyOf
    (fun c => isAsciiAlnum c || "+.-".toList.contains c), word "://", hostStart]

/-- `_PROTOCOL_RELATIVE_ENDPOINT`, after its first character. -/
def protocolRelativeEndpoint : Pattern := sequence [word "//", hostStart]

/-- What `_PROTOCOL_RELATIVE_ENDPOINT` may begin with. -/
def mayPrecedeHost (previous : Option Char) : Bool :=
  previous.all fun c => isSpace c || c = '(' || c = '"' || c = '\'' || c = '='

/-- `_contains_credential_envelope(value)`. -/
def containsCredentialEnvelope (value : List Char) : Bool :=
  authorizationEnvelope.search (notAfter isWordOrDash) none value ||
    credentialAssignment.search (notAfter isWordOrDash) none value ||
    privateKeyArmor.search (fun _ => true) none value ||
    compactToken.search (notAfter isAsciiAlnum) none value

/-! ## Hosts and ports -/

/-- `[A-Za-z0-9._:\[\]-]`. -/
def isHostPart (c : Char) : Bool :=
  isAsciiAlnum c || "._:[]-".toList.contains c

/-- `(\d{1,5})(?![A-Za-z0-9])`: the longest port, with its length. -/
def portAt (text : List Char) : Option (Nat × Nat) :=
  [5, 4, 3, 2, 1].findSome? fun length =>
    if length ≤ text.length && !((text.drop length).head?.any isAsciiAlnum) then
      ((text.take length).mapM decimalValue).map fun values =>
        (values.foldl (fun value digit => 10 * value + digit) 0, length)
    else none

/-- The port that follows a host of some length. -/
def portAfter (length : Nat) : List Char → Option (Nat × Nat)
  | ':' :: text => (portAt text).map fun port => (port.1, length + 1 + port.2)
  | _ => none

/-- The port of a host at the start of a text, with the length of both. -/
def hostPortAt : List Char → Option (Nat × Nat)
  | [] => none
  | '[' :: rest =>
      let host := rest.takeWhile fun d => (hexValue d).isSome || d = ':' || d = '.'
      match host, rest.drop host.length with
      | _ :: _, ']' :: text => portAfter (host.length + 2) text
      | _, _ => none
  | c :: rest =>
      let host := rest.takeWhile fun d => isAsciiAlnum d || d = '.' || d = '-'
      if isAsciiAlnum c then portAfter (host.length + 1) (rest.drop host.length)
      else none

/-- Some match of `_HOST_PORT_ENDPOINT` has a port from 1 to 65535; the next match
begins where the last one ended. -/
def containsHostPort (previous : Option Char) : Nat → List Char → Bool
  | _, [] => false
  | skip + 1, c :: rest => containsHostPort (some c) skip rest
  | 0, c :: rest =>
      match if previous.any isHostPart then none else hostPortAt (c :: rest) with
      | some (port, length) =>
          (1 ≤ port && port ≤ 65535) || containsHostPort (some c) (length - 1) rest
      | none => containsHostPort (some c) 0 rest

/-- Characters taken from the end of a text. -/
def stripRight (stripped : Char → Bool) (text : List Char) : List Char :=
  (text.reverse.dropWhile stripped).reverse

/-- `token.strip("[]").rstrip(".")`. -/
def tokenAtom (token : List Char) : List Char :=
  stripRight (· = '.') (stripRight (fun c => c = '[' || c = ']')
    (token.dropWhile fun c => c = '[' || c = ']'))

/-- `str.lower`, as far as the name of a local host can tell. -/
def lowerAscii (text : List Char) : List Char :=
  text.map fun c => if 65 ≤ c.toNat && c.toNat ≤ 90 then Char.ofNat (c.toNat + 32)
    else c

/-- `lowered == "localhost" or lowered.endswith(".localhost")`. -/
def isLocalhostName (name : List Char) : Bool :=
  name == "localhost".toList || ".localhost".toList.reverse.isPrefixOf name.reverse

/-- `lowered.rpartition(":")` where there is a colon: the host and the port. -/
def lastColon (text : List Char) : Option (List Char × List Char) :=
  if text.contains ':' then
    let port := (text.reverse.takeWhile (· ≠ ':')).reverse
    some (text.take (text.length - port.length - 1), port)
  else none

/-- `_is_localhost_endpoint(atom)`. -/
def isLocalhostEndpoint (atom : List Char) : Except PyError Bool :=
  let lowered := stripRight (· = '.') (lowerAscii atom)
  match lastColon lowered with
  | none => .ok (isLocalhostName lowered)
  | some (host, port) =>
      if port.isEmpty || !(port.all isDigit) then .ok false
      else do
        let value ← pyInt port
        return (1 ≤ value && value ≤ 65535) &&
          isLocalhostName (stripRight (· = '.') host)

/-! ## Addresses -/

/-- One octet of `ipaddress.IPv4Address`. -/
def isOctet (octet : List Char) : Bool :=
  let values := octet.map fun c => c.toNat - 48
  !octet.isEmpty && (octet.all fun c => 48 ≤ c.toNat && c.toNat ≤ 57) &&
    octet.length ≤ 3 &&
    (octet.length = 1 || octet.head? ≠ some '0') &&
    values.foldl (fun value digit => 10 * value + digit) 0 ≤ 255

/-- `ipaddress.IPv4Address(address)` is no error. -/
def isIpv4 (address : List Char) : Bool :=
  let octets := address.splitOn '.'
  octets.length = 4 && octets.all isOctet

/-- One group of `ipaddress.IPv6Address`. -/
def isHextet (hextet : List Char) : Bool :=
  !hextet.isEmpty && hextet.length ≤ 4 && hextet.all fun c => (hexValue c).isSome

/-- The groups of an address, with an address of version 4 at the end as two. -/
def hextetsOf (address : List Char) : Option (List (List Char)) :=
  let parts := address.splitOn ':'
  match parts.getLast? with
  | some last =>
      if parts.length < 3 then none
      else if last.contains '.' then
        if isIpv4 last then some (parts.dropLast ++ [['0'], ['0']]) else none
      else some parts
  | none => none

/-- `ipaddress.IPv6Address(address)` is no error, its scope taken off. -/
def isIpv6Groups (address : List Char) : Bool :=
  match hextetsOf address with
  | none => false
  | some parts =>
      let inner := (parts.drop 1).dropLast
      let empty := inner.countP (·.isEmpty)
      let first := parts.headD []
      let last := parts.getLastD []
      if 9 < parts.length || 1 < empty then false
      else if empty = 1 then
        -- the groups on both sides of `::`; an empty end stands for `::` itself
        let high := 1 + inner.findIdx (·.isEmpty)
        let low := parts.length - high - 1
        (!first.isEmpty || high = 1) && (!last.isEmpty || low = 1) &&
          (high - (if first.isEmpty then 1 else 0)) +
            (low - (if last.isEmpty then 1 else 0)) < 8 &&
          parts.all fun part => part.isEmpty || isHextet part
      else parts.length = 8 && parts.all isHextet

/-- `ipaddress.ip_address(atom)` is no error. -/
def isIpAddress (atom : List Char) : Bool :=
  isIpv4 atom || (!atom.contains '/' &&
    match atom.splitOn '%' with
    | [address] => isIpv6Groups address
    | [address, scope] => !scope.isEmpty && isIpv6Groups address
    | _ => false)

/-! ## The search for public material -/

/-- A character `_ENDPOINT_TOKEN_SPLIT` splits at. -/
def isTokenSeparator (c : Char) : Bool :=
  isSpace c || ",;()\x7b\x7d<>\"'".toList.contains c

/-- Some token names a local host or an address, read from the first on. -/
def anyEndpointToken : List (List Char) → Except PyError Bool
  | [] => .ok false
  | token :: rest =>
      if (tokenAtom token).isEmpty then anyEndpointToken rest
      else match isLocalhostEndpoint (tokenAtom token) with
        | .error e => .error e
        | .ok local? =>
            if local? || isIpAddress (tokenAtom token) then .ok true
            else anyEndpointToken rest

/-- `_contains_endpoint_envelope(value)`. -/
def containsEndpointEnvelope (value : List Char) : Except PyError Bool :=
  if schemeEndpoint.search (fun _ => true) none value ||
      protocolRelativeEndpoint.search mayPrecedeHost none value ||
      containsHostPort none 0 value then .ok true
  else anyEndpointToken (value.splitOnP isTokenSeparator)

/-- `_ascii_percent_projection(value)`; `skip` characters belong to an escape. -/
def percentProjection (skip : Nat) : List Char → List Char
  | [] => []
  | c :: rest =>
      match skip, c, rest with
      | skip + 1, _, _ => percentProjection skip rest
      | 0, '%', high :: low :: _ =>
          match hexValue high, hexValue low with
          | some h, some l =>
              if 16 * h + l ≤ 0x7f then
                Char.ofNat (16 * h + l) :: percentProjection 2 rest
              else '%' :: percentProjection 0 rest
          | _, _ => '%' :: percentProjection 0 rest
      | 0, _, _ => c :: percentProjection 0 rest

inductive NodeControlPublicWireViolation where
  | shapeInvalid
  | credentialEnvelope
  | endpointEnvelope
  deriving DecidableEq, Repr

/-- `public_material_violation(text)`. -/
def publicMaterialViolation (text : String) :
    Except PyError (Option NodeControlPublicWireViolation) :=
  let plain := text.toList
  let projected := percentProjection 0 plain
  if containsCredentialEnvelope plain || containsCredentialEnvelope projected then
    .ok (some .credentialEnvelope)
  else do
    if ← containsEndpointEnvelope plain then return some .endpointEnvelope
    if ← containsEndpointEnvelope projected then return some .endpointEnvelope
    return none

def isIdentifierTail (c : Char) : Bool :=
  isAsciiAlnum c || c = '.' || c = '_' || c = '-'

/-- `_IDENTIFIER.fullmatch(value)`. -/
def isIdentifier (value : String) : Bool :=
  match value.toList with
  | [] => false
  | c :: rest =>
      isAsciiAlnum c && rest.all isIdentifierTail && decide (rest.length ≤ 127)

def isReferencePart (c : Char) : Bool :=
  isIdentifierTail c || c = ':' || c = '/'

/-- `_REFERENCE.fullmatch(value)`. -/
def isReference (value : String) : Bool :=
  match value.toList with
  | [] => false
  | c :: rest =>
      isAsciiAlnum c && rest.all isReferencePart && decide (rest.length ≤ 255)

/-- `identifier_violation(value)`. -/
def identifierViolation (value : String) :
    Except PyError (Option NodeControlPublicWireViolation) :=
  if isIdentifier value then publicMaterialViolation value else .ok (some .shapeInvalid)

/-- `reference_violation(value)`. -/
def referenceViolation (value : String) :
    Except PyError (Option NodeControlPublicWireViolation) :=
  if isReference value then publicMaterialViolation value else .ok (some .shapeInvalid)

/-- `_DIGEST.fullmatch(value)`. -/
def isDigest (value : String) : Bool :=
  value.length = 64 && value.toList.all fun c =>
    (48 ≤ c.toNat && c.toNat ≤ 57) || (97 ≤ c.toNat && c.toNat ≤ 102)

/-- `_MAX_SAFE_INTEGER`. -/
def maxSafeInteger : Nat := 9007199254740991

/-- `epoch_violation(value) is None` of an integer. -/
def isEpoch (value : Int) : Bool := 0 ≤ value && value ≤ maxSafeInteger

end ControlPlaneKit.NodeControl
