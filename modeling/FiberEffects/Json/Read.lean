import FiberEffects.Json.Basic

namespace FiberEffects

namespace Json

abbrev Reading (α : Type) := Except String (α × List Char)

def skipBlanks : List Char → List Char
  | c :: rest => if c = ' ' ∨ c = '\t' ∨ c = '\n' ∨ c = '\r' then skipBlanks rest else c :: rest
  | [] => []

def hexValue (c : Char) : Option Nat :=
  if '0' ≤ c ∧ c ≤ '9' then some (c.toNat - '0'.toNat)
  else if 'a' ≤ c ∧ c ≤ 'f' then some (c.toNat - 'a'.toNat + 10)
  else if 'A' ≤ c ∧ c ≤ 'F' then some (c.toNat - 'A'.toNat + 10)
  else none

def readHex4 : List Char → Reading Nat
  | a :: b :: c :: d :: rest =>
    match hexValue a, hexValue b, hexValue c, hexValue d with
    | some w, some x, some y, some z => .ok (((w * 16 + x) * 16 + y) * 16 + z, rest)
    | _, _, _, _ => .error "invalid escape"
  | _ => .error "EOF while parsing a string"

/-- The character of a `\u` escape, whose four digits come first: a high surrogate must be
followed by a `\u` escape of a low one, and the pair names one character. -/
def readUnicodeEscape (cs : List Char) : Except String (Char × List Char) := do
  let (n, rest) ← readHex4 cs
  if 0xDC00 ≤ n ∧ n ≤ 0xDFFF then .error "lone leading surrogate in hex escape"
  else if 0xD800 ≤ n ∧ n ≤ 0xDBFF then
    match rest with
    | '\\' :: 'u' :: more => do
      let (low, rest) ← readHex4 more
      if 0xDC00 ≤ low ∧ low ≤ 0xDFFF then
        .ok (Char.ofNat (0x10000 + (n - 0xD800) * 0x400 + (low - 0xDC00)), rest)
      else .error "lone leading surrogate in hex escape"
    | [] => .error "EOF while parsing a string"
    | _ => .error "unexpected end of hex escape"
  else .ok (Char.ofNat n, rest)

/-- The characters of a string up to its closing quote, which is consumed. -/
def readStringBody : Nat → List Char → List Char → Reading String
  | 0, _, _ => .error "EOF while parsing a string"
  | _, _, [] => .error "EOF while parsing a string"
  | fuel + 1, acc, c :: rest =>
    if c = '"' then .ok (String.ofList acc.reverse, rest)
    else if c = '\\' then
      match rest with
      | '"' :: more => readStringBody fuel ('"' :: acc) more
      | '\\' :: more => readStringBody fuel ('\\' :: acc) more
      | '/' :: more => readStringBody fuel ('/' :: acc) more
      | 'b' :: more => readStringBody fuel (Char.ofNat 8 :: acc) more
      | 'f' :: more => readStringBody fuel (Char.ofNat 12 :: acc) more
      | 'n' :: more => readStringBody fuel ('\n' :: acc) more
      | 'r' :: more => readStringBody fuel ('\r' :: acc) more
      | 't' :: more => readStringBody fuel ('\t' :: acc) more
      | 'u' :: more =>
        match readUnicodeEscape more with
        | .ok (ch, more) => readStringBody fuel (ch :: acc) more
        | .error e => .error e
      | [] => .error "EOF while parsing a string"
      | _ => .error "invalid escape"
    else if c.toNat < 32 then .error "control character (\\u0000-\\u001F) found while parsing a string"
    else readStringBody fuel (c :: acc) rest

def digitRun : List Char → List Char × List Char
  | c :: rest =>
    if c.isDigit then
      let (ds, more) := digitRun rest
      (c :: ds, more)
    else ([], c :: rest)
  | [] => ([], [])

def digitsValue (ds : List Char) : Nat :=
  ds.foldl (fun n c => 10 * n + (c.toNat - '0'.toNat)) 0

/-- The document of a number given its sign, the digits before the point, those after it and
the exponent, when there was a fraction or an exponent. -/
def numberOf (negative : Bool) (whole frac : List Char) (exponent : Option Int) : Except String Json :=
  let n := digitsValue (whole ++ frac)
  match exponent, frac with
  | none, [] =>
    if !negative then
      if n < Nat.pow 2 64 then .ok (.int n)
      else floatOf n 0
    else if 0 < n ∧ n ≤ Nat.pow 2 63 then .ok (.int (-(n : Int)))
    else floatOf n 0
  | e, _ => floatOf n (e.getD 0 - frac.length)
where
  floatOf (n : Nat) (e : Int) : Except String Json :=
    match Binary64.ofDecimal negative n e with
    | some x => .ok (.float x)
    | none => .error "number out of range"

/-- A number: an optional minus sign, digits without a leading zero, an optional fraction and an
optional exponent. -/
def readNumber (cs : List Char) : Except String (Json × List Char) := do
  let (negative, cs) := match cs with
    | '-' :: rest => (true, rest)
    | _ => (false, cs)
  let (whole, rest) := digitRun cs
  match whole with
  | [] => throw "invalid number"
  | '0' :: _ :: _ => throw "invalid number"
  | _ => pure ()
  let (frac, rest) ← match rest with
    | '.' :: more =>
      match digitRun more with
      | ([], _) => throw "invalid number"
      | (ds, more) => pure (ds, more)
    | _ => pure ([], rest)
  let (exponent, rest) ← match rest with
    | e :: more =>
      if e = 'e' ∨ e = 'E' then
        let (sign, more) := match more with
          | '-' :: m => (-1, m)
          | '+' :: m => (1, m)
          | m => (1, m)
        match digitRun more with
        | ([], _) => throw "invalid number"
        | (ds, more) => pure (some (sign * (digitsValue ds : Int)), more)
      else pure (none, e :: more)
    | [] => pure (none, [])
  let v ← numberOf negative whole frac exponent
  pure (v, rest)

def startsNumber (c : Char) : Bool := c = '-' || c.isDigit

mutual
/-- A value after optional blanks. -/
def readValue : Nat → List Char → Reading Json
  | 0, _ => .error "recursion limit exceeded"
  | fuel + 1, cs =>
    match skipBlanks cs with
    | [] => .error "EOF while parsing a value"
    | '\x7b' :: rest => readObject fuel rest
    | '[' :: rest => readArray fuel rest
    | '"' :: rest =>
      match readStringBody rest.length [] rest with
      | .ok (s, more) => .ok (.str s, more)
      | .error e => .error e
    | 't' :: 'r' :: 'u' :: 'e' :: rest => .ok (.bool true, rest)
    | 'f' :: 'a' :: 'l' :: 's' :: 'e' :: rest => .ok (.bool false, rest)
    | 'n' :: 'u' :: 'l' :: 'l' :: rest => .ok (.null, rest)
    | c :: rest => if startsNumber c then readNumber (c :: rest) else .error "expected value"

def readArray (fuel : Nat) (cs : List Char) : Reading Json :=
  match skipBlanks cs with
  | ']' :: rest => .ok (.arr [], rest)
  | _ => readItems fuel [] cs

/-- Array items, the ones read so far given last first. -/
def readItems : Nat → List Json → List Char → Reading Json
  | 0, _, _ => .error "recursion limit exceeded"
  | fuel + 1, acc, cs =>
    match readValue fuel cs with
    | .error e => .error e
    | .ok (v, rest) =>
      match skipBlanks rest with
      | ',' :: more => readItems fuel (v :: acc) more
      | ']' :: more => .ok (.arr (v :: acc).reverse, more)
      | [] => .error "EOF while parsing a list"
      | _ => .error "expected `,` or `]`"

def readObject (fuel : Nat) (cs : List Char) : Reading Json :=
  match skipBlanks cs with
  | '\x7d' :: rest => .ok (.obj [], rest)
  | _ => readFields fuel [] cs

/-- Object fields, the ones read so far given last first. -/
def readFields : Nat → List (String × Json) → List Char → Reading Json
  | 0, _, _ => .error "recursion limit exceeded"
  | fuel + 1, acc, cs =>
    match skipBlanks cs with
    | '"' :: rest =>
      match readStringBody rest.length [] rest with
      | .error e => .error e
      | .ok (k, rest) =>
        match skipBlanks rest with
        | ':' :: rest =>
          match readValue fuel rest with
          | .error e => .error e
          | .ok (v, rest) =>
            match skipBlanks rest with
            | ',' :: more => readFields fuel ((k, v) :: acc) more
            | '\x7d' :: more => .ok (mkObj ((k, v) :: acc).reverse, more)
            | [] => .error "EOF while parsing an object"
            | _ => .error "expected `,` or `\x7d`"
        | [] => .error "EOF while parsing an object"
        | _ => .error "expected `:`"
    | [] => .error "EOF while parsing an object"
    | _ => .error "key must be a string"
end

def read (text : String) : Except String Json :=
  let cs := text.toList
  match readValue (cs.length + 1) cs with
  | .error e => .error e
  | .ok (v, rest) =>
    match skipBlanks rest with
    | [] => .ok v
    | _ => .error "trailing characters"

end Json

end FiberEffects
