import FiberEffects.Binary64

namespace FiberEffects.Toml

/-- How a table was made, which decides how it may be extended. -/
inductive TableKind where
  | implicit
  | header
  | dotted
  | inline
  deriving DecidableEq, Inhabited

/-- A TOML value. Floats and dates are kept only as what they are. -/
inductive Value where
  | str (s : String)
  | int (n : Int)
  | float
  | bool (b : Bool)
  | datetime
  | array (items : List Value)
  | tables (items : List Value)
  | table (kind : TableKind) (fields : List (String × Value))
  deriving Inhabited

abbrev Fields := List (String × Value)

abbrev Chars := List Char

def Fields.get? (fs : Fields) (k : String) : Option Value := (fs.find? (·.1 == k)).map (·.2)

def Fields.put (fs : Fields) (k : String) (v : Value) : Fields :=
  fs.map fun (k', v') => if k' == k then (k', v) else (k', v')

def editLast (items : List Value) (edit : Fields → Option Fields) : Option (List Value) :=
  match items.getLast? with
  | some (.table kind sub) => do
    let sub ← edit sub
    some (items.dropLast ++ [.table kind sub])
  | _ => none

/-- Puts a value under the last part of a dotted key, in the table that the other parts lead to. -/
def putDotted (openInline : Bool) : List String → Value → Fields → Option Fields
  | [], _, _ => none
  | [k], v, fs => if (fs.get? k).isSome then none else some (fs ++ [(k, v)])
  | k :: k2 :: rest, v, fs =>
    match fs.get? k with
    | none => do
      let sub ← putDotted openInline (k2 :: rest) v []
      some (fs ++ [(k, .table .dotted sub)])
    | some (.table kind sub) =>
      if (kind = .inline && !openInline) || (rest.isEmpty && kind ≠ .dotted) then none
      else do
        let sub ← putDotted openInline (k2 :: rest) v sub
        some (fs.put k (.table kind sub))
    | some (.tables items) =>
      if rest.isEmpty then none
      else do
        let items ← editLast items (putDotted openInline (k2 :: rest) v)
        some (fs.put k (.tables items))
    | some _ => none

/-- Edits the table a header path names: through tables that are not inline, and through an
array of tables into its last table. -/
def atPath : List String → (Fields → Option Fields) → Fields → Option Fields
  | [], edit, fs => edit fs
  | k :: rest, edit, fs =>
    match fs.get? k with
    | some (.table kind sub) =>
      if kind = .inline then none
      else do
        let sub ← atPath rest edit sub
        some (fs.put k (.table kind sub))
    | some (.tables items) => do
      let items ← editLast items (atPath rest edit)
      some (fs.put k (.tables items))
    | _ => none

/-- Defines the table of a `[header]`, making missing parents. -/
def openTable : List String → Fields → Option Fields
  | [], _ => none
  | [k], fs =>
    match fs.get? k with
    | none => some (fs ++ [(k, .table .header [])])
    | some (.table .implicit sub) => some (fs.put k (.table .header sub))
    | some _ => none
  | k :: rest, fs =>
    match fs.get? k with
    | none => do
      let sub ← openTable rest []
      some (fs ++ [(k, .table .implicit sub)])
    | some (.table kind sub) =>
      if kind = .inline then none
      else do
        let sub ← openTable rest sub
        some (fs.put k (.table kind sub))
    | some (.tables items) => do
      let items ← editLast items (openTable rest)
      some (fs.put k (.tables items))
    | some _ => none

/-- Appends a table to the array of a `[[header]]`, making missing parents. -/
def openArrayItem : List String → Fields → Option Fields
  | [], _ => none
  | [k], fs =>
    match fs.get? k with
    | none => some (fs ++ [(k, .tables [.table .header []])])
    | some (.tables items) => some (fs.put k (.tables (items ++ [.table .header []])))
    | some _ => none
  | k :: rest, fs =>
    match fs.get? k with
    | none => do
      let sub ← openArrayItem rest []
      some (fs ++ [(k, .table .implicit sub)])
    | some (.table kind sub) =>
      if kind = .inline then none
      else do
        let sub ← openArrayItem rest sub
        some (fs.put k (.table kind sub))
    | some (.tables items) => do
      let items ← editLast items (openArrayItem rest)
      some (fs.put k (.tables items))
    | some _ => none

def apostrophe : Char := Char.ofNat 39

def plainChar (c : Char) : Bool := c == '\t' || (0x20 ≤ c.toNat && c.toNat != 0x7f)

def bareKeyChar (c : Char) : Bool := c.isAlphanum || c == '_' || c == '-'

def skipWs (s : Chars) : Chars := s.dropWhile fun c => c == ' ' || c == '\t'

def newline : Chars → Option Chars
  | '\n' :: r => some r
  | '\r' :: '\n' :: r => some r
  | _ => none

def commentBody : Chars → Option Chars
  | [] => some []
  | '\n' :: r => some ('\n' :: r)
  | '\r' :: '\n' :: r => some ('\r' :: '\n' :: r)
  | c :: r => if plainChar c then commentBody r else none

def endOfLine (s : Chars) : Option Chars := do
  let s ← match skipWs s with
    | '#' :: r => commentBody r
    | r => some r
  match s with
  | [] => some []
  | _ => newline s

def skipBlank : Nat → Chars → Option Chars
  | 0, _ => none
  | n + 1, s =>
    match s with
    | ' ' :: r | '\t' :: r | '\n' :: r => skipBlank n r
    | '\r' :: '\n' :: r => skipBlank n r
    | '#' :: r => do skipBlank n (← commentBody r)
    | _ => some s

def hexDigit (c : Char) : Option Nat :=
  if c.isDigit then some (c.toNat - 48)
  else if 'a' ≤ c && c ≤ 'f' then some (c.toNat - 87)
  else if 'A' ≤ c && c ≤ 'F' then some (c.toNat - 55)
  else none

def digitsValue (radix : Nat) (digit : Char → Option Nat) (cs : Chars) : Option Nat :=
  cs.foldl (fun acc c => do some ((← acc) * radix + (← digit c))) (some 0)

def unicodeEscape (n : Nat) (r : Chars) : Option (Char × Chars) := do
  let ds := r.take n
  if ds.length != n then none
  let v ← digitsValue 16 hexDigit ds
  if (Char.ofNat v).toNat == v then some (Char.ofNat v, r.drop n) else none

/-- The character of an escape, after its backslash. -/
def escape : Chars → Option (Char × Chars)
  | 'b' :: r => some ('\x08', r)
  | 't' :: r => some ('\t', r)
  | 'n' :: r => some ('\n', r)
  | 'f' :: r => some ('\x0c', r)
  | 'r' :: r => some ('\r', r)
  | '"' :: r => some ('"', r)
  | '\\' :: r => some ('\\', r)
  | 'u' :: r => unicodeEscape 4 r
  | 'U' :: r => unicodeEscape 8 r
  | _ => none

/-- The rest of a one-line basic string after its opening quote. -/
def basicRest : Nat → Chars → Chars → Option (String × Chars)
  | 0, _, _ => none
  | n + 1, acc, s =>
    match s with
    | '"' :: r => some (String.ofList acc.reverse, r)
    | '\\' :: r => do
      let (c, r) ← escape r
      basicRest n (c :: acc) r
    | c :: r => if plainChar c then basicRest n (c :: acc) r else none
    | [] => none

/-- The rest of a one-line literal string after its opening apostrophe. -/
def literalRest : Nat → Chars → Chars → Option (String × Chars)
  | 0, _, _ => none
  | n + 1, acc, s =>
    match s with
    | c :: r =>
      if c == apostrophe then some (String.ofList acc.reverse, r)
      else if plainChar c then literalRest n (c :: acc) r
      else none
    | [] => none

def dropFirstNewline (s : Chars) : Chars := (newline s).getD s

def quoteRun (q : Char) (s : Chars) : Nat := ((s.take 5).takeWhile (· == q)).length

def skipBreaks : Chars → Chars
  | ' ' :: r | '\t' :: r | '\n' :: r => skipBreaks r
  | '\r' :: '\n' :: r => skipBreaks r
  | s => s

/-- The rest of a multi-line basic string. -/
def multiBasicRest : Nat → Chars → Chars → Option (String × Chars)
  | 0, _, _ => none
  | n + 1, acc, s =>
    match s with
    | [] => none
    | '"' :: _ =>
      let run := quoteRun '"' s
      if run ≥ 3 then
        let extra := run - 3
        some (String.ofList (acc.reverse ++ List.replicate extra '"'), s.drop run)
      else multiBasicRest n (List.replicate run '"' ++ acc) (s.drop run)
    | '\\' :: r =>
      let afterWs := skipWs r
      match newline afterWs with
      | some _ => multiBasicRest n acc (skipBreaks afterWs)
      | none => do
        let (c, r) ← escape r
        multiBasicRest n (c :: acc) r
    | '\r' :: '\n' :: r => multiBasicRest n ('\n' :: acc) r
    | '\n' :: r => multiBasicRest n ('\n' :: acc) r
    | c :: r => if plainChar c then multiBasicRest n (c :: acc) r else none

/-- The rest of a multi-line literal string. -/
def multiLiteralRest : Nat → Chars → Chars → Option (String × Chars)
  | 0, _, _ => none
  | n + 1, acc, s =>
    match s with
    | [] => none
    | '\r' :: '\n' :: r => multiLiteralRest n ('\n' :: acc) r
    | '\n' :: r => multiLiteralRest n ('\n' :: acc) r
    | c :: r =>
      if c == apostrophe then
        let run := quoteRun apostrophe s
        if run ≥ 3 then
          some (String.ofList (acc.reverse ++ List.replicate (run - 3) apostrophe), s.drop run)
        else multiLiteralRest n (List.replicate run apostrophe ++ acc) (s.drop run)
      else if plainChar c then multiLiteralRest n (c :: acc) r
      else none

/-- A string of any quoting, if one starts here. -/
def string (s : Chars) : Option (Option (String × Chars)) :=
  let fuel := s.length + 1
  match s with
  | '"' :: '"' :: '"' :: r => some (multiBasicRest fuel [] (dropFirstNewline r))
  | '"' :: r => some (basicRest fuel [] r)
  | c :: r =>
    if c == apostrophe then
      match r with
      | c1 :: c2 :: r2 =>
        if c1 == apostrophe && c2 == apostrophe then
          some (multiLiteralRest fuel [] (dropFirstNewline r2))
        else some (literalRest fuel [] r)
      | _ => some (literalRest fuel [] r)
    else none
  | [] => none

/-- One part of a key: bare, quoted or literal (on one line). -/
def simpleKey (s : Chars) : Option (String × Chars) :=
  let fuel := s.length + 1
  match s with
  | '"' :: r => basicRest fuel [] r
  | c :: r =>
    if c == apostrophe then literalRest fuel [] r
    else
      let k := s.takeWhile bareKeyChar
      if k.isEmpty then none else some (String.ofList k, s.drop k.length)
  | [] => none

/-- A key, with its parts separated by dots and optional blanks. -/
def keyParts : Nat → Chars → Option (List String × Chars)
  | 0, _ => none
  | n + 1, s => do
    let (k, r) ← simpleKey s
    match skipWs r with
    | '.' :: r' => do
      let (ks, r'') ← keyParts n (skipWs r')
      some (k :: ks, r'')
    | _ => some ([k], r)

def depthLimit : Nat := 80

def keyPath (s : Chars) : Option (List String × Chars) := do
  let (path, r) ← keyParts (s.length + 1) s
  if path.length < depthLimit then some (path, r) else none

def separatedDigits (ok : Char → Bool) : Chars → Option Chars
  | [] => none
  | c :: r => if ok c then (c :: ·) <$> more r else none
where
  more : Chars → Option Chars
    | [] => some []
    | '_' :: c :: r => if ok c then (c :: ·) <$> more r else none
    | c :: r => if ok c then (c :: ·) <$> more r else none

def octDigit (c : Char) : Bool := '0' ≤ c && c ≤ '7'

def binDigit (c : Char) : Bool := c == '0' || c == '1'

def decimalDigits (cs : Chars) : Option Chars :=
  match cs with
  | ['0'] => some ['0']
  | '0' :: _ => none
  | _ => separatedDigits Char.isDigit cs

def fitsInt64 (n : Int) : Bool := -Int.pow 2 63 ≤ n && n < Int.pow 2 63

/-- An integer, if the text is one. -/
def integer (cs : Chars) : Option Int := do
  let n : Int ← match cs with
    | '0' :: 'x' :: r => do Int.ofNat <$> digitsValue 16 hexDigit (← separatedDigits (fun c => (hexDigit c).isSome) r)
    | '0' :: 'o' :: r => do Int.ofNat <$> digitsValue 8 hexDigit (← separatedDigits octDigit r)
    | '0' :: 'b' :: r => do Int.ofNat <$> digitsValue 2 hexDigit (← separatedDigits binDigit r)
    | '-' :: r => do Int.negOfNat <$> digitsValue 10 hexDigit (← decimalDigits r)
    | '+' :: r => do Int.ofNat <$> digitsValue 10 hexDigit (← decimalDigits r)
    | r => do Int.ofNat <$> digitsValue 10 hexDigit (← decimalDigits r)
  if fitsInt64 n then some n else none

def exponentOk (cs : Chars) : Bool :=
  let body := match cs with
    | '+' :: r | '-' :: r => r
    | r => r
  (separatedDigits Char.isDigit body).isSome

/-- Whether the text is a float. -/
def isFloat (cs : Chars) : Bool :=
  let body := match cs with
    | '+' :: r | '-' :: r => r
    | r => r
  if body == ['i', 'n', 'f'] || body == ['n', 'a', 'n'] then true
  else
    let intPart := body.takeWhile fun c => c.isDigit || c == '_'
    let rest := body.drop intPart.length
    (decimalDigits intPart).isSome &&
      match rest with
      | '.' :: r =>
        let frac := r.takeWhile fun c => c.isDigit || c == '_'
        (separatedDigits Char.isDigit frac).isSome &&
          match r.drop frac.length with
          | [] => true
          | 'e' :: e | 'E' :: e => exponentOk e
          | _ => false
      | 'e' :: e | 'E' :: e => exponentOk e
      | _ => false

/-- Whether a float written with digits rounds to positive infinity. -/
def overflowsUp (cs : Chars) : Bool :=
  match cs with
  | '-' :: _ => false
  | _ =>
    let body := (match cs with
      | '+' :: r => r
      | r => r).filter (· != '_')
    let intPart := body.takeWhile Char.isDigit
    let rest := body.drop intPart.length
    let (frac, rest) := match rest with
      | '.' :: r => (r.takeWhile Char.isDigit, r.drop (r.takeWhile Char.isDigit).length)
      | r => ([], r)
    let exponent : Int := match rest with
      | 'e' :: e | 'E' :: e =>
        match e with
        | '-' :: ds => -(digitsOf ds : Int)
        | '+' :: ds => digitsOf ds
        | ds => digitsOf ds
      | _ => 0
    (Binary64.ofDecimal false (digitsOf (intPart ++ frac)) (exponent - frac.length)).isNone
where
  digitsOf (ds : Chars) : Nat := ds.foldl (fun n c => 10 * n + (c.toNat - '0'.toNat)) 0

def fixedDigits (n : Nat) (cs : Chars) : Option (Nat × Chars) :=
  let ds := cs.take n
  if ds.length == n && ds.all Char.isDigit then
    (·, cs.drop n) <$> digitsValue 10 hexDigit ds
  else none

def expect (c : Char) : Chars → Option Chars
  | d :: r => if c == d then some r else none
  | [] => none

def daysIn (year month : Nat) : Nat :=
  if month = 2 then
    if year % 4 = 0 && (year % 100 != 0 || year % 400 = 0) then 29 else 28
  else if month = 4 || month = 6 || month = 9 || month = 11 then 30
  else 31

def fullDate (cs : Chars) : Option Chars := do
  let (y, r) ← fixedDigits 4 cs
  let r ← expect '-' r
  let (m, r) ← fixedDigits 2 r
  let r ← expect '-' r
  let (d, r) ← fixedDigits 2 r
  if 1 ≤ m && m ≤ 12 && 1 ≤ d && d ≤ daysIn y m then some r else none

/-- A time `HH:MM:SS` with optional fraction; the text after it. -/
def partialTime (cs : Chars) : Option Chars := do
  let (h, r) ← fixedDigits 2 cs
  let r ← expect ':' r
  let (m, r) ← fixedDigits 2 r
  let r ← expect ':' r
  let (s, r) ← fixedDigits 2 r
  if h ≤ 23 && m ≤ 59 && s ≤ 60 then
    match r with
    | '.' :: f =>
      let frac := f.takeWhile Char.isDigit
      if frac.isEmpty then none else some (f.drop frac.length)
    | _ => some r
  else none

def timeOffset : Chars → Option Chars
  | 'Z' :: r | 'z' :: r => some r
  | '+' :: r | '-' :: r => do
    let (h, r) ← fixedDigits 2 r
    let r ← expect ':' r
    let (m, r) ← fixedDigits 2 r
    if h ≤ 23 && m ≤ 59 then some r else none
  | _ => none

/-- Whether the text is a date, a time, or a date and time with an optional offset. -/
def isDatetime (cs : Chars) : Bool :=
  let dated := match fullDate cs with
    | some [] => true
    | some (sep :: r) =>
      (sep == 'T' || sep == 't' || sep == ' ') &&
        match partialTime r with
        | some [] => true
        | some o => timeOffset o == some []
        | none => false
    | none => false
  dated || partialTime cs == some []

def scalarChar (c : Char) : Bool :=
  c.isAlphanum || c == '+' || c == '-' || c == '_' || c == '.' || c == ':'

/-- A number, a date or time, a boolean, or `inf`/`nan`, if one starts here. -/
def scalar (s : Chars) : Option (Value × Chars) :=
  let tok := s.takeWhile scalarChar
  let rest := s.drop tok.length
  let (tok, rest) := match fullDate tok, rest with
    | some [], ' ' :: d1 :: d2 :: ':' :: _ =>
      if d1.isDigit && d2.isDigit then
        let more := rest.tail.takeWhile scalarChar
        (tok ++ ' ' :: more, rest.tail.drop more.length)
      else (tok, rest)
    | _, _ => (tok, rest)
  if tok.isEmpty then none
  else if tok == ['t', 'r', 'u', 'e'] then some (.bool true, rest)
  else if tok == ['f', 'a', 'l', 's', 'e'] then some (.bool false, rest)
  else match integer tok with
    | some n => some (.int n, rest)
    | none =>
      if isFloat tok then
        if overflowsUp tok then none else some (.float, rest)
      else if isDatetime tok then some (.datetime, rest)
      else none

mutual

/-- A value, if one starts here, inside `depth` arrays and inline tables. -/
def value : Nat → Nat → Chars → Option (Value × Chars)
  | 0, _, _ => none
  | n + 1, depth, s =>
    match string s with
    | some r => r.map fun (t, rest) => (.str t, rest)
    | none =>
      match s with
      | '[' :: r => if depthLimit ≤ depth + 1 then none else arrayItems n (depth + 1) [] r
      | '\x7b' :: r =>
        if depthLimit ≤ depth + 1 then none
        else
          match skipWs r with
          | '\x7d' :: r' => some (.table .inline [], r')
          | r' => inlineFields n (depth + 1) [] r'
      | _ => scalar s

/-- The items of an array after its opening bracket, the array being the innermost of `depth`. -/
def arrayItems : Nat → Nat → List Value → Chars → Option (Value × Chars)
  | 0, _, _, _ => none
  | n + 1, depth, acc, s => do
    let s ← skipBlank (s.length + 1) s
    match s with
    | ']' :: r => some (.array acc.reverse, r)
    | _ =>
      let (v, r) ← value n depth s
      let r ← skipBlank (r.length + 1) r
      match r with
      | ',' :: r' => arrayItems n depth (v :: acc) r'
      | ']' :: r' => some (.array (v :: acc).reverse, r')
      | _ => none

/-- The fields of an inline table after its opening brace: `key = value` pairs separated by
commas on one line, closed by a brace. The table is the innermost of `depth`. -/
def inlineFields : Nat → Nat → Fields → Chars → Option (Value × Chars)
  | 0, _, _, _ => none
  | n + 1, depth, acc, s => do
    let (path, r) ← keyPath (skipWs s)
    match skipWs r with
    | '=' :: r => do
      let (v, r) ← value n depth (skipWs r)
      let acc ← putDotted true path v acc
      match skipWs r with
      | ',' :: r' => inlineFields n depth acc r'
      | '\x7d' :: r' => some (.table .inline acc, r')
      | _ => none
    | _ => none

end

/-- The tables read so far and the path of the table that pairs now go into. -/
structure Reading where
  root : Fields := []
  current : List String := []

/-- Reads the lines of a document. -/
def lines : Nat → Reading → Chars → Option Fields
  | 0, _, _ => none
  | n + 1, st, s =>
    match skipWs s with
    | [] => some st.root
    | '\n' :: r => lines n st r
    | '\r' :: '\n' :: r => lines n st r
    | '#' :: r => do lines n st (← commentBody r)
    | '[' :: '[' :: r => do
      let (path, r) ← keyPath (skipWs r)
      match skipWs r with
      | ']' :: ']' :: r => do
        let root ← openArrayItem path st.root
        lines n { root, current := path } (← endOfLine r)
      | _ => none
    | '[' :: r => do
      let (path, r) ← keyPath (skipWs r)
      match skipWs r with
      | ']' :: r => do
        let root ← openTable path st.root
        lines n { root, current := path } (← endOfLine r)
      | _ => none
    | r => do
      let (path, r) ← keyPath r
      match skipWs r with
      | '=' :: r => do
        let (v, r) ← value (r.length + 1) 0 (skipWs r)
        let root ← atPath st.current (putDotted false path v) st.root
        lines n { st with root } (← endOfLine r)
      | _ => none

def read (text : String) : Option Fields :=
  let cs := match text.toList with
    | '\uFEFF' :: cs => cs
    | cs => cs
  lines (cs.length + 2) {} cs

end FiberEffects.Toml
