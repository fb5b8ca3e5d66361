import FiberEffects.Text.Escaped

namespace FiberEffects.Text

def hexDigits (n : Nat) : String :=
  String.ofList (Nat.toDigits 16 n)

/-- The debug form of one character inside quoted text. -/
def debugChar (c : Char) : String :=
  if c = '"' then "\\\""
  else if c = '\\' then "\\\\"
  else if c.toNat = 0 then "\\0"
  else if c = '\t' then "\\t"
  else if c = '\r' then "\\r"
  else if c = '\n' then "\\n"
  else if needsUnicodeEscape c then "\\u\x7b" ++ hexDigits c.toNat ++ "\x7d"
  else String.singleton c

def debugQuote (s : String) : String :=
  "\"" ++ String.join (s.toList.map debugChar) ++ "\""

end FiberEffects.Text
