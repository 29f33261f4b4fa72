/-!
Writing JSON objects of texts, which is all that the service answers with.
-/

namespace SecretBroker.Json

def hexDigit (n : Nat) : Char := if n < 10 then Char.ofNat (0x30 + n) else Char.ofNat (0x57 + n)

/-- Quotes, backslashes and controls are escaped, everything else stands for itself. -/
def escape (c : Char) : List Char :=
  match c with
  | '"' => ['\\', '"']
  | '\\' => ['\\', '\\']
  | '\x08' => ['\\', 'b']
  | '\x0c' => ['\\', 'f']
  | '\n' => ['\\', 'n']
  | '\r' => ['\\', 'r']
  | '\t' => ['\\', 't']
  | c =>
    if c.toNat < 0x20 then ['\\', 'u', '0', '0', hexDigit (c.toNat / 16), hexDigit (c.toNat % 16)]
    else [c]

def quote (text : String) : String :=
  String.ofList ('"' :: text.toList.flatMap escape ++ ['"'])

/-- An object whose members are all texts, without blanks, in the given order. -/
def writeObject (members : List (String × String)) : String :=
  let written := members.map fun (key, value) => quote key ++ ":" ++ quote value
  "\x7b" ++ ",".intercalate written ++ "\x7d"

end SecretBroker.Json
