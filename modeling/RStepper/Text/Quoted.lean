import RStepper.Text.Unprintable

/-!
A text between double quotes, as messages show it: quotes and backslashes are escaped, and whatever
would not be seen is spelled out.
-/

namespace RStepper.Text.Quoted

/-- The lower-case hexadecimal digits of a number. -/
def hexDigits (number : Nat) : List Char :=
  Nat.toDigits 16 number

def encodeChar (c : Char) : List Char :=
  if c = '\x00' then ['\\', '0']
  else if c = '\t' then ['\\', 't']
  else if c = '\n' then ['\\', 'n']
  else if c = '\r' then ['\\', 'r']
  else if c = '"' then ['\\', '"']
  else if c = '\\' then ['\\', '\\']
  else if c.toNat < 0x20 || isUnprintable c then "\\u\x7b".toList ++ hexDigits c.toNat ++ ['\x7d']
  else [c]

def encode (text : String) : String :=
  String.ofList ('"' :: text.toList.flatMap encodeChar ++ ['"'])

example : encode "a\"\\\n\x1b’\u00a0" = "\"a\\\"\\\\\\n\\u\x7b1b\x7d’\\u\x7ba0\x7d\"" := by
  decide +kernel

end RStepper.Text.Quoted
