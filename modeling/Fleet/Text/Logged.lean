/-
# Text in a log

A log is read on a terminal, which must not act on what a message quotes: the characters that could
steer it are spelled out, and all others stay as they are.
-/
namespace Fleet.Text

/-- How a character is logged. -/
def loggedChar (c : Char) : List Char :=
  match c with
  | '\x07' => "\\x07".toList
  | '\x08' => "\\x08".toList
  | '\x0c' => "\\x0c".toList
  | '\x1b' => "\\x1b".toList
  | '\x7f' => "\\x7f".toList
  | c =>
    if 0x80 ≤ c.toNat ∧ c.toNat ≤ 0x9f then
      "\\u\x7b".toList ++ Nat.toDigits 16 c.toNat ++ ['\x7d']
    else [c]

/-- How a text is logged. -/
def logged (text : String) : String :=
  String.ofList (text.toList.flatMap loggedChar)

end Fleet.Text
