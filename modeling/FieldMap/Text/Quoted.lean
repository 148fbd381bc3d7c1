import FieldMap.Text.PrintTable

/-!
# Quoted texts

`quote` shows a text between double quotes, for use in messages: the quote, the backslash and the
common control characters take a backslash, and a character that cannot be shown, or that would
join the character before it, is written by its number in hexadecimal.
-/

namespace FieldMap.Text

/-- Lower-case hexadecimal digits of a number, at least `width` of them. -/
def hex (width n : Nat) : List Char :=
  let digits := Nat.toDigits 16 n
  List.replicate (width - digits.length) '0' ++ digits

/-- Whether a character may stand for itself between quotes. -/
def showsItself (c : Char) : Bool :=
  !inRanges extendingRanges c.toNat && !inRanges unprintableRanges c.toNat

/-- A character as it is written between quotes. -/
def quoteChar : Char → List Char
  | '\x00' => ['\\', '0']
  | '\t' => ['\\', 't']
  | '\n' => ['\\', 'n']
  | '\r' => ['\\', 'r']
  | '"' => ['\\', '"']
  | '\\' => ['\\', '\\']
  | c => if showsItself c then [c] else ['\\', 'u', '{'] ++ hex 1 c.toNat ++ ['}']

/-- A text between double quotes. -/
def quote (s : String) : String :=
  String.ofList ('"' :: s.toList.flatMap quoteChar ++ ['"'])

end FieldMap.Text
