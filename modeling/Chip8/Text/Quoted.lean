/-
  Text in quotes, as names are shown inside messages.

  The quotes are single unless the text holds a single quote and no double quote.  The quote in use
  and the backslash are written behind a backslash, line feed, carriage return and tab as `\n`, `\r`
  and `\t`, and other characters that cannot be shown by their code point in hexadecimal: `\x` with
  two digits, `\u` with four or `\U` with eight.
-/
import Chip8.Text.Printable

namespace Chip8.Quoted

/-- The quote for a text: single, unless only that one occurs in it. -/
def quoteFor (s : List Char) : Char :=
  if s.contains '\'' && !s.contains '"' then '"' else '\''

/-- The code point of a character in at least `width` lower-case hexadecimal digits. -/
def codePoint (width : Nat) (c : Char) : List Char :=
  (Nat.toDigits 16 c.toNat).leftpad width '0'

/-- One character of a text between the given quotes. -/
def encodeChar (quote c : Char) : List Char :=
  if c = quote ∨ c = '\\' then ['\\', c]
  else if c = '\n' then ['\\', 'n']
  else if c = '\r' then ['\\', 'r']
  else if c = '\t' then ['\\', 't']
  else if Printable.isPrintable c then [c]
  else if c.toNat < 0x100 then '\\' :: 'x' :: codePoint 2 c
  else if c.toNat < 0x10000 then '\\' :: 'u' :: codePoint 4 c
  else '\\' :: 'U' :: codePoint 8 c

/-- A text in quotes. -/
def encode (s : String) : String :=
  let quote := quoteFor s.toList
  String.ofList (quote :: (s.toList.flatMap (encodeChar quote) ++ [quote]))

/-- Several texts in quotes, between brackets. -/
def encodeList (texts : List String) : String :=
  "[" ++ ", ".intercalate (texts.map encode) ++ "]"

example : encode "game.ch8" = "'game.ch8'" := by decide +kernel
example : encode "it's" = "\"it's\"" := by decide +kernel
example : encode "a\\b\n\x01" = "'a\\\\b\\n\\x01'" := by decide +kernel

end Chip8.Quoted
