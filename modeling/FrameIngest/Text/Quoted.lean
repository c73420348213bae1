/-
FrameIngest.Text.Quoted — names in debug texts.

A quoted text stands between double quotes. Four control characters and the
two characters that the quoting itself needs have short escapes; a single
quote is left alone. Every other character that does not print, or that would
combine with the one before it, is written by its code point.

* `escape` — the written form of one character;
* `quoted` — the written form of a text.
-/
import FrameIngest.Text.Printable

namespace FrameIngest.Text

/-- A character by its code point in hexadecimal, as in `\u{3c0}`. -/
def codePoint (c : Char) : List Char :=
  ['\\', 'u', '\x7b'] ++ Nat.toDigits 16 c.toNat ++ ['\x7d']

/-- A character that stands for itself: it prints, alone. -/
def isPlain (c : Char) : Bool :=
  (0x20 ≤ c.toNat && c.toNat < 0x7F) || (isPrintable c && !isExtender c)

/-- The short escapes. -/
def shortEscape? (c : Char) : Option Char :=
  if c = Char.ofNat 0 then some '0'
  else if c = '\t' then some 't'
  else if c = '\r' then some 'r'
  else if c = '\n' then some 'n'
  else if c = '\\' ∨ c = '"' then some c
  else none

/-- The written form of a character within double quotes. -/
def escape (c : Char) : List Char :=
  match shortEscape? c with
  | some e => ['\\', e]
  | none => if isPlain c then [c] else codePoint c

/-- The written form of a text, between double quotes. -/
def quoted (s : String) : String := String.ofList ('"' :: s.toList.flatMap escape ++ ['"'])

end FrameIngest.Text
