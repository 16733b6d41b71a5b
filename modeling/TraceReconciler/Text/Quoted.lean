import TraceReconciler.Text.Printable

/-!
# Display text in quotes

How a message shows a text that it cannot trust: between double quotes, with everything that would
not be seen, or would be seen wrongly, written as an escape. Five characters have an escape of one
letter, a quote and a backslash are marked by a backslash, other characters that do not print as
themselves are written by their number in hexadecimal.
-/

namespace TraceReconciler.Text

/-- The number of a character in lower-case hexadecimal, in braces. -/
def numberEscape (c : Char) : List Char :=
  '\\' :: 'u' :: '\x7b' :: (Nat.toDigits 16 c.toNat ++ ['\x7d'])

/-- What display text writes for one character. -/
def quotedChar (c : Char) : List Char :=
  if c = '\x00' then ['\\', '0']
  else if c = '\t' then ['\\', 't']
  else if c = '\r' then ['\\', 'r']
  else if c = '\n' then ['\\', 'n']
  else if c = '\\' then ['\\', '\\']
  else if c = '"' then ['\\', '"']
  else if ' ' ≤ c ∧ c ≤ '~' then [c]
  else if isExtender c || isFiller c || isUnprintable c then numberEscape c
  else [c]

/-- **The display form of a text.** -/
def quoted (s : String) : String :=
  String.ofList ('"' :: (s.toList.flatMap quotedChar ++ ['"']))

end TraceReconciler.Text
