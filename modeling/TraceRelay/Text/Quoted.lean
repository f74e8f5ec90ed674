import TraceRelay.Numeral
import TraceRelay.Text.Classes

/-!
# Quoted literals

A text is shown between quotes. The single quote is taken unless the text holds a single quote and
no double quote. Inside, the quote and the backslash are escaped by a backslash, tab, line feed
and carriage return by a letter, and every other unprintable character by its code point in two,
four or eight hexadecimal digits.
-/

set_option autoImplicit false

namespace TraceRelay.Text.Quoted

/-- The preferred quote. -/
def singleQuote : Char := '\x27'

/-- The quote for texts that hold single quotes and no double quote. -/
def doubleQuote : Char := '\x22'

/-- The quote that is put around a text. -/
def quoteOf (cs : List Char) : Char :=
  if cs.contains singleQuote && !cs.contains doubleQuote then doubleQuote else singleQuote

/-- The escape that gives a character by its code point. -/
def escapeCode (n : Nat) : List Char :=
  if n < 0x100 then '\\' :: 'x' :: Numeral.hex 2 n
  else if n < 0x10000 then '\\' :: 'u' :: Numeral.hex 4 n
  else '\\' :: 'U' :: Numeral.hex 8 n

/-- A character as it stands between the quotes `quote`. -/
def encodeChar (quote : Char) (c : Char) : List Char :=
  if c = quote ∨ c = '\\' then ['\\', c]
  else if c = '\t' then ['\\', 't']
  else if c = '\n' then ['\\', 'n']
  else if c = '\r' then ['\\', 'r']
  else if isPrintable c then [c]
  else escapeCode c.toNat

/-- The literal of a text. -/
def encode (cs : List Char) : List Char :=
  let quote := quoteOf cs
  quote :: cs.flatMap (encodeChar quote) ++ [quote]

end TraceRelay.Text.Quoted
