import PersonalFeed.Text.Printable

/-!
Texts quoted inside a message. The quote is single unless the text holds single quotes and no
double one; the quote and the backslash are escaped, and so is every character that would not
show.
-/

set_option autoImplicit false

namespace PersonalFeed.Text

/-- The lowest `width` hexadecimal digits of a number, in small letters. -/
def hexText (width n : Nat) : List Char :=
  let digits := Nat.toDigits 16 n
  List.replicate (width - digits.length) '0' ++ digits

def codeEscape (n : Nat) : List Char :=
  if n < 0x100 then '\\' :: 'x' :: hexText 2 n
  else if n < 0x10000 then '\\' :: 'u' :: hexText 4 n
  else '\\' :: 'U' :: hexText 8 n

def quotedCode (quote : Char) (code : Code) : List Char :=
  match code with
  | .char c =>
    if c = quote ∨ c = '\\' then ['\\', c]
    else if c = '\t' then ['\\', 't']
    else if c = '\n' then ['\\', 'n']
    else if c = '\r' then ['\\', 'r']
    else if isPrintable c then [c]
    else codeEscape c.toNat
  | .half _ => codeEscape code.number

def quoteFor (text : Text) : Char :=
  if text.codes.contains '\'' ∧ ¬text.codes.contains '"' then '"' else '\''

def quoted (text : Text) : String :=
  let quote := quoteFor text
  String.ofList (quote :: text.codes.flatMap (quotedCode quote) ++ [quote])

end PersonalFeed.Text
