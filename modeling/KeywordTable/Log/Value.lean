import KeywordTable.Log.Pattern.Reader

/-!
# Values of a Directive

A directive of the log can ask for a value, either as a number or by a pattern.
No event is chosen by its values, so what matters of the text is only that it is
one of the two.

## Main definitions

* `isNumber`: The text is a number.
* `isValue`: The text is a number or a pattern.
-/

namespace KeywordTable

namespace Log

/-- The text without a sign at its start. -/
def dropSign : List Char → List Char
  | '+' :: cs | '-' :: cs => cs
  | cs => cs

/-- The text is nothing or an exponent. -/
def isExponent : List Char → Bool
  | [] => true
  | c :: cs =>
    let digits := dropSign cs
    (c == 'e' || c == 'E') && !digits.isEmpty && digits.all Char.isDigit

/-- The text is a decimal number without a sign. -/
def isDecimal (cs : List Char) : Bool :=
  let whole := cs.takeWhile Char.isDigit
  let (fraction, rest) := match cs.dropWhile Char.isDigit with
    | '.' :: rest => (rest.takeWhile Char.isDigit, rest.dropWhile Char.isDigit)
    | rest => ([], rest)
  !(whole ++ fraction).isEmpty && isExponent rest

/-- The text is a number. -/
def isNumber (cs : List Char) : Bool :=
  let digits := dropSign cs
  isDecimal digits
    || ["inf", "infinity", "nan"].contains (String.ofList (digits.map Char.toLower))

/-- The text is a number or a pattern. -/
def isValue (cs : List Char) : Bool :=
  isNumber cs || Pattern.isPattern cs

end Log

end KeywordTable
