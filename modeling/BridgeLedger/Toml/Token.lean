import BridgeLedger.Hex

/-!
# The words of a TOML document

A document is a sequence of tokens. A line ends with a line feed, before which a carriage return is dropped. A bare word
is a run of ASCII letters, digits, `_` and `-`: a key, or the beginning of a number or a date. A string stands in single
quotes, where every character is itself, or in double quotes, where a backslash begins an escape; between tripled quotes
it may go over several lines. Reading fails at the first character that begins no token.
-/

namespace BridgeLedger.Toml

inductive Token where
  | newline
  | blank (text : List Char)
  | comment
  | equals | dot | comma | colon | plus
  | leftBrace | rightBrace | leftBracket | rightBracket
  | word (text : List Char)
  | string (text : List Char) (long : Bool)
deriving DecidableEq, Repr

/-! ## Characters -/

def isBlank (c : Char) : Bool := c == ' ' || c == '\t'

def isWordChar (c : Char) : Bool := c.isAlphanum || c == '_' || c == '-'

def isCommentChar (c : Char) : Bool := c == '\t' || ' ' ≤ c

def isStringChar (c : Char) : Bool := isCommentChar c && c != '\x7f'

/-- Ends lines with a line feed alone. -/
def foldLineEnds : List Char → List Char
  | '\r' :: '\n' :: rest => '\n' :: foldLineEnds rest
  | c :: rest => c :: foldLineEnds rest
  | [] => []

/-! ## Strings -/

def keep (c : Char) : Option (List Char × List Char) → Option (List Char × List Char) :=
  Option.map fun (text, after) => (c :: text, after)

/-- Where a long string ends, after one quote: the quotes that still belong to it, and what follows it. It ends at
three quotes, and keeps up to two that stand before the last three. -/
def closeLong? (quote : Char) (rest : List Char) : Option (List Char × List Char) :=
  if [quote, quote].isPrefixOf rest then
    let kept := ((rest.drop 2).takeWhile (· == quote)).take 2
    some (kept, rest.drop (2 + kept.length))
  else none

def literal (long : Bool) : List Char → Option (List Char × List Char)
  | [] => none
  | c :: rest =>
    if c = '\'' then
      if long then
        match closeLong? c rest with
        | some done => some done
        | none => keep c (literal long rest)
      else some ([], rest)
    else if isStringChar c || (long && c == '\n') then keep c (literal long rest)
    else none

def scalar? (digits : List Char) : Option Char := do
  let values ← digits.mapM Hex.value?
  let n := values.foldl (fun n d => 16 * n + d) 0
  if n.isValidChar then some (Char.ofNat n) else none

def escape? : Char → Option Char
  | '"' => some '"'
  | '\\' => some '\\'
  | 'b' => some '\x08'
  | 'f' => some '\x0c'
  | 'n' => some '\n'
  | 'r' => some '\r'
  | 't' => some '\t'
  | _ => none

/-- What a backslash at the end of a line still leaves out. -/
inductive Skip where
  | nothing
  /-- The blanks up to the end of the line, before which nothing else may stand. -/
  | toLineEnd
  | toText
deriving DecidableEq, Repr

def basic (long : Bool) : Skip → List Char → Option (List Char × List Char)
  | _, [] => none
  | skip, c :: rest =>
    if skip = .toLineEnd then
      if c = '\n' then basic long .toText rest
      else if isBlank c then basic long .toLineEnd rest
      else none
    else if skip = .toText ∧ (c = '\n' ∨ isBlank c) then basic long .toText rest
    else if c = '"' then
      if long then
        match closeLong? c rest with
        | some done => some done
        | none => keep c (basic long .nothing rest)
      else some ([], rest)
    else if c = '\\' then
      match rest with
      | 'u' :: d₁ :: d₂ :: d₃ :: d₄ :: rest =>
        match scalar? [d₁, d₂, d₃, d₄] with
        | some x => keep x (basic long .nothing rest)
        | none => none
      | 'U' :: d₁ :: d₂ :: d₃ :: d₄ :: d₅ :: d₆ :: d₇ :: d₈ :: rest =>
        match scalar? [d₁, d₂, d₃, d₄, d₅, d₆, d₇, d₈] with
        | some x => keep x (basic long .nothing rest)
        | none => none
      | e :: rest =>
        match escape? e with
        | some x => keep x (basic long .nothing rest)
        | none =>
          if long && e == '\n' then basic long .toText rest
          else if long && isBlank e then basic long .toLineEnd rest
          else none
      | [] => none
    else if isStringChar c || (long && c == '\n') then keep c (basic long .nothing rest)
    else none

/-- The string that begins after the first quote, and what follows it. A line end right after the opening of a long
string does not belong to it. -/
def string? (quote : Char) (rest : List Char) : Option (Token × List Char) :=
  let body (long : Bool) (rest : List Char) : Option (Token × List Char) :=
    (if quote = '\'' then literal long rest else basic long .nothing rest).map fun (text, after) =>
      (.string text long, after)
  if [quote, quote].isPrefixOf rest then
    match rest.drop 2 with
    | '\n' :: rest => body true rest
    | rest => body true rest
  else body false rest

/-! ## Tokens -/

def symbol? : Char → Option Token
  | '\n' => some .newline
  | '=' => some .equals
  | '.' => some .dot
  | ',' => some .comma
  | ':' => some .colon
  | '+' => some .plus
  | '\x7b' => some .leftBrace
  | '\x7d' => some .rightBrace
  | '[' => some .leftBracket
  | ']' => some .rightBracket
  | _ => none

def token? : List Char → Option (Token × List Char)
  | [] => none
  | c :: rest =>
    if isBlank c then some (.blank (c :: rest.takeWhile isBlank), rest.dropWhile isBlank)
    else if isWordChar c then some (.word (c :: rest.takeWhile isWordChar), rest.dropWhile isWordChar)
    else if c = '#' then some (.comment, rest.dropWhile isCommentChar)
    else if c = '\'' ∨ c = '"' then string? c rest
    else (symbol? c).map (·, rest)

def tokensWithin : (fuel : Nat) → List Char → Option (List Token)
  | _, [] => some []
  | 0, _ :: _ => none
  | fuel + 1, text =>
    match token? text with
    | some (token, rest) => (tokensWithin fuel rest).map (token :: ·)
    | none => none

def tokens (text : List Char) : Option (List Token) :=
  let text := foldLineEnds (match text with
    | '\ufeff' :: text => text
    | text => text)
  tokensWithin text.length text

end BridgeLedger.Toml
