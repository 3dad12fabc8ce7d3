import BridgeLedger.Binary64
import BridgeLedger.Occurrence
import BridgeLedger.Toml.Token

/-!
# TOML values

A value begins where a key's equals sign ends. It is a string, a boolean, a number, a date, an array, which may go over
several lines, or an inline table, which may not. A number is put together from the tokens that it was cut into: the
bare words before and after its point, and the plus signs. A date is recognised by its shape only.

Keys with dots build tables inside tables. Such a table may be extended by further keys with dots, but by no other
value of its name.
-/

namespace BridgeLedger.Toml

inductive Value where
  | string (text : String)
  | boolean (value : Bool)
  | integer (value : Int)
  | float (value : Binary64)
  | date
  | array (items : List Value)
  /-- A table, which is either inline or, if `dotted`, made by keys with dots. -/
  | table (dotted : Bool) (pairs : List (String × Value))

/-! ## Numbers -/

def digit? (radix : Nat) (c : Char) : Option Nat := (Hex.value? c).filter (· < radix)

def ofDigits (radix : Nat) (digits : List Char) : Nat :=
  digits.foldl (fun n c => radix * n + (digit? radix c).getD 0) 0

/-- The digits at the start of the text, and what follows them. A single `_` may stand between two digits. The first of
several digits is zero only if `zeros` allows it. -/
def numeral? (radix : Nat) (zeros : Bool) (text : List Char) : Option (List Char × List Char) :=
  let isPart (c : Char) : Bool := c == '_' || (digit? radix c).isSome
  let run := text.takeWhile isPart
  let digits := run.filter (· != '_')
  if run.isEmpty || run.head? == some '_' || run.getLast? == some '_' || occursIn ['_', '_'] run then none
  else if !zeros && digits.head? == some '0' && digits.length != 1 then none
  else some (digits, text.dropWhile isPart)

def sign : List Char → Bool × List Char
  | '-' :: rest => (true, rest)
  | text => (false, text)

def int64? (negative : Bool) (magnitude : Nat) : Option Int :=
  if negative then if magnitude ≤ Nat.pow 2 63 then some (-magnitude) else none
  else if magnitude < Nat.pow 2 63 then some magnitude
  else none

def integer? (radix : Nat) (text : List Char) : Option Int := do
  let (negative, text) := if radix = 10 then sign text else (false, text)
  let (digits, rest) ← numeral? radix (radix != 10) text
  if rest.isEmpty then int64? negative (ofDigits radix digits) else none

/-- The exponent that `rest` begins, or ends with after more tokens, and the tokens that are left. -/
def exponent? (rest : List Char) (tokens : List Token) : Option (Int × List Token) :=
  match rest with
  | [] => some (0, tokens)
  | e :: rest =>
    if e ≠ 'e' ∧ e ≠ 'E' then none
    else
      let finish (negative : Bool) (text : List Char) (tokens : List Token) : Option (Int × List Token) :=
        match numeral? 10 true text with
        | some (digits, []) =>
          let n : Int := ofDigits 10 digits
          some (if negative then -n else n, tokens)
        | _ => none
      if rest.isEmpty then
        match tokens with
        | .plus :: .word text :: tokens => finish false text tokens
        | .word text :: tokens => finish false text tokens
        | _ => none
      else
        let (negative, text) := sign rest
        finish negative text tokens

def float? (text : List Char) (fraction : Option (List Char)) (tokens : List Token) :
    Option (Value × List Token) := do
  let (negative, text) := sign text
  let (whole, rest) ← numeral? 10 false text
  let (part, rest) ← match fraction with
    | none => some ([], rest)
    | some fraction => if rest.isEmpty then numeral? 10 true fraction else none
  let (exponent, tokens) ← exponent? rest tokens
  match Binary64.ofDecimal negative (ofDigits 10 (whole ++ part)) (exponent - part.length) with
  | .finite negative mantissa exponent => some (.float (.finite negative mantissa exponent), tokens)
  | _ => none

def number? (text : List Char) (tokens : List Token) : Option (Value × List Token) :=
  match text with
  | '0' :: 'x' :: digits => (integer? 16 digits).map fun n => (.integer n, tokens)
  | '0' :: 'o' :: digits => (integer? 8 digits).map fun n => (.integer n, tokens)
  | '0' :: 'b' :: digits => (integer? 2 digits).map fun n => (.integer n, tokens)
  | text =>
    if text.contains 'e' || text.contains 'E' then float? text none tokens
    else
      match tokens with
      | .dot :: .word fraction :: tokens => float? text (some fraction) tokens
      | .dot :: _ => none
      | tokens =>
        if text = "inf".toList then some (.float (.infinite false), tokens)
        else if text = "-inf".toList then some (.float (.infinite true), tokens)
        else if text = "nan".toList ∨ text = "-nan".toList then some (.float .nan, tokens)
        else (integer? 10 text).map fun n => (.integer n, tokens)

/-! ## Dates -/

/-- Whether the word can only belong to a date: it holds a `T`, or a hyphen that is neither a sign nor part of an
exponent. -/
def isDateWord (text : List Char) : Bool :=
  text.contains 'T' || text.contains 't' ||
    ((text.drop 1).contains '-' && !occursIn ['e', '-'] text && !occursIn ['E', '-'] text)

/-- What follows the minutes of a time: the seconds, and perhaps a fraction and an offset. -/
def timeEnd? (tokens : List Token) : Option (List Token) := do
  let tokens ← match tokens with
    | .word _ :: .colon :: .word _ :: tokens => some tokens
    | _ => none
  let tokens ← match tokens with
    | .dot :: .word _ :: tokens => some tokens
    | .dot :: _ => none
    | tokens => some tokens
  let tokens ← match tokens with
    | .plus :: .word _ :: tokens => some tokens
    | .plus :: _ => none
    | tokens => some tokens
  match tokens with
  | .colon :: .word _ :: tokens => some tokens
  | .colon :: _ => none
  | tokens => some tokens

def dateEnd? (tokens : List Token) : Option (List Token) :=
  let tokens := match tokens with
    | .blank [' '] :: .word _ :: tokens => tokens
    | tokens => tokens
  match tokens with
  | .colon :: tokens => timeEnd? tokens
  | tokens => some tokens

def hourEnd? (tokens : List Token) : Option (List Token) :=
  match tokens with
  | .blank [' '] :: .word _ :: tokens => timeEnd? tokens
  | tokens => timeEnd? tokens

def bare? (text : List Char) (tokens : List Token) : Option (Value × List Token) :=
  if text = "true".toList then some (.boolean true, tokens)
  else if text = "false".toList then some (.boolean false, tokens)
  else if text = "inf".toList ∨ text = "nan".toList ∨ text.head?.any fun c => c == '-' || c.isDigit then
    if isDateWord text then (dateEnd? tokens).map (.date, ·)
    else
      match tokens with
      | .colon :: tokens => (hourEnd? tokens).map (.date, ·)
      | tokens => number? text tokens
  else none

/-! ## Keys -/

def skipBlank : List Token → List Token
  | .blank _ :: tokens => tokens
  | tokens => tokens

def key? : List Token → Option (String × List Token)
  | .word text :: tokens => some (String.ofList text, tokens)
  | .string text false :: tokens => some (String.ofList text, tokens)
  | _ => none

def keys? : (fuel : Nat) → List Token → Option (List String × List Token)
  | 0, _ => none
  | fuel + 1, tokens => do
    let (key, tokens) ← key? tokens
    match skipBlank tokens with
    | .dot :: tokens =>
      let (keys, tokens) ← keys? fuel (skipBlank tokens)
      return (key :: keys, tokens)
    | tokens => return ([key], tokens)

/-- Adds a value under a key, which may have dots, unless a part of the key but the last is a value of another kind. -/
def insertPair : List String → Value → List (String × Value) → Option (List (String × Value))
  | [], _, _ => none
  | [key], value, pairs => some (pairs ++ [(key, value)])
  | key :: more, value, pairs =>
    match pairs.findIdx? (·.1 == key) with
    | none => (insertPair more value []).map fun inner => pairs ++ [(key, .table true inner)]
    | some i =>
      match pairs[i]? with
      | some (_, .table true inner) =>
        (insertPair more value inner).map fun inner => pairs.set i (key, .table true inner)
      | _ => none

/-! ## Arrays and tables -/

def skipGap : List Token → List Token
  | .blank _ :: tokens => skipGap tokens
  | .newline :: tokens => skipGap tokens
  | .comment :: tokens => skipGap tokens
  | tokens => tokens

mutual

def value? : (fuel : Nat) → List Token → Option (Value × List Token)
  | 0, _ => none
  | fuel + 1, tokens =>
    match tokens with
    | .string text _ :: tokens => some (.string (String.ofList text), tokens)
    | .word text :: tokens => bare? text tokens
    | .plus :: .word text :: tokens => number? text tokens
    | .leftBracket :: tokens => (items? fuel (skipGap tokens)).map fun (items, tokens) => (.array items, tokens)
    | .leftBrace :: tokens =>
      match skipBlank tokens with
      | .rightBrace :: tokens => some (.table false [], tokens)
      | tokens => (pairs? fuel [] tokens).map fun (pairs, tokens) => (.table false pairs, tokens)
    | _ => none

/-- The rest of an array. A comma may follow its last item. -/
def items? : (fuel : Nat) → List Token → Option (List Value × List Token)
  | 0, _ => none
  | _ + 1, .rightBracket :: tokens => some ([], tokens)
  | fuel + 1, tokens => do
    let (item, tokens) ← value? fuel tokens
    match skipGap tokens with
    | .comma :: tokens =>
      let (items, tokens) ← items? fuel (skipGap tokens)
      return (item :: items, tokens)
    | .rightBracket :: tokens => return ([item], tokens)
    | _ => none

def pairs? : (fuel : Nat) → List (String × Value) → List Token → Option (List (String × Value) × List Token)
  | 0, _, _ => none
  | fuel + 1, pairs, tokens => do
    let (keys, tokens) ← keys? fuel tokens
    match tokens with
    | .equals :: tokens =>
      let (value, tokens) ← value? fuel (skipBlank tokens)
      let pairs ← insertPair keys value pairs
      match skipBlank tokens with
      | .rightBrace :: tokens => return (pairs, tokens)
      | .comma :: tokens => pairs? fuel pairs (skipBlank tokens)
      | _ => none
    | _ => none

end

end BridgeLedger.Toml
