import BridgeLedger.Toml.Value

/-!
# TOML documents

A document is read line by line into pairs and headers. A header `[a.b]` begins a section, to which the pairs up to the
next header belong; `[[a.b]]` begins one more element of an array of sections. The pairs before the first header belong
to the document itself.

`Document.entries` is what the document holds at its top, in the order in which it appears: its own pairs, one after
the other, also where a key is repeated, and then one entry for each first part of a header. Which sections belong to
one table only shows once the headers are compared, and so does a table that is defined twice: the entry says so.
-/

namespace BridgeLedger.Toml

inductive Statement where
  | pair (keys : List String) (value : Value)
  | header (names : List String) (repeated : Bool)

/-! ## Lines -/

/-- The tokens after the end of the line, before which only blanks and a comment may stand. -/
def lineEnd? (tokens : List Token) : Option (List Token) :=
  match skipBlank tokens with
  | [] => some []
  | .newline :: tokens => some tokens
  | [.comment] => some []
  | .comment :: .newline :: tokens => some tokens
  | _ => none

def header? (repeated : Bool) (tokens : List Token) : Option (Statement × List Token) := do
  let (names, tokens) ← keys? tokens.length (skipBlank tokens)
  let tokens ← match repeated, tokens with
    | false, .rightBracket :: tokens => some tokens
    | true, .rightBracket :: .rightBracket :: tokens => some tokens
    | _, _ => none
  return (.header names repeated, ← lineEnd? tokens)

def pair? (tokens : List Token) : Option (Statement × List Token) := do
  let (keys, tokens) ← keys? tokens.length tokens
  match tokens with
  | .equals :: tokens =>
    let (value, tokens) ← value? (2 * tokens.length + 2) (skipBlank tokens)
    return (.pair keys value, ← lineEnd? tokens)
  | _ => none

def statement? : List Token → Option (Statement × List Token)
  | .leftBracket :: .leftBracket :: tokens => header? true tokens
  | .leftBracket :: tokens => header? false tokens
  | tokens => pair? tokens

def statementsWithin : (fuel : Nat) → List Token → Option (List Statement)
  | 0, tokens => if (skipGap tokens).isEmpty then some [] else none
  | fuel + 1, tokens =>
    match skipGap tokens with
    | [] => some []
    | tokens => do
      let (statement, tokens) ← statement? tokens
      return statement :: (← statementsWithin fuel tokens)

/-! ## Sections -/

/-- The names of a header, or of a header within a table, and whether it stood in two pairs of brackets. -/
structure Header where
  names : List String
  repeated : Bool
deriving DecidableEq, Repr

structure Section where
  header : Header
  pairs : List (String × Value) := []

structure Document where
  pairs : List (String × Value)
  sections : List Section

/-- Adds a statement to the sections read so far, the latest of which comes first. -/
def addStatement (latest : Section) (earlier : List Section) : Statement → Option (Section × List Section)
  | .header names repeated => some ({ header := ⟨names, repeated⟩ }, latest :: earlier)
  | .pair keys value => (insertPair keys value latest.pairs).map fun pairs => ({ latest with pairs }, earlier)

def Document.parse (text : List Char) : Option Document := do
  let tokens ← tokens text
  let statements ← statementsWithin tokens.length tokens
  let (latest, earlier) ← statements.foldlM (fun (latest, earlier) => addStatement latest earlier)
    ({ header := ⟨[], false⟩ }, [])
  match (latest :: earlier).reverse with
  | [] => none
  | own :: sections => return { pairs := own.pairs, sections }

/-! ## Tables -/

def below (name : String) (headers : List Header) : List Header :=
  headers.filterMap fun header =>
    match header.names with
    | first :: names => if first = name then some { header with names } else none
    | [] => none

def firstNames (headers : List Header) : List String :=
  (headers.filterMap (·.names.head?)).eraseDups

/-- Whether the headers below a name begin as elements of an array. -/
def isRepeated : List Header → Bool
  | header :: _ => header.names.isEmpty && header.repeated
  | [] => false

/-- Cuts the headers below the name of an array into those below each element. -/
def elements : List Header → List (List Header)
  | [] => []
  | header :: rest =>
    if header.names.isEmpty && header.repeated then
      match elements rest with
      | [] => [[]]
      | element :: more => [] :: element :: more
    else
      match elements rest with
      | [] => [[header]]
      | element :: more => (header :: element) :: more

/-- Whether no table is defined twice among the headers below a name, up to `depth` names down. The table itself has
been defined already if it is `defined`, and it must not come back as an array. -/
def isSound : (depth : Nat) → (defined : Bool) → List Header → Bool
  | 0, _, _ => true
  | depth + 1, defined, headers =>
    let own := headers.filter (·.names.isEmpty)
    own.all (!·.repeated) && own.length + defined.toNat ≤ 1 &&
      (firstNames headers).all fun name =>
        let inner := below name headers
        if isRepeated inner then (elements (inner.drop 1)).all (isSound depth true) else isSound depth false inner

/-! ## Entries -/

inductive Item where
  | value (value : Value)
  /-- Sections of one table, or of the elements of an array of tables. -/
  | sections (repeated sound : Bool)

structure Entry where
  key : String
  item : Item

def Document.entries (document : Document) : List Entry :=
  let headers := document.sections.map (·.header)
  let depth := (headers.map (·.names.length)).foldl max 0
  document.pairs.map (fun (key, value) => ⟨key, .value value⟩) ++
    (firstNames headers).map fun name =>
      let inner := below name headers
      let repeated := isRepeated inner
      let sound :=
        if repeated then (elements (inner.drop 1)).all (isSound (depth + 1) true) else isSound (depth + 1) false inner
      ⟨name, .sections repeated sound⟩

end BridgeLedger.Toml
