import TestMatrix.Json.Token
import TestMatrix.Json.Value

/-!
# Reading JSON texts

`Literal.ofText?` reads the structure of a text: a machine with a stack of open lists and objects
takes the tokens one by one. A `Literal` still has every member of an object in the order of the
text, and leaves that may have no value. `Literal.toJson?` is the value of a literal if all of it
has one and it is not nested too deeply, and `Json.parse?` puts the two together.
-/

namespace TestMatrix.Json

/-- The structure of a JSON text. -/
inductive Literal where
  /-- The value `null`. -/
  | null
  /-- A truth value. -/
  | bool (b : Bool)
  /-- A numeral. -/
  | number (n : Decimal.Numeral)
  /-- A text, with its value if it has one. -/
  | text (value : Option String)
  /-- A list. -/
  | array (items : List Literal)
  /-- An object with its members in the order of the text, keys repeated or not. -/
  | object (members : List (Option String × Literal))
deriving Inhabited

/-! ## The machine -/

/-- A list or object that is not closed yet, with what it holds so far in reverse. -/
inductive Frame where
  /-- A list. -/
  | array (done : List Literal)
  /-- An object between two members. -/
  | object (done : List (Option String × Literal))
  /-- An object with a key whose value is not complete. -/
  | member (done : List (Option String × Literal)) (key : Option String)
deriving Inhabited

/-- What may come next. -/
inductive Mode where
  /-- A value. -/
  | value
  /-- The first item of a list, or its end. -/
  | firstItem
  /-- The first key of an object, or its end. -/
  | firstKey
  /-- A key. -/
  | key
  /-- The colon after a key. -/
  | colon
  /-- A comma, or the end of a list or object. -/
  | next
  /-- Nothing: the value of the text is complete. -/
  | done (v : Literal)
deriving Inhabited

/-- What is open, from the inside, and what may come next. -/
structure Machine where
  /-- The open lists and objects, the innermost first. -/
  stack : List Frame
  /-- What may come next. -/
  mode : Mode
deriving Inhabited

namespace Machine

/-- Nothing read yet. -/
def start : Machine := ⟨[], .value⟩

/-- Puts a complete value where it belongs. -/
def accept (v : Literal) : List Frame → Option Machine
  | [] => some ⟨[], .done v⟩
  | .array done :: outer => some ⟨.array (v :: done) :: outer, .next⟩
  | .member done key :: outer => some ⟨.object ((key, v) :: done) :: outer, .next⟩
  | .object _ :: _ => none

/-- Takes the first token of a value. -/
def beginValue (stack : List Frame) : Token → Option Machine
  | .null => accept .null stack
  | .bool b => accept (.bool b) stack
  | .number n => accept (.number n) stack
  | .text s => accept (.text s) stack
  | .openArray => some ⟨.array [] :: stack, .firstItem⟩
  | .openObject => some ⟨.object [] :: stack, .firstKey⟩
  | _ => none

/-- Takes a key. -/
def beginMember : List Frame → Token → Option Machine
  | .object done :: outer, .text key => some ⟨.member done key :: outer, .colon⟩
  | _, _ => none

/-- Closes the innermost list or object. -/
def close : List Frame → Token → Option Machine
  | .array done :: outer, .closeArray => accept (.array done.reverse) outer
  | .object done :: outer, .closeObject => accept (.object done.reverse) outer
  | _, _ => none

/-- Takes a comma, after which the innermost list or object goes on. -/
def separate (stack : List Frame) : Option Machine :=
  match stack with
  | .array _ :: _ => some ⟨stack, .value⟩
  | .object _ :: _ => some ⟨stack, .key⟩
  | _ => none

/-- Takes one token. -/
def step (s : Machine) (t : Token) : Option Machine :=
  match s.mode with
  | .value => beginValue s.stack t
  | .firstItem => (close s.stack t).or (beginValue s.stack t)
  | .firstKey => (close s.stack t).or (beginMember s.stack t)
  | .key => beginMember s.stack t
  | .colon => match t with
    | .colon => some { s with mode := .value }
    | _ => none
  | .next => match t with
    | .comma => separate s.stack
    | _ => close s.stack t
  | .done _ => none

/-- The value of the text, if all of it has been read. -/
def result? (s : Machine) : Option Literal :=
  match s.mode with
  | .done v => some v
  | _ => none

end Machine

/-- The structure that some tokens describe. -/
def Literal.ofTokens? (tokens : List Token) : Option Literal :=
  (tokens.foldlM Machine.step Machine.start).bind Machine.result?

/-- The structure of a text. -/
def Literal.ofText? (s : String) : Option Literal :=
  (Token.ofText? s.toList).bind Literal.ofTokens?

/-! ## Values -/

mutual

/-- The value of a literal with at most `depth` brackets around any part of it. -/
def Literal.toJson? (depth : Nat) : Literal → Option Json
  | .null => some .null
  | .bool b => some (.bool b)
  | .number n => (Number.ofNumeral? n).map .number
  | .text s => s.map .text
  | .array items => match depth with
    | 0 => none
    | depth + 1 => (Literal.toItems? depth items).map .array
  | .object members => match depth with
    | 0 => none
    | depth + 1 => (Literal.toPairs? depth members).map fun pairs =>
        .object (Dictionary.ofPairs pairs)

/-- The values of some literals. -/
def Literal.toItems? (depth : Nat) : List Literal → Option (List Json)
  | [] => some []
  | item :: rest => do return (← item.toJson? depth) :: (← Literal.toItems? depth rest)

/-- The keys and values of some members. -/
def Literal.toPairs? (depth : Nat) :
    List (Option String × Literal) → Option (List (String × Json))
  | [] => some []
  | (key, value) :: rest => do
    return (← key, ← value.toJson? depth) :: (← Literal.toPairs? depth rest)

end

/-- A reader follows no more brackets than this. -/
def maxDepth : Nat := 127

/-- The value of a text. -/
def parse? (s : String) : Option Json := (Literal.ofText? s).bind (·.toJson? maxDepth)

/-! ## Parts of records -/

namespace Literal

/-- The text, if the literal is one. -/
def text? : Literal → Option String
  | .text s => s
  | _ => none

/-- The number, if the literal is one that is not out of range. -/
def number? : Literal → Option Number
  | .number n => Number.ofNumeral? n
  | _ => none

/-- The whole number, if the literal is one and not negative. -/
def word? (l : Literal) : Option Nat :=
  match l.number? with
  | some (.whole n) => if 0 ≤ n then some n.toNat else none
  | _ => none

/-- The floating-point number that the literal is read as; of a whole number, the nearest one. -/
def real? (l : Literal) : Option Float :=
  match l.number? with
  | some (.real x) => some x
  | some (.whole n) => some (Decimal.toFloat ⟨n < 0, n.natAbs, 0⟩)
  | none => none

/-- The values of the named fields in the members of an object. Other members do not count, but
every key must have a value, and no named field may be there twice. -/
def fieldsOf? (names : List String) (members : List (Option String × Literal)) :
    Option (List (Option Literal)) := do
  let members ← members.mapM fun (key, value) => key.map fun key => (key, value)
  names.mapM fun name =>
    match members.filter fun member => member.1 == name with
    | [] => some none
    | [member] => some (some member.2)
    | _ => none

/-- The values of the named fields of a record, which is an object, or a list with a value for each
of the first fields. -/
def record? (names : List String) : Literal → Option (List (Option Literal))
  | .object members => fieldsOf? names members
  | .array items =>
    if items.length ≤ names.length then
      some (items.map some ++ List.replicate (names.length - items.length) none)
    else none
  | _ => none

end Literal

end TestMatrix.Json
