/-!
# JSON documents

The documents this library writes, in a compact form and in an indented one. Numbers are natural
numbers; the members of an object keep their order.
-/

namespace BlobLimbo

/-- A document. -/
inductive Json where
  | null
  | bool (b : Bool)
  | number (n : Nat)
  | string (s : String)
  | array (items : List Json)
  | object (members : List (String × Json))

namespace Json

/-- The four digits of a control character in an escape. -/
def controlDigits (c : Char) : List Char :=
  (Nat.toDigits 16 c.toNat).leftpad 4 '0'

/-- A character inside a string: quotes, backslashes and control characters are escaped. -/
def escapeChar (c : Char) : List Char :=
  match c with
  | '"' => ['\\', '"']
  | '\\' => ['\\', '\\']
  | '\x08' => ['\\', 'b']
  | '\x0c' => ['\\', 'f']
  | '\n' => ['\\', 'n']
  | '\r' => ['\\', 'r']
  | '\t' => ['\\', 't']
  | c => if c.toNat < 0x20 then '\\' :: 'u' :: controlDigits c else [c]

/-- A string between quotes. -/
def quote (text : String) : List Char :=
  '"' :: (text.toList.flatMap escapeChar ++ ['"'])

/-- Texts with a separator between them. -/
def separated (separator : List Char) : List (List Char) → List Char
  | [] => []
  | [text] => text
  | text :: rest => text ++ (separator ++ separated separator rest)

mutual

/-- The document on one line, without blanks. -/
def compact : Json → List Char
  | .null => ['n', 'u', 'l', 'l']
  | .bool true => ['t', 'r', 'u', 'e']
  | .bool false => ['f', 'a', 'l', 's', 'e']
  | .number n => Nat.toDigits 10 n
  | .string s => quote s
  | .array items => '[' :: (separated [','] (compactItems items) ++ [']'])
  | .object members => '\x7b' :: (separated [','] (compactMembers members) ++ ['\x7d'])

/-- The items of an array, each on one line. -/
def compactItems : List Json → List (List Char)
  | [] => []
  | item :: rest => compact item :: compactItems rest

/-- The members of an object, each on one line. -/
def compactMembers : List (String × Json) → List (List Char)
  | [] => []
  | (name, value) :: rest => (quote name ++ (':' :: compact value)) :: compactMembers rest

end

/-- A line break and two blanks for each level. -/
def lineBreak (level : Nat) : List Char :=
  '\n' :: List.replicate (2 * level) ' '

/-- Items on lines of their own between two brackets. Without items the brackets stand alone. -/
def block (level : Nat) (openBracket closeBracket : Char) (items : List (List Char)) : List Char :=
  if items.isEmpty then [openBracket, closeBracket]
  else
    openBracket :: (lineBreak (level + 1) ++
      (separated (',' :: lineBreak (level + 1)) items ++ (lineBreak level ++ [closeBracket])))

mutual

/-- The document with every item and member on a line of its own, indented by two blanks. -/
def pretty (level : Nat) : Json → List Char
  | .array items => block level '[' ']' (prettyItems (level + 1) items)
  | .object members => block level '\x7b' '\x7d' (prettyMembers (level + 1) members)
  | document => compact document

/-- The items of an array, indented. -/
def prettyItems (level : Nat) : List Json → List (List Char)
  | [] => []
  | item :: rest => pretty level item :: prettyItems level rest

/-- The members of an object, indented. -/
def prettyMembers (level : Nat) : List (String × Json) → List (List Char)
  | [] => []
  | (name, value) :: rest =>
    (quote name ++ (':' :: ' ' :: pretty level value)) :: prettyMembers level rest

end

end Json

end BlobLimbo
