/-! Documents of names and values, and their indented form. -/
namespace RollCall

/-- A value; the members of an object keep their order. -/
inductive Json
  | bool (b : Bool)
  | nat (n : Nat)
  | string (s : String)
  | array (items : List Json)
  | object (members : List (String × Json))
deriving Inhabited

namespace Json

def hexDigit (n : Nat) : Char := (Nat.digitChar n)

/-- A character inside quotation marks: only the marks themselves, backslashes and control
characters are written otherwise than as they are. -/
def writeChar (c : Char) : List Char :=
  if c = '"' then ['\\', '"']
  else if c = '\\' then ['\\', '\\']
  else if c = '\x08' then ['\\', 'b']
  else if c = '\x0c' then ['\\', 'f']
  else if c = '\n' then ['\\', 'n']
  else if c = '\r' then ['\\', 'r']
  else if c = '\t' then ['\\', 't']
  else if c.toNat < 0x20 then
    ['\\', 'u', '0', '0', hexDigit (c.toNat / 16), hexDigit (c.toNat % 16)]
  else [c]

def writeString (s : String) : List Char := '"' :: (s.toList.flatMap writeChar ++ ['"'])

/-- The beginning of a line at a depth: two blanks for each level. -/
def newLine (depth : Nat) : List Char := '\n' :: List.replicate (2 * depth) ' '

mutual

def writeAt (depth : Nat) : Json → List Char
  | .bool b => (if b then "true" else "false").toList
  | .nat n => Nat.toDigits 10 n
  | .string s => writeString s
  | .array [] => ['[', ']']
  | .array (item :: items) =>
    '[' :: (newLine (depth + 1) ++ writeAt (depth + 1) item ++ writeItems depth items)
  | .object [] => ['{', '}']
  | .object ((name, value) :: members) =>
    '{' :: (newLine (depth + 1) ++ writeString name ++ [':', ' '] ++ writeAt (depth + 1) value ++
      writeMembers depth members)

/-- The further items of an array, and its end. -/
def writeItems (depth : Nat) : List Json → List Char
  | [] => newLine depth ++ [']']
  | item :: items =>
    ',' :: (newLine (depth + 1) ++ writeAt (depth + 1) item ++ writeItems depth items)

/-- The further members of an object, and its end. -/
def writeMembers (depth : Nat) : List (String × Json) → List Char
  | [] => newLine depth ++ ['}']
  | (name, value) :: members =>
    ',' :: (newLine (depth + 1) ++ writeString name ++ [':', ' '] ++ writeAt (depth + 1) value ++
      writeMembers depth members)

end

def write (j : Json) : String := String.ofList (writeAt 0 j)

end Json

end RollCall
