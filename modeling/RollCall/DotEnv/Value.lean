import RollCall.Unicode.Query

/-! The value of an entry: text with quotation marks, backslashes and variables in it. -/
namespace RollCall.DotEnv

/-- How the next character of a value is taken. `quoted` says whether it is within double quotation
marks. -/
inductive Mode
  | text (quoted : Bool)
  | strong
  | escape (quoted : Bool)
  /-- After a dollar sign and the given part of a name, in reverse order. -/
  | name (quoted : Bool) (read : List Char)
  /-- The same within braces. -/
  | braces (quoted : Bool) (read : List Char)
  /-- After a blank that ended the value. -/
  | ended
deriving DecidableEq, Inhabited

def escaped? (c : Char) : Option Char :=
  if ['\\', '\x27', '"', '$', ' '].contains c then some c
  else if c = 'n' then some '\n'
  else none

/-- The rest of a value after `out`, which is in reverse order; `none` if it is malformed. Without
braces, a name ends at the first character that is neither letter nor number, and that character
stands for itself. -/
def readValue (lookup : String → String) : Mode → (out : List Char) → List Char →
    Option (List Char)
  | .text false, out, [] | .escape false, out, [] | .ended, out, [] => some out.reverse
  | .name false read, out, [] =>
    some (out.reverse ++ (lookup (String.ofList read.reverse)).toList)
  | _, _, [] => none
  | .ended, out, c :: rest =>
    if c = ' ' ∨ c = '\t' then readValue lookup .ended out rest
    else if c = '#' then some out.reverse
    else none
  | .escape quoted, out, c :: rest =>
    match escaped? c with
    | some e => readValue lookup (.text quoted) (e :: out) rest
    | none => none
  | .strong, out, c :: rest =>
    if c = '\x27' then readValue lookup (.text false) out rest
    else readValue lookup .strong (c :: out) rest
  | .name quoted read, out, c :: rest =>
    if Unicode.isAlphanumeric c then readValue lookup (.name quoted (c :: read)) out rest
    else if c = '{' && read.isEmpty then readValue lookup (.braces quoted []) out rest
    else
      let out := (lookup (String.ofList read.reverse)).toList.reverse ++ out
      if c = '$' then readValue lookup (.name quoted []) out rest
      else readValue lookup (.text quoted) (c :: out) rest
  | .braces quoted read, out, c :: rest =>
    if c = '}' then
      let out := (lookup (String.ofList read.reverse)).toList.reverse ++ out
      readValue lookup (.text quoted) out rest
    else readValue lookup (.braces quoted (c :: read)) out rest
  | .text quoted, out, c :: rest =>
    if c = '$' then readValue lookup (.name quoted []) out rest
    else if c = '\\' then readValue lookup (.escape quoted) out rest
    else if c = '"' then readValue lookup (.text !quoted) out rest
    else if quoted then readValue lookup (.text quoted) (c :: out) rest
    else if c = '\x27' then readValue lookup .strong out rest
    else if c = ' ' ∨ c = '\t' then readValue lookup .ended out rest
    else readValue lookup (.text quoted) (c :: out) rest

end RollCall.DotEnv
