/-!
# ArchiveScout.Text.Document

**Results as JSON documents.** A document is printed over several lines, each level
two blanks deeper than the one around it; empty lists and records stay on one line.
Fields keep their order. In texts only quotes, backslashes and control characters are
escaped.
-/

namespace ArchiveScout.Text

/-- A document. -/
inductive Document where
  | null
  | number (n : Nat)
  | text (s : String)
  | list (items : List Document)
  | record (fields : List (String × Document))

namespace Document

/-- A list of texts. -/
def texts (items : List String) : Document := .list (items.map .text)

/-- A text, or `null` where there is none. -/
def optionalText : Option String → Document
  | some s => .text s
  | none => .null

/-- A hexadecimal digit in small letters. -/
def hexDigit (n : Nat) : Char := Nat.digitChar (n % 16)

/-- A control character by its number in four hexadecimal digits. -/
def escapeControl (c : Char) : List Char :=
  ['\\', 'u', '0', '0', hexDigit (c.toNat / 16), hexDigit c.toNat]

/-- A character inside quotes. -/
def escapeChar (c : Char) : List Char :=
  match c with
  | '"' => ['\\', '"']
  | '\\' => ['\\', '\\']
  | '\n' => ['\\', 'n']
  | '\r' => ['\\', 'r']
  | '\t' => ['\\', 't']
  | '\x08' => ['\\', 'b']
  | '\x0c' => ['\\', 'f']
  | c => if c.toNat < 0x20 then escapeControl c else [c]

/-- A text in quotes. -/
def quoted (s : String) : String :=
  String.ofList ('"' :: s.toList.flatMap escapeChar ++ ['"'])

/-- A line break and the blanks of a level. -/
def newLine (level : Nat) : String :=
  String.ofList ('\n' :: List.replicate (2 * level) ' ')

/-- Items between two brackets, each on a line of its own. -/
def enclosed (opening closing : String) (level : Nat) : List String → String
  | [] => opening ++ closing
  | items =>
    opening ++ newLine (level + 1) ++ ("," ++ newLine (level + 1)).intercalate items ++
      newLine level ++ closing

mutual

/-- A document at a level. -/
def renderAt (level : Nat) : Document → String
  | .null => "null"
  | .number n => toString n
  | .text s => quoted s
  | .list items => enclosed "[" "]" level (renderItems level items)
  | .record fields => enclosed "\x7b" "\x7d" level (renderFields level fields)

/-- The items of a list at a level. -/
def renderItems (level : Nat) : List Document → List String
  | [] => []
  | item :: items => renderAt (level + 1) item :: renderItems level items

/-- The fields of a record at a level. -/
def renderFields (level : Nat) : List (String × Document) → List String
  | [] => []
  | (key, value) :: fields =>
    (quoted key ++ ": " ++ renderAt (level + 1) value) :: renderFields level fields

end

/-- The printed document. -/
def render (d : Document) : String := renderAt 0 d

end Document

end ArchiveScout.Text
