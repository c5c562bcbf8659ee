/-!
# ArchiveScout.Query.Error

**Why a query is refused.** One constructor per cause, with the text that is at
fault; `message` gives the wording.
-/

namespace ArchiveScout.Query

/-- What an advanced query constrains. -/
inductive Entity where
  | classes
  | methods
deriving DecidableEq, Repr

/-- The word for an entity. -/
def Entity.label : Entity → String
  | .classes => "class"
  | .methods => "method"

/-- A malformed literal, pattern or advanced query. -/
inductive QueryError where
  /-- The text is no number literal. -/
  | invalidLiteral (text : String)
  /-- A segment of an advanced query without a colon. -/
  | missingDelimiter (segment : String)
  /-- A segment without a key in front of its colon, or a flag that is no key. -/
  | invalidKey (text : String)
  /-- A key that the entity does not have. -/
  | keyNotAllowed (key : Char) (entity : Entity)
  /-- A key that needs a value and has none. -/
  | missingValue (key : Char)
  /-- A name that is no modifier. -/
  | unknownModifier (name : String)
  /-- A parameter count that is no number. -/
  | invalidParamSize (text : String)
  /-- A pattern that is no regular expression. -/
  | invalidPattern (pattern : String)
deriving DecidableEq, Repr

/-- The wording of an error. -/
def QueryError.message : QueryError → String
  | .invalidLiteral text => s!"Invalid number literal: '{text}'"
  | .missingDelimiter segment =>
    s!"Invalid advanced query: '{segment}' (expected key:value)"
  | .invalidKey text => s!"Invalid key in advanced query: '{text}'"
  | .keyNotAllowed key entity => s!"Invalid query key for {entity.label}: {key}"
  | .missingValue key => s!"Invalid value for key: {key}"
  | .unknownModifier name => s!"Invalid modifier: {name}"
  | .invalidParamSize text => s!"Invalid parameter size: '{text}'"
  | .invalidPattern pattern => s!"Invalid class pattern '{pattern}'"

end ArchiveScout.Query
