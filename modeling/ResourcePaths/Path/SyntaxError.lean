import ResourcePaths.Text.Escaped

/-!
# Faults of raw paths

What can be wrong with the text of a path, or with an edit of a token chain.
-/

namespace ResourcePaths

/-- Why a text is no path segment. -/
inductive SegmentFault where
  /-- There is no text. -/
  | empty
  /-- The text starts with a parenthesis, where an identifier has to stand. -/
  | noIdentifier (text : List Char)
  /-- Something stands behind the part that could be read. -/
  | unread (rest : List Char)
  deriving DecidableEq, Repr

namespace SegmentFault

/-- How the reader of segments reports where it stopped, and at what. -/
def report (rest : List Char) (code : String) : String :=
  "Parsing Error: Error \x7b input: " ++ Escaped.quote rest ++ ", code: " ++ code ++ " \x7d"

/-- The fault in words. -/
def message : SegmentFault → String
  | empty => "empty segment"
  | noIdentifier text => report text "TakeWhile1"
  | unread rest => report rest "Eof"

end SegmentFault

/-- A fault of a raw path. -/
inductive SyntaxError where
  /-- A system token stands inside a path. -/
  | illegalSystemToken (identifier : String)
  /-- A token would follow a token that ends its chain. -/
  | terminalToken (identifier : String)
  /-- The first token is the wildcard, so that no path would be left. -/
  | wildcardAtHead
  /-- A text is no path segment. -/
  | invalidSegment (segment : String) (fault : SegmentFault)
  /-- A text is no literal. -/
  | invalidLiteral (text : String)
  deriving DecidableEq, Repr

namespace SyntaxError

/-- The fault in words. -/
def message : SyntaxError → String
  | illegalSystemToken identifier =>
    "illegal system query option `" ++ identifier ++ "` inside a path"
  | terminalToken identifier => "cannot append after terminal token `" ++ identifier ++ "`"
  | wildcardAtHead => "wildcard `*` cannot be the first segment of a path"
  | invalidSegment segment fault =>
    "invalid path segment `" ++ segment ++ "`: " ++ fault.message
  | invalidLiteral text => "invalid literal `" ++ text ++ "`"

end SyntaxError
end ResourcePaths
