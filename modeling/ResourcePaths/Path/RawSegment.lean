import ResourcePaths.Path.Edit
import ResourcePaths.Text.Quoted
import ResourcePaths.Text.Reader

/-!
# Raw segments

One segment of a path, cut into its identifier and the values in parentheses behind it.
-/

namespace ResourcePaths

/-- An identifier and the values behind it. -/
structure RawSegment where
  identifier : String
  values : List NamedValue
  deriving DecidableEq, Repr

namespace RawSegment

/-- The characters that end a value when they stand outside quotes. -/
def isDelimiter (c : Char) : Bool :=
  c = '\'' || c = ',' || c = '(' || c = ')' || c = '='

/-- A quoted text, quotes and all. -/
def quotedPiece : Reader (List Char) := do
  let text ← (Quoted.read? : Reader (List Char))
  pure (Quoted.write text)

/-- The text of a value: pieces of quoted text and of text without delimiters. -/
def valueReader : Reader (List Char) := do
  let parts ← Reader.plus (Reader.or quotedPiece (Reader.many1 fun c => !isDelimiter c))
  pure parts.flatten

/-- A value with a name. -/
def namedReader : Reader NamedValue := do
  let name ← Reader.name
  let _ ← Reader.char '='
  let value ← valueReader
  pure ⟨some (String.ofList name), String.ofList value⟩

/-- A value without a name. -/
def positionalReader : Reader NamedValue := do
  let value ← valueReader
  pure ⟨none, String.ofList value⟩

/-- A value, with a name or without. -/
def namedValueReader : Reader NamedValue :=
  Reader.or namedReader positionalReader

/-- Values with commas between; there may be none. -/
def valueListReader : Reader (List NamedValue) := do
  let first ← Reader.maybe namedValueReader
  match first with
  | none => pure []
  | some first => do
    let rest ← Reader.star do
      let _ ← Reader.char ','
      namedValueReader
    pure (first :: rest)

/-- Values in parentheses. -/
def parenthesizedReader : Reader (List NamedValue) := do
  let _ ← Reader.char '('
  let values ← valueListReader
  let _ ← Reader.char ')'
  pure values

/-- The characters of identifiers. -/
def isIdentifierChar (c : Char) : Bool :=
  c ≠ '(' && c ≠ ')'

/-- The segment that a text writes. -/
def ofText (text : String) : Except SyntaxError RawSegment :=
  let chars := text.toList
  let fault (fault : SegmentFault) : Except SyntaxError RawSegment :=
    .error (.invalidSegment text fault)
  if chars.isEmpty then fault .empty
  else
    let identifier := chars.takeWhile isIdentifierChar
    let rest := chars.dropWhile isIdentifierChar
    if identifier.isEmpty then fault (.noIdentifier chars)
    else
      match parenthesizedReader rest with
      | none =>
        if rest.isEmpty then .ok ⟨String.ofList identifier, []⟩ else fault (.unread rest)
      | some (values, back) =>
        if back.isEmpty then .ok ⟨String.ofList identifier, values⟩ else fault (.unread back)

/-- Whether the segment is one of a system query option. -/
def isSystem (segment : RawSegment) : Bool :=
  segment.identifier.toList.head? = some Token.systemMark

/-- The token of a segment.  System tokens have no values. -/
def toToken (segment : RawSegment) : Token :=
  if segment.isSystem then .system segment.identifier
  else .plain segment.identifier segment.values

end RawSegment

namespace Chain

/-- The chain with the tokens of these segments appended one by one. -/
def appendSegments (chain : Chain) : List String → Except SyntaxError Chain
  | [] => .ok chain
  | text :: rest => do
    let segment ← RawSegment.ofText text
    let chain ← chain.append segment.toToken.toChain
    chain.appendSegments rest

/-- The chain of the tokens of these segments. -/
def ofSegments (segments : List String) : Except SyntaxError Chain :=
  Chain.empty.appendSegments segments

end Chain
end ResourcePaths
