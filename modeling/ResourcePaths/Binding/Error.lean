import ResourcePaths.Path.SyntaxError
import ResourcePaths.Text.Words

/-!
# Faults of binding

A path binds as a whole or not at all.  A fault that belongs to a token is kept apart from the
position and the identifier of the token, so that the rules of binding need not know them.
-/

namespace ResourcePaths

/-- Why the values behind a token are no key. -/
inductive KeyFault where
  /-- The token leads to a single resource. -/
  | notCollection
  /-- The token leads to values that are not entities. -/
  | notEntity (type : String)
  /-- There are more or fewer values than key properties. -/
  | wrongCount (type : String) (expected given : Nat)
  /-- A value has no name although the key has several properties. -/
  | positional
  /-- A name is not that of a key property. -/
  | unknownProperty (name type : String)
  /-- A key property has a value already. -/
  | repeatedProperty (name : String)
  /-- The text of a value is no literal. -/
  | invalidLiteral (text : String)
  /-- A literal does not fit the type of its property. -/
  | wrongType (text type property : String)
  deriving DecidableEq, Repr

/-- Where a token was looked for in vain. -/
inductive SearchPlace where
  /-- Among the members of a container. -/
  | container (name : String)
  /-- Behind an operation without a result. -/
  | noResult
  /-- On the values of a type. -/
  | type (name : String)
  /-- Among operations, in a call that gives a parameter twice. -/
  | repeatedParameter (name : String)
  /-- Among operations, none of which takes the parameters. -/
  | overloads (count : Nat)
  deriving DecidableEq, Repr

/-- Why a token does not bind. -/
inductive TokenFault where
  /-- It is a system token. -/
  | illegal
  /-- It names nothing. -/
  | notFound (place : SearchPlace)
  /-- It names several things. -/
  | ambiguous (candidates : List String)
  /-- The values behind it are no key. -/
  | key (fault : KeyFault)
  /-- It names a type that no value of the current type has. -/
  | notAssignable (currentType : String)
  deriving DecidableEq, Repr

/-- Why a path does not bind. -/
inductive BindingError where
  /-- There is no token. -/
  | emptyPath
  /-- There are more tokens than the settings allow. -/
  | tooManySegments (count limit : Nat)
  /-- There is no container to start from. -/
  | noContainer
  /-- The token at a position does not bind. -/
  | token (index : Nat) (identifier : String) (fault : TokenFault)
  /-- The raw path is not well formed. -/
  | malformed (error : SyntaxError)
  deriving DecidableEq, Repr

namespace KeyFault

/-- The fault in words. -/
def message : KeyFault → String
  | notCollection => "the segment does not address a collection"
  | notEntity type => s!"`{type}` is not an entity type"
  | wrongCount type expected given =>
    let properties := if expected = 1 then "property" else "properties"
    s!"`{type}` has {expected} key {properties}, found {given} value(s)"
  | positional => "positional key values are only allowed for single-property keys"
  | unknownProperty name type => s!"`{name}` is not a key property of `{type}`"
  | repeatedProperty name => s!"key property `{name}` is given more than once"
  | invalidLiteral text => s!"`{text}` is not a valid literal"
  | wrongType text type property =>
    s!"`{text}` is not a valid `{type}` value for key `{property}`"

end KeyFault

namespace SearchPlace

/-- The place in words. -/
def message : SearchPlace → String
  | container name => s!"entity container `{name}`"
  | noResult => "an operation without a result"
  | type name => s!"type `{name}`"
  | repeatedParameter name => s!"parameter `{name}` given more than once"
  | overloads count => s!"overloads accepting {count} parameter(s)"

end SearchPlace

namespace TokenFault

/-- The fault of the token at a position in words. -/
def message (index : Nat) (identifier : String) : TokenFault → String
  | illegal =>
    s!"segment {index} `{identifier}` is a system token and cannot appear in a resource path"
  | notFound place => s!"segment {index} `{identifier}` not found on {place.message}"
  | ambiguous candidates =>
    s!"segment {index} `{identifier}` is ambiguous between " ++ Text.joined ", " candidates
  | key fault => s!"key predicate on segment {index} `{identifier}`: {fault.message}"
  | notAssignable currentType =>
    s!"segment {index}: `{identifier}` is not assignable to `{currentType}`"

end TokenFault

namespace BindingError

/-- The position of the token that does not bind, when the fault belongs to one. -/
def index? : BindingError → Option Nat
  | token index _ _ => some index
  | _ => none

/-- The fault in words. -/
def message : BindingError → String
  | emptyPath => "the resource path is empty"
  | tooManySegments count limit => s!"path has {count} segments, more than the allowed {limit}"
  | noContainer => "the model declares no entity container"
  | token index identifier fault => fault.message index identifier
  | malformed error => error.message

end BindingError
end ResourcePaths
