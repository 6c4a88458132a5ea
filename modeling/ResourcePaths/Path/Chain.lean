import ResourcePaths.Path.SyntaxError
import ResourcePaths.Text.Words

/-!
# Token chains

A raw path is a chain of tokens, each of which may link to the next one.  A token that ends
its chain links to nothing; it may hold the chain of the resource that it is applied to.
-/

namespace ResourcePaths

/-- A value attached to a token, with a name or without.  The text is not looked into. -/
structure NamedValue where
  name : Option String
  /-- The text of the value. -/
  value : String
  deriving DecidableEq, Repr

/-- A chain of tokens. -/
inductive Chain where
  /-- No token. -/
  | empty
  /-- A token of a system query option, and the chain behind it. -/
  | system (identifier : String) (next : Chain)
  /-- A plain token with its values, and the chain behind it. -/
  | plain (identifier : String) (values : List NamedValue) (next : Chain)
  /-- A token that ends the chain, and the chain that it is applied to. -/
  | ending (identifier : String) (context : Chain)
  deriving DecidableEq, Repr

/-- A token on its own, without the link to the next one. -/
inductive Token where
  /-- A token of a system query option. -/
  | system (identifier : String)
  /-- A plain token with its values. -/
  | plain (identifier : String) (values : List NamedValue)
  /-- A token that ends its chain, and the chain that it is applied to. -/
  | ending (identifier : String) (context : Chain)
  deriving DecidableEq, Repr

namespace NamedValue

/-- The value as a path writes it. -/
def render (value : NamedValue) : String :=
  match value.name with
  | some name => name ++ "=" ++ value.value
  | none => value.value

end NamedValue

namespace Token

/-- The mark of system query options. -/
def systemMark : Char := '$'

/-- The identifier that stands for the remainder of a path. -/
def wildcard : String := "*"

def identifier : Token → String
  | system identifier => identifier
  | plain identifier _ => identifier
  | ending identifier _ => identifier

/-- The values of a token; only plain tokens have any. -/
def values : Token → List NamedValue
  | plain _ values => values
  | _ => []

/-- Whether the token is one of a system query option. -/
def isSystem : Token → Bool
  | system _ => true
  | _ => false

def isWildcard : Token → Bool
  | system _ => false
  | plain identifier _ => identifier = wildcard
  | ending identifier _ => identifier = wildcard

/-- The values of a token in parentheses, or nothing where there are none. -/
def renderValues (values : List NamedValue) : String :=
  if values.isEmpty then ""
  else "(" ++ Text.joined "," (values.map NamedValue.render) ++ ")"

/-- The token as a path writes it. -/
def render (token : Token) : String :=
  token.identifier ++ renderValues token.values

/-- The chain of a token and a chain behind it.  Nothing follows a token that ends its chain. -/
def link (token : Token) (next : Chain) : Except SyntaxError Chain :=
  match token with
  | system identifier => .ok (.system identifier next)
  | plain identifier values => .ok (.plain identifier values next)
  | ending identifier context =>
    if next = .empty then .ok (.ending identifier context)
    else .error (.terminalToken identifier)

def toChain : Token → Chain
  | system identifier => .system identifier .empty
  | plain identifier values => .plain identifier values .empty
  | ending identifier context => .ending identifier context

end Token

namespace Chain

/-- The tokens of a chain, first to last. -/
def tokens : Chain → List Token
  | empty => []
  | system identifier next => .system identifier :: next.tokens
  | plain identifier values next => .plain identifier values :: next.tokens
  | ending identifier context => [.ending identifier context]

/-- The first token. -/
def head? : Chain → Option Token
  | empty => none
  | system identifier _ => some (.system identifier)
  | plain identifier values _ => some (.plain identifier values)
  | ending identifier context => some (.ending identifier context)

/-- The chain that the first token links to. -/
def tail : Chain → Chain
  | empty => empty
  | system _ next => next
  | plain _ _ next => next
  | ending _ _ => empty

/-- Whether the chain has no token. -/
def isEmpty : Chain → Bool
  | empty => true
  | _ => false

/-- The number of tokens. -/
def length (chain : Chain) : Nat :=
  chain.tokens.length

/-- The identifiers of the tokens. -/
def identifiers (chain : Chain) : List String :=
  chain.tokens.map Token.identifier

/-- The chain as a path writes it. -/
def render (chain : Chain) : String :=
  Text.joined "/" (chain.tokens.map Token.render)

/-- The chain of these tokens in this order, linked from the last one to the first. -/
def ofTokens : List Token → Except SyntaxError Chain
  | [] => .ok .empty
  | token :: rest => do
    let next ← ofTokens rest
    token.link next

/-- Whether the first token is the wildcard. -/
def startsWithWildcard (chain : Chain) : Bool :=
  match chain.head? with
  | some token => token.isWildcard
  | none => false

/-- The identifier of the first system token. -/
def firstSystem? : Chain → Option String
  | empty => none
  | system identifier _ => some identifier
  | plain _ _ next => next.firstSystem?
  | ending _ _ => none

end Chain
end ResourcePaths
