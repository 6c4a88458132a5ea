import ResourcePaths.Path.RawSegment

/-!
# Edits in place

A chain has one owner, and an edit changes it where it stands: it walks from token to token and
changes a link on its way.  What it has changed before it meets a fault stays changed.  So it
depends on the walk whether an edit that fails leaves the chain as it was.  What the edits amount
to when they go through is said by `Chain.append` and its companions.
-/

namespace ResourcePaths

/-- What an edit in place leaves. -/
structure Edited where
  /-- Whether the edit went through. -/
  outcome : Except SyntaxError Unit
  /-- The chain as it is now. -/
  chain : Chain

namespace Edited

def done (chain : Chain) : Edited :=
  ⟨.ok (), chain⟩

def failed (chain : Chain) (error : SyntaxError) : Edited :=
  ⟨.error error, chain⟩

/-- The edit of a whole chain of which the part behind the first token has been edited. -/
def behind (edited : Edited) (relink : Chain → Chain) : Edited :=
  { edited with chain := relink edited.chain }

end Edited

namespace Chain

/-- Walks to the last token and links another chain to it.  A walk with nothing to link only looks
for tokens that must not be there. -/
def linkAtEnd : Chain → Chain → Edited
  | empty, added => .done added
  | system identifier next, _ =>
    .failed (.system identifier next) (.illegalSystemToken identifier)
  | plain identifier values next, added =>
    (next.linkAtEnd added).behind (.plain identifier values)
  | ending identifier context, added =>
    if added = empty then .done (.ending identifier context)
    else .failed (.ending identifier context) (.terminalToken identifier)

/-- Walks to the token in front of the first wildcard and clears its link.  `passed` says whether
there is a token behind the walk already. -/
def severFrom (passed : Bool) : Chain → Edited
  | empty => .done empty
  | system identifier next =>
    .failed (.system identifier next) (.illegalSystemToken identifier)
  | plain identifier values next =>
    if identifier = Token.wildcard then .failed (.plain identifier values next) .wildcardAtHead
    else if next.startsWithWildcard then .done (.plain identifier values .empty)
    else (next.severFrom true).behind (.plain identifier values)
  | ending identifier context =>
    if identifier = Token.wildcard && !passed then
      .failed (.ending identifier context) .wildcardAtHead
    else .done (.ending identifier context)

/-- The walk of `severFrom` with its assertion, which is checked where it comes to a plain wildcard:
that there is no token behind the walk.  Where the assertion does not hold, nothing comes of the
walk. -/
def severChecked (passed : Bool) : Chain → Option Edited
  | empty => some (.done empty)
  | system identifier next =>
    some (.failed (.system identifier next) (.illegalSystemToken identifier))
  | plain identifier values next =>
    if identifier = Token.wildcard then
      if passed then none else some (.failed (.plain identifier values next) .wildcardAtHead)
    else if next.startsWithWildcard then some (.done (.plain identifier values .empty))
    else do
      let edited ← next.severChecked true
      some (edited.behind (.plain identifier values))
  | ending identifier context =>
    if identifier = Token.wildcard && !passed then
      some (.failed (.ending identifier context) .wildcardAtHead)
    else some (.done (.ending identifier context))

/-- Drops the first wildcard and all behind it.  A first walk looks for system tokens, the second
one cuts. -/
def sever (chain : Chain) : Edited :=
  match chain.firstSystem? with
  | some identifier => .failed chain (.illegalSystemToken identifier)
  | none => chain.severFrom false

/-- Links the tokens of raw segments to the end of a chain, one after another up to the first
fault. -/
def linkSegments (chain : Chain) : List String → Edited
  | [] => .done chain
  | text :: rest =>
    match RawSegment.ofText text with
    | .error error => .failed chain error
    | .ok segment =>
      match chain.linkAtEnd segment.toToken.toChain with
      | ⟨.ok (), longer⟩ => longer.linkSegments rest
      | edited => edited

/-- An edit by the owner of a chain.  The tokens that are added link to nothing. -/
inductive Edit where
  /-- Adds a token behind the last one. -/
  | append (token : Token)
  /-- Walks to the last token and adds a token there, where one is given.  There is no walk over a
  chain without tokens. -/
  | extend (token : Option Token)
  | stripWildcard
  /-- Puts the chain of raw segments in place of the chain, once it has been built. -/
  | replace (segments : List String)
  /-- Drops the first token. -/
  | dropHead
  deriving Repr

/-- Makes an edit on a chain. -/
def Edit.apply (chain : Chain) : Edit → Edited
  | append token => chain.linkAtEnd token.toChain
  | extend token =>
    if chain.isEmpty then .done chain else chain.linkAtEnd (token.elim .empty Token.toChain)
  | stripWildcard => chain.sever
  | replace segments =>
    let fresh := Chain.empty.linkSegments segments
    match fresh.outcome with
    | .ok () => fresh
    | .error error => .failed chain error
  | dropHead => .done chain.tail

/-- The chain that edits leave, each made on what the one before it has left. -/
def editedBy (chain : Chain) : List Edit → Chain
  | [] => chain
  | edit :: rest => (edit.apply chain).chain.editedBy rest

/-- The chains that the tokens of a chain begin, first to last: each token with all it links to. -/
def suffixes : Chain → List Chain
  | empty => []
  | system identifier next => .system identifier next :: next.suffixes
  | plain identifier values next => .plain identifier values next :: next.suffixes
  | ending identifier context => [.ending identifier context]

end Chain
end ResourcePaths
