import ResourcePaths.Path.Chain

/-!
# Edits of a chain

Appending at the end of a chain, and cutting it in front of the wildcard.  An edit gives the
new chain or a fault; the chain that it was applied to is never half changed.
-/

namespace ResourcePaths
namespace Chain

/-- The chain with another one linked behind its last token.  The way there leads over plain
tokens only. -/
def append : Chain → Chain → Except SyntaxError Chain
  | empty, added => .ok added
  | system identifier _, _ => .error (.illegalSystemToken identifier)
  | plain identifier values next, added => do
    let next ← next.append added
    pure (.plain identifier values next)
  | ending identifier context, added =>
    if added = empty then .ok (.ending identifier context)
    else .error (.terminalToken identifier)

/-- The chain with another one behind its last token.  A chain without a token has no place to
link it to, and stays as it is. -/
def extend (chain added : Chain) : Except SyntaxError Chain :=
  if chain.isEmpty then .ok chain else chain.append added

/-- The chain with another link from its first token; a chain without a token has no link. -/
def setNext (chain : Chain) (next : Chain) : Except SyntaxError Chain :=
  match chain.head? with
  | none => .ok chain
  | some token => token.link next

/-- The tokens in front of the first wildcard that some token links to. -/
def cutAtWildcard : Chain → Chain
  | plain identifier values next =>
    if next.startsWithWildcard then .plain identifier values .empty
    else .plain identifier values next.cutAtWildcard
  | chain => chain

/-- The chain without its first wildcard and all behind it.  System tokens are not allowed,
not even behind the wildcard, and a token has to remain. -/
def stripWildcard (chain : Chain) : Except SyntaxError Chain :=
  match chain.firstSystem? with
  | some identifier => .error (.illegalSystemToken identifier)
  | none =>
    if chain.startsWithWildcard then .error .wildcardAtHead
    else .ok chain.cutAtWildcard

end Chain
end ResourcePaths
