import ResourcePaths.Text.Classes

/-!
# Readers

A reader takes something from the front of a text and leaves the rest, or fails.
Readers never look behind what they have taken: a choice, once made, stands.
-/

namespace ResourcePaths

/-- Takes a value from the front of a text, or fails. -/
abbrev Reader := StateT (List Char) Option

namespace Reader

/-- The next character, when it belongs to a class. -/
def satisfying (kind : Char → Bool) : Reader Char
  | [] => none
  | c :: rest => if kind c then some (c, rest) else none

/-- Exactly this character. -/
def char (c : Char) : Reader Char :=
  satisfying (· = c)

/-- Exactly this word. -/
def word : List Char → Reader Unit
  | [] => pure ()
  | c :: rest => do
    let _ ← char c
    word rest

/-- As many characters of a class as there are. -/
def many (kind : Char → Bool) : Reader (List Char) :=
  fun text => some (text.takeWhile kind, text.dropWhile kind)

/-- As many characters of a class as there are, and at least one. -/
def many1 (kind : Char → Bool) : Reader (List Char) := do
  let c ← satisfying kind
  let rest ← many kind
  pure (c :: rest)

/-- Exactly `count` characters of a class. -/
def exactly (count : Nat) (kind : Char → Bool) : Reader (List Char) :=
  match count with
  | 0 => pure []
  | count + 1 => do
    let c ← satisfying kind
    let rest ← exactly count kind
    pure (c :: rest)

/-- At most `most` characters of a class, and at least `least`. -/
def between (least most : Nat) (kind : Char → Bool) : Reader (List Char) :=
  fun text =>
    let taken := (text.take most).takeWhile kind
    if least ≤ taken.length then some (taken, text.drop taken.length) else none

/-- What the reader takes, or nothing when it fails. -/
def maybe {α : Type} (reader : Reader α) : Reader (Option α) :=
  fun text =>
    match reader text with
    | some (value, rest) => some (some value, rest)
    | none => some (none, text)

/-- The first reader, or the second where the first fails. -/
def or {α : Type} (first second : Reader α) : Reader α :=
  fun text =>
    match first text with
    | some found => some found
    | none => second text

/-- What the reader takes, when a check accepts it. -/
def filterMap {α β : Type} (reader : Reader α) (check : α → Option β) : Reader β := do
  let value ← reader
  match check value with
  | some result => pure result
  | none => failure

/-- What the reader takes, again and again, until it fails or takes nothing. -/
def star {α : Type} (reader : Reader α) : Reader (List α) :=
  fun text => some (loop text)
where
  /-- The values taken, and the rest. -/
  loop (text : List Char) : List α × List Char :=
    match reader text with
    | some (value, rest) =>
      if rest.length < text.length then
        let (values, back) := loop rest
        (value :: values, back)
      else ([], text)
    | none => ([], text)
  termination_by text.length

/-- What the reader takes, again and again, and at least once. -/
def plus {α : Type} (reader : Reader α) : Reader (List α) := do
  let first ← reader
  let rest ← star reader
  pure (first :: rest)

/-- The value of a text that the reader takes whole. -/
def whole {α : Type} (reader : Reader α) (text : List Char) : Option α :=
  match reader text with
  | some (value, []) => some value
  | _ => none

/-- Skips any blanks. -/
def skipBlanks : Reader Unit :=
  fun text => some ((), text.dropWhile Text.isBlank)

/-- A name: a letter or `_`, then letters, digits and `_`. -/
def name : Reader (List Char) := do
  let first ← many1 Text.startsName
  let rest ← many Text.continuesName
  pure (first ++ rest)

/-- Two names or more with dots between, as one text. -/
def qualifiedName : Reader (List Char) := do
  let first ← name
  let rest ← plus do
    let _ ← char '.'
    let part ← name
    pure ('.' :: part)
  pure (first ++ rest.flatten)

end Reader
end ResourcePaths
