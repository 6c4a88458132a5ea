/-!
# Quoted text

A quoted text stands between two quotes, and a quote inside it is written twice.
Reading gives back what was written (`read?_write`), provided that no further quote follows.
-/

namespace ResourcePaths
namespace Quoted

/-- The text with every quote written twice. -/
def double : List Char → List Char
  | [] => []
  | c :: rest => if c = '\'' then '\'' :: '\'' :: double rest else c :: double rest

/-- The text between quotes. -/
def write (text : List Char) : List Char :=
  '\'' :: double text ++ ['\'']

/-- Behind an opening quote: the text up to the closing quote, and what stands behind it. -/
def body? : List Char → Option (List Char × List Char)
  | [] => none
  | '\'' :: '\'' :: rest => (body? rest).map fun (text, back) => ('\'' :: text, back)
  | c :: rest =>
    if c = '\'' then some ([], rest)
    else (body? rest).map fun (text, back) => (c :: text, back)

/-- A quoted text at the front, and what stands behind it. -/
def read? : List Char → Option (List Char × List Char)
  | '\'' :: rest => body? rest
  | _ => none

/-- A text with its quotes doubled is read back up to the closing quote. -/
theorem body?_double (text : List Char) {rest : List Char} (hrest : rest.head? ≠ some '\'') :
    body? (double text ++ '\'' :: rest) = some (text, rest) := by
  induction text with
  | nil =>
    cases rest with
    | nil => simp [double, body?]
    | cons c rest =>
      have hc : c ≠ '\'' := by simpa using hrest
      simp [double, body?, hc]
  | cons c text ih =>
    by_cases hc : c = '\''
    · subst hc
      simp [double, body?, ih]
    · rw [double, if_neg hc, List.cons_append, body?, if_neg hc, ih]
      · rfl
      · intro _ hquote
        exact absurd hquote hc

/-- Reading gives back the text that was written. -/
theorem read?_write (text : List Char) {rest : List Char} (hrest : rest.head? ≠ some '\'') :
    read? (write text ++ rest) = some (text, rest) := by
  simp only [write, read?, List.cons_append, List.append_assoc, List.nil_append]
  exact body?_double text hrest

end Quoted
end ResourcePaths
