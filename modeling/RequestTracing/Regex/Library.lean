import RequestTracing.Regex.Basic
/-!
What a library for regular expressions adds to the form of patterns: the character properties that
it knows, the expressions that it finds too large, and the texts of its errors.
-/
namespace RequestTracing.Regex

/-- For a pattern, the test whether it matches somewhere in a text, or the text of an error. -/
abbrev Compiler := String → Except String (String → Bool)

structure Library where
  /-- The class of a property as it is written in a pattern, and whether it was written as an
  inequality. -/
  property? : List Char → Option (CharClass × Bool)
  /-- Whether the automaton of an expression is small enough; besides what it matches, it has to tell
  where the groups of the pattern are. -/
  fits : String → Regex → Bool
  complaint : String → String

end RequestTracing.Regex
