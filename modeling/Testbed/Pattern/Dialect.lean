import Testbed.Pattern.Basic

/-!
What the syntax of patterns leaves to the engine that compiles them.
-/
namespace Testbed.Pattern

/-- The character tables and the limits of an engine. -/
structure Dialect where
  /-- The characters of a property that is told by one name. -/
  named? : String → Option CharSet
  /-- The characters for which a property has a value. -/
  valued? (property value : String) : Option CharSet
  digit : CharSet
  space : CharSet
  word : CharSet
  /-- The characters that differ from one in case only, and that one. -/
  variants : Char → List Char
  /-- What the name of a group may begin with, and what may follow in it, beyond seven bits. -/
  startsName : Char → Bool
  continuesName : Char → Bool
  /-- Patterns nest at most this deep. -/
  depthLimit : Nat
  /-- Whether what a pattern compiles to is within the limit of its size. -/
  fits : Pattern → Bool

end Testbed.Pattern
