import Testbed.Metrics.Kind
import Testbed.Text.Quoted

/-!
One line of an exposition document, and the ways in which a line can be malformed.
-/
namespace Testbed.Metrics

/-- Labels stand in the order of the line and may repeat; their values are unescaped. -/
structure Sample where
  name : String
  labels : List (String × String)
  value : Float
  timestamp : Option Int

inductive Line where
  | blank
  | comment
  | help (name text : String)
  | declaration (name : String) (kind : Kind)
  | sample (s : Sample)

inductive Expected where
  | blank
  | name
  | token
  | quote
  | number
  | kind
deriving DecidableEq

def Expected.code : Expected → String
  | blank => "Space"
  | name => "TakeWhile1"
  | token => "TakeTill1"
  | quote => "Char"
  | number => "Float"
  | kind => "Tag"

/-- A scanner that stops leaves the choice to another reading of the line, unless it is final. -/
structure Stop where
  final : Bool
  expected : Expected
  rest : List Char

def Stop.message (s : Stop) : String :=
  (if s.final then "Parsing Failure" else "Parsing Error") ++ ": Error \x7b input: " ++
    Text.quoted (String.ofList s.rest) ++ ", code: " ++ s.expected.code ++ " \x7d"

inductive LineError where
  | malformed (line : List Char) (stop : Stop)
  | trailing (rest : List Char)

def LineError.message : LineError → String
  | malformed line stop =>
    "malformed line " ++ Text.quoted (String.ofList line) ++ " (" ++ stop.message ++ ")"
  | trailing rest => "unexpected trailing input " ++ Text.quoted (String.ofList rest)

end Testbed.Metrics
