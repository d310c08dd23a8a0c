import Testbed.Span
import Testbed.Text.Quoted
import Testbed.Decimal.Shortest
import Testbed.Pattern.Parser

/-!
The ways in which an operation can fail, with their messages. What is wrong with a
configuration, a probe, a scrape or the output of a tool has a type of its own.
-/
namespace Testbed

inductive ConfigError where
  | badName (kind name : String)
  | noRetries
  | minAboveMax (min max : Span)
  | badMatcher (text : String) (cause : Pattern.PatternError)
  | noMembers (composite : String)
  | arity (expectation : String) (needed got : Nat)
  | badPort (runnable name : String) (number : Nat)
  | noImage (runnable : String)
  | emptyCommand (runnable : String)
  | badUser (runnable user : String)
  | badVolume (runnable volume : String)
  | badPortName (runnable name : String)
  | unknownBackend (text : String)
  | noAttempt
  | other (message : String)

def ConfigError.message : ConfigError → String
  | badName kind name =>
    "invalid " ++ kind ++ " name " ++ Text.quoted name ++ ": expected 1-63 lowercase " ++
      "alphanumerics or '-', not starting or ending with '-'"
  | noRetries => "backoff max_retries must be at least 1"
  | minAboveMax min max =>
    "backoff min delay " ++ min.text ++ " exceeds max delay " ++ max.text
  | badMatcher text cause => "invalid matcher " ++ text ++ ": " ++ cause.message
  | noMembers composite => "composite " ++ composite ++ " needs at least one member"
  | arity expectation needed got =>
    "expectation " ++ expectation ++ " needs " ++ Decimal.text needed ++ " metric names, got " ++
      Decimal.text got
  | badPort runnable name number =>
    "runnable " ++ runnable ++ ": invalid port declaration " ++ Text.quoted name ++ " -> " ++
      Decimal.text number
  | noImage runnable => "runnable " ++ runnable ++ ": image reference is required"
  | emptyCommand runnable => "exec in " ++ runnable ++ ": command is empty"
  | badUser runnable user =>
    "runnable " ++ runnable ++ ": user " ++ Text.quoted user ++ " must be numeric uid or uid:gid"
  | badVolume runnable volume =>
    "runnable " ++ runnable ++ ": volume " ++ Text.quoted volume ++
      " must be host:container[:mode]"
  | badPortName runnable name =>
    "runnable " ++ runnable ++ ": port name " ++ Text.quoted name ++
      " is not a valid Kubernetes port name " ++
      "(1-15 lowercase alphanumerics or '-', at least one letter)"
  | unknownBackend text => "unknown backend " ++ Text.quoted text ++ " (expected docker or kind)"
  | noAttempt => "retry loop made no attempt"
  | other message => message

inductive ProbeError where
  | request (url cause : String)
  | wrongStatus (url : String) (status least most : Nat)
  | body (url needle : String)
  | dial (address cause : String)
  | resolve (address cause : String)
  | notInspected
  | containerNotRunning
  | notListed
  | podNotReady
  | other (message : String)

def ProbeError.message : ProbeError → String
  | request url cause => "GET " ++ url ++ ": " ++ cause
  | wrongStatus url status least most =>
    "GET " ++ url ++ ": status " ++ Decimal.text status ++ " outside " ++ Decimal.text least ++
      "..=" ++ Decimal.text most
  | body url needle => "GET " ++ url ++ ": body does not contain " ++ Text.quoted needle
  | dial address cause => "dial " ++ address ++ ": " ++ cause
  | resolve address cause => "resolving " ++ address ++ ": " ++ cause
  | notInspected => "container was never inspected"
  | containerNotRunning => "container is not running yet"
  | notListed => "pod was never listed"
  | podNotReady => "pod is not ready yet"
  | other message => message

/-- What is wrong with a tool's output. Messages do not spell out why a text is not the
expected JSON. -/
inductive OutputError where
  | notBoolean
  | notAddressPort (line : String)
  | noAddress (line : String)
  | noPort (line : String)
  | conflict (first second : Nat)
  | noMapping
  | json
  | noInternalAddress
  | portCount (exposed declared : Nat)
  | notExposed (port : String)
  | otherPort (port : String) (exposed declared : Nat)
  | noNodePort (port : String)
  | other (message : String)

def OutputError.message : OutputError → String
  | notBoolean => "expected true or false"
  | notAddressPort line => "line " ++ Text.quoted line ++ " is not address:port"
  | noAddress line => "line " ++ Text.quoted line ++ " has no address"
  | noPort line => "line " ++ Text.quoted line ++ " has no valid port"
  | conflict first second =>
    "conflicting host ports " ++ Decimal.text first ++ " and " ++ Decimal.text second
  | noMapping => "no port mapping reported"
  | json => "<json error>"
  | noInternalAddress => "node reports no InternalIP address"
  | portCount exposed declared =>
    "service exposes " ++ Decimal.text exposed ++ " ports, " ++ Decimal.text declared ++
      " declared"
  | notExposed port => "declared port " ++ port ++ " is not exposed"
  | otherPort port exposed declared =>
    "port " ++ port ++ " exposes " ++ Decimal.text exposed ++ " instead of " ++
      Decimal.text declared
  | noNodePort port => "port " ++ port ++ " has no node port yet"
  | other message => message

inductive ScrapeError where
  | request (url cause : String)
  | wrongStatus (url status : String)
  | document (cause : String)
  | other (message : String)

def ScrapeError.message : ScrapeError → String
  | request url cause => "GET " ++ url ++ ": " ++ cause
  | wrongStatus url status => "GET " ++ url ++ ": unexpected status " ++ status
  | document cause => "parsing metrics: " ++ cause
  | other message => message

inductive Failure where
  | io (path cause : String)
  | config (cause : ConfigError)
  | nameConflict (name environment : String)
  | undeclaredPort (runnable port : String)
  | notRunning (name : String)
  | alreadyRunning (name : String)
  | environmentClosed (name : String)
  | probe (cause : ProbeError)
  | commandProbe (command : String) (cause : Failure)
  | notReady (name : String) (attempts : Nat) (source : Failure)
  | missingMetric (metric runnable : String)
  | scrape (runnable : String) (cause : ScrapeError)
  | expectationNotMet (runnable : String) (metrics : List String) (expectation : String)
      (lastValues : List Float) (lastError : Option String)
  | tool (command status stderr : String)
  | toolNotFound (name : String)
  | parse (command : String) (cause : OutputError) (output : String)
  | execFailed (name : String) (exitCode : Int) (stderr : String)
  | serialization (cause : String)
  /-- Nothing is returned: the operation is broken off. -/
  | panicked (cause : String)

namespace Failure

def message : Failure → String
  | io path cause => "I/O error at " ++ path ++ ": " ++ cause
  | config cause => "invalid configuration: " ++ cause.message
  | nameConflict name environment =>
    "runnable " ++ name ++ " is already registered in environment " ++ environment
  | undeclaredPort runnable port =>
    "runnable " ++ runnable ++ " has no declared port named " ++ port
  | notRunning name => "runnable " ++ name ++ " is not running"
  | alreadyRunning name => "runnable " ++ name ++ " is already running"
  | environmentClosed name => "environment " ++ name ++ " is closed"
  | probe cause => "readiness probe failed: " ++ cause.message
  | commandProbe command cause =>
    "readiness probe failed: \x60" ++ command ++ "\x60: " ++ cause.message
  | notReady name attempts source =>
    "runnable " ++ name ++ " is not ready after " ++ Decimal.text attempts ++ " attempts: " ++
      source.message
  | missingMetric metric runnable => "metric " ++ metric ++ " is missing from " ++ runnable
  | scrape runnable cause => "metrics error for " ++ runnable ++ ": " ++ cause.message
  | expectationNotMet runnable metrics expectation lastValues lastError =>
    "unable to find metrics " ++ Text.bracketed (metrics.map Text.quoted) ++
      " with expected values (" ++ expectation ++ ") on " ++ runnable ++ "; last values: " ++
      Text.bracketed (lastValues.map Decimal.detailed) ++ "; last error: " ++
      lastError.getD "none"
  | tool command status stderr => command ++ " exited with " ++ status ++ ": " ++ stderr
  | toolNotFound name => name ++ " binary not found on PATH"
  | parse command cause output =>
    "unexpected output from " ++ command ++ ": " ++ cause.message ++ " (output: " ++
      Text.quoted output ++ ")"
  | execFailed name exitCode stderr =>
    "exec in " ++ name ++ " exited with code " ++ Decimal.textInt exitCode ++ ": " ++ stderr
  | serialization cause => "serialization error: " ++ cause
  | panicked cause => cause

def isMissingMetric : Failure → Bool
  | missingMetric .. => true
  | _ => false

end Failure

end Testbed
