import Testbed.Backend
import Testbed.Http
import Testbed.StandIn.State
import Testbed.Url

/-!
A network with canned servers on the loopback address. Without a link to it nothing can be
reached; else what no server listens at refuses connections.
-/
namespace Testbed.StandIn

def loopback : String := "127.0.0.1"

def Server.answer (s : Server) : Reply × Server :=
  let body := s.bodies.head?.getD ""
  let bodies := if 1 < s.bodies.length then s.bodies.tail else s.bodies
  let text := match body.toList with
    | '\uFEFF' :: r => String.ofList r
    | _ => body
  (.answered s.status (if Http.hasNoBody s.status then "" else text),
    { s with bodies, served := s.served + 1 })

def answerAt (port : Nat) : List Server → Option Reply × List Server
  | [] => (none, [])
  | s :: r =>
    if s.port = port then
      let (reply, s) := s.answer
      (some reply, s :: r)
    else
      let (reply, r) := answerAt port r
      (reply, s :: r)

def get (url : String) (w : World State) : Reply × World State :=
  match Url.ofString? url with
  | none => (.failed "builder error", w)
  | some u =>
    let unsent : Reply := .failed ("error sending request for url (" ++ u.text ++ ")")
    if w.rest.linked && u.scheme = "http" && u.host = loopback then
      match answerAt u.effectivePort w.rest.servers with
      | (some reply, servers) => (reply, { w with rest := { w.rest with servers } })
      | (none, _) => (unsent, w)
    else (unsent, w)

def dial (address : String) (w : World State) : Except ProbeError Unit × World State :=
  let s := address.toList.reverse
  let port := (s.takeWhile (· ≠ ':')).reverse
  let host := (s.dropWhile (· ≠ ':')).tail.reverse
  match Decimal.readUpTo 65535 port, Url.host? host with
  | none, _ => (.error (.resolve address "invalid port value"), w)
  | _, none => (.error (.resolve address "invalid socket address"), w)
  | some n, some h =>
    let target := h ++ ":" ++ Decimal.text n
    if h ≠ loopback ∨ !w.rest.linked then
      (.error (.dial target "Network is unreachable (os error 101)"), w)
    else if w.rest.servers.any (·.port = n) then (.ok (), w)
    else (.error (.dial target "Connection refused (os error 111)"), w)

def network : Network State := ⟨get, dial⟩

end Testbed.StandIn
