import HttpScenario.Request
import HttpScenario.Response
import HttpScenario.Text.Part

/-! Prepared answers, for runs without a server. -/

namespace HttpScenario.Prepared

structure Route where
  method : Option String
  part : String
  /-- How many more requests it is for; none if there is no end to them. -/
  times : Option Nat
  reply : Except TransportError Response

def Route.suits (route : Route) (request : Request) : Bool :=
  route.method.all (· == request.method.name) && route.times != some 0 &&
    Text.holds request.url route.part

def answer? (request : Request) :
    List Route → Option (Except TransportError Response × List Route)
  | [] => none
  | route :: rest =>
    if route.suits request then
      some (route.reply, { route with times := route.times.map (· - 1) } :: rest)
    else (answer? request rest).map fun (reply, routes) => (reply, route :: routes)

end HttpScenario.Prepared
