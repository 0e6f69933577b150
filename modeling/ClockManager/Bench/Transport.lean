import ClockManager.Text.Hex
import ClockManager.Transport
/-!
# A scripted transport

A transport for the bench: it knows which agent owns a channel, carries one payload of limited size,
and can be told to fail. What it does for the platform it tells as a line of text.
-/

namespace ClockManager.Bench

structure Transport where
  agents : List (ServiceId × AgentId)
  maxPayload : Nat
  /-- Where staged writes must end at the latest. -/
  writeLimit : Nat
  staging : Staging := []
  /-- How many more times an agent can be resolved, when that is limited. -/
  agentBudget? : Option Nat := none
  failMaxPayload : Bool := false
  failWrite : Nat := 0
  failRespond : Nat := 0

namespace Transport

/-- Binds a channel to an agent, or to none. -/
def bind (transport : Transport) (service : ServiceId) (agent? : Option AgentId) : Transport :=
  let others := transport.agents.filter fun (bound, _) => bound ≠ service
  { transport with agents := agent?.toList.map (service, ·) ++ others }

def ofBindings (maxPayload : Nat) (bindings : List (ServiceId × AgentId)) : Transport :=
  bindings.foldl (fun transport (service, agent) => transport.bind service agent)
    { agents := [], maxPayload, writeLimit := maxPayload }

def owner (transport : Transport) (service : ServiceId) : Except TransportError AgentId :=
  match transport.agents.lookup service with
  | some agent => .ok agent
  | none => .error (.unknownService service)

def agentOf (transport : Transport) (service : ServiceId) :
    Except TransportError AgentId × Transport :=
  match transport.agentBudget? with
  | some 0 => (.error (.unknownService service), transport)
  | some (n + 1) => (transport.owner service, { transport with agentBudget? := some n })
  | none => (transport.owner service, transport)

def payloadLimit (transport : Transport) (service : ServiceId) : Except TransportError Nat :=
  if transport.failMaxPayload then .error (.unknownService service)
  else (transport.owner service).map fun _ => transport.maxPayload

def stage (transport : Transport) (service : ServiceId) (offset : Nat) (bytes : Bytes) :
    Except TransportError Unit × Transport × List String :=
  if 0 < transport.failWrite || transport.writeLimit < offset + bytes.length then
    (.error (.outOfBounds offset bytes.length),
      { transport with failWrite := transport.failWrite - 1 },
      [s!"write_fail {service.raw} {offset} {bytes.length}"])
  else
    (.ok (), { transport with staging := transport.staging.write offset bytes },
      [s!"write {service.raw} {offset} {Text.hex bytes}"])

def respond (transport : Transport) (service : ServiceId) (reply : Reply) :
    Except TransportError Unit × Transport × List String :=
  if 0 < transport.failRespond then
    (.error (.noMessage service), { transport with failRespond := transport.failRespond - 1 },
      [s!"respond_fail {service.raw}"])
  else
    match reply with
    | .bytes payload =>
      (.ok (), { transport with staging := [] },
        [s!"respond {service.raw} bytes {Text.hex payload}"])
    | .staged length =>
      if transport.staging.length < length then (.error (.noMessage service), transport, [])
      else
        (.ok (), { transport with staging := [] },
          [s!"respond {service.raw} staged {Text.hex (transport.staging.take length)}"])

end Transport
end ClockManager.Bench
