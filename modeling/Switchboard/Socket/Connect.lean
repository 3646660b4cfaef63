import Switchboard.Channel.Operation

/-!
# Connecting

A socket holds one connection at most.  To connect evaluates the parameters of the socket, builds
the address and opens a transport, which is listened to until it is detached.

Main definitions

* `Socket.connect`;
* `Socket.scheduleReconnect`: arms the next attempt to connect;
* `Socket.replaceTransport`: retires the connection and goes on with another kind of transport.
-/

set_option autoImplicit false

namespace Switchboard.Socket

variable {ω : Type}

/-- The wire format of connections that are opened now. -/
def serializer (s : Socket ω) : Serializer :=
  if s.factory.standardOnly then .standard else s.config.serializer

/-- Marks a connect, a disconnect or a replacement of the transport. -/
def tick (s : Socket ω) : Socket ω := { s with connectClock := s.connectClock + 1 }

/-- Arms the next attempt to connect. -/
def scheduleReconnect (s : Socket ω) : Socket ω :=
  let timer := s.reconnectTimer.schedule
  { s with reconnectTimer := timer }.arm (s.reconnectTimer.delay s.config.reconnectAfter)
    (.reconnect timer.slot.generation)

/-- Forgets the attempts to connect. -/
def resetReconnect (s : Socket ω) : Socket ω :=
  { s with reconnectTimer := s.reconnectTimer.reset }

variable [Outside ω]

/-- Opens a transport for an address, listens to it and holds it. -/
def openTransport (s : Socket ω) (url : String) : Socket ω :=
  let t := s.nextTransport
  -- A transport may report while it is opened, so it is listened to before.
  let s := { s with nextTransport := t + 1, exchange := s.exchange.attach t }
  let s := s.perform (.open ⟨t, s.factory, url, s.config.binaryType, s.config.longPollTimeout⟩)
  { s with conn := some ⟨t, s.serializer, s.factory.skipHeartbeat⟩ }

/-- Opens a connection unless the socket holds one. -/
def connect (s : Socket ω) : Socket ω :=
  if s.conn.isSome then s
  else
    let (value, params) := s.config.params.resolve
    let s := { s.tick with
      closeWasClean := false
      config := { s.config with params := params } }
    match endpointUrl s.endpoint value s.config.version s.config.origin with
    | .ok url => s.openTransport url
    | .error cause => s.report (.config cause)

/-- Lets the connection go; it goes on closing without being listened to. -/
def retire (s : Socket ω) : Socket ω :=
  match s.conn with
  | none => s
  | some conn =>
    -- Its own report of the close comes too late to be heard.
    let s := { s with conn := none }.detach conn.transport
    let s := s.perform (.close conn.transport none none)
    { s with retired := s.retired ++ [conn] }.triggerErrors

/-- Retires the connection; later ones use another kind of transport. -/
def replaceTransport (s : Socket ω) (factory : Factory) : Socket ω :=
  let s := { s.tick.resetReconnect with closeWasClean := true, sendBuffer := [] }
  { s.pruneRetired.retire with factory := factory }

end Switchboard.Socket
