import MeteredHttp.BodySource
import MeteredHttp.ClientConfig
import MeteredHttp.Failure
import MeteredHttp.Method
import MeteredHttp.Transfer.Engine

/-!
# Transports and their handles

A transport is what a client sends requests with.  It makes handles, each of which carries one
request at a time and is used again and again.  A handle keeps its settings until they are changed,
and belongs to the transport that made it.  It also keeps what is left of its last transfer: the
header lines that it built, what it told the engine, and what the engine had to say.

* `Transport.make` checks the configuration of a client.
* `TransferSettings.ofConfig` are the settings that the handles of a client share.
* `Handle.refresh` brings the header lines of a handle up to date.
-/

namespace MeteredHttp

/-! ## Settings of transfers -/

/-- The settings that a client fixes for all its transfers. -/
structure TransferSettings where
  connectTimeoutMs : Int
  maxConnects : Int
  /-- The time limit of a whole transfer, if there is one. -/
  timeoutMs : Option Int
  bufferSize : Option Int
  uploadBufferSize : Option Int
  maxLifetimeConn : Option Int
  userAgent : Option Bytes
  proxy : Option Bytes
  /-- The certificate of the peer is not verified. -/
  skipVerify : Bool
  /-- The files with the certificate of the client and its private key. -/
  certificate : Option (Bytes × Bytes)
  deriving DecidableEq

namespace TransferSettings

/-- A number that counts only if it is positive. -/
def ifPositive (n : Int32) : Option Int := if 0 < n then some n.toInt else none

/-- A text that counts only if it is not empty; it ends at its first NUL byte. -/
def ifPresent (text : Bytes) : Option Bytes := if text = [] then none else some text.untilNul

/-- The settings that follow from a configuration.  The two time limits are added in 32 bits. -/
def ofConfig (config : ClientConfig) : TransferSettings where
  connectTimeoutMs := config.connectTimeout.toInt * 1000
  maxConnects := config.connectionsPerHost.toInt
  timeoutMs := (ifPositive (config.readTimeout + config.writeTimeout)).map (· * 1000)
  bufferSize := ifPositive config.readBufferSize
  uploadBufferSize := ifPositive config.writeBufferSize
  maxLifetimeConn := ifPositive config.maxConnDuration
  userAgent := ifPresent config.userAgent
  proxy := ifPresent config.proxy
  skipVerify := config.tls.insecureSkipVerify
  certificate :=
    (ifPresent config.tls.certificate).map fun certificate =>
      (certificate, config.tls.privateKey.untilNul)

end TransferSettings

/-! ## Transports -/

/-- What a client sends requests with. -/
structure Transport where
  /-- Tells transports apart that have the same configuration. -/
  id : Nat
  config : ClientConfig
  policy : Policy

namespace Transport

/-- A transport for a configuration, if that is valid. -/
def make (id : Nat) (config : ClientConfig) (files : Files) :
    Except ClientConfig.Invalid Transport := do
  config.validate files
  return { id, config, policy := ← config.policy }

end Transport

/-! ## Handles -/

/-- The body that a handle will send. -/
inductive Handle.Body where
  | none
  | bytes (content : Bytes)
  /-- The body is read from the source with this number. -/
  | stream (source : Nat)
  deriving DecidableEq

/-- What carries a request. -/
structure Handle where
  /-- The transport that made the handle. -/
  owner : Transport
  url : Bytes := []
  /-- Sent in place of the host of the URL, unless empty. -/
  host : Bytes := []
  fields : List (Bytes × Bytes) := []
  keepAlive : Bool := true
  method : Method := .get
  body : Handle.Body := .none
  /-- The header lines as they were built last, which the engine goes on using. -/
  lines : List Bytes := []
  /-- The header lines no longer match the settings. -/
  stale : Bool := true
  /-- What the engine was told last. -/
  options : EngineOptions := {}
  /-- Why we refused to take part in the transfer. -/
  rejection : Option Failure := none
  /-- What the engine said last about what went wrong. -/
  words : Bytes := []

namespace Handle

/-! ### Settings -/

def withUrl (h : Handle) (url : Bytes) : Handle := { h with url }

def withHost (h : Handle) (host : Bytes) : Handle := { h with host, stale := true }

def withFields (h : Handle) (fields : List (Bytes × Bytes)) : Handle :=
  { h with fields, stale := true }

/-- Sets whether the connection is kept; the header lines change only if this does. -/
def withKeepAlive (h : Handle) (keepAlive : Bool) : Handle :=
  { h with keepAlive, stale := h.stale || keepAlive != h.keepAlive }

def withMethod (h : Handle) (method : Method) : Handle := { h with method }

def withBody (h : Handle) (body : Body) : Handle := { h with body }

/-- The number of bytes that the handle holds as its body. -/
def bodySize (h : Handle) : Nat :=
  match h.body with
  | .bytes content => content.length
  | _ => 0

/-! ### Header lines -/

/-- The line of a header field, which ends at its first NUL byte. -/
def fieldLine (field : Bytes × Bytes) : Bytes :=
  (field.1 ++ utf8 ": " ++ field.2).untilNul

/-- The header lines that the settings call for. -/
def wantedLines (h : Handle) : List Bytes :=
  h.fields.map fieldLine
    ++ (if h.host = [] then [] else [fieldLine (utf8 "Host", h.host)])
    ++ (if h.keepAlive then [] else [utf8 "Connection: close"])

/-- Brings the header lines up to date before a transfer. -/
def refresh (h : Handle) : Handle :=
  if h.stale then { h with lines := h.wantedLines, stale := false } else h

end Handle

namespace Transport

/-- A new handle of the transport. -/
def newHandle (t : Transport) : Handle := { owner := t }

/-- Whether the transport made the handle. -/
def owns (t : Transport) (h : Handle) : Bool := t.id == h.owner.id

end Transport

end MeteredHttp
