import MeteredHttp.Files
import MeteredHttp.Json.Field
import MeteredHttp.Json.Parser
import MeteredHttp.Policy

/-!
# Configuration of clients

The settings that all requests of a client share, and how they are read from a document.

* `ClientConfig.ofJson` takes the settings out of a document, `ClientConfig.validate` checks them.
* `ClientConfig.parse` is both.
-/

namespace MeteredHttp

/-- The settings of TLS connections. -/
structure TlsConfig where
  insecureSkipVerify : Bool := false
  /-- The files with the private key and the certificate of the client. -/
  privateKey : Bytes := []
  certificate : Bytes := []
  deriving DecidableEq

/-- The settings of a client.  Times are in seconds; zero leaves the choice to the transport. -/
structure ClientConfig where
  dialTimeout : Int32 := 0
  proxy : Bytes := []
  maxConnDuration : Int32 := 0
  userAgent : Bytes := []
  readBufferSize : Int32 := 0
  writeBufferSize : Int32 := 0
  readTimeout : Int32 := 0
  writeTimeout : Int32 := 0
  maxConnsPerHost : Int32 := 0
  tls : TlsConfig := {}
  /-- The address ranges no connection may be opened to. -/
  blacklistIps : List Bytes := []
  /-- The patterns of hosts that no request may be sent to. -/
  blockHostnames : List Bytes := []
  deriving DecidableEq

namespace ClientConfig

/-- The time limit for opening a connection, in seconds: five unless one is set. -/
def connectTimeout (config : ClientConfig) : Int32 :=
  if 0 < config.dialTimeout then config.dialTimeout else 5

/-- The limit on connections to one host: one unless it is set. -/
def connectionsPerHost (config : ClientConfig) : Int32 :=
  if 0 < config.maxConnsPerHost then config.maxConnsPerHost else 1

/-! ## Validation -/

/-- Why settings are not accepted. -/
inductive Invalid where
  /-- There is a private key without a certificate. -/
  | blankCertificate
  /-- There is a certificate without a private key. -/
  | blankPrivateKey
  /-- A key or a certificate is no regular file. -/
  | unreadable (path : Bytes)
  /-- A time or a size is negative. -/
  | negative (setting : Bytes)
  /-- A range or a pattern is malformed. -/
  | policy (error : Policy.BuildError)
  deriving DecidableEq

/-- The text of the error, which ends at its first NUL byte. -/
def Invalid.message : Invalid → Bytes
  | .blankCertificate => utf8 "blank certificate"
  | .blankPrivateKey => utf8 "blank private key"
  | .unreadable path =>
    Bytes.untilNul (utf8 "failed to load key/cert; " ++ path ++ utf8 " is not a readable file")
  | .negative setting => setting ++ utf8 " must not be negative"
  | .policy error => error.message

/-- The times and sizes with their names, in the order in which they are checked. -/
def numbers (config : ClientConfig) : List (Bytes × Int32) :=
  [(utf8 "dial_timeout", config.dialTimeout),
    (utf8 "max_conn_duration", config.maxConnDuration),
    (utf8 "read_buffer_size", config.readBufferSize),
    (utf8 "write_buffer_size", config.writeBufferSize),
    (utf8 "read_timeout", config.readTimeout),
    (utf8 "write_timeout", config.writeTimeout),
    (utf8 "max_conns_per_host", config.maxConnsPerHost)]

/-- A private key and a certificate come together, and both are regular files. -/
def validateTls (tls : TlsConfig) (files : Files) : Except Invalid Unit :=
  if tls.privateKey ≠ [] ∧ tls.certificate = [] then .error .blankCertificate
  else if tls.privateKey = [] ∧ tls.certificate ≠ [] then .error .blankPrivateKey
  else if tls.certificate = [] then .ok ()
  else if ¬files.isRegular tls.certificate then .error (.unreadable tls.certificate)
  else if ¬files.isRegular tls.privateKey then .error (.unreadable tls.privateKey)
  else .ok ()

/-- No time and no size is negative. -/
def validateNumbers (config : ClientConfig) : Except Invalid Unit :=
  match config.numbers.find? fun entry => entry.2 < 0 with
  | some (name, _) => .error (.negative name)
  | none => .ok ()

/-- The network policy of a client. -/
def policy (config : ClientConfig) : Except Invalid Policy :=
  (Policy.ofLists config.blacklistIps config.blockHostnames).mapError .policy

/-- Checks the settings; the first fault is reported. -/
def validate (config : ClientConfig) (files : Files) : Except Invalid Unit := do
  validateTls config.tls files
  validateNumbers config
  let _ ← config.policy
  return ()

/-! ## Reading -/

open Json (Fault Value)

/-- The settings of TLS connections in a document. -/
def tlsOfJson (v : Value) : Except Fault TlsConfig := do
  return {
    insecureSkipVerify := ← v.field (utf8 "insecure_skip_verify") Value.toBool false
    privateKey := ← v.field (utf8 "private_key") Value.toBytes []
    certificate := ← v.field (utf8 "certificate") Value.toBytes [] }

/-- The settings of a client in a document. -/
def ofJson (v : Value) : Except Fault ClientConfig := do
  return {
    dialTimeout := ← v.field (utf8 "dial_timeout") Value.toInt32 0
    proxy := ← v.field (utf8 "proxy") Value.toBytes []
    maxConnDuration := ← v.field (utf8 "max_conn_duration") Value.toInt32 0
    userAgent := ← v.field (utf8 "user_agent") Value.toBytes []
    readBufferSize := ← v.field (utf8 "read_buffer_size") Value.toInt32 0
    writeBufferSize := ← v.field (utf8 "write_buffer_size") Value.toInt32 0
    readTimeout := ← v.field (utf8 "read_timeout") Value.toInt32 0
    writeTimeout := ← v.field (utf8 "write_timeout") Value.toInt32 0
    maxConnsPerHost := ← v.field (utf8 "max_conns_per_host") Value.toInt32 0
    tls := ← v.field (utf8 "tls_config") tlsOfJson {}
    blacklistIps := ← v.field (utf8 "blacklist_ips") Value.toTexts []
    blockHostnames := ← v.field (utf8 "block_hostnames") Value.toTexts [] }

/-- Why a document is not accepted. -/
inductive ParseError where
  /-- It is no JSON document, or a value has the wrong type. -/
  | document (fault : Fault)
  /-- The settings are at fault. -/
  | invalid (error : Invalid)
  deriving DecidableEq

/-- The text of the error. -/
def ParseError.message : ParseError → Bytes
  | .document _ => utf8 "client config expects a valid document, got error "
  | .invalid error => error.message

/-- Reads and checks the settings of a client. -/
def parse (text : Bytes) (files : Files) : Except ParseError ClientConfig := do
  let config ← (do ofJson (← Value.parse text)).mapError .document
  (config.validate files).mapError .invalid
  return config

end ClientConfig

end MeteredHttp
