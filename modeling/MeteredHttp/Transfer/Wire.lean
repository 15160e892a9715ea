import MeteredHttp.Bytes

/-!
# Requests on the wire

What a transfer sends.
-/

namespace MeteredHttp.Transfer

/-- The body of a request that is sent. -/
inductive WireBody where
  /-- There is none. -/
  | none
  | bytes (content : Bytes)
  /-- A body that is read from its source on the way; its length is -1 if it is unknown. -/
  | stream (length : Int)
  deriving DecidableEq

/-- A request that is sent. -/
structure Wire where
  url : Bytes
  verb : Bytes
  /-- The header lines that are added to those of the transport. -/
  headers : List Bytes
  body : WireBody
  /-- The connection is not used again. -/
  forbidReuse : Bool
  /-- What the source of the body delivered each time, nothing where it failed. -/
  reads : List (Option Bytes)
  deriving DecidableEq

end MeteredHttp.Transfer
