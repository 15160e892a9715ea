import MeteredHttp.Numeral

/-!
# HTTP/2 error codes

The error codes that HTTP/2 peers close streams and connections with.
-/

namespace MeteredHttp.Http2

/-- The names of the error codes, from zero on. -/
def codeNames : List Bytes :=
  ["NO_ERROR", "PROTOCOL_ERROR", "INTERNAL_ERROR", "FLOW_CONTROL_ERROR", "SETTINGS_TIMEOUT",
    "STREAM_CLOSED", "FRAME_SIZE_ERROR", "REFUSED_STREAM", "CANCEL", "COMPRESSION_ERROR",
    "CONNECT_ERROR", "ENHANCE_YOUR_CALM", "INADEQUATE_SECURITY", "HTTP_1_1_REQUIRED"].map utf8

/-- The name of an error code; an unknown code is written in base sixteen. -/
def codeName (code : UInt32) : Bytes :=
  (codeNames[code.toNat]?).getD (utf8 "unknown error code 0x" ++ Numeral.render 16 code.toNat)

/-- The place of an error code behind the code for unknown ones: known codes follow it in order,
all others share its place. -/
def codeOffset (code : UInt32) : UInt32 :=
  if code.toNat < codeNames.length then code + 1 else 0

end MeteredHttp.Http2
