import Xtracepp.Parser

/-! The functions that take one whole message: `_logConnectionSetup`,
`_logRequest`, `_logReply`, `_logEvent` and `_logError`, with the parse functions
that have effects. `data` is the offset of the message in its buffer's storage.
-/
namespace Xtracepp
open Library.Outcome

/-- What a handler leaves: the parser, the connection and `bytes_parsed`. -/
structure Logged where
  parser : X11ProtocolParser
  conn : Connection
  bytesParsed : Nat

variable (settings : Settings) (parser : X11ProtocolParser) (conn : Connection) (data sz : Nat)

/-- `_parseRequest` of a request that is a header, a name length and a name. -/
def parseNameRequest (opcode : UInt8) : Checked (X11ProtocolParser × Nat) := do
  let storage := conn.clientBuffer.buffer
  let field := storage.field settings.littleEndian conn.byteswap
  assert "sz >= RequestT::BASE_ENCODING_SZ" (sz ≥ 8)
  let extendedLengthFlag ← field (data + 2) 2
  let bigRequest := decide (extendedLengthFlag = 0)
  assert "conn->extensionEnabled( protocol::extensions::big_requests::name )"
    (bigRequest = true → conn.extensionEnabled bigRequestsName = true)
  let headerSz := if bigRequest then 8 else 4
  let found ← storage.byte data
  assert "fe.prefix->opcode" (found = opcode)
  let nameLen ← field (data + headerSz) 2
  let view : StringView :=
    { owner := storage.owner
      moves := storage.moves
      start := data + (headerSz + 4)
      length := nameLen }
  let bytesParsed := headerSz + 4 + Alignment.pad nameLen
  let tlAlignedUnits ← field (if bigRequest then data + 4 else data + 2) (if bigRequest then 4 else 2)
  assert "Alignment::units( request.bytes_parsed )"
    (if bigRequest then tlAlignedUnits ≠ 0 else tlAlignedUnits = Alignment.units bytesParsed)
  let parser ← parser.stashString conn.id conn.sequence view
  let _ ← storage.fetch view.start view.length
  return (parser,bytesParsed)

def parseRequest : RequestParse → Checked (X11ProtocolParser × Nat)
  | .core major => do return (parser,← settings.parse.request major parser conn data sz)
  | .internAtom => parseNameRequest settings parser conn data sz Opcodes.internAtom
  | .queryExtension => parseNameRequest settings parser conn data sz Opcodes.queryExtension
  | .bigReqEnable => do return (parser,← settings.parse.bigReqEnable parser conn data sz)
  | .unknownRequest => do return (parser,← settings.parse.unknownRequest parser conn data sz)

def logRequest : Checked Logged := do
  assert "sz >= sizeof( Prefix ) + sizeof( Length )" (sz ≥ 4)
  let majorOpcode ← conn.clientBuffer.buffer.byte data
  let minorOpcode ← conn.clientBuffer.buffer.byte (data + 1)
  -- the minor opcode is left to its default here
  let conn := conn.registerRequest majorOpcode 0
  let (parser,bytesParsed) ← parseRequest settings parser conn data sz
    (parser.requestParseFunc majorOpcode minorOpcode)
  assert "request.bytes_parsed != 0" (bytesParsed ≠ 0)
  assert "request.bytes_parsed <= sz" (bytesParsed ≤ sz)
  return ⟨parser,conn,bytesParsed⟩

/-- The checks at the head of a reply's `_parseReply` when it has no suffix. -/
def replyWithoutExtra : Checked Unit := do
  let storage := conn.serverBuffer.buffer
  assert "sz >= protocol::requests::Reply::DEFAULT_ENCODING_SZ" (sz ≥ 32)
  let reply ← storage.byte data
  assert "encoding->header.reply == Reply::REPLY" (reply = 1)
  let extra ← storage.field settings.littleEndian conn.byteswap (data + 4) 4
  assert "encoding->header.extra_aligned_units" (extra = 0)

/-- The branch on `atom != protocol::atoms::NONE`. -/
def internReplied (sequence atom : Nat) : Checked X11ProtocolParser :=
  if atom ≠ 0 then do
    let (parser,view) ← parser.unstashString conn.id sequence
    let name ← view.chars conn.clientBuffer.buffer
    return parser.internAtom atom name
  else return parser

def parseInternAtomReply : Checked Logged := do
  let storage := conn.serverBuffer.buffer
  replyWithoutExtra settings conn data sz
  let sequence ← storage.field settings.littleEndian conn.byteswap (data + 2) 2
  let atom ← storage.field settings.littleEndian conn.byteswap (data + 8) 4
  let parser ← internReplied parser conn sequence atom
  let encoded ← storage.fetch (data + 8) 4
  assert "( atom.data & protocol::ATOM::ZERO_BITS ) == 0"
    (loaded settings.littleEndian encoded &&& 0xE0000000 = 0)
  return ⟨parser,conn,32⟩

/-- `present` of a denied extension is overwritten in the buffer. -/
def spoofPresent (name : List UInt8) (storage : Storage) : Checked Storage :=
  if settings.extensionDenied name then storage.store (data + 8) [0] else return storage

def parseQueryExtensionReply : Checked Logged := do
  let storage := conn.serverBuffer.buffer
  replyWithoutExtra settings conn data sz
  let sequence ← storage.field settings.littleEndian conn.byteswap (data + 2) 2
  let (parser,view) ← parser.unstashString conn.id sequence
  let name ← view.chars conn.clientBuffer.buffer
  let storage ← spoofPresent settings data name storage
  let conn := { conn with serverBuffer := { conn.serverBuffer with buffer := storage } }
  let present ← storage.byte (data + 8)
  if present ≠ 0 then do
    let majorOpcode ← storage.byte (data + 9)
    let firstEvent ← storage.byte (data + 10)
    let firstError ← storage.byte (data + 11)
    let parser ← parser.enableExtensionParsing settings view name majorOpcode firstEvent firstError
    if name ≠ bigRequestsName then do
      assert "!conn->extensionEnabled( ext_name )" (conn.extensionEnabled name = false)
      return ⟨parser,conn.enableExtension name,32⟩
    else return ⟨parser,conn,32⟩
  else return ⟨parser,conn,32⟩

def parseBigReqEnableReply : Checked Logged := do
  replyWithoutExtra settings conn data sz
  assert "!conn->extensionEnabled( protocol::extensions::big_requests::name )"
    (conn.extensionEnabled bigRequestsName = false)
  return ⟨parser,conn.enableExtension bigRequestsName,32⟩

def parseReply : ReplyParse → Checked Logged
  | .core major => do return ⟨parser,conn,← settings.parse.reply major parser conn data sz⟩
  | .internAtom => parseInternAtomReply settings parser conn data sz
  | .queryExtension => parseQueryExtensionReply settings parser conn data sz
  | .bigReqEnable => parseBigReqEnableReply settings parser conn data sz
  | .unknownRequest => do return ⟨parser,conn,← settings.parse.unknownReply parser conn data sz⟩

def logReply : Checked Logged := do
  let storage := conn.serverBuffer.buffer
  assert "sz >= protocol::requests::Reply::DEFAULT_ENCODING_SZ" (sz ≥ 32)
  let reply ← storage.byte data
  assert "header->reply == Reply::REPLY" (reply = 1)
  let sequence ← storage.field settings.littleEndian conn.byteswap (data + 2) 2
  let opcodes ← conn.lookupRequest sequence
  let func ← parser.replyParseFunc opcodes
  let logged ← parseReply settings parser conn data sz func
  let lastReply ← storage.byte (data + 1)
  let conn :=
    if opcodes.major ≠ Opcodes.listFontsWithInfo ∨ lastReply = 0 then
      logged.conn.unregisterRequest sequence
    else logged.conn
  assert "reply.bytes_parsed != 0" (logged.bytesParsed ≠ 0)
  assert "reply.bytes_parsed <= sz" (logged.bytesParsed ≤ sz)
  return { logged with conn }

def logEvent : Checked Logged := do
  assert "sz >= protocol::events::Event::ENCODING_SZ" (sz ≥ 32)
  let first ← conn.serverBuffer.buffer.byte data
  match parser.eventCodes (first &&& 0x7F) with
  | none => .error (.outOfRange "_event_codes.at")
  | some traits =>
    let bytesParsed ← settings.parse.event traits.code parser conn data sz
    assert "event.bytes_parsed == protocol::events::Event::ENCODING_SZ" (bytesParsed = 32)
    return ⟨parser,conn,bytesParsed⟩

def logError : Checked Logged := do
  let storage := conn.serverBuffer.buffer
  assert "sz >= sizeof( Error::Encoding )" (sz ≥ 32)
  let error ← storage.byte data
  assert "encoding->header.error == Error::ERROR" (error = 0)
  let code ← storage.byte (data + 1)
  let sequence ← storage.field settings.littleEndian conn.byteswap (data + 2) 2
  match parser.errorCodes code with
  | none => .error (.outOfRange "_error_codes.at")
  | some traits =>
    let bytesParsed ← settings.parse.error traits.code parser conn data sz
    return ⟨parser,conn.unregisterRequest sequence,bytesParsed⟩

/-- `Initiation::LSBFIRST`, `Initiation::MSBFIRST`. -/
def lsbFirst : UInt8 := 108
def msbFirst : UInt8 := 66

/-- `_logConnectionSetup< Initiation >`. -/
def logInitiation : Checked Logged := do
  let storage := conn.clientBuffer.buffer
  let field := storage.field settings.littleEndian conn.byteswap
  assert "sz >= sizeof( Initiation::Header )" (sz ≥ 12)
  let byteOrder ← storage.byte data
  assert "header->byte_order == MSBFIRST || header->byte_order == LSBFIRST"
    (byteOrder = msbFirst ∨ byteOrder = lsbFirst)
  assert "byteswap == ( little_endian != ( header->byte_order == Initiation::LSBFIRST ) )"
    (conn.byteswap = (settings.littleEndian != decide (byteOrder = lsbFirst)))
  let nameLen ← field (data + 6) 2
  let dataLen ← field (data + 8) 2
  let bytesParsed := 12 + Alignment.pad nameLen + Alignment.pad dataLen
  assert "bytes_parsed == sz" (bytesParsed = sz)
  return ⟨parser,conn,bytesParsed⟩

/-- The `switch` on `success`. -/
def logSetupResponse (success : UInt8) : Checked Logged :=
  if success = 0 then do
    let bytesParsed ← settings.parse.refusal parser conn data sz
    return { parser, conn := { conn with status := .failed }, bytesParsed }
  else if success = 2 then do
    let bytesParsed ← settings.parse.requireFurtherAuthentication parser conn data sz
    return { parser, conn := { conn with status := .authentication }, bytesParsed }
  else if success = 1 then do
    let bytesParsed ← settings.parse.acceptance parser conn data sz
    return { parser, conn := { conn with status := .opened }, bytesParsed }
  else return { parser, conn, bytesParsed := 0 }

/-- `_logConnectionSetup< InitResponse >`. -/
def logInitResponse : Checked Logged := do
  assert "sz >= sizeof( InitResponse::Header )" (sz ≥ 8)
  let success ← conn.serverBuffer.buffer.byte data
  let logged ← logSetupResponse settings parser conn data sz success
  assert "bytes_parsed <= sz" (logged.bytesParsed ≤ sz)
  return logged

end Xtracepp
