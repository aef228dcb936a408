/-
This file models `HttpParser` of `proxy/connection.py`, the request parser of the reverse
proxy: the head of a request up to an empty line, a body in chunks, of a given length or
none, and the buffer that is kept between calls.

A position in the chunked body can become negative, as a chunk size may be written with a
sign, and then counts from the end; the loop over the chunks may not end at all, so that
its turns are counted and running out of them is a result of its own.
-/

import LocalNetwork.Dict
import LocalNetwork.HttpReader

namespace LocalNetwork

/-! ### Requests -/

def maxHeaderSize : Nat := 16384

structure HttpRequest where
  method : Text
  path : Text
  version : Text
  headers : Dict Text Text
  body : Bytes
  clientIp : Text

variable (unicode : UnicodeData)

namespace HttpRequest

/-- The value of `Content-Length`; what is no number counts as 0. -/
def contentLength (request : HttpRequest) : Int :=
  (parseInt unicode ((request.headers.get? "content-length".toList).getD "0".toList)).getD 0

def isChunked (request : HttpRequest) : Bool :=
  lowerText unicode ((request.headers.get? "transfer-encoding".toList).getD []) = "chunked".toList

end HttpRequest

/-- What a call of the parser raises, or that its loop over the chunks has not ended yet. -/
inductive ParseError where
  | valueError (text : Text)
  | running
  deriving DecidableEq

/-! ### Chunked bodies -/

/-- Where a Python index points: a negative one counts from the end. -/
def pythonIndex (length : Nat) (index : Int) : Nat :=
  if index < 0 then (index + length).toNat else min index.toNat length

def pythonSlice (data : Bytes) (start stop : Int) : Bytes :=
  slice data (pythonIndex data.length start) (pythonIndex data.length stop)

/-- `data.find(pattern, start)`, with −1 for a pattern that is not there. -/
def pythonFind (pattern data : Bytes) (start : Int) : Int :=
  match cutAt pattern (data.drop (pythonIndex data.length start)) with
  | some (before, _) => pythonIndex data.length start + before.length
  | none => -1

/-- The loop of `_parse_chunked`: the body and how many bytes it took, or none while it is
incomplete. -/
def parseChunks (data : Bytes) : Nat → Int → Bytes → Except ParseError (Option (Bytes × Int))
  | 0, _, _ => .error .running
  | turns + 1, pos, result =>
    if pos < data.length then
      let eol := pythonFind crlfBytes data pos
      if eol = -1 then .ok none
      else
        match parseHex (pythonSlice data pos eol) with
        | none => .error (.valueError "invalid chunk size".toList)
        | some chunkSize =>
          let pos := eol + 2
          if chunkSize = 0 then
            let last := pythonFind headEnd data pos
            if last = -1 then .ok none else .ok (some (result, last + 4))
          else if data.length < pos + chunkSize + 2 then .ok none
          else
            parseChunks data turns (pos + chunkSize + 2)
              (result ++ pythonSlice data pos (pos + chunkSize))
    else .ok none

def parseChunked (turns : Nat) (data : Bytes) : Except ParseError (Option (Bytes × Int)) :=
  parseChunks data turns 0 []

/-! ### The parser -/

/-- One header line; a line without a colon is skipped. -/
def addHeader (headers : Dict Text Text) (line : Text) : Dict Text Text :=
  match cutAt [':'] line with
  | none => headers
  | some (key, value) => headers.insert (lowerText unicode (strip key)) (strip value)

def parseHeaders (lines : List Text) : Dict Text Text :=
  lines.foldl (addHeader unicode) Dict.empty

/-- The head of a request, without its body. -/
def parseHead (block : Bytes) : Except ParseError (Option HttpRequest) :=
  match splitOn crlf (decodeText block) with
  | [] => .ok none
  | line :: lines =>
    match splitAtMost [' '] 2 line with
    | method :: path :: more =>
      .ok (some {
        method := upperText unicode method
        path := path
        version := more.head?.getD "HTTP/1.1".toList
        headers := parseHeaders unicode lines
        body := []
        clientIp := "127.0.0.1".toList })
    | _ => .error (.valueError ("invalid request line: ".toList ++ line))

/-- The body that follows a head; the request and the buffer after it, or none while the body is
incomplete. Without a body the whole buffer is dropped. -/
def parseBody (turns : Nat) (request : HttpRequest) (rest : Bytes) :
    Except ParseError (Option (HttpRequest × Bytes)) :=
  if request.isChunked unicode then
    match parseChunked turns rest with
    | .error failure => .error failure
    | .ok none => .ok none
    | .ok (some (body, consumed)) =>
      .ok (some ({ request with body := body }, rest.drop consumed.toNat))
  else if 0 < request.contentLength unicode then
    let length := (request.contentLength unicode).toNat
    if rest.length < length then .ok none
    else .ok (some ({ request with body := rest.take length }, rest.drop length))
  else .ok (some (request, []))

/-- `_try_parse`: a request off the buffer, and the buffer after the call. -/
def tryParse (turns : Nat) (buffer : Bytes) :
    Except ParseError (Option HttpRequest × Bytes) :=
  match cutAt headEnd buffer with
  | none =>
    if maxHeaderSize < buffer.length then
      .error (.valueError "request headers too large".toList)
    else .ok (none, buffer)
  | some (block, rest) =>
    match parseHead unicode block with
    | .error failure => .error failure
    | .ok none => .ok (none, buffer)
    | .ok (some request) =>
      match parseBody unicode turns request rest with
      | .error failure => .error failure
      | .ok none => .ok (none, buffer)
      | .ok (some (request, left)) => .ok (some request, left)

/-- `feed`: append to the buffer and parse. -/
def feed (turns : Nat) (buffer data : Bytes) : Except ParseError (Option HttpRequest × Bytes) :=
  tryParse unicode turns (buffer ++ data)

end LocalNetwork
