import StubResolver.DnsCrypt.Error
import StubResolver.IoError
import StubResolver.Message.CodecError

set_option autoImplicit false

namespace StubResolver

inductive Error where
  | config (reason : String)
  | unknownScheme (address : String)
  | codec (error : CodecError)
  | io (error : IoError)
  | http (reason : String)
  | truncated
  | idMismatch
  | dnsCrypt (error : DnsCrypt.Error)
  | noAnswers (name : String)
  | cnameChainTooLong (name : String)
  deriving DecidableEq, Repr

namespace Error

def message : Error → String
  | config reason => s!"Invalid resolver configuration: {reason}."
  | unknownScheme address =>
    s!"Unknown nameserver scheme in {address}, falling back to the system resolver."
  | codec _ => "Could not parse DNS message."
  | io e => s!"Network error: {e.text}."
  | http reason => s!"Error from nameserver: HTTP {reason}."
  | truncated => "Received truncated response over TCP."
  | idMismatch => "Response ID does not match the query ID."
  | dnsCrypt e => s!"DNSCrypt error: {e.message}"
  | noAnswers name => s!"No answers found for {name}."
  | cnameChainTooLong name => s!"Too many CNAMEs while resolving {name}."

/-- The texts of the errors that led to this one, the nearest first. -/
def causes : Error → List String
  | codec .outOfBytes => [CodecError.outOfBytes.message, IoError.endOfStream.text]
  | codec e => [e.message]
  | io e => [e.text]
  | dnsCrypt e => [e.message]
  | _ => []

end Error

end StubResolver
