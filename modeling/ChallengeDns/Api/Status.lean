import ChallengeDns.Text.Basic
/-!
# Statuses

The statuses of HTTP replies that report an error, with the name of each and what is said about it
if nothing more is known.
-/

namespace ChallengeDns

structure ErrorStatus where
  code : Nat
  name : String
  description : String

namespace ErrorStatus

def badRequest : ErrorStatus := ⟨400, "Bad Request",
  "The browser (or proxy) sent a request that this server could not understand."⟩

def notFound : ErrorStatus := ⟨404, "Not Found",
  "The requested URL was not found on the server. If you entered the URL manually please check "
    ++ "your spelling and try again."⟩

def methodNotAllowed : ErrorStatus := ⟨405, "Method Not Allowed",
  "The method is not allowed for the requested URL."⟩

def tooLarge : ErrorStatus := ⟨413, "Request Entity Too Large",
  "The data value transmitted exceeds the capacity limit."⟩

def all : List ErrorStatus := [
  badRequest,
  ⟨401, "Unauthorized",
    "The server could not verify that you are authorized to access the URL requested. You either "
    ++ "supplied the wrong credentials (e.g. a bad password), or your browser doesn't understand "
    ++ "how to supply the credentials required."⟩,
  ⟨403, "Forbidden",
    "You don't have the permission to access the requested resource. It is either read-protected "
    ++ "or not readable by the server."⟩,
  notFound,
  methodNotAllowed,
  ⟨406, "Not Acceptable",
    "The resource identified by the request is only capable of generating response entities "
    ++ "which have content characteristics not acceptable according to the accept headers sent "
    ++ "in the request."⟩,
  ⟨408, "Request Timeout",
    "The server closed the network connection because the browser didn't finish the request "
    ++ "within the specified time."⟩,
  ⟨409, "Conflict",
    "A conflict happened while processing the request. The resource might have been modified "
    ++ "while the request was being processed."⟩,
  ⟨410, "Gone",
    "The requested URL is no longer available on this server and there is no forwarding address. "
    ++ "If you followed a link from a foreign page, please contact the author of this page."⟩,
  ⟨411, "Length Required",
    "A request with this method requires a valid <code>Content-Length</code> header."⟩,
  ⟨412, "Precondition Failed",
    "The precondition on the request for the URL failed positive evaluation."⟩,
  tooLarge,
  ⟨414, "Request URI Too Long",
    "The length of the requested URL exceeds the capacity limit for this server. The request "
    ++ "cannot be processed."⟩,
  ⟨415, "Unsupported Media Type",
    "The server does not support the media type transmitted in the request."⟩,
  ⟨416, "Requested Range Not Satisfiable", "The server cannot provide the requested range."⟩,
  ⟨417, "Expectation Failed", "The server could not meet the requirements of the Expect header"⟩,
  ⟨418, "I'm a teapot", "This server is a teapot, not a coffee machine"⟩,
  ⟨421, "Misdirected Request", "The server is not able to produce a response."⟩,
  ⟨422, "Unprocessable Entity",
    "The request was well-formed but was unable to be followed due to semantic errors."⟩,
  ⟨423, "Locked", "The resource that is being accessed is locked."⟩,
  ⟨424, "Failed Dependency",
    "The method could not be performed on the resource because the requested action depended on "
    ++ "another action and that action failed."⟩,
  ⟨428, "Precondition Required",
    "This request is required to be conditional; try using \"If-Match\" or "
    ++ "\"If-Unmodified-Since\"."⟩,
  ⟨429, "Too Many Requests", "This user has exceeded an allotted request count. Try again later."⟩,
  ⟨431, "Request Header Fields Too Large", "One or more header fields exceeds the maximum size."⟩,
  ⟨451, "Unavailable For Legal Reasons", "Unavailable for legal reasons."⟩,
  ⟨500, "Internal Server Error",
    "The server encountered an internal error and was unable to complete your request. Either "
    ++ "the server is overloaded or there is an error in the application."⟩,
  ⟨501, "Not Implemented", "The server does not support the action requested by the browser."⟩,
  ⟨502, "Bad Gateway", "The proxy server received an invalid response from an upstream server."⟩,
  ⟨503, "Service Unavailable",
    "The server is temporarily unable to service your request due to maintenance downtime or "
    ++ "capacity problems. Please try again later."⟩,
  ⟨504, "Gateway Timeout", "The connection to an upstream server timed out."⟩,
  ⟨505, "HTTP Version Not Supported",
    "The server does not support the HTTP protocol version used in the request."⟩]

def ofCode? (code : Nat) : Option ErrorStatus := all.find? (·.code == code)

/-- What is said about a status, unless something else is said. -/
def described (s : ErrorStatus) (description : Option Text) : Text :=
  description.getD s.description

/-- What clients are told: what is said about the status, or its name if that is nothing. -/
def told (s : ErrorStatus) (description : Option Text) : Text :=
  if (s.described description).isEmpty then s.name else s.described description

/-- A status with what is said about it. -/
def text (s : ErrorStatus) (description : Option Text) : Text :=
  Text.ofNat s.code ++ " " ++ s.name ++ ": " ++ s.described description

end ErrorStatus

end ChallengeDns
