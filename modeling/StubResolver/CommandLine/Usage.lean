import StubResolver.CommandLine.Arguments

set_option autoImplicit false

namespace StubResolver.Usage

def program : String := "dnsutils"

def version : String := program ++ " v0.1.0\n"

def choice (width : Nat) (p : String × String) : String :=
  "\t    " ++ Text.padRight width ' ' p.1 ++ " (" ++ p.2 ++ ")"

def options : List (String × String) := [
  ("-h | --help", "print this help message"),
  ("-V | --version", "print the version of dnsutils")]

def flags : List (String × String) := [
  ("+resolve", "resolve to addresses, following CNAMEs and using +host entries"),
  ("+verbose", "also print the questions that were sent"),
  ("+json", "format output as JSON"),
  ("+no-meta", "don't print status, server and time"),
  ("+debug", "log what the resolver is doing"),
  ("+tcp", "use TCP for a nameserver without scheme"),
  ("+tls", "use DNS over TLS for a nameserver without scheme"),
  ("+https", "use DNS over HTTPS for a nameserver without scheme"),
  ("+ipv4 | +ipv6", "only talk to the nameserver over IPv4/IPv6"),
  ("+prefer=ipv4|ipv6", "prefer this family with the system resolver"),
  ("+ndots=N", "names with more labels are tried as-is first"),
  ("+search=a,b", "search list for unqualified names"),
  ("+timeout=SECS", "network timeout, default 60"),
  ("+insecure", "don't verify DoT certificates"),
  ("+tls-host=NAME", "name to verify the DoT certificate against"),
  ("+host=NAME=IP[,IP]", "static entry for +resolve")]

def helpLines : List String :=
  ["Usage:\t" ++ program ++ " [@nameserver] [name] [q-type] [options] [flags]",
    "",
    "Where:",
    "\tnameserver is a nameserver address, either with a scheme (udp://, tcp://, tls://,",
    "\thttps://, sdns://) or as host[:port]; without it, the system resolver is used",
    "",
    "\tname is the name you want to look up",
    "",
    "\tq-type is the record type you want (e.g. AAAA, A, TXT, MX, SOA, ...)",
    "",
    "\toptions is one or more of the following:"] ++
  options.map (choice 19) ++
  ["", "\tflags is one or more of the following:"] ++
  flags.map (choice 22) ++
  ["",
    "Note: the order of the arguments does not matter.",
    "",
    "If no arguments are specified, the default behaviour is",
    "`" ++ program ++ " " ++ Arguments.default.name ++ " " ++ Arguments.default.type.text ++ "`.",
    "",
    "Output is colourized by default. This can be tuned using the FORCE_COLOR/",
    "NO_COLOR environment variables.",
    "Log output can be filtered with the RUST_LOG environment variable."]

def help : String := String.join (helpLines.map (· ++ "\n"))

end StubResolver.Usage
