/-
# Imports of generated code

Every imported path gets a name in its file: a known name for the runtime library and
for the packages of the standard library, otherwise one made from the last element of
the path. A name that is reserved or taken gets a number. The import block has the
standard library first, then the rest, each part in order.

## Main definitions

* `Import`: a path with its name in a file;
* `Import.assign`: the imports for the paths of a file;
* `Import.block`: the import declaration.
-/

import Accord.Source.Identifier
import Accord.Text.Quoted

namespace Accord.Source

/-- A path with its name in a file; an alias is spelled out in the import declaration. -/
structure Import where
  path : Text
  name : Text
  isAlias : Bool
  deriving DecidableEq, Repr

/-- The packages of the standard library. -/
def standardLibrary : List Text :=
  (["archive/tar", "archive/zip", "bufio", "builtin", "bytes", "cmp", "compress/bzip2",
    "compress/flate", "compress/gzip", "compress/lzw", "compress/zlib", "container/heap",
    "container/list", "container/ring", "context", "crypto", "crypto/aes", "crypto/cipher",
    "crypto/des", "crypto/dsa", "crypto/ecdh", "crypto/ecdsa", "crypto/ed25519",
    "crypto/elliptic", "crypto/hmac", "crypto/md5", "crypto/rand", "crypto/rc4", "crypto/rsa",
    "crypto/sha1", "crypto/sha256", "crypto/sha512", "crypto/subtle", "crypto/tls",
    "crypto/x509", "crypto/x509/pkix", "database/sql", "database/sql/driver",
    "debug/buildinfo", "debug/dwarf", "debug/elf", "debug/gosym", "debug/macho", "debug/pe",
    "debug/plan9obj", "embed", "encoding", "encoding/ascii85", "encoding/asn1",
    "encoding/base32", "encoding/base64", "encoding/binary", "encoding/csv", "encoding/gob",
    "encoding/hex", "encoding/json", "encoding/pem", "encoding/xml", "errors", "expvar",
    "flag", "fmt", "go/ast", "go/build", "go/build/constraint", "go/constant", "go/doc",
    "go/doc/comment", "go/format", "go/importer", "go/parser", "go/printer", "go/scanner",
    "go/token", "go/types", "go/version", "hash", "hash/adler32", "hash/crc32", "hash/crc64",
    "hash/fnv", "hash/maphash", "html", "html/template", "image", "image/color",
    "image/color/palette", "image/draw", "image/gif", "image/jpeg", "image/png",
    "index/suffixarray", "io", "io/fs", "io/ioutil", "log", "log/slog", "log/syslog", "maps",
    "math", "math/big", "math/bits", "math/cmplx", "math/rand", "mime", "mime/multipart",
    "mime/quotedprintable", "net", "net/http", "net/http/cgi", "net/http/cookiejar",
    "net/http/fcgi", "net/http/httptest", "net/http/httptrace", "net/http/httputil",
    "net/http/pprof", "net/mail", "net/netip", "net/rpc", "net/rpc/jsonrpc", "net/smtp",
    "net/textproto", "net/url", "os", "os/exec", "os/signal", "os/user", "path",
    "path/filepath", "plugin", "reflect", "regexp", "regexp/syntax", "runtime",
    "runtime/cgo", "runtime/coverage", "runtime/debug", "runtime/metrics", "runtime/pprof",
    "runtime/race", "runtime/trace", "slices", "sort", "strconv", "strings", "sync",
    "sync/atomic", "syscall", "testing", "testing/fstest", "testing/iotest",
    "testing/quick", "testing/slogtest", "text/scanner", "text/tabwriter", "text/template",
    "text/template/parse", "time", "time/tzdata", "unicode", "unicode/utf16",
    "unicode/utf8", "unsafe"] : List String).map Text.ofString

/-- The names that no import may have. -/
def reservedNames : List Text :=
  keywords ++ (["bool", "byte", "complex64", "complex128", "error", "float32", "float64",
    "int", "int8", "int16", "int32", "int64", "rune", "string", "uint", "uint8", "uint16",
    "uint32", "uint64", "uintptr", "true", "false", "iota", "nil", "append", "cap", "close",
    "clear", "min", "max", "complex", "copy", "delete", "imag", "len", "make", "new", "panic",
    "print", "println", "real", "recover", "err"] : List String).map Text.ofString

namespace Import

/-- The last element of a path. -/
def lastElement (path : Text) : Text :=
  ((Text.cutLast? (Text.byte '/') path).map (·.2)).getD path

/-- The name made from a path: the lower-case letters and digits of its last element, from the
first letter on. -/
def guess (path : Text) : Text :=
  let path := (Text.dropEnd? "/" path).getD path
  let kept := (lastElement path).lower.filter fun b => Text.isLowerByte b || Text.isDigitByte b
  let name := kept.dropWhile Text.isDigitByte
  if name.isEmpty then "pkg" else name

/-- The name that a path would have if nothing else were there, and whether it is an alias. -/
def wanted (known : List (Text × Text)) (path : Text) : Text × Bool :=
  match known.lookup path with
  | some name => (name, false)
  | none => if standardLibrary.contains path then (lastElement path, false) else (guess path, true)

/-- The first free name among a name and the name with the numbers from one on. The fuel
bounds the numbers. -/
def freeName (taken : Text → Bool) (name : Text) : (fuel n : Nat) → Text
  | 0, n => name ++ Text.ofNat n
  | fuel + 1, n =>
    let candidate : Text := if n = 0 then name else name ++ Text.ofNat n
    if taken candidate then freeName taken name fuel (n + 1) else candidate

/-- Adds the import of a path, unless it is there. -/
def add (known : List (Text × Text)) (imports : List Import) (path : Text) : List Import :=
  if imports.any (·.path = path) then imports
  else
    let (name, isAlias) := wanted known path
    let taken (t : Text) : Bool := reservedNames.contains t || imports.any (·.name = t)
    let unique := freeName taken name (imports.length + reservedNames.length + 1) 0
    imports ++ [⟨path, unique, isAlias || unique != name⟩]

/-- The imports for paths in the order in which they occur. The file's own path needs none. -/
def assign (known : List (Text × Text)) (own : Option Text) (paths : List Text) : List Import :=
  (paths.filter fun p => some p != own).foldl (add known) []

/-- The group of a path in the import block: the standard library comes first. -/
def group (path : Text) : Nat :=
  let first := ((Text.cut? (Text.byte '/') path).map (·.1)).getD path
  if path.startsWith "appengine" then 2 else if first.contains (Text.byte '.') then 1 else 0

/-- An import in the import declaration. -/
def text (i : Import) : Text := (if i.isAlias then i.name ++ " " else []) ++ i.path.quote

/-- The import declaration with a blank line after it; none for no imports. -/
def block (imports : List Import) : Text :=
  match imports with
  | [] => []
  | [i] => "import " ++ i.text ++ "\n\n"
  | _ =>
    let sorted := imports.mergeSort fun a b => Text.le a.path b.path
    let groups := ([0, 1, 2].map fun (n : Nat) => sorted.filter (group ·.path = n)).filter
      (!·.isEmpty)
    let lines (is : List Import) : Text := is.flatMap fun i => "\t" ++ i.text ++ "\n"
    "import (\n" ++ Text.join "\n" (groups.map lines) ++ ")\n\n"

/-- Whether a path can be imported. -/
def isPath (path : Text) : Bool :=
  !path.isEmpty && path.symbols.all fun
    | .char c =>
      Text.isGraphic c && c != ' ' && !Text.isBlank c && c.toNat != 0xFFFD &&
        !("!\"#$%&'()*,:;<=>?[\\]^`\x7b|\x7d".toList.contains c)
    | .stray _ => false

end Import

end Accord.Source
