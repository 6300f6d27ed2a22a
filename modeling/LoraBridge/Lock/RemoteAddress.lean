import LoraBridge.Decimal.Unsigned
import LoraBridge.Text.Utf8

/-! # Addresses of remote stores

  A remote store is given by a URL such as `redis://host:port/database`. The port and the
  database may be left out. A store on this machine may also be reached through a socket file,
  `unix:///path`, whose database the query may name. Encrypted connections are not spoken, so
  `rediss` is no address.

  The URL is read as URLs with a scheme of their own are: blanks around it and line breaks inside
  do not count, the scheme may be in either case, and dots in the path lead to other places.
-/

namespace LoraBridge.Lock.Remote

/-- Where a remote store is. -/
inductive Address where
  /-- On a host, at a port. -/
  | network (name : String) (port : Nat) (database : Int)
  /-- Behind a file of this machine. -/
  | socket (path : String)
deriving DecidableEq, Repr

namespace Address

/-- The port of a store whose address does not name one. -/
def defaultPort : Nat := 6379

/-! ### Parts of a URL -/

/-- A character that is dropped from the ends of a URL. -/
def isOuterBlank (c : Char) : Bool := c.toNat ≤ 32

/-- A character that is dropped wherever it stands in a URL. -/
def isLineBreak (c : Char) : Bool := c = '\t' || c = '\n' || c = '\r'

/-- The URL without what does not count. -/
def clean (s : List Char) : List Char :=
  let s := s.dropWhile isOuterBlank
  (s.reverse.dropWhile isOuterBlank).reverse.filter fun c => !isLineBreak c

/-- A character of a scheme. -/
def isSchemeChar (c : Char) : Bool := c.isAlphanum || c = '+' || c = '-' || c = '.'

/-- The scheme, in lower case, and what follows its colon. -/
def splitScheme? (s : List Char) : Option (List Char × List Char) :=
  let scheme := s.takeWhile isSchemeChar
  match scheme, s.dropWhile isSchemeChar with
  | c :: _, ':' :: rest => if c.isAlpha then some (scheme.map Char.toLower, rest) else none
  | _, _ => none

/-- Splits a text before the first character that ends a part. -/
def splitBefore (ends : List Char) (s : List Char) : List Char × List Char :=
  (s.takeWhile fun c => !ends.contains c, s.dropWhile fun c => !ends.contains c)

/-- What follows the last `@` of an authority, and what stands before it. -/
def splitUser (s : List Char) : List Char × List Char :=
  match s.reverse.dropWhile (· ≠ '@') with
  | [] => ([], s)
  | _ :: user => (user.reverse, (s.reverse.takeWhile (· ≠ '@')).reverse)

/-- A character that no host may contain. -/
def isForbiddenInHost (c : Char) : Bool :=
  [Char.ofNat 0, '\t', '\n', '\r', ' ', '#', '/', ':', '<', '>', '?', '@', '[', '\\', ']', '^',
    '|'].contains c

/-- A group of an address of sixteen bytes. -/
def isGroup (s : List Char) : Bool :=
  1 ≤ s.length && s.length ≤ 4 &&
    s.all fun c => c.isDigit || ('a' ≤ c && c ≤ 'f') || ('A' ≤ c && c ≤ 'F')

/-- Whether a text is four numbers of a byte with dots between them and no needless zeros. -/
def isQuad (s : List Char) : Bool :=
  let numbers := s.splitOn '.'
  numbers.length = 4 && numbers.all fun digits =>
    (Decimal.natOfDigits? digits).any (· ≤ 255) && (digits.length = 1 || digits.head? ≠ some '0')

/-- The groups of an address between its colons. The last four bytes may be written as such, in
    place of two groups. -/
def groupsOf (s : List Char) : List (List Char) :=
  let groups := s.splitOn ':'
  match groups.getLast? with
  | some last => if isQuad last then groups.dropLast ++ [['0'], ['0']] else groups
  | none => groups

/-- Whether groups between colons are an address of sixteen bytes: eight of them, or fewer where
    a double colon stands for the missing ones. -/
def isNumericHost (s : List Char) : Bool :=
  let groups := groupsOf s
  let empty := (groups.filter List.isEmpty).length
  let full := groups.filter fun g => !g.isEmpty
  full.all isGroup &&
    if empty = 0 then full.length = 8
    else if empty = 1 then 1 ≤ full.length && full.length ≤ 7 && groups.head? ≠ some [] &&
      groups.getLast? ≠ some []
    else if empty = 2 then 1 ≤ full.length && full.length ≤ 7 &&
      (groups.take 2 = [[], []] || groups.drop (groups.length - 2) = [[], []])
    else empty = 3 && full.isEmpty

/-- The host and what follows it. Colons inside brackets belong to the host. A host may be
    empty if no port follows it. -/
def splitHost? (s : List Char) : Option (List Char × List Char) :=
  match s with
  | '[' :: rest =>
    match rest.takeWhile (· ≠ ']'), rest.dropWhile (· ≠ ']') with
    | host, ']' :: after =>
      if isNumericHost host && (after.isEmpty || after.head? = some ':') then some (host, after)
      else none
    | _, _ => none
  | s =>
    let (host, after) := splitBefore [':'] s
    if host.any isForbiddenInHost || (host.isEmpty && !after.isEmpty) then none
    else some (host, after)

/-- The port after a host, and what follows it. A backslash ends a port. -/
def readPort? : List Char → Option (Nat × List Char)
  | [] => some (defaultPort, [])
  | ':' :: rest =>
    let (digits, rest) := splitBefore ['\\'] rest
    if digits.isEmpty then some (defaultPort, rest)
    else ((Decimal.natOfDigits? digits).filter (· ≤ 65535)).map fun port => (port, rest)
  | _ => none

/-- What a URL names before its path. -/
structure Authority where
  user : List Char
  host : List Char
  port : Nat

/-- Reads what stands between the double slash of a URL and its path, and adds to the path what
    is left of it. An empty host goes with neither a user nor a port. -/
def readAuthority? (s path : List Char) : Option (Authority × List Char) := do
  let (user, rest) := splitUser s
  let (host, rest) ← splitHost? rest
  let (port, rest) ← readPort? rest
  if host.isEmpty && !(s.isEmpty || user = [':']) then none
  else some (⟨user, host, port⟩, if rest.isEmpty then path else '/' :: rest ++ path)

/-! ### Escapes -/

/-- The value of a digit in base sixteen. -/
def hexDigit? (c : Char) : Option Nat :=
  if c.isDigit then some (c.toNat - 48)
  else if 'a' ≤ c ∧ c ≤ 'f' then some (c.toNat - 87)
  else if 'A' ≤ c ∧ c ≤ 'F' then some (c.toNat - 55)
  else none

/-- The bytes of a text in which `%` and two digits stand for a byte. -/
def unescape : List Char → Bytes
  | [] => []
  | '%' :: a :: b :: rest =>
    match hexDigit? a, hexDigit? b with
    | some m, some n => (m * 16 + n).toUInt8 :: unescape rest
    | _, _ => 37 :: unescape (a :: b :: rest)
  | c :: rest => String.utf8EncodeChar c ++ unescape rest

/-- Whether the escapes of a text write characters. -/
def isText (s : List Char) : Bool := (Text.ofBytes? (unescape s)).isSome

/-! ### Paths -/

/-- A part of a path that stays where it is. -/
def isHere (s : List Char) : Bool :=
  s = ['.'] || s.map Char.toLower = "%2e".toList

/-- A part of a path that goes back. -/
def isBack (s : List Char) : Bool :=
  ["..", ".%2e", "%2e.", "%2e%2e"].any fun p => s.map Char.toLower = p.toList

/-- Follows the parts of a path, those before in reverse. -/
def follow (before : List (List Char)) : List (List Char) → List (List Char)
  | [] => before.reverse
  | [s] =>
    if isBack s then ([] :: before.tail).reverse
    else if isHere s then ([] :: before).reverse
    else (s :: before).reverse
  | s :: rest =>
    if isBack s then follow before.tail rest
    else if isHere s then follow before rest
    else follow (s :: before) rest

/-- The path that a URL leads to. -/
def resolve (path : List Char) : List Char :=
  match path with
  | '/' :: rest => (follow [] (rest.splitOn '/')).flatMap fun part => '/' :: part
  | path => path

/-- The text without slashes at its ends. -/
def trimSlashes (s : List Char) : List Char :=
  ((s.dropWhile (· = '/')).reverse.dropWhile (· = '/')).reverse

/-- A signed number of 64 bits. -/
def readInt64? (s : List Char) : Option Int :=
  match s with
  | '-' :: digits => (Decimal.natOfDigits? digits).bind fun n =>
      if n ≤ Nat.pow 2 63 then some (-(n : Int)) else none
  | s => (Decimal.readUnsigned? (Nat.pow 2 63 - 1) s).map fun n => (n : Int)

/-- The database that a path names. -/
def readDatabase? (path : List Char) : Option Int :=
  match trimSlashes (resolve path) with
  | [] => some 0
  | name => readInt64? name

/-! ### Queries -/

/-- The path of a URL and its query. What follows the first `#` does not count. -/
def splitQuery (s : List Char) : List Char × List Char :=
  let (path, query) := splitBefore ['?'] (splitBefore ['#'] s).1
  (path, query.drop 1)

/-- A name or value in a query, where a plus stands for a space. -/
def unescapeQuery (s : List Char) : Bytes :=
  unescape (s.map fun c => if c = '+' then ' ' else c)

/-- The value that a query gives a name; of several, the last. -/
def queryValue? (name : String) (query : List Char) : Option Bytes :=
  let pairs := (query.splitOn '&').map (splitBefore ['='])
  (pairs.reverse.find? fun p => unescapeQuery p.1 = Text.bytes name).map fun p =>
    unescapeQuery (p.2.drop 1)

/-- Whether a query asks for a protocol that is spoken. -/
def speaks (query : List Char) : Bool :=
  match queryValue? "protocol" query with
  | none => true
  | some p => ["2", "resp2", "3", "resp3"].any fun q => p = Text.bytes q

/-- The database that a query names. -/
def queryDatabase? (query : List Char) : Option Int :=
  match queryValue? "db" query with
  | none => some 0
  | some name => (Text.ofBytes? name).bind fun name => readInt64? name.toList

/-! ### Addresses -/

/-- The address of a store that listens on a port. -/
def parseHost? (rest : List Char) : Option Address := do
  let '/' :: '/' :: rest := rest | none
  let (authority, rest) := splitBefore ['/', '?', '#'] rest
  let (path, query) := splitQuery rest
  let (authority, path) ← readAuthority? authority path
  let database ← readDatabase? path
  if !authority.host.isEmpty && isText authority.user && speaks query then
    some (.network (String.ofList authority.host) authority.port database)
  else none

/-- The name of this machine. -/
def thisHost : List Char := "localhost".toList

/-- The address of a store behind a socket file, which is on this machine. -/
def parseSocket? (rest : List Char) : Option Address := do
  let (host, path, query) ← match rest with
    | '/' :: '/' :: rest => do
      let (authority, rest) := splitBefore ['/', '?', '#'] rest
      let (path, query) := splitQuery rest
      let (authority, path) ← readAuthority? authority path
      some (authority.host, path, query)
    | rest =>
      let (path, query) := splitQuery rest
      some ([], path, query)
  let '/' :: _ := path | none
  let _ ← queryDatabase? query
  if (host.isEmpty || host = thisHost) && speaks query then some (.socket (String.ofList path))
  else none

/-- The address that a URL writes. -/
def parse? (url : String) : Option Address := do
  let (scheme, rest) ← splitScheme? (clean url.toList)
  if scheme = "redis".toList then parseHost? rest
  else if scheme = "unix".toList || scheme = "redis+unix".toList then parseSocket? rest
  else none

end Address

end LoraBridge.Lock.Remote
