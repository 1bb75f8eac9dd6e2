import OpcodeTable.Address
import OpcodeTable.Bytes
import OpcodeTable.Fault

/-!
Addresses are byte strings in which certain bytes stand for themselves and the others as a percent sign
and two hexadecimal digits; which ones depends on the part of the address.
-/

set_option autoImplicit false

namespace OpcodeTable

namespace Url

inductive Part where
  | user
  | host
  -- The zone of a numeric host.
  | zone
  | path
  | fragment
  -- A text that nothing in an address may be mistaken for.
  | component
deriving DecidableEq, Repr

inductive Trouble where
  | controlCharacter
  | missingScheme
  | colonInSegment
  | badEscape (text : Bytes)
  | badHostCharacter (byte : UInt8)
  | badUser
  | badLiteral
  | unclosedLiteral
  | badPort (text : Bytes)
  | badAddress (text : Bytes) (complaint : Address.Complaint)

def quoteBytes (text : Bytes) : String := Text.quote (Utf8.toText text)

def Trouble.text : Trouble → String
  | .controlCharacter => "net/url: invalid control character in URL"
  | .missingScheme => "missing protocol scheme"
  | .colonInSegment => "first path segment in URL cannot contain colon"
  | .badEscape text => "invalid URL escape " ++ quoteBytes text
  | .badHostCharacter byte => "invalid character " ++ quoteBytes [byte] ++ " in host name"
  | .badUser => "net/url: invalid userinfo"
  | .badLiteral => "invalid IP-literal"
  | .unclosedLiteral => "missing ']' in host"
  | .badPort text => "invalid port " ++ quoteBytes text ++ " after host"
  | .badAddress text complaint => "invalid host: " ++ complaint.text (Utf8.toText text)

def among (marks : String) (byte : UInt8) : Bool := (ascii marks).contains byte

def isAlphanumeric (byte : UInt8) : Bool := (Char.ofNat byte.toNat).isAlphanum

def Part.keeps (part : Part) (byte : UInt8) : Bool :=
  isAlphanumeric byte || among "-_.~" byte ||
    match part with
    | .user => among "$&+,;=" byte
    | .host | .zone => among "!$&'()*+,;=:[]<>\"" byte
    | .path => among "$&+,/:;=@" byte
    | .fragment => among "$&+,/:;=?@!()*" byte
    | .component => false

def percent : UInt8 := 0x25

def upperHexDigit (value : Nat) : UInt8 := (if value < 10 then 48 + value else 55 + value).toUInt8

def escapeByte (byte : UInt8) : Bytes :=
  [percent, upperHexDigit (byte.toNat / 16), upperHexDigit (byte.toNat % 16)]

def Part.escape (part : Part) (text : Bytes) : Bytes :=
  text.flatMap fun byte => if part.keeps byte then [byte] else escapeByte byte

def hexValue? (byte : UInt8) : Option Nat :=
  if Bytes.isDigit byte then some (byte.toNat - 48)
  else if Bytes.isUpperHex byte then some (byte.toNat - 55)
  else if Bytes.isLowerHex byte then some (byte.toNat - 87)
  else none

-- A host escapes nothing that could stand in it as it is, save for the percent sign itself.
def Part.mayHide (part : Part) (byte : UInt8) : Bool :=
  match part with
  | .host => 0x80 ≤ byte || byte == percent
  | .zone => byte == percent || byte == Bytes.space || Part.host.keeps byte
  | _ => true

def Part.admits (part : Part) (byte : UInt8) : Bool :=
  match part with
  | .host | .zone => 0x80 ≤ byte || part.keeps byte
  | _ => true

def Part.unescape (part : Part) : Bytes → Except Trouble Bytes
  | [] => .ok []
  | byte :: rest =>
      if byte == percent then
        match rest with
        | high :: low :: more =>
            match hexValue? high, hexValue? low with
            | some h, some l =>
                let hidden := (h * 16 + l).toUInt8
                if part.mayHide hidden then (part.unescape more).map (hidden :: ·)
                else .error (.badEscape [byte, high, low])
            | _, _ => .error (.badEscape [byte, high, low])
        | short => .error (.badEscape (byte :: short))
      else if part.admits byte then (part.unescape rest).map (byte :: ·)
      else .error (.badHostCharacter byte)

structure Written where
  text : Bytes
  meaning : Bytes
deriving DecidableEq, Repr

def Part.read (part : Part) (text : Bytes) : Except Trouble Written :=
  (part.unescape text).map fun meaning => ⟨text, meaning⟩

def Part.tolerates (part : Part) (byte : UInt8) : Bool :=
  part.keeps byte || among "!$&'()*+,;=:@[]%" byte

-- What was written is kept unless it has bytes that need to be escaped.
def Written.render (part : Part) (written : Written) : Bytes :=
  if written.text.all part.tolerates then written.text else part.escape written.meaning

structure User where
  name : Bytes
  password : Option Bytes
deriving DecidableEq, Repr

structure Authority where
  user : Option User
  host : Bytes
deriving DecidableEq, Repr

def noAuthority : Authority := ⟨none, []⟩

def cut (mark : Char) (text : Bytes) : Bytes × Option Bytes :=
  match text.span (· != mark.toNat.toUInt8) with
  | (before, []) => (before, none)
  | (before, _ :: after) => (before, some after)

def cutLast (mark : Char) (text : Bytes) : Option (Bytes × Bytes) :=
  match text.reverse.span (· != mark.toNat.toUInt8) with
  | (_, []) => none
  | (after, _ :: before) => some (before.reverse, after.reverse)

def isUserByte (byte : UInt8) : Bool := isAlphanumeric byte || among "-._:~!$&'()*+,;=%@" byte

def readUser (text : Bytes) : Except Trouble User :=
  if !text.all isUserByte then .error .badUser
  else
    match cut ':' text with
    | (name, none) => do return ⟨← Part.user.unescape name, none⟩
    | (name, some password) => do
        return ⟨← Part.user.unescape name, some (← Part.user.unescape password)⟩

def isPortSuffix (text : Bytes) : Bool :=
  match text with
  | [] => true
  | first :: digits => among ":" first && digits.all Bytes.isDigit

def splitZone : Bytes → Bytes × Bytes
  | [] => ([], [])
  | byte :: rest =>
      if (ascii "%25").isPrefixOf (byte :: rest) then ([], byte :: rest)
      else
        let (address, zone) := splitZone rest
        (byte :: address, zone)

def readLiteral (inner port : Bytes) : Except Trouble Bytes := do
  if !isPortSuffix port then throw (.badPort port)
  let (address, zone) := splitZone inner
  let meant := (← Part.host.unescape address) ++ (← Part.zone.unescape zone)
  match Address.check (Utf8.toText meant).toList with
  | .error complaint => throw (.badAddress meant complaint)
  | .ok .four => throw .badLiteral
  | .ok .six => return ascii "[" ++ meant ++ ascii "]" ++ port

def readHost (text : Bytes) : Except Trouble Bytes :=
  match cutLast '[' text with
  | some ([], inner) =>
      match cutLast ']' inner with
      | none => .error .unclosedLiteral
      | some (address, port) => readLiteral address port
  | some _ => .error .badLiteral
  | none =>
      match cutLast ':' text with
      | some (_, digits) =>
          if digits.all Bytes.isDigit then Part.host.unescape text
          else .error (.badPort (ascii ":" ++ digits))
      | none => Part.host.unescape text

def readAuthority (text : Bytes) : Except Trouble Authority :=
  match cutLast '@' text with
  | none => do return ⟨none, ← readHost text⟩
  | some (user, host) => do
      let host ← readHost host
      return ⟨some (← readUser user), host⟩

def isSchemeByte (byte : UInt8) : Bool := isAlphanumeric byte || among "+-." byte

-- A scheme starts with a letter and is in lower case. Text before a colon that is no scheme belongs
-- to the rest.
def splitScheme (text : Bytes) : Except Trouble (String × Bytes) :=
  match text.span isSchemeByte with
  | (name, colon :: rest) =>
      if !among ":" colon then .ok ("", text)
      else
        match name with
        | [] => .error .missingScheme
        | first :: _ =>
            if (Char.ofNat first.toNat).isAlpha then .ok ((Utf8.toText name).toLower, rest)
            else .ok ("", text)
  | (_, []) => .ok ("", text)

def isControl (byte : UInt8) : Bool := byte < Bytes.space || byte == 0x7F

end Url

structure Url where
  scheme : String
  -- What follows the scheme and does not start with a slash is not looked into.
  rootless : Option Bytes
  authority : Option Url.Authority
  path : Url.Written
  query : Option Bytes
  fragment : Option Url.Written
deriving DecidableEq, Repr

namespace Url

def empty : Written := ⟨[], []⟩

def readRooted (scheme : String) (query : Option Bytes) (rest : Bytes) : Except Trouble Url :=
  let leads := (ascii "//").isPrefixOf rest
  if leads && (scheme != "" || !(ascii "///").isPrefixOf rest) then do
    let (authority, path) := (rest.drop 2).span (· != Bytes.slash)
    let authority ← readAuthority authority
    return ⟨scheme, none, some authority, ← Part.path.read path, query, none⟩
  else do
    return ⟨scheme, none, none, ← Part.path.read rest, query, none⟩

def readWhole (text : Bytes) : Except Trouble Url := do
  if text.any isControl then throw .controlCharacter
  let (scheme, rest) ← splitScheme text
  let (rest, query) := cut '?' rest
  if (ascii "/").isPrefixOf rest then readRooted scheme query rest
  else if scheme != "" then return ⟨scheme, some rest, none, empty, query, none⟩
  else if (rest.takeWhile (· != Bytes.slash)).any (among ":") then throw .colonInSegment
  else readRooted scheme query rest

def unreadable (text : Bytes) (trouble : Trouble) : Fault :=
  .plain ("parse " ++ quoteBytes text ++ ": " ++ trouble.text)

def readBytes (text : Bytes) : Except Fault Url :=
  let (whole, fragment) := cut '#' text
  match readWhole whole, fragment with
  | .error trouble, _ => .error (unreadable whole trouble)
  | .ok url, none | .ok url, some [] => .ok url
  | .ok url, some fragment =>
      match Part.fragment.read fragment with
      | .error trouble => .error (unreadable text trouble)
      | .ok fragment => .ok { url with fragment := some fragment }

def read (text : String) : Except Fault Url := readBytes (Utf8.ofText text)

def host (url : Url) : Bytes := (url.authority.getD noAuthority).host

def dropEmptyPort (url : Url) : Url :=
  let trim (authority : Authority) : Authority :=
    match cutLast ':' authority.host with
    | some (host, []) => { authority with host := host }
    | _ => authority
  { url with authority := url.authority.map trim }

def User.render (user : User) : Bytes :=
  match user.password with
  | none => Part.user.escape user.name
  | some _ => user.name ++ ascii ":***"

def Authority.render (authority : Authority) : Bytes :=
  ascii "//" ++ (match authority.user with
    | none => []
    | some user => user.render ++ ascii "@") ++ Part.host.escape authority.host

def shownAuthority (url : Url) : Bytes :=
  match url.authority with
  | none => []
  | some authority =>
      let told := authority.user.isSome || !authority.host.isEmpty
      if told || (url.scheme != "" && !url.path.text.isEmpty) then authority.render else []

def shownPath (url : Url) : Bytes := url.path.render .path

-- A path that would be taken for a scheme is told from the place it starts at.
def shownRest (url : Url) : Bytes :=
  let start := shownAuthority url
  let path := url.shownPath
  let mistakable := url.scheme == "" && start.isEmpty
    && (path.takeWhile (· != Bytes.slash)).any (among ":")
  start ++ (if mistakable then ascii "./" else []) ++ path

def shown (url : Url) : Bytes :=
  (if url.scheme == "" then [] else ascii url.scheme ++ ascii ":")
    ++ url.rootless.getD url.shownRest
    ++ (match url.query with
      | none => []
      | some query => ascii "?" ++ query)
    ++ (match url.fragment with
      | none => []
      | some fragment => ascii "#" ++ fragment.render .fragment)

def toText (url : Url) : String := Utf8.toText url.shown

end Url

end OpcodeTable
